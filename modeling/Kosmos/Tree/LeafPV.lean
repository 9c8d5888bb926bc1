import Kosmos.Api.Resources
import Kosmos.Tree.LeafResource

/-!
# Volumes of the leaves in the root: `LeafPVController`

The controller of a leaf creates the volume in the root and notes its cluster among the owners.

A reconcile is not disturbed by others. Of a volume the model has the annotations, the claim, the
node affinity, and the rest of the spec as one text.
-/

namespace Kosmos.LeafPV

open Go Resources

/-! ## Objects -/

structure ClaimRef where
  ns : String
  name : String
  uid : String := ""
  resourceVersion : String := ""
  deriving DecidableEq

structure NodeSelectorRequirement where
  key : String
  operator : String := "In"
  values : List String
  deriving DecidableEq

structure NodeSelectorTerm where
  matchFields : List NodeSelectorRequirement := []
  matchExpressions : List NodeSelectorRequirement := []
  deriving DecidableEq

structure PersistentVolume where
  name : String
  annotations : Annotations := none
  terminating : Bool := false
  claimRef : Option ClaimRef := none
  nodeAffinity : Option (Option (List NodeSelectorTerm)) := none
  spec : String := ""
  status : String := ""

structure PersistentVolumeClaim where
  ns : String
  name : String
  annotations : Annotations := none
  uid : String := ""
  resourceVersion : String := ""

def PersistentVolumeClaim.key (c : PersistentVolumeClaim) : String × String := (c.ns, c.name)

abbrev Volumes := Store PersistentVolume.name

abbrev Claims := Store PersistentVolumeClaim.key

/-! ## Node affinity -/

def nodeHostnameValue : String := "kubernetes.io/hostname"

def nodeHostnameValueBeta : String := "beta.kubernetes.io/hostname"

def openebsPVNodeLabel : String := "openebs.io/nodename"

def isHostname (key : String) : Bool :=
  key = nodeHostnameValue || key = nodeHostnameValueBeta || key = openebsPVNodeLabel

def nodeOfRequirement (node4RootPV : String) (val : NodeSelectorRequirement) : Outcome String :=
  if isHostname val.key then index val.values 0 else pure node4RootPV

def nodeAffinity4RootPV (pv : PersistentVolume) (isOne2OneMode : Bool) (clusterName : String) :
    Outcome String :=
  let node4RootPV := Tree.kosmosNodePrefix ++ clusterName
  if isOne2OneMode then do
    let nodeAffinity ← deref pv.nodeAffinity
    let terms ← deref nodeAffinity
    terms.foldlM (fun node v => do
      let node ← v.matchFields.foldlM nodeOfRequirement node
      v.matchExpressions.foldlM nodeOfRequirement node) node4RootPV
  else pure node4RootPV

def withNode (nodeName : String) (val : NodeSelectorRequirement) : NodeSelectorRequirement :=
  if isHostname val.key then { val with values := [nodeName] } else val

def filterTerm (nodeName : String) (v : NodeSelectorTerm) : NodeSelectorTerm where
  matchFields := v.matchFields.map (withNode nodeName)
  matchExpressions := v.matchExpressions.map (withNode nodeName)

def filterPV (pv : PersistentVolume) (nodeName : String) : PersistentVolume :=
  { pv with
    annotations := some (pv.annotations.getD .empty)
    nodeAffinity := pv.nodeAffinity.map fun required => required.map fun terms =>
      terms.map (filterTerm nodeName) }

def sameAnnotations : Annotations → Annotations → Bool
  | none, none => true
  | some m, some m' => m.deepEqual m'
  | none, some _ => false
  | some _, none => false

def isPVEqual (pv clone : PersistentVolume) : Bool :=
  sameAnnotations pv.annotations clone.annotations &&
    decide (pv.claimRef = clone.claimRef ∧ pv.nodeAffinity = clone.nodeAffinity ∧
      pv.spec = clone.spec) &&
    decide (pv.status = clone.status)

/-! ## The controller -/

structure LeafPVController where
  clusterName : ClusterName
  isOne2OneMode : Bool

structure LeafStorage where
  pvs : Volumes
  pvcs : Claims

structure World where
  root : Volumes
  rootPVCs : Claims
  leaves : String → LeafStorage
  creators : String → Option ClusterName

structure Answers where
  leafPV : Option String := none
  rootPV : Option String := none
  leafPVC : Option String := none
  rootPVC : Option String := none
  mergePatch : Option String := none
  write : WriteAnswer := .done

inductive Result where
  | done
  | requeue
  | error (msg : String)
  deriving DecidableEq

def ClaimRef.of (ref : ClaimRef) (rootPVC : PersistentVolumeClaim) : ClaimRef :=
  { ref with uid := rootPVC.uid, resourceVersion := rootPVC.resourceVersion }

def rootClaim (a : Answers) (w : World) (ref : ClaimRef) : Option PersistentVolumeClaim :=
  match a.rootPVC with
  | some _ => none
  | none => w.rootPVCs.get? (ref.ns, ref.name)

def volumeToCreate (l : LeafPVController) (a : Answers) (w : World) (pv : PersistentVolume) :
    Outcome (Result ⊕ PersistentVolume) :=
  match pv.claimRef with
  | none => .ok (.inl .done)
  | some ref =>
    match a.leafPVC with
    | some _ => .ok (.inl .requeue)
    | none =>
      match (w.leaves l.clusterName.val).pvcs.get? (ref.ns, ref.name) with
      | none => .ok (.inl .done)
      | some tmpPVC =>
        if isObjectGlobal tmpPVC.annotations = false then .ok (.inl .done)
        else do
          let node ← nodeAffinity4RootPV pv l.isOne2OneMode l.clusterName.val
          let rootPV := filterPV pv node
          match rootClaim a w ref with
          | none => .ok (.inl .done)
          | some rootPVC =>
            .ok (.inr { rootPV with
              claimRef := some (ref.of rootPVC)
              annotations := addResourceClusters rootPV.annotations l.clusterName.val })

def volumeToPatch (l : LeafPVController) (a : Answers) (w : World)
    (pv rootPV : PersistentVolume) : Outcome (Option (PersistentVolume × PersistentVolume)) := do
  let node ← nodeAffinity4RootPV pv l.isOne2OneMode l.clusterName.val
  let rootPV := filterPV rootPV node
  let patched (claimRef : Option ClaimRef) : Option (PersistentVolume × PersistentVolume) :=
    let pvCopy := { pv with
      claimRef := claimRef
      nodeAffinity := rootPV.nodeAffinity
      annotations := addResourceClusters pv.annotations l.clusterName.val }
    if isPVEqual rootPV pvCopy then none else some (rootPV, pvCopy)
  if pv.claimRef.isSome ∨ rootPV.claimRef.isNone then do
    let ref ← deref pv.claimRef
    match rootClaim a w ref with
    | none => pure none
    | some rootPVC => pure (patched (some (ref.of rootPVC)))
  else pure (patched pv.claimRef)

def patchVolume (stored rootPV pvCopy : PersistentVolume) : PersistentVolume :=
  { stored with
    annotations :=
      (createMergePatch rootPV.annotations pvCopy.annotations).apply stored.annotations
    claimRef := pvCopy.claimRef
    spec := pvCopy.spec }

def written (a : Answers) (result : Except ApiError Volumes) (root : Volumes) : Result × Volumes :=
  match answered a.write result root with
  | (none, root) => (.done, root)
  | (some _, root) => (.requeue, root)

def createInRoot (l : LeafPVController) (a : Answers) (w : World) (rootPV : PersistentVolume) :
    Result × World :=
  let (r, root) := written a (w.root.create rootPV) w.root
  (r, { w with
    root := root
    creators :=
      if a.write.takesEffect then Function.update w.creators rootPV.name (some l.clusterName)
      else w.creators })

def deleteInRoot (a : Answers) (w : World) (name : String) : Result × World :=
  let (err, root) := answered a.write (w.root.delete name) w.root
  (if err = none ∨ err = some .notFound then .done else .requeue,
    { w with
      root := root
      creators :=
        if a.write.takesEffect then Function.update w.creators name none else w.creators })

def patchInRoot (a : Answers) (w : World) (stored rootPV pvCopy : PersistentVolume) :
    Result × World :=
  let (r, root) := written a (w.root.update (patchVolume stored rootPV pvCopy)) w.root
  (r, { w with root := root })

def reconcile (l : LeafPVController) (a : Answers) (name : String) (w : World) :
    Outcome (Result × World) :=
  match a.leafPV with
  | some _ => .ok (.requeue, w)
  | none =>
    let pv := ((w.leaves l.clusterName.val).pvs.get? name).filter fun pv => !pv.terminating
    match a.rootPV with
    | some _ => .ok (.requeue, w)
    | none =>
      match w.root.get? name with
      | none =>
        match pv with
        | none => .ok (.done, w)
        | some pv => do
          match ← volumeToCreate l a w pv with
          | .inl r => pure (r, w)
          | .inr rootPV => pure (createInRoot l a w rootPV)
      | some rootPV =>
        if hasResourceClusters rootPV.annotations l.clusterName.val = false then .ok (.done, w)
        else
          match pv with
          | none => .ok (deleteInRoot a w name)
          | some pv => do
            match ← volumeToPatch l a w pv rootPV with
            | none => pure (.done, w)
            | some (filtered, pvCopy) =>
              match a.mergePatch with
              | some msg => pure (.error msg, w)
              | none => pure (patchInRoot a w rootPV filtered pvCopy)

/-! ## Runs -/

inductive Event where
  | leaf (cluster : String) (storage : LeafStorage)
  | claims (rootPVCs : Claims)
  | created (pv : PersistentVolume)
  | deleted (name : String)
  | reconcile (l : LeafPVController) (a : Answers) (name : String)

def step (w : World) : Event → Outcome (Result × World)
  | .leaf cluster storage =>
    .ok (.done, { w with leaves := Function.update w.leaves cluster storage })
  | .claims rootPVCs => .ok (.done, { w with rootPVCs := rootPVCs })
  | .created pv =>
    match w.root.create pv with
    | .ok root => .ok (.done, { w with root := root })
    | .error _ => .ok (.done, w)
  | .deleted name =>
    match w.root.delete name with
    | .ok root =>
      .ok (.done, { w with root := root, creators := Function.update w.creators name none })
    | .error _ => .ok (.done, w)
  | .reconcile l a name => reconcile l a name w

def World.start (root : Volumes) (rootPVCs : Claims) (leaves : String → LeafStorage) : World :=
  ⟨root, rootPVCs, leaves, fun _ => none⟩

def runs (root : Volumes) (rootPVCs : Claims) (leaves : String → LeafStorage) (es : List Event) :
    Run World Event Result :=
  Run.loop (Run.once step) es (World.start root rootPVCs leaves)

/-! ## Ownership -/

/-- Each volume that a cluster created is there, and the cluster is among its owners. -/
def Kept (w : World) : Prop :=
  ∀ name c, w.creators name = some c →
    ∃ pv, w.root.get? name = some pv ∧ hasResourceClusters pv.annotations c.val = true

/-- A volume without the cluster among its owners stays as it is. -/
def OnlyOwn (l : LeafPVController) (w w' : World) : Prop :=
  ∀ name pv, w.root.get? name = some pv →
    hasResourceClusters pv.annotations l.clusterName.val = false → w'.root.get? name = some pv

/-- The volume is gone from the leaf that created it, and no call fails. -/
def ToDelete (l : LeafPVController) (a : Answers) (name : String) (w : World) : Prop :=
  w.creators name = some l.clusterName ∧ a.leafPV = none ∧ a.rootPV = none ∧
    a.write.takesEffect = true ∧
    (∀ pv, (w.leaves l.clusterName.val).pvs.get? name = some pv → pv.terminating = true)

/-- Owners are kept, only owners write, and deletions reach the root. -/
structure OwnershipKept (m : Move World Event Result) : Prop where
  kept : Kept m.after
  only : ∀ l a name, m.event = .reconcile l a name → OnlyOwn l m.before m.after
  deleted : ∀ l a name, m.event = .reconcile l a name → ToDelete l a name m.before →
    m.after.root.get? name = none

/-- The reconcile patches the volume of the root. -/
def Patches (l : LeafPVController) (a : Answers) (name : String) (w : World)
    (pv : PersistentVolume) : Prop :=
  a.leafPV = none ∧ a.rootPV = none ∧ a.mergePatch = none ∧ a.write.takesEffect = true ∧
    (w.leaves l.clusterName.val).pvs.get? name = some pv ∧ pv.terminating = false ∧
    ∃ rootPV, w.root.get? name = some rootPV ∧
      hasResourceClusters rootPV.annotations l.clusterName.val = true ∧
      ∃ pair, volumeToPatch l a w pv rootPV = .ok (some pair)

def Apt (w : World) : Event → Prop
  | .reconcile l a name => ∀ pv c, Patches l a name w pv → w.creators name = some c →
      pv.annotations ≠ none ∧
        (c.val = l.clusterName.val ∨ hasResourceClusters pv.annotations c.val = true)
  | _ => True

/-! ## What a reconcile does -/

variable {l : LeafPVController} {a : Answers} {name : String} {w w' : World} {r : Result}
  {pv rootPV filtered pvCopy : PersistentVolume}

theorem volumeToPatch_annotations
    (h : volumeToPatch l a w pv rootPV = .ok (some (filtered, pvCopy))) :
    filtered.annotations = some (rootPV.annotations.getD .empty) ∧
      pvCopy.annotations = addResourceClusters pv.annotations l.clusterName.val := by
  obtain ⟨node, -, h⟩ := bind_eq_ok h
  simp only at h
  split at h
  · obtain ⟨ref, -, h⟩ := bind_eq_ok h
    split at h
    · cases h
    · have h := Except.ok.inj h
      split at h
      · cases h
      · cases h
        exact ⟨rfl, rfl⟩
  · have h := Except.ok.inj h
    split at h
    · cases h
    · cases h
      exact ⟨rfl, rfl⟩

variable {c : ClusterName} {root : Volumes}

theorem annotations_ne_none {annotations : Annotations}
    (h : hasResourceClusters annotations c.val = true) : annotations ≠ none := by
  rintro rfl
  have hnil := hasResourceClusters_add_nil "" c
  rw [show addResourceClusters none "" = none from rfl, h] at hnil
  cases hnil

theorem owners_patched (hown : hasResourceClusters rootPV.annotations c.val = true)
    (h : volumeToPatch l a w pv rootPV = .ok (some (filtered, pvCopy))) (clusterName : String) :
    hasResourceClusters (patchVolume rootPV filtered pvCopy).annotations clusterName =
      hasResourceClusters (addResourceClusters pv.annotations l.clusterName.val) clusterName := by
  obtain ⟨hfiltered, hcopy⟩ := volumeToPatch_annotations h
  obtain ⟨m, hm⟩ := Option.ne_none_iff_exists'.mp (annotations_ne_none hown)
  have hsame : filtered.annotations = rootPV.annotations := by
    rw [hfiltered, hm]
    rfl
  show VolumeBinding.hasResourceClusters (readMap _ _) _ = VolumeBinding.hasResourceClusters _ _
  rw [show (patchVolume rootPV filtered pvCopy).annotations =
    (createMergePatch filtered.annotations pvCopy.annotations).apply rootPV.annotations from rfl,
    ← hsame, read_apply_create, hcopy]
  rfl

theorem hasResourceClusters_add_iff {annotations : Annotations} {n : ClusterName} :
    hasResourceClusters (addResourceClusters annotations n.val) c.val = true ↔
      annotations ≠ none ∧
        (c.val = n.val ∨ hasResourceClusters annotations c.val = true) := by
  cases annotations with
  | none => simp [hasResourceClusters_add_nil n.val c]
  | some m =>
    rw [hasResourceClusters_add_some, or_comm]
    exact (and_iff_right (Option.some_ne_none m)).symm

theorem volumeToCreate_inr (h : volumeToCreate l a w pv = .ok (.inr rootPV)) :
    ∃ node claimRef, nodeAffinity4RootPV pv l.isOne2OneMode l.clusterName.val = .ok node ∧
      rootPV = { filterPV pv node with
        claimRef := claimRef
        annotations := addResourceClusters (filterPV pv node).annotations l.clusterName.val } := by
  unfold volumeToCreate at h
  split at h
  · cases h
  · split at h
    · cases h
    · split at h
      · cases h
      · split at h
        · cases h
        · obtain ⟨node, hnode, h⟩ := bind_eq_ok h
          split at h
          · cases h
          · cases h
            exact ⟨node, _, hnode, rfl⟩

theorem volumeToCreate_spec (h : volumeToCreate l a w pv = .ok (.inr rootPV)) :
    rootPV.name = pv.name ∧ hasResourceClusters rootPV.annotations l.clusterName.val = true := by
  obtain ⟨node, claimRef, -, rfl⟩ := volumeToCreate_inr h
  refine ⟨rfl, ?_⟩
  exact (hasResourceClusters_add_some _ l.clusterName l.clusterName).mpr (Or.inr rfl)

inductive Done (l : LeafPVController) (a : Answers) (name : String) (w : World) : World → Prop
  | nothing : Done l a name w w
  | created {rootPV : PersistentVolume} {root : Volumes} (hnone : w.root.get? name = none)
      (hname : rootPV.name = name)
      (hown : hasResourceClusters rootPV.annotations l.clusterName.val = true)
      (hcreate : w.root.create rootPV = .ok root) :
      Done l a name w { w with
        root := root, creators := Function.update w.creators name (some l.clusterName) }
  | deleted {rootPV : PersistentVolume} {root : Volumes} (hsome : w.root.get? name = some rootPV)
      (hown : hasResourceClusters rootPV.annotations l.clusterName.val = true)
      (hgone : ∀ pv, (w.leaves l.clusterName.val).pvs.get? name = some pv → pv.terminating = true)
      (hdelete : w.root.delete name = .ok root) :
      Done l a name w { w with root := root, creators := Function.update w.creators name none }
  | patched {pv rootPV filtered pvCopy : PersistentVolume} {root : Volumes}
      (hpatches : Patches l a name w pv) (hsome : w.root.get? name = some rootPV)
      (hown : hasResourceClusters rootPV.annotations l.clusterName.val = true)
      (hpair : volumeToPatch l a w pv rootPV = .ok (some (filtered, pvCopy)))
      (hupdate : w.root.update (patchVolume rootPV filtered pvCopy) = .ok root) :
      Done l a name w { w with root := root }

theorem create_of_get?_none (h : root.get? name = none) (hname : rootPV.name = name) :
    ∃ root', root.create rootPV = .ok root' := by
  refine ⟨_, dif_pos fun x hx heq => ?_⟩
  exact Store.get?_eq_none.mp h x hx (heq.trans hname)

theorem written_snd (a : Answers) (root root' : Volumes) :
    (written a (.ok root') root).2 = if a.write.takesEffect then root' else root := by
  rw [← answered_ok_snd]
  unfold written
  split
  next heq => rw [heq]
  next heq => rw [heq]

theorem filter_terminating_eq_none {o : Option PersistentVolume} :
    (o.filter fun pv => !pv.terminating) = none ↔ ∀ pv, o = some pv → pv.terminating = true := by
  cases o <;> simp

theorem filter_terminating_eq_some {o : Option PersistentVolume} :
    (o.filter fun pv => !pv.terminating) = some pv ↔ o = some pv ∧ pv.terminating = false := by
  rw [Option.filter_eq_some_iff, Bool.not_eq_true']

theorem createInRoot_done (hnone : w.root.get? name = none) (hname : rootPV.name = name)
    (hown : hasResourceClusters rootPV.annotations l.clusterName.val = true) :
    Done l a name w (createInRoot l a w rootPV).2 := by
  obtain ⟨root, hcreate⟩ := create_of_get?_none hnone hname
  have hroot := written_snd a w.root root
  unfold createInRoot
  simp only [hcreate, hroot, hname]
  cases a.write.takesEffect with
  | true => exact .created hnone hname hown hcreate
  | false => exact .nothing

theorem deleteInRoot_done (hsome : w.root.get? name = some rootPV)
    (hown : hasResourceClusters rootPV.annotations l.clusterName.val = true)
    (hgone : ∀ pv, (w.leaves l.clusterName.val).pvs.get? name = some pv → pv.terminating = true) :
    Done l a name w (deleteInRoot a w name).2 := by
  obtain ⟨root, hdelete⟩ : ∃ root, w.root.delete name = .ok root :=
    ⟨_, if_pos (Option.isSome_of_eq_some hsome)⟩
  have hroot : (answered a.write (.ok root : Except ApiError Volumes) w.root).2 =
      if a.write.takesEffect then root else w.root := answered_ok_snd a.write
  unfold deleteInRoot
  simp only [hdelete, hroot]
  cases a.write.takesEffect with
  | true => exact .deleted hsome hown hgone hdelete
  | false => exact .nothing

theorem update_patchVolume (hsome : w.root.get? name = some rootPV)
    (filtered pvCopy : PersistentVolume) :
    ∃ root, w.root.update (patchVolume rootPV filtered pvCopy) = .ok root := by
  have hmem : (w.root.get? rootPV.name).isSome = true :=
    Store.get?_isSome_of_mem (Store.get?_eq_some.mp hsome).1
  exact ⟨_, if_pos hmem⟩

theorem patchInRoot_done (hsome : w.root.get? name = some rootPV)
    (hown : hasResourceClusters rootPV.annotations l.clusterName.val = true)
    (hpair : volumeToPatch l a w pv rootPV = .ok (some (filtered, pvCopy)))
    (hpatches : a.write.takesEffect = true → Patches l a name w pv) :
    Done l a name w (patchInRoot a w rootPV filtered pvCopy).2 := by
  obtain ⟨root, hupdate⟩ := update_patchVolume hsome filtered pvCopy
  have hroot := written_snd a w.root root
  unfold patchInRoot
  simp only [hupdate, hroot]
  cases heffect : a.write.takesEffect with
  | true => exact .patched (hpatches heffect) hsome hown hpair hupdate
  | false => exact .nothing

theorem reconcile_absent_done (hleaf : a.leafPV = none) (hroot : a.rootPV = none)
    (hnone : w.root.get? name = none) (h : reconcile l a name w = .ok (r, w')) :
    Done l a name w w' := by
  unfold reconcile at h
  simp only [hleaf, hroot, hnone] at h
  split at h
  · cases h
    exact .nothing
  next pv hpv =>
    obtain ⟨created, hcreated, h⟩ := bind_eq_ok h
    split at h
    · cases h
      exact .nothing
    next rootPV =>
      obtain ⟨hname, hown⟩ := volumeToCreate_spec hcreated
      have hpvname : pv.name = name :=
        (Store.get?_eq_some.mp (filter_terminating_eq_some.mp hpv).1).2
      have hw' : (createInRoot l a w rootPV).2 = w' := congrArg Prod.snd (Except.ok.inj h)
      rw [← hw']
      exact createInRoot_done hnone (hname.trans hpvname) hown

theorem reconcile_own_done (hleaf : a.leafPV = none) (hroot : a.rootPV = none)
    (hsome : w.root.get? name = some rootPV)
    (hown : hasResourceClusters rootPV.annotations l.clusterName.val = true)
    (h : reconcile l a name w = .ok (r, w')) : Done l a name w w' := by
  unfold reconcile at h
  simp only [hleaf, hroot, hsome, hown, Bool.true_eq_false, if_false] at h
  split at h
  next hpv =>
    have hw' : (deleteInRoot a w name).2 = w' := congrArg Prod.snd (Except.ok.inj h)
    rw [← hw']
    exact deleteInRoot_done hsome hown (filter_terminating_eq_none.mp hpv)
  next pv hpv =>
    obtain ⟨hget, hterm⟩ := filter_terminating_eq_some.mp hpv
    obtain ⟨pair, hpair, h⟩ := bind_eq_ok h
    split at h
    · cases h
      exact .nothing
    next filtered pvCopy =>
      split at h
      next msg hmerge =>
        cases h
        exact .nothing
      next hmerge =>
        have hw' : (patchInRoot a w rootPV filtered pvCopy).2 = w' :=
          congrArg Prod.snd (Except.ok.inj h)
        rw [← hw']
        exact patchInRoot_done hsome hown hpair fun heffect =>
          ⟨hleaf, hroot, hmerge, heffect, hget, hterm, rootPV, hsome, hown, _, hpair⟩

theorem reconcile_done (h : reconcile l a name w = .ok (r, w')) : Done l a name w w' := by
  cases hleaf : a.leafPV with
  | some msg =>
    simp only [reconcile, hleaf] at h
    cases h
    exact .nothing
  | none =>
    cases hroot : a.rootPV with
    | some msg =>
      simp only [reconcile, hleaf, hroot] at h
      cases h
      exact .nothing
    | none =>
      cases hsome : w.root.get? name with
      | none => exact reconcile_absent_done hleaf hroot hsome h
      | some rootPV =>
        cases hown : hasResourceClusters rootPV.annotations l.clusterName.val with
        | true => exact reconcile_own_done hleaf hroot hsome hown h
        | false =>
          -- the volume of another
          simp only [reconcile, hleaf, hroot, hsome, hown, if_true] at h
          cases h
          exact .nothing

theorem reconcile_of_patches (hp : Patches l a name w pv)
    (h : reconcile l a name w = .ok (r, w')) :
    ∃ rootPV filtered pvCopy root, w.root.get? name = some rootPV ∧
      hasResourceClusters rootPV.annotations l.clusterName.val = true ∧
      volumeToPatch l a w pv rootPV = .ok (some (filtered, pvCopy)) ∧
      w.root.update (patchVolume rootPV filtered pvCopy) = .ok root ∧
      w' = { w with root := root } := by
  obtain ⟨hleaf, hroot, hmerge, heffect, hget, hterm, rootPV, hsome, hown, ⟨filtered, pvCopy⟩,
    hpair⟩ := hp
  have hpv := filter_terminating_eq_some.mpr ⟨hget, hterm⟩
  obtain ⟨root, hupdate⟩ := update_patchVolume hsome filtered pvCopy
  refine ⟨rootPV, filtered, pvCopy, root, hsome, hown, hpair, hupdate, ?_⟩
  unfold reconcile at h
  simp only [hleaf, hroot, hsome, hown, hpv, hpair, hmerge, ok_bind, Bool.true_eq_false,
    if_false] at h
  have hw' : (patchInRoot a w rootPV filtered pvCopy).2 = w' := congrArg Prod.snd (Except.ok.inj h)
  rw [← hw', patchInRoot]
  simp only [hupdate, written_snd a w.root root, heffect, if_true]

/-! ## One step -/

theorem kept_create (h : Kept w) (hcreate : w.root.create rootPV = .ok root)
    {creators : String → Option ClusterName}
    (hold : ∀ n c, n ≠ rootPV.name → creators n = some c → w.creators n = some c)
    (hnew : ∀ c, creators rootPV.name = some c → hasResourceClusters rootPV.annotations c.val =
      true) : Kept { w with root := root, creators := creators } := by
  intro n c hc
  have hget : root.get? n = if n = rootPV.name then some rootPV else w.root.get? n :=
    Store.get?_create hcreate n
  by_cases hn : n = rootPV.name
  · subst hn
    exact ⟨rootPV, hget.trans (if_pos rfl), hnew c hc⟩
  · obtain ⟨pv, hpv, hown⟩ := h n c (hold n c hn hc)
    exact ⟨pv, (hget.trans (if_neg hn)).trans hpv, hown⟩

theorem kept_delete (h : Kept w) (hdelete : w.root.delete name = .ok root) :
    Kept { w with root := root, creators := Function.update w.creators name none } := by
  intro n c hc
  have hget : root.get? n = if n = name then none else w.root.get? n :=
    Store.get?_delete hdelete n
  by_cases hn : n = name
  · subst hn
    simp only [Function.update_self] at hc
    cases hc
  · simp only [Function.update_of_ne hn] at hc
    obtain ⟨pv, hpv, hown⟩ := h n c hc
    exact ⟨pv, (hget.trans (if_neg hn)).trans hpv, hown⟩

theorem kept_update_iff {new : PersistentVolume} (h : Kept w)
    (hupdate : w.root.update new = .ok root) : Kept { w with root := root } ↔
      ∀ c, w.creators new.name = some c → hasResourceClusters new.annotations c.val = true := by
  have hget : ∀ n, root.get? n = if n = new.name then some new else w.root.get? n :=
    Store.get?_update hupdate
  constructor
  · intro hkept c hc
    obtain ⟨pv, hpv, hown⟩ := hkept new.name c hc
    cases Option.some.inj (((hget new.name).trans (if_pos rfl)).symm.trans hpv)
    exact hown
  · intro hnew n c hc
    by_cases hn : n = new.name
    · subst hn
      exact ⟨new, (hget new.name).trans (if_pos rfl), hnew c hc⟩
    · obtain ⟨pv, hpv, hown⟩ := h n c hc
      exact ⟨pv, ((hget n).trans (if_neg hn)).trans hpv, hown⟩

theorem reconcile_kept_iff (hk : Kept w) (h : reconcile l a name w = .ok (r, w')) :
    Kept w' ↔ Apt w (.reconcile l a name) := by
  unfold Apt
  by_cases hex : ∃ pv, Patches l a name w pv
  · obtain ⟨pv, hpatches⟩ := hex
    obtain ⟨rootPV, filtered, pvCopy, root, hsome, hown, hpair, hupdate, rfl⟩ :=
      reconcile_of_patches hpatches h
    have hname : (patchVolume rootPV filtered pvCopy).name = name :=
      (Store.get?_eq_some.mp hsome).2
    rw [kept_update_iff hk hupdate, hname]
    have hiff : ∀ c : ClusterName,
        hasResourceClusters (patchVolume rootPV filtered pvCopy).annotations c.val = true ↔
          pv.annotations ≠ none ∧
            (c.val = l.clusterName.val ∨ hasResourceClusters pv.annotations c.val = true) := by
      intro c
      rw [owners_patched hown hpair, hasResourceClusters_add_iff]
    constructor
    · intro hall pv' c hp hc
      cases Option.some.inj (hpatches.2.2.2.2.1.symm.trans hp.2.2.2.2.1)
      exact (hiff c).mp (hall c hc)
    · intro hall c hc
      exact (hiff c).mpr (hall pv c hpatches hc)
  · refine iff_of_true ?_ fun pv c hp => absurd ⟨pv, hp⟩ hex
    cases reconcile_done h with
    | nothing => exact hk
    | created hnone hname hown hcreate =>
      refine kept_create hk hcreate (fun n c hn hc => ?_) fun c hc => ?_
      · rwa [Function.update_of_ne (hname ▸ hn)] at hc
      · rw [hname, Function.update_self] at hc
        cases hc
        exact hown
    | deleted hsome hown hgone hdelete => exact kept_delete hk hdelete
    | patched hpatches => exact absurd ⟨_, hpatches⟩ hex

theorem step_kept_iff {e : Event} (hk : Kept w) (h : step w e = .ok (r, w')) :
    Kept w' ↔ Apt w e := by
  cases e with
  | leaf cluster storage =>
    cases h
    exact iff_of_true hk trivial
  | claims rootPVCs =>
    cases h
    exact iff_of_true hk trivial
  | created pv =>
    refine iff_of_true ?_ trivial
    cases hcreate : w.root.create pv with
    | error e =>
      simp only [step, hcreate] at h
      cases h
      exact hk
    | ok root =>
      simp only [step, hcreate] at h
      cases h
      refine kept_create hk hcreate (fun n c _ hc => hc) fun c hc => ?_
      obtain ⟨pv', hpv', -⟩ := hk pv.name c hc
      obtain ⟨hin, hname⟩ := Store.get?_eq_some.mp hpv'
      exact absurd hname (Store.create_free hcreate pv' hin)
  | deleted name =>
    refine iff_of_true ?_ trivial
    cases hdelete : w.root.delete name with
    | error e =>
      simp only [step, hdelete] at h
      cases h
      exact hk
    | ok root =>
      simp only [step, hdelete] at h
      cases h
      exact kept_delete hk hdelete
  | reconcile l a name => exact reconcile_kept_iff hk h

theorem reconcile_onlyOwn (h : reconcile l a name w = .ok (r, w')) : OnlyOwn l w w' := by
  intro n pv hpv hnot
  have hother : ∀ rootPV, w.root.get? name = some rootPV →
      hasResourceClusters rootPV.annotations l.clusterName.val = true → n ≠ name := by
    rintro rootPV hsome hown rfl
    cases Option.some.inj (hsome.symm.trans hpv)
    rw [hown] at hnot
    cases hnot
  cases reconcile_done h with
  | nothing => exact hpv
  | created hnone hname hown hcreate =>
    have hne : n ≠ name := by
      rintro rfl
      rw [hnone] at hpv
      cases hpv
    exact ((Store.get?_create hcreate n).trans (if_neg (hname ▸ hne))).trans hpv
  | deleted hsome hown hgone hdelete =>
    exact ((Store.get?_delete hdelete n).trans (if_neg (hother _ hsome hown))).trans hpv
  | @patched pv' rootPV filtered pvCopy root hpatches hsome hown hpair hupdate =>
    have hne : n ≠ rootPV.name := by
      rw [(Store.get?_eq_some.mp hsome).2]
      exact hother rootPV hsome hown
    exact ((Store.get?_update hupdate n).trans (if_neg hne)).trans hpv

theorem reconcile_deletes (hk : Kept w) (hdel : ToDelete l a name w)
    (h : reconcile l a name w = .ok (r, w')) : w'.root.get? name = none := by
  obtain ⟨hc, hleaf, hroot, heffect, hgone⟩ := hdel
  obtain ⟨rootPV, hsome, hown⟩ := hk name l.clusterName hc
  have hpv : ((w.leaves l.clusterName.val).pvs.get? name).filter
      (fun pv => !pv.terminating) = none := filter_terminating_eq_none.mpr hgone
  obtain ⟨root, hdelete⟩ : ∃ root, w.root.delete name = .ok root :=
    ⟨_, if_pos (Option.isSome_of_eq_some hsome)⟩
  unfold reconcile at h
  simp only [hleaf, hroot, hsome, hown, hpv, Bool.true_eq_false, if_false] at h
  have hw' : w'.root = root := by
    rw [← congrArg (fun x => x.2.root) (Except.ok.inj h)]
    unfold deleteInRoot
    simp [hdelete, answered_ok_snd, heffect]
  rw [hw', Store.get?_delete hdelete, if_pos rfl]

/-! ## Runs -/

/-- Ownership is kept exactly if every patch finds annotations in the leaf, and the creator in them
or reconciling. -/
theorem ownership_kept_iff (root : Volumes) (rootPVCs : Claims) (leaves : String → LeafStorage)
    (es : List Event) :
    (∀ m ∈ (runs root rootPVCs leaves es).moves, OwnershipKept m) ↔
      ∀ m ∈ (runs root rootPVCs leaves es).moves, Apt m.before m.event := by
  have hstart : Kept (World.start root rootPVCs leaves) := fun _ _ hc => nomatch hc
  obtain ⟨es', htrace⟩ : ∃ es', trace step (World.start root rootPVCs leaves) es' =
      .ok (runs root rootPVCs leaves es).moves := Run.loop_moves_trace es _
  have hiff : (∀ m ∈ (runs root rootPVCs leaves es).moves, Kept m.after) ↔
      ∀ m ∈ (runs root rootPVCs leaves es).moves, Apt m.before m.event :=
    trace_keeps_iff (A := fun m => Apt m.before m.event)
      (fun w e r w' hk hstep => step_kept_iff hk hstep) hstart htrace
  constructor
  · exact fun h => hiff.mp fun m hm => (h m hm).kept
  · intro h m hm
    have hafter := hiff.mpr h
    have hbefore := trace_before htrace hstart hafter m hm
    have hstep := trace_step htrace m hm
    refine ⟨hafter m hm, fun l a name he => ?_, fun l a name he hdel => ?_⟩
    · rw [he] at hstep
      exact reconcile_onlyOwn hstep
    · rw [he] at hstep
      exact reconcile_deletes hbefore hdel hstep

/-! ## A volume without annotations -/

def member : LeafPVController := ⟨⟨"c1", by decide, by decide⟩, false⟩

def one2one : LeafPVController := { member with isOne2OneMode := true }

def claimOf (uid : String) : PersistentVolumeClaim where
  ns := "default"
  name := "data"
  annotations := some (GoMap.empty.set kosmosGlobalLabel "true")
  uid := uid

def claims (uid : String) : Claims := ⟨[claimOf uid], List.pairwise_singleton _ _⟩

def bareVolume : PersistentVolume where
  name := "pv-1"
  claimRef := some { ns := "default", name := "data", uid := "leaf" }

def bareLeaf : LeafStorage where
  pvs := ⟨[bareVolume], List.pairwise_singleton _ _⟩
  pvcs := claims "leaf"

def emptyLeaf : LeafStorage := ⟨.empty, .empty⟩

theorem bareVolume_loses_owner :
    ∃ m ∈ (runs .empty (claims "root") (fun _ => bareLeaf)
        [.reconcile member {} "pv-1", .reconcile member {} "pv-1", .leaf "c1" emptyLeaf,
          .reconcile member {} "pv-1"]).moves,
      m.before.creators "pv-1" = some member.clusterName ∧
        ((m.before.leaves "c1").pvs.get? "pv-1").isNone ∧
        (m.after.root.get? "pv-1").isSome ∧ ¬ OwnershipKept m := by
  refine ⟨_, List.mem_of_getElem? (i := 3) rfl, rfl, rfl, by decide +kernel, ?_⟩
  intro h
  have hgone := h.deleted member {} "pv-1" rfl ⟨rfl, rfl, rfl, rfl, fun pv hpv => nomatch hpv⟩
  revert hgone
  decide +kernel

end Kosmos.LeafPV
