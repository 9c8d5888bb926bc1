import Kosmos.Go.Completes
import Kosmos.Tree.LeafModel
import Kosmos.Tree.LeafPV
import Kosmos.Tree.RootPVC

/-!
# One-way volumes: `OnewayPVController`

Volume path, node, cluster and clients lead from a volume of the root to the leaf.

Volumes, nodes and claims are read from caches, the volume path and the registries are not. What
others do before a write is in the caches that are behind. The manager is started again after a
panic.
-/

namespace Kosmos.OnewayPV

open Go Resources Kosmos.Tree LeafPV
open Kosmos.Api (kosmosNodeLabel)

structure Node where
  labels : Option (GoMap String String) := none
  annotations : Annotations := none

structure World where
  root : Volumes
  volumePaths : String → Option String
  nodes : String → Option Node
  regs : Registries
  leaves : String → LeafStorage

structure Caches where
  root : Volumes
  nodes : String → Option Node
  leaves : String → LeafStorage

structure Answers where
  caches : Option Caches := none
  rootPV : Option String := none
  volumePath : Option String := none
  node : Option String := none
  leafPVC : Option String := none
  leafPV : Option String := none
  mergePatch : Option String := none
  write : WriteAnswer := .done

def World.seen (w : World) : Option Caches → World
  | none => w
  | some c => { w with root := c.root, nodes := c.nodes, leaves := c.leaves }

def isKosmosNode (node : Node) : Bool :=
  decide (readMap node.labels kosmosNodeLabel = some "true")

def leafOf (a : Answers) (name : String) (w : World) :
    LeafPV.Result ⊕ (LeafResource × LeafClientResource) :=
  match a.volumePath, w.volumePaths name with
  | some _, _ => .inl .requeue
  | none, none => .inl .requeue
  | none, some nodeName =>
    if nodeName = "" then .inl .done
    else
      match a.node, w.nodes nodeName with
      | some _, _ => .inl .requeue
      | none, none => .inl .done
      | none, some node =>
        if isKosmosNode node = false then .inl .done
        else
          let clusterName := (readMap node.annotations kosmosNodeOwnedByClusterAnnotations).getD ""
          if clusterName = "" then .inl .requeue
          else
            match getLeafResource w.regs.resourceMap clusterName with
            | .error _ => .inl .requeue
            | .ok leaf =>
              match leafClientResource w.regs.clientResourceMap leaf with
              | .error _ => .inl .requeue
              | .ok lcr => .inr (leaf, lcr)

def World.setVolumes (w : World) (cluster : String) (pvs : Volumes) : World :=
  { w with
    leaves := Function.update w.leaves cluster { w.leaves cluster with pvs := pvs } }

def clearLeafPV (a : Answers) (lcr : LeafClientResource) (pvName : String) (w : World) :
    LeafPV.Result × World :=
  if pvName = "" then (.requeue, w)
  else
    let pvs := (w.leaves lcr.cluster).pvs
    let (err, pvs) := answered a.write (pvs.delete pvName) pvs
    (if err = none ∨ err = some .notFound then .done else .requeue,
      w.setVolumes lcr.cluster pvs)

def newPV (leaf : LeafResource) (pv : PersistentVolume) (ref : ClaimRef)
    (pvc : LeafPV.PersistentVolumeClaim) : PersistentVolume :=
  { pv with
    claimRef := some (ref.of pvc)
    annotations := some
      (((RootPVC.withCluster pv.annotations leaf.cluster.name).getD .empty).set
        kosmosGlobalLabel "true") }

def patchVolume (oldPV newPV stored : PersistentVolume) : PersistentVolume :=
  { stored with
    annotations := (createMergePatch oldPV.annotations newPV.annotations).apply stored.annotations
    claimRef := if newPV.claimRef = oldPV.claimRef then stored.claimRef else newPV.claimRef
    nodeAffinity :=
      if newPV.nodeAffinity = oldPV.nodeAffinity then stored.nodeAffinity else newPV.nodeAffinity
    spec := if newPV.spec = oldPV.spec then stored.spec else newPV.spec }

def createInLeaf (a : Answers) (lcr : LeafClientResource) (newPV : PersistentVolume) (w : World) :
    LeafPV.Result × World :=
  let pvs := (w.leaves lcr.cluster).pvs
  let (err, pvs) := answered a.write (pvs.create newPV) pvs
  (if err = none ∨ err = some .alreadyExists then .done else .requeue,
    w.setVolumes lcr.cluster pvs)

def patchInLeaf (a : Answers) (lcr : LeafClientResource) (oldPV newPV : PersistentVolume)
    (w : World) : LeafPV.Result × World :=
  let pvs := (w.leaves lcr.cluster).pvs
  let patched := match pvs.get? newPV.name with
    | none => .error .notFound
    | some stored => pvs.update (patchVolume oldPV newPV stored)
  let (err, pvs) := answered a.write patched pvs
  (if err = none then .done else .requeue, w.setVolumes lcr.cluster pvs)

def ensureLeafPV (a : Answers) (leaf : LeafResource) (lcr : LeafClientResource)
    (pv : PersistentVolume) (seen : LeafStorage) (w : World) : Outcome (LeafPV.Result × World) := do
  let ref ← deref pv.claimRef
  match a.leafPVC, seen.pvcs.get? (ref.ns, ref.name) with
  | some _, _ => pure (.requeue, w)
  | none, none => pure (.requeue, w)
  | none, some pvc =>
    let newPV := newPV leaf pv ref pvc
    match a.leafPV, seen.pvs.get? newPV.name with
    | some _, _ => pure (.requeue, w)
    | none, none => pure (createInLeaf a lcr newPV w)
    | none, some oldPV =>
      if isPVEqual oldPV newPV then pure (.done, w)
      else
        match a.mergePatch with
        | some msg => pure (.error msg, w)
        | none => pure (patchInLeaf a lcr oldPV newPV w)

def reconcile (a : Answers) (name : String) (v w : World) : Outcome (LeafPV.Result × World) :=
  match a.rootPV with
  | some _ => .ok (.requeue, w)
  | none =>
    match leafOf a name v with
    | .inl r => .ok (r, w)
    | .inr (leaf, lcr) =>
      match v.root.get? name with
      | none => .ok (clearLeafPV a lcr "" w)
      | some pv =>
        if pv.terminating then .ok (clearLeafPV a lcr pv.name w)
        else ensureLeafPV a leaf lcr pv (v.leaves lcr.cluster) w

inductive Event where
  | root (pvs : Volumes)
  | volumePaths (volumePaths : String → Option String)
  | nodes (nodes : String → Option Node)
  | registries (regs : Registries)
  | leaf (cluster : String) (storage : LeafStorage)
  | reconcile (a : Answers) (name : String)

inductive Ended where
  | changed
  | reconciled (r : LeafPV.Result)
  | panicked

def step (w : World) : Event → Ended × World
  | .root pvs => (.changed, { w with root := pvs })
  | .volumePaths volumePaths => (.changed, { w with volumePaths := volumePaths })
  | .nodes nodes => (.changed, { w with nodes := nodes })
  | .registries regs => (.changed, { w with regs := regs })
  | .leaf cluster storage =>
    (.changed, { w with leaves := Function.update w.leaves cluster storage })
  | .reconcile a name =>
    match reconcile a name (w.seen a.caches) w with
    | .ok (r, w') => (.reconciled r, w')
    | .error _ => (.panicked, w)

def runs (w : World) (es : List Event) : Run World Event Ended :=
  Run.loop (Run.once fun w e => .ok (step w e)) es w

/-- The volume path names a Kosmos node of a cluster whose clients are registered. -/
def Names (w : World) (name : String) (leaf : LeafResource) (lcr : LeafClientResource) : Prop :=
  ∃ nodeName node clusterName, w.volumePaths name = some nodeName ∧ nodeName ≠ "" ∧
    w.nodes nodeName = some node ∧ isKosmosNode node = true ∧
    readMap node.annotations kosmosNodeOwnedByClusterAnnotations = some clusterName ∧
    clusterName ≠ "" ∧ getLeafResource w.regs.resourceMap clusterName = .ok leaf ∧
    leafClientResource w.regs.clientResourceMap leaf = .ok lcr

def World.live (w : World) (name : String) : Option PersistentVolume :=
  (w.root.get? name).filter fun pv => !pv.terminating

/-- The spec of the root's volume, with the reference to the claim of the leaf. -/
def Repointed (storage : LeafStorage) (pv leafPV : PersistentVolume) : Prop :=
  leafPV.spec = pv.spec ∧ leafPV.nodeAffinity = pv.nodeAffinity ∧
    ∃ ref pvc, pv.claimRef = some ref ∧ storage.pvcs.get? (ref.ns, ref.name) = some pvc ∧
      leafPV.claimRef = some (ref.of pvc)

/-- The leaf has the volume exactly if the root keeps it, with its spec. -/
def Mirrored (w : World) (name cluster : String) : Prop :=
  (((w.leaves cluster).pvs.get? name).isSome = true ↔ (w.live name).isSome = true) ∧
    ∀ pv leafPV, w.live name = some pv → (w.leaves cluster).pvs.get? name = some leafPV →
      Repointed (w.leaves cluster) pv leafPV

/-- No panic, and a reconcile that is done leaves the leaf a mirror. -/
def MirrorRight (m : Move World Event Ended) : Prop :=
  ∀ a name, m.event = .reconcile a name →
    m.result ≠ .panicked ∧
      (m.result = .reconciled .done → ∀ leaf lcr, Names m.before name leaf lcr →
        Mirrored m.after name lcr.cluster)

/-- The reconcile comes to a volume that is to be in the leaf and has no claim. -/
def Unclaimed (a : Answers) (name : String) (w : World) : Prop :=
  a.rootPV = none ∧ a.volumePath = none ∧ a.node = none ∧
    (∃ leaf lcr, Names w name leaf lcr) ∧ ∃ pv, w.live name = some pv ∧ pv.claimRef = none

/-- What the reconcile reads is as the caches have it. -/
structure Agree (name : String) (v w : World) : Prop where
  root : v.root.get? name = w.root.get? name
  node : ∀ nodeName, w.volumePaths name = some nodeName → v.nodes nodeName = w.nodes nodeName
  leaf : ∀ leaf lcr, Names w name leaf lcr →
    (v.leaves lcr.cluster).pvs.get? name = (w.leaves lcr.cluster).pvs.get? name ∧
    ∀ key, (v.leaves lcr.cluster).pvcs.get? key = (w.leaves lcr.cluster).pvcs.get? key

/-- What is read is there, and no answer tells otherwise. -/
structure Current (a : Answers) (name : String) (w : World) : Prop where
  reads : Agree name (w.seen a.caches) w
  writes : a.write ≠ .refused .alreadyExists ∧ a.write ≠ .refused .notFound

variable {a : Answers} {name : String} {w w' : World} {leaf : LeafResource}
  {lcr : LeafClientResource} {pv : PersistentVolume}

theorem leafOf_of_names (h : Names w name leaf lcr) :
    leafOf a name w =
      if a.volumePath = none ∧ a.node = none then .inr (leaf, lcr) else .inl .requeue := by
  obtain ⟨nodeName, node, cluster, hvp, hnodeName, hnode, hkosmos, hcluster, hne, hleaf, hlcr⟩ := h
  unfold leafOf
  cases a.volumePath with
  | some msg => simp
  | none =>
    cases a.node with
    | some msg => simp [hvp, hnodeName]
    | none => simp [hvp, hnodeName, hnode, hkosmos, hcluster, hne, hleaf, hlcr]

theorem names_of_leafOf (h : leafOf a name w = .inr (leaf, lcr)) :
    a.volumePath = none ∧ a.node = none ∧ Names w name leaf lcr := by
  unfold leafOf at h
  split at h
  · cases h
  · cases h
  next nodeName hvolumePath hvp =>
    split at h
    · cases h
    next hnodeName =>
      split at h
      · cases h
      · cases h
      next node hanswer hnode =>
        split at h
        · cases h
        next hkosmos =>
          simp only at h
          split at h
          · cases h
          next hcluster =>
            split at h
            · cases h
            next leaf' hleaf =>
              split at h
              · cases h
              next lcr' hlcr =>
                cases h
                refine ⟨hvolumePath, hanswer, nodeName, node, _, hvp, hnodeName, hnode,
                  Bool.not_eq_false _ |>.mp hkosmos, ?_, hcluster, hleaf, hlcr⟩
                cases hread : readMap node.annotations kosmosNodeOwnedByClusterAnnotations with
                | none =>
                  rw [hread] at hcluster
                  exact absurd rfl hcluster
                | some clusterName => rfl

theorem ensureLeafPV_completes_iff {seen : LeafStorage} :
    Completes (ensureLeafPV a leaf lcr pv seen w) ↔ pv.claimRef ≠ none := by
  unfold ensureLeafPV
  cases pv.claimRef with
  | none => simp [deref]
  | some ref =>
    simp only [deref_some, ok_bind, ne_eq, reduceCtorEq, not_false_eq_true, iff_true]
    split
    · exact completes_ok _
    · exact completes_ok _
    · split
      · exact completes_ok _
      · exact completes_ok _
      · split
        · exact completes_ok _
        · split
          · exact completes_ok _
          · exact completes_ok _

theorem live_eq_some :
    w.live name = some pv ↔ w.root.get? name = some pv ∧ pv.terminating = false :=
  filter_terminating_eq_some

theorem mirrorPV_completes_iff (a : Answers) (name : String) (w : World) :
    Completes (reconcile a name w w) ↔ ¬ Unclaimed a name w := by
  unfold reconcile
  cases hroot : a.rootPV with
  | some msg =>
    refine iff_of_true (completes_ok _) fun h => ?_
    cases hroot.symm.trans h.1
  | none =>
    cases hleaf : leafOf a name w with
    | inl r =>
      refine iff_of_true (completes_ok _) ?_
      rintro ⟨-, hvolumePath, hnode, ⟨leaf, lcr, hnames⟩, -⟩
      rw [leafOf_of_names hnames, if_pos ⟨hvolumePath, hnode⟩] at hleaf
      cases hleaf
    | inr found =>
      obtain ⟨leaf, lcr⟩ := found
      obtain ⟨hvolumePath, hnode, hnames⟩ := names_of_leafOf hleaf
      simp only
      split
      next hnone =>
        refine iff_of_true (completes_ok _) ?_
        rintro ⟨-, -, -, -, pv, hlive, -⟩
        cases hnone.symm.trans (live_eq_some.mp hlive).1
      next pv hpv =>
        have honly : ∀ pv', w.live name = some pv' → pv' = pv ∧ pv'.terminating = false := by
          intro pv' hlive
          obtain ⟨hpv', hterm⟩ := live_eq_some.mp hlive
          exact ⟨Option.some.inj (hpv'.symm.trans hpv), hterm⟩
        split
        next hterm =>
          refine iff_of_true (completes_ok _) ?_
          rintro ⟨-, -, -, -, pv', hlive, -⟩
          obtain ⟨rfl, hterm'⟩ := honly pv' hlive
          cases hterm.symm.trans hterm'
        next hterm =>
          have hlive : w.live name = some pv :=
            live_eq_some.mpr ⟨hpv, Bool.not_eq_true _ |>.mp hterm⟩
          rw [ensureLeafPV_completes_iff]
          refine not_congr ⟨fun hclaim => ?_, fun h => ?_⟩
          · exact ⟨hroot, hvolumePath, hnode, ⟨leaf, lcr, hnames⟩, pv, hlive, hclaim⟩
          · obtain ⟨-, -, -, -, pv', hlive', hclaim⟩ := h
            rwa [(honly pv' hlive').1] at hclaim

@[simp] theorem setVolumes_live (pvs : Volumes) (cluster : String) :
    (w.setVolumes cluster pvs).live name = w.live name := rfl

@[simp] theorem setVolumes_leaf (pvs : Volumes) (cluster : String) :
    (w.setVolumes cluster pvs).leaves cluster = { w.leaves cluster with pvs := pvs } :=
  Function.update_self ..

theorem clearLeafPV_mirrored (hlive : w.live name = none) (hwrite : a.write ≠ .refused .notFound)
    (h : clearLeafPV a lcr name w = (.done, w')) : Mirrored w' name lcr.cluster := by
  unfold clearLeafPV at h
  split at h
  · cases h
  · have hworld := congrArg Prod.snd h
    have hresult := congrArg Prod.fst h
    simp only at hworld hresult
    have herr : (answered a.write ((w.leaves lcr.cluster).pvs.delete name)
          (w.leaves lcr.cluster).pvs).1 = none ∨
        (answered a.write ((w.leaves lcr.cluster).pvs.delete name)
          (w.leaves lcr.cluster).pvs).1 = some .notFound := by
      by_contra hnot
      rw [if_neg hnot] at hresult
      cases hresult
    have hgone := get?_answered_delete hwrite herr name
    rw [if_pos rfl] at hgone
    rw [← hworld]
    constructor
    · simp [hgone, hlive]
    · intro pv leafPV hpv
      rw [setVolumes_live, hlive] at hpv
      cases hpv

theorem mirrored_of_get? {leafPV : PersistentVolume} (hlive : w.live name = some pv)
    (hget : (w.leaves lcr.cluster).pvs.get? name = some leafPV)
    (hpoint : Repointed (w.leaves lcr.cluster) pv leafPV) : Mirrored w name lcr.cluster := by
  constructor
  · rw [hget, hlive]
    exact iff_of_true rfl rfl
  · intro pv' leafPV' hpv' hleafPV'
    cases Option.some.inj (hlive.symm.trans hpv')
    cases Option.some.inj (hget.symm.trans hleafPV')
    exact hpoint

theorem mirrored_setVolumes {pvs : Volumes} {leafPV : PersistentVolume}
    (hlive : w.live name = some pv) (hget : pvs.get? name = some leafPV)
    (hpoint : Repointed (w.leaves lcr.cluster) pv leafPV) :
    Mirrored (w.setVolumes lcr.cluster pvs) name lcr.cluster := by
  have hlive' : (w.setVolumes lcr.cluster pvs).live name = some pv := hlive
  apply mirrored_of_get? hlive'
  · rw [setVolumes_leaf]
    exact hget
  · rw [setVolumes_leaf]
    exact hpoint

theorem repointed_newPV {storage : LeafStorage} {ref : ClaimRef}
    {pvc : LeafPV.PersistentVolumeClaim} (href : pv.claimRef = some ref)
    (hpvc : storage.pvcs.get? (ref.ns, ref.name) = some pvc) :
    Repointed storage pv (newPV leaf pv ref pvc) :=
  ⟨rfl, rfl, ref, pvc, href, hpvc, rfl⟩

section Ensure

variable {ref : ClaimRef} {pvc : LeafPV.PersistentVolumeClaim} (hlive : w.live name = some pv)
  (href : pv.claimRef = some ref)
  (hpvc : (w.leaves lcr.cluster).pvcs.get? (ref.ns, ref.name) = some pvc)
include hlive href hpvc

theorem createInLeaf_mirrored (hwrite : a.write ≠ .refused .alreadyExists)
    (hnone : (w.leaves lcr.cluster).pvs.get? name = none)
    (h : createInLeaf a lcr (newPV leaf pv ref pvc) w = (.done, w')) :
    Mirrored w' name lcr.cluster := by
  have hname : (newPV leaf pv ref pvc).name = name :=
    (Store.get?_eq_some.mp (live_eq_some.mp hlive).1).2
  obtain ⟨pvs, hcreate⟩ := create_of_get?_none hnone hname
  unfold createInLeaf at h
  simp only [hcreate] at h
  have hworld := congrArg Prod.snd h
  have hresult := congrArg Prod.fst h
  have hpvs : (answered a.write (.ok pvs) (w.leaves lcr.cluster).pvs).2 = pvs := by
    rw [answered_ok_snd]
    cases hanswer : a.write with
    | done => rfl
    | lost e => rfl
    | refused e =>
      have hne : e ≠ .alreadyExists := fun he => hwrite (he ▸ hanswer)
      simp [answered, hanswer, hne] at hresult
  simp only [hpvs] at hworld
  have hget : pvs.get? name = some (newPV leaf pv ref pvc) := by
    rw [Store.get?_create hcreate, if_pos hname.symm]
  rw [← hworld]
  exact mirrored_setVolumes hlive hget (repointed_newPV href hpvc)

theorem patchInLeaf_mirrored {oldPV : PersistentVolume}
    (hsome : (w.leaves lcr.cluster).pvs.get? name = some oldPV)
    (h : patchInLeaf a lcr oldPV (newPV leaf pv ref pvc) w = (.done, w')) :
    Mirrored w' name lcr.cluster := by
  have hname : (newPV leaf pv ref pvc).name = name :=
    (Store.get?_eq_some.mp (live_eq_some.mp hlive).1).2
  have hname' : (patchVolume oldPV (newPV leaf pv ref pvc) oldPV).name = name :=
    (Store.get?_eq_some.mp hsome).2
  have hkept : ∀ {α : Type} [DecidableEq α] (new old : α), (if new = old then old else new) = new :=
    fun new old => by
      split
      next heq => exact heq.symm
      · rfl
  unfold patchInLeaf at h
  simp only [hname, hsome] at h
  have hworld := congrArg Prod.snd h
  have hresult := congrArg Prod.fst h
  simp only at hworld hresult
  split at hresult
  next herr =>
    have hget := Store.get?_update (answered_nil (Prod.ext herr rfl)) name
    rw [if_pos hname'.symm] at hget
    rw [← hworld]
    exact mirrored_setVolumes hlive hget
      ⟨hkept .., hkept .., ref, pvc, href, hpvc, hkept ..⟩
  · cases hresult

theorem mirrored_of_isPVEqual {oldPV : PersistentVolume}
    (hsome : (w.leaves lcr.cluster).pvs.get? name = some oldPV)
    (hequal : isPVEqual oldPV (newPV leaf pv ref pvc) = true) : Mirrored w name lcr.cluster := by
  unfold isPVEqual at hequal
  rw [Bool.and_eq_true, Bool.and_eq_true, decide_eq_true_eq] at hequal
  obtain ⟨⟨-, hclaimRef, haffinity, hspec⟩, -⟩ := hequal
  exact mirrored_of_get? hlive hsome ⟨hspec, haffinity, ref, pvc, href, hpvc, hclaimRef⟩

end Ensure

theorem ensureLeafPV_mirrored (hwrite : a.write ≠ .refused .alreadyExists)
    (hlive : w.live name = some pv)
    (h : ensureLeafPV a leaf lcr pv (w.leaves lcr.cluster) w = .ok (.done, w')) :
    Mirrored w' name lcr.cluster := by
  have hname : pv.name = name := (Store.get?_eq_some.mp (live_eq_some.mp hlive).1).2
  obtain ⟨ref, href, h⟩ := bind_eq_ok h
  have href := deref_eq_ok href
  split at h
  · cases h
  · cases h
  next pvc _ hpvc =>
    simp only at h
    rw [show (newPV leaf pv ref pvc).name = name from hname] at h
    split at h
    · cases h
    next hnone => exact createInLeaf_mirrored hlive href hpvc hwrite hnone (Except.ok.inj h)
    next oldPV _ hsome =>
      split at h
      next hequal =>
        cases h
        exact mirrored_of_isPVEqual hlive href hpvc hsome hequal
      · split at h
        · cases h
        · exact patchInLeaf_mirrored hlive href hpvc hsome (Except.ok.inj h)

theorem reconcile_mirrored
    (hwrite : a.write ≠ .refused .alreadyExists ∧ a.write ≠ .refused .notFound)
    (hnames : Names w name leaf lcr) (h : reconcile a name w w = .ok (.done, w')) :
    Mirrored w' name lcr.cluster := by
  unfold reconcile at h
  split at h
  · cases h
  · rw [leafOf_of_names hnames] at h
    split_ifs at h
    · simp only at h
      split at h
      · simp [clearLeafPV] at h
      next pv hpv =>
        split at h
        next hterm =>
          have hname : pv.name = name := (Store.get?_eq_some.mp hpv).2
          have hlive : w.live name = none := by
            simp [World.live, hpv, hterm]
          rw [hname] at h
          exact clearLeafPV_mirrored hlive hwrite.2 (Except.ok.inj h)
        next hterm =>
          exact ensureLeafPV_mirrored hwrite.1
            (live_eq_some.mpr ⟨hpv, Bool.not_eq_true _ |>.mp hterm⟩) h
    · cases h

theorem reconcile_gone (hnames : Names w name leaf lcr) (hgone : w.root.get? name = none) :
    reconcile a name w w = .ok (.requeue, w) := by
  unfold reconcile
  rw [leafOf_of_names hnames]
  split
  · rfl
  · split_ifs
    · simp [hgone, clearLeafPV]
    · rfl

theorem reconcile_of_agree {v : World} (h : Agree name v w)
    (hpaths : v.volumePaths = w.volumePaths) (hregs : v.regs = w.regs) :
    reconcile a name v w = reconcile a name w w := by
  have hleafOf : leafOf a name v = leafOf a name w := by
    unfold leafOf
    rw [hpaths, hregs]
    cases a.volumePath with
    | some msg => rfl
    | none =>
      cases hpath : w.volumePaths name with
      | none => rfl
      | some nodeName => simp only [h.node nodeName hpath]
  unfold reconcile
  rw [hleafOf, h.root]
  cases hleaf : leafOf a name w with
  | inl r => rfl
  | inr found =>
    obtain ⟨leaf, lcr⟩ := found
    obtain ⟨hpv, hpvc⟩ := h.leaf leaf lcr (names_of_leafOf hleaf).2.2
    cases a.rootPV with
    | some msg => rfl
    | none =>
      cases hroot : w.root.get? name with
      | none => rfl
      | some pv =>
        have hname : pv.name = name := (Store.get?_eq_some.mp hroot).2
        have hensure : ensureLeafPV a leaf lcr pv (v.leaves lcr.cluster) w =
            ensureLeafPV a leaf lcr pv (w.leaves lcr.cluster) w := by
          unfold ensureLeafPV newPV
          simp only [hpvc, hname, hpv]
        simp only [hensure]

theorem agree_refl (name : String) (w : World) : Agree name w w :=
  ⟨rfl, fun _ _ => rfl, fun _ _ _ => ⟨rfl, fun _ => rfl⟩⟩

theorem seen_volumePaths (c : Option Caches) : (w.seen c).volumePaths = w.volumePaths := by
  cases c <;> rfl

theorem seen_regs (c : Option Caches) : (w.seen c).regs = w.regs := by
  cases c <;> rfl

def worldOf (pv : PersistentVolume) : World where
  root := ⟨[pv], List.pairwise_singleton _ _⟩
  volumePaths := fun _ => some "kosmos-c1"
  nodes := fun _ => some
    { labels := some (GoMap.empty.set kosmosNodeLabel "true")
      annotations := some (GoMap.empty.set kosmosNodeOwnedByClusterAnnotations "c1") }
  regs :=
    { resourceMap := GoMap.empty.set "c1" ⟨{ name := "c1" }, []⟩
      clientResourceMap := GoMap.empty.set "c1" ⟨"c1"⟩ }
  leaves := fun _ => ⟨.empty, claims "leaf"⟩

def staleWorld : World :=
  { worldOf { bareVolume with spec := "new" } with leaves := fun _ => bareLeaf }

def staleCaches : Caches where
  root := staleWorld.root
  nodes := staleWorld.nodes
  leaves := fun _ => ⟨.empty, claims "leaf"⟩

end Kosmos.OnewayPV
