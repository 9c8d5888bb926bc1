import Kosmos.Api.Resources
import Kosmos.Tree.Registries

/-!
# Claims of the root in the leaves: `RootPVCController`

A claim is copied to each leaf that takes a pod with it, and the copies go with the claim.

A turn of the placement loop, and a reconcile, are not disturbed by others.
-/

namespace Kosmos.RootPVC

open Go Resources Kosmos.Tree

/-! ## Claims -/

structure PersistentVolumeClaim where
  ns : String
  name : String
  annotations : Annotations := none
  requests : String := ""
  terminating : Bool := false

abbrev ClaimKey := String × String

def PersistentVolumeClaim.key (pvc : PersistentVolumeClaim) : ClaimKey := (pvc.ns, pvc.name)

abbrev Claims := Store PersistentVolumeClaim.key

structure Placed where
  key : ClaimKey
  cluster : ClusterName
  client : LeafClientResource

structure World where
  root : Claims
  leaves : String → Claims
  regs : Registries
  placed : List Placed := []

/-! ## Placements -/

def withCluster (annotations : Annotations) (clusterName : String) : Annotations :=
  addResourceClusters (some (annotations.getD .empty)) clusterName

def pvcSelectedNodeKey : String := "volume.kubernetes.io/selected-node"

def fitUnstructuredObjMeta (annotations : Annotations) : Annotations :=
  annotations.map fun anno =>
    if (anno.get? pvcSelectedNodeKey).getD "" ≠ "" then anno.delete pvcSelectedNodeKey else anno

def setUnstructuredObjGlobal (annotations : Annotations) : Annotations :=
  some ((annotations.getD .empty).set kosmosGlobalLabel "true")

def beforeCreateInLeaf (nodeName : String) (leafMode : LeafMode) (annotations : Annotations) :
    Annotations :=
  if nodeName = "" then annotations
  else
    let annotationsMap := annotations.getD .empty
    some (if leafMode = .node then annotationsMap.set pvcSelectedNodeKey nodeName
      else annotationsMap)

structure Placement where
  cluster : ClusterName
  lr : LeafResource
  named : lr.cluster.name = cluster.val
  nodeName : String := ""
  leafMode : LeafMode := .all

structure PlaceAnswers where
  rootGet : Option String := none
  update : WriteAnswer := .done
  leafGet : Option String := none
  create : WriteAnswer := .done

def Placement.owned (p : Placement) (rootobj : PersistentVolumeClaim) : PersistentVolumeClaim :=
  { rootobj with annotations := withCluster rootobj.annotations p.lr.cluster.name }

def Placement.copy (p : Placement) (rootobj : PersistentVolumeClaim) : PersistentVolumeClaim :=
  { rootobj with
    annotations := beforeCreateInLeaf p.nodeName p.leafMode
      (setUnstructuredObjGlobal (fitUnstructuredObjMeta rootobj.annotations)) }

def createInLeaf (p : Placement) (a : PlaceAnswers) (lcr : LeafClientResource)
    (rootobj : PersistentVolumeClaim) (w : World) : Bool × World :=
  match a.leafGet with
  | some _ => (true, w)
  | none =>
    match (w.leaves lcr.cluster).get? rootobj.key with
    | some _ => (false, w)
    | none =>
      let (err, leaf) :=
        answered a.create ((w.leaves lcr.cluster).create (p.copy rootobj)) (w.leaves lcr.cluster)
      (err.any fun e => e ≠ .alreadyExists,
        { w with
          leaves := Function.update w.leaves lcr.cluster leaf
          placed :=
            if a.create.takesEffect then ⟨rootobj.key, p.cluster, lcr⟩ :: w.placed else w.placed })

def createClaim (p : Placement) (a : PlaceAnswers) (key : ClaimKey) (w : World) : Bool × World :=
  match a.rootGet with
  | some _ => (true, w)
  | none =>
    match w.root.get? key with
    | none => (true, w)
    | some rootobj =>
      match answered a.update (w.root.update (p.owned rootobj)) w.root with
      | (some _, root) => (true, { w with root := root })
      | (none, root) =>
        match leafClientResource w.regs.clientResourceMap p.lr with
        | .error _ => (true, { w with root := root })
        | .ok lcr => createInLeaf p a lcr (p.owned rootobj) { w with root := root }

def createStorageInLeafCluster (p : Placement) (ns : String) (answers : String → PlaceAnswers) :
    List String → World → Bool × World
  | [], w => (false, w)
  | rname :: rest, w =>
    match createClaim p (answers rname) (ns, rname) w with
    | (true, w) => (true, w)
    | (false, w) => createStorageInLeafCluster p ns answers rest w

/-! ## The controller -/

structure Answers where
  rootGet : Option String := none
  leafGet : Option String := none
  mergePatch : Option String := none
  write : WriteAnswer := .done
  honest : write ≠ .refused .notFound := by nofun

inductive Result where
  | done
  | requeue
  | error
  deriving DecidableEq

def client (regs : Registries) (cluster : String) : Outcome LeafClientResource := do
  let lr ← getLeafResource regs.resourceMap cluster
  leafClientResource regs.clientResourceMap lr

def deleteInLeaf (a : Answers) (key : ClaimKey) (lcr : LeafClientResource) (w : World) :
    Result × World :=
  let (err, leaf) :=
    answered a.write ((w.leaves lcr.cluster).delete key) (w.leaves lcr.cluster)
  (if err = none ∨ err = some .notFound then .done else .error,
    { w with leaves := Function.update w.leaves lcr.cluster leaf })

def cleanupPvc (a : Answers) (key : ClaimKey) (annotations : Annotations) (w : World) :
    Result × World :=
  match listResourceClusters annotations with
  | [] => (.done, w)
  | cluster :: _ =>
    match getLeafResource w.regs.resourceMap cluster with
    | .error _ => (.done, w)
    | .ok lr =>
      match leafClientResource w.regs.clientResourceMap lr with
      | .error _ => (.requeue, w)
      | .ok lcr => deleteInLeaf a key lcr w

def patchInLeaf (a : Answers) (lcr : LeafClientResource) (pvcOld pvc : PersistentVolumeClaim)
    (w : World) : Result × World :=
  let (err, leaf) := answered a.write
    ((w.leaves lcr.cluster).update { pvcOld with requests := pvc.requests }) (w.leaves lcr.cluster)
  (if err = none ∨ err = some .notFound then .done else .requeue,
    { w with leaves := Function.update w.leaves lcr.cluster leaf })

def updatePvc (a : Answers) (pvc : PersistentVolumeClaim) (w : World) : Result × World :=
  match listResourceClusters pvc.annotations with
  | [] => (.requeue, w)
  | cluster :: _ =>
    match client w.regs cluster with
    | .error _ => (.requeue, w)
    | .ok lcr =>
      match a.leafGet with
      | some _ => (.requeue, w)
      | none =>
        match (w.leaves lcr.cluster).get? pvc.key with
        | none => (.done, w)
        | some pvcOld =>
          if pvcOld.requests = pvc.requests then (.done, w)
          else
            match a.mergePatch with
            | some _ => (.error, w)
            | none => patchInLeaf a lcr pvcOld pvc w

def reconcile (a : Answers) (key : ClaimKey) (w : World) : Result × World :=
  match a.rootGet with
  | some _ => (.requeue, w)
  | none =>
    match w.root.get? key with
    | none => cleanupPvc a key none w
    | some pvc =>
      if pvc.terminating then cleanupPvc a key pvc.annotations w else updatePvc a pvc w

/-! ## Runs -/

inductive Event where
  | place (p : Placement) (ns : String) (answers : String → PlaceAnswers) (names : List String)
  | registries (regs : Registries)
  | terminate (key : ClaimKey)
  | remove (key : ClaimKey)
  | reconcile (a : Answers) (key : ClaimKey)

def step (w : World) : Event → Outcome (Result × World)
  | .place p ns answers names =>
    let (err, w) := createStorageInLeafCluster p ns answers names w
    .ok (if err then .error else .done, w)
  | .registries regs =>
    .ok (.done, { w with regs := regs })
  | .terminate key =>
    match w.root.get? key with
    | none => .ok (.done, w)
    | some pvc =>
      match w.root.update { pvc with terminating := true } with
      | .error _ => .ok (.error, w)
      | .ok root => .ok (.done, { w with root := root })
  | .remove key =>
    match w.root.delete key with
    | .error _ => .ok (.done, w)
    | .ok root => .ok (.done, { w with root := root })
  | .reconcile a key => .ok (reconcile a key w)

def runs (root : Claims) (leaves : String → Claims) (regs : Registries) (es : List Event) :
    Run World Event Result :=
  Run.loop (Run.once step) es { root, leaves, regs }

/-! ## What a deletion is to do -/

/-- The claim is gone from the root, or being deleted. -/
def Deleted (w : World) (key : ClaimKey) : Prop :=
  ∀ pvc, w.root.get? key = some pvc → pvc.terminating = true

/-- A registered cluster in which a copy was created. -/
def Owner (w : World) (key : ClaimKey) (x : Placed) : Prop :=
  x ∈ w.placed ∧ x.key = key ∧ client w.regs x.cluster.val = .ok x.client

/-- A reconcile without errors that finds the claim deleted leaves no copy of it. -/
def DeletionReaches (m : Move World Event Result) : Prop :=
  ∀ a key, m.event = .reconcile a key → m.result = .done → a.rootGet = none →
    Deleted m.before key →
    ∀ x, Owner m.before key x → (m.after.leaves x.client.cluster).get? key = none

def firstOwner (regs : Registries) (annotations : Annotations) : Option LeafClientResource :=
  (listResourceClusters annotations).head?.bind fun cluster => (client regs cluster).toOption

def Apt (w : World) : Event → Prop
  | .reconcile a key => (reconcile a key w).1 = .done → a.rootGet = none → Deleted w key →
      ∀ x, Owner w key x → ((w.leaves x.client.cluster).get? key).isSome →
        ∃ pvc lcr, w.root.get? key = some pvc ∧ firstOwner w.regs pvc.annotations = some lcr ∧
          lcr.cluster = x.client.cluster
  | _ => True

/-! ## The deletion -/

variable {a : Answers} {key : ClaimKey} {w w' : World} {lcr : LeafClientResource}

theorem deleteInLeaf_spec (hdone : (deleteInLeaf a key lcr w).1 = .done) (cluster : String) :
    ((deleteInLeaf a key lcr w).2.leaves cluster).get? key =
      if cluster = lcr.cluster then none else (w.leaves cluster).get? key := by
  have herr :
      (answered a.write ((w.leaves lcr.cluster).delete key) (w.leaves lcr.cluster)).1 = none ∨
      (answered a.write ((w.leaves lcr.cluster).delete key) (w.leaves lcr.cluster)).1 =
        some .notFound := by
    by_contra hne
    have hresult : (deleteInLeaf a key lcr w).1 = .error := if_neg hne
    rw [hresult] at hdone
    cases hdone
  have hget := get?_answered_delete a.honest herr key
  rw [if_pos rfl] at hget
  by_cases hcluster : cluster = lcr.cluster
  · rw [if_pos hcluster, hcluster, ← hget]
    exact congrArg (Store.get? · key) (Function.update_self ..)
  · rw [if_neg hcluster]
    exact congrArg (Store.get? · key) (Function.update_of_ne hcluster ..)

theorem cleanupPvc_spec {annotations : Annotations}
    (hdone : (cleanupPvc a key annotations w).1 = .done) (cluster : String) :
    ((cleanupPvc a key annotations w).2.leaves cluster).get? key =
      if (firstOwner w.regs annotations).map LeafClientResource.cluster = some cluster then none
      else (w.leaves cluster).get? key := by
  unfold firstOwner
  unfold cleanupPvc at hdone ⊢
  split at hdone
  next hnil => simp [hnil]
  next c cs hcons =>
    simp only [hcons, List.head?_cons, Option.bind_some]
    unfold client
    cases hlr : getLeafResource w.regs.resourceMap c with
    | error stop => rfl
    | ok lr =>
      simp only [hlr, ok_bind] at hdone ⊢
      split at hdone
      · cases hdone
      next lcr hlcr =>
        simp only [hlcr, Except.toOption, Option.map_some, Option.some.injEq]
        rw [deleteInLeaf_spec hdone cluster]
        simp only [eq_comm]

theorem reconcile_deleted (hget : a.rootGet = none) (hdel : Deleted w key) :
    reconcile a key w = cleanupPvc a key ((w.root.get? key).bind (·.annotations)) w := by
  unfold reconcile
  rw [hget]
  cases hpvc : w.root.get? key with
  | none => rfl
  | some pvc => exact if_pos (hdel pvc hpvc)

theorem step_reaches_iff {e : Event} {r : Result} (h : step w e = .ok (r, w')) :
    DeletionReaches ⟨w, e, r, w'⟩ ↔ Apt w e := by
  cases e with
  | place | registries | terminate | remove =>
    exact iff_of_true (fun a key he => nomatch he) trivial
  | reconcile a key =>
    have heq : reconcile a key w = (r, w') := Except.ok.inj h
    have hr : r = (reconcile a key w).1 := by rw [heq]
    have hw' : w' = (reconcile a key w).2 := by rw [heq]
    subst hr hw'
    clear h heq
    unfold Apt
    constructor
    · intro hreach hdone hget hdel x hx hsome
      have hnone := hreach a key rfl hdone hget hdel x hx
      have hspec := reconcile_deleted hget hdel
      rw [hspec] at hdone
      simp only [hspec] at hnone
      rw [cleanupPvc_spec hdone] at hnone
      split at hnone
      next howner =>
        obtain ⟨lcr, hlcr, hcluster⟩ := Option.map_eq_some_iff.mp howner
        cases hpvc : w.root.get? key with
        | none =>
          rw [hpvc] at hlcr
          cases hlcr
        | some pvc =>
          rw [hpvc] at hlcr
          exact ⟨pvc, lcr, rfl, hlcr, hcluster⟩
      · rw [hnone] at hsome
        cases hsome
    · intro hapt a' key' he hdone hget hdel x hx
      cases he
      have hspec := reconcile_deleted hget hdel
      have hreach := hapt hdone hget hdel x hx
      simp only [hspec] at hdone ⊢
      rw [cleanupPvc_spec hdone]
      split
      · rfl
      next hother =>
        by_contra hsome
        obtain ⟨pvc, lcr, hpvc, hlcr, hcluster⟩ := hreach (Option.isSome_iff_ne_none.mpr hsome)
        rw [hpvc] at hother
        exact hother (by rw [Option.bind_some, hlcr, Option.map_some, hcluster])

/-! ## The owners of a claim -/

def OwnersNamed (w : World) : Prop :=
  ∀ x ∈ w.placed, ∀ pvc, w.root.get? x.key = some pvc →
    hasResourceClusters pvc.annotations x.cluster.val = true

theorem OwnersNamed.update {root : Claims} {pvc pvc' : PersistentVolumeClaim} (h : OwnersNamed w)
    (hget : w.root.get? pvc'.key = some pvc) (hupdate : w.root.update pvc' = .ok root)
    (hkeeps : ∀ c : ClusterName, hasResourceClusters pvc.annotations c.val = true →
      hasResourceClusters pvc'.annotations c.val = true) :
    OwnersNamed { w with root := root } := by
  intro x hx pvc'' hpvc''
  have hpvc'' : root.get? x.key = some pvc'' := hpvc''
  rw [Store.get?_update hupdate] at hpvc''
  split at hpvc''
  next hkey =>
    cases hpvc''
    exact hkeeps x.cluster (h x hx pvc (hkey ▸ hget))
  · exact h x hx pvc'' hpvc''

theorem OwnersNamed.delete {root : Claims} (h : OwnersNamed w)
    (hdelete : w.root.delete key = .ok root) : OwnersNamed { w with root := root } := by
  intro x hx pvc hpvc
  have hpvc : root.get? x.key = some pvc := hpvc
  rw [Store.get?_delete hdelete] at hpvc
  split at hpvc
  · cases hpvc
  · exact h x hx pvc hpvc

theorem hasResourceClusters_withCluster {annotations : Annotations} {n c : ClusterName} :
    hasResourceClusters (withCluster annotations n.val) c.val = true ↔
      hasResourceClusters annotations c.val = true ∨ c.val = n.val := by
  rw [withCluster, hasResourceClusters_add_some]
  cases annotations with
  | none => rfl
  | some m => rfl

theorem createInLeaf_ownersNamed {p : Placement} {pa : PlaceAnswers}
    {rootobj : PersistentVolumeClaim} (h : OwnersNamed w)
    (hget : w.root.get? rootobj.key = some rootobj)
    (hown : hasResourceClusters rootobj.annotations p.cluster.val = true) :
    OwnersNamed (createInLeaf p pa lcr rootobj w).2 := by
  unfold createInLeaf
  split
  · exact h
  · split
    · exact h
    · intro x hx pvc hpvc
      have hpvc : w.root.get? x.key = some pvc := hpvc
      simp only at hx
      split at hx
      · rcases List.mem_cons.mp hx with rfl | hx
        · cases hget.symm.trans hpvc
          exact hown
        · exact h x hx pvc hpvc
      · exact h x hx pvc hpvc

theorem createClaim_ownersNamed {p : Placement} {pa : PlaceAnswers} (h : OwnersNamed w) :
    OwnersNamed (createClaim p pa key w).2 := by
  unfold createClaim
  split
  · exact h
  · split
    · exact h
    next rootobj hrootobj =>
      have hget : w.root.get? (p.owned rootobj).key = some rootobj := by
        rw [← hrootobj, ← (Store.get?_eq_some.mp hrootobj).2]
        rfl
      have howners : ∀ c : ClusterName,
          hasResourceClusters (p.owned rootobj).annotations c.val = true ↔
            hasResourceClusters rootobj.annotations c.val = true ∨ c.val = p.cluster.val := by
        intro c
        rw [Placement.owned, p.named]
        exact hasResourceClusters_withCluster
      have hupdated : ∀ {root : Claims}, w.root.update (p.owned rootobj) = .ok root →
          OwnersNamed { w with root := root } := fun hupdate =>
        h.update hget hupdate fun c hc => (howners c).mpr (Or.inl hc)
      have hroot := answered_state (s := w.root) pa.update (w.root.update (p.owned rootobj))
      cases hans : answered pa.update (w.root.update (p.owned rootobj)) w.root with
      | mk err root =>
        rw [hans] at hroot
        have hnamed : OwnersNamed { w with root := root } := by
          rcases hroot with ⟨hsame, -⟩ | ⟨-, hok⟩
          · rw [show root = w.root from hsame]
            exact h
          · exact hupdated hok
        cases err with
        | some e => exact hnamed
        | none =>
          simp only
          split
          · exact hnamed
          next lcr _ =>
            refine createInLeaf_ownersNamed hnamed ?_ ((howners p.cluster).mpr (Or.inr rfl))
            exact (Store.get?_update (answered_nil hans) _).trans (if_pos rfl)

theorem createStorageInLeafCluster_ownersNamed {p : Placement} {ns : String}
    {answers : String → PlaceAnswers} :
    ∀ (names : List String) (w : World), OwnersNamed w →
      OwnersNamed (createStorageInLeafCluster p ns answers names w).2 := by
  intro names
  induction names with
  | nil => exact fun w h => h
  | cons rname rest ih =>
    intro w h
    have hclaim : OwnersNamed (createClaim p (answers rname) (ns, rname) w).2 :=
      createClaim_ownersNamed h
    unfold createStorageInLeafCluster
    cases hturn : createClaim p (answers rname) (ns, rname) w with
    | mk err w' =>
      rw [hturn] at hclaim
      cases err with
      | true => exact hclaim
      | false => exact ih w' hclaim

theorem reconcile_frame (a : Answers) (key : ClaimKey) (w : World) :
    (reconcile a key w).2.root = w.root ∧ (reconcile a key w).2.placed = w.placed := by
  have hcleanup : ∀ annotations, (cleanupPvc a key annotations w).2.root = w.root ∧
      (cleanupPvc a key annotations w).2.placed = w.placed := by
    intro annotations
    unfold cleanupPvc
    repeat' split
    all_goals exact ⟨rfl, rfl⟩
  have hupdate : ∀ pvc, (updatePvc a pvc w).2.root = w.root ∧
      (updatePvc a pvc w).2.placed = w.placed := by
    intro pvc
    unfold updatePvc
    repeat' split
    all_goals exact ⟨rfl, rfl⟩
  unfold reconcile
  split
  · exact ⟨rfl, rfl⟩
  · split
    · exact hcleanup none
    next pvc _ =>
      split
      · exact hcleanup _
      · exact hupdate pvc

theorem step_ownersNamed {e : Event} {r : Result} (h : OwnersNamed w)
    (hstep : step w e = .ok (r, w')) : OwnersNamed w' := by
  cases e with
  | place p ns answers names =>
    have hw' : (createStorageInLeafCluster p ns answers names w).2 = w' :=
      congrArg Prod.snd (Except.ok.inj hstep)
    rw [← hw']
    exact createStorageInLeafCluster_ownersNamed names w h
  | registries regs =>
    cases hstep
    exact h
  | terminate key =>
    simp only [step] at hstep
    split at hstep
    · cases hstep
      exact h
    next pvc hpvc =>
      split at hstep
      · cases hstep
        exact h
      next root hupdate =>
        cases hstep
        have hget : w.root.get? ({ pvc with terminating := true } : PersistentVolumeClaim).key =
            some pvc := by
          rw [← hpvc, ← (Store.get?_eq_some.mp hpvc).2]
          rfl
        exact h.update hget hupdate fun c hc => hc
  | remove key =>
    simp only [step] at hstep
    split at hstep
    · cases hstep
      exact h
    next root hdelete =>
      cases hstep
      exact h.delete hdelete
  | reconcile a key =>
    have hw' : (reconcile a key w).2 = w' := congrArg Prod.snd (Except.ok.inj hstep)
    obtain ⟨hroot, hplaced⟩ := reconcile_frame a key w
    intro x hx pvc hpvc
    rw [← hw', hplaced] at hx
    rw [← hw', hroot] at hpvc
    exact h x hx pvc hpvc

theorem apt_of_single_owner (h : OwnersNamed w) {pvc : PersistentVolumeClaim} {cluster : String}
    (hpvc : w.root.get? key = some pvc) (hone : listResourceClusters pvc.annotations = [cluster]) :
    Apt w (.reconcile a key) := by
  intro _ _ _ x hx _
  obtain ⟨hplaced, rfl, hclient⟩ := hx
  have hown : x.cluster.val = cluster := by
    have hmem := h x hplaced pvc hpvc
    rw [hasResourceClusters_iff, hone] at hmem
    exact List.mem_singleton.mp hmem
  refine ⟨pvc, x.client, hpvc, ?_, rfl⟩
  rw [firstOwner, hone, List.head?_cons, Option.bind_some, ← hown, hclient]
  rfl

/-! ## Runs -/

section Runs

variable (root : Claims) (leaves : String → Claims) (regs : Registries) (es : List Event)

theorem runs_keeps : (runs root leaves regs es).Keeps step OwnersNamed :=
  Run.Keeps.loop (Run.Keeps.once fun _ _ _ _ h hstep => step_ownersNamed h hstep) es _
    fun _ hx => nomatch hx

/-- Deletions reach every owner exactly if the claim is still there, and copies only with its first
owner. -/
theorem deletion_reaches_iff :
    (∀ m ∈ (runs root leaves regs es).moves, DeletionReaches m) ↔
      ∀ m ∈ (runs root leaves regs es).moves, Apt m.before m.event :=
  forall₂_congr fun m hm => step_reaches_iff ((runs_keeps root leaves regs es).1 m hm).2

end Runs

/-! ## The owners as a set -/

section Owners

open VolumeBinding (ownerParts mem_ownerParts split_addResourceClusters)

def withClusters (annotations : Annotations) (names : List ClusterName) : Annotations :=
  names.foldl (fun annotations n => withCluster annotations n.val) annotations

variable (annotations : Annotations) (n : ClusterName) (names : List ClusterName)

/-- What the annotations are to be after the names were added. -/
structure OwnersSet : Prop where
  has : ∀ c : ClusterName, hasResourceClusters (withClusters annotations names) c.val = true ↔
    c.val ∈ names.map ClusterName.val ∨ c.val ∈ split ((owners annotations).getD "") ','
  list : listResourceClusters (withClusters annotations names) =
    ownerParts (owners annotations) ++
      (names.map ClusterName.val).eraseDups.filter (· ∉ ownerParts (owners annotations))
  noneEmpty : "" ∉ listResourceClusters (withClusters annotations names)
  again : ∀ c : ClusterName, hasResourceClusters (withClusters annotations names) c.val = true →
    ∀ key, readMap (withCluster (withClusters annotations names) c.val) key =
      readMap (withClusters annotations names) key
  others : ∀ key, key ≠ kosmosResourceOwnersAnnotations →
    readMap (withClusters annotations names) key = readMap annotations key

theorem readMap_withCluster (key : String) :
    readMap (withCluster annotations n.val) key =
      if key = kosmosResourceOwnersAnnotations
      then some (VolumeBinding.addResourceClusters (owners annotations) n.val)
      else readMap annotations key := by
  cases annotations with
  | none => exact GoMap.get?_set _ _ _ _
  | some m => exact GoMap.get?_set _ _ _ _

theorem owners_withCluster :
    owners (withCluster annotations n.val) =
      some (VolumeBinding.addResourceClusters (owners annotations) n.val) :=
  (readMap_withCluster annotations n _).trans (if_pos rfl)

theorem split_withCluster :
    split ((owners (withCluster annotations n.val)).getD "") ',' =
      ownerParts (owners (withCluster annotations n.val)) := by
  refine (List.filter_eq_self.mpr fun v hv => decide_eq_true ?_).symm
  rw [owners_withCluster, Option.getD_some, split_addResourceClusters n.plain] at hv
  split at hv
  · exact of_decide_eq_true (List.mem_filter.mp hv).2
  · rcases List.mem_append.mp hv with hv | hv
    · exact of_decide_eq_true (List.mem_filter.mp hv).2
    · exact List.mem_singleton.mp hv ▸ n.ne

theorem ownerParts_withCluster :
    ownerParts (owners (withCluster annotations n.val)) =
      if n.val ∈ ownerParts (owners annotations) then ownerParts (owners annotations)
      else ownerParts (owners annotations) ++ [n.val] := by
  rw [← split_withCluster, owners_withCluster, Option.getD_some, split_addResourceClusters n.plain]

theorem owners_eq_join :
    owners (withCluster annotations n.val) =
      some (join (ownerParts (owners (withCluster annotations n.val))) ',') := by
  rw [ownerParts_withCluster, owners_withCluster]
  rfl

theorem withClusters_concat :
    withClusters annotations (names ++ [n]) = withCluster (withClusters annotations names) n.val :=
  List.foldl_concat _ _ _ _

theorem ownerParts_withClusters :
    ownerParts (owners (withClusters annotations names)) =
      ownerParts (owners annotations) ++
        (names.map ClusterName.val).eraseDups.filter (· ∉ ownerParts (owners annotations)) := by
  induction names using List.reverseRecOn with
  | nil => simp [withClusters]
  | append_singleton names n ih =>
    rw [withClusters_concat, ownerParts_withCluster, ih, List.map_append, List.eraseDups_append]
    by_cases hstart : n.val ∈ ownerParts (owners annotations)
    · simp [hstart, List.removeAll]
    · by_cases hadded : ∃ m ∈ names, m.val = n.val
      · simp [hstart, hadded, List.removeAll]
      · simp [hstart, hadded, List.removeAll, List.eraseDups_cons]

/-- The owners are the set of the parts of the start and the names that were added. -/
theorem withClusters_ownersSet : OwnersSet annotations (n :: names) := by
  obtain ⟨init, last, hnames⟩ := (List.eq_nil_or_concat (n :: names)).resolve_left (by simp)
  have hwith : withClusters annotations (n :: names) =
      withCluster (withClusters annotations init) last.val :=
    (congrArg _ (hnames.trans List.concat_eq_append)).trans (withClusters_concat _ _ _)
  have hparts := ownerParts_withClusters annotations (n :: names)
  have hsplit : split ((owners (withClusters annotations (n :: names))).getD "") ',' =
      ownerParts (owners (withClusters annotations (n :: names))) :=
    hwith ▸ split_withCluster (withClusters annotations init) last
  have hlist : listResourceClusters (withClusters annotations (n :: names)) =
      ownerParts (owners (withClusters annotations (n :: names))) := by
    rw [listResourceClusters, ← hsplit, if_neg]
    intro hempty
    rw [hempty, ownerParts, hempty] at hsplit
    exact absurd hsplit (by decide)
  have hhas : ∀ c : ClusterName,
      hasResourceClusters (withClusters annotations (n :: names)) c.val = true ↔
        c.val ∈ ownerParts (owners (withClusters annotations (n :: names))) := by
    intro c
    rw [mem_ownerParts c.ne]
    simp [hasResourceClusters, VolumeBinding.hasResourceClusters]
  refine ⟨fun c => ?_, hlist.trans hparts, ?_, fun c hc key => ?_, fun key hkey => ?_⟩
  · rw [hhas, hparts, ← mem_ownerParts c.ne, List.mem_append, List.mem_filter, List.mem_eraseDups,
      decide_eq_true_iff]
    tauto
  · rw [hlist]
    exact fun h => absurd (List.mem_filter.mp h).2 (by decide)
  · rw [readMap_withCluster]
    split
    next hkey =>
      rw [VolumeBinding.addResourceClusters, ← ownerParts, if_pos ((hhas c).mp hc), hwith,
        ← owners_eq_join, hkey]
      rfl
    · rfl
  · induction n :: names using List.reverseRecOn with
    | nil => rfl
    | append_singleton names n ih => rw [withClusters_concat, readMap_withCluster, if_neg hkey, ih]

end Owners

/-! ## A claim of two leaves -/

def leafNamed (name : String) : LeafResource := ⟨{ name := name }, []⟩

def twoLeaves : Registries where
  resourceMap := (GoMap.empty.set "east" (leafNamed "east")).set "west" (leafNamed "west")
  clientResourceMap := (GoMap.empty.set "east" ⟨"east"⟩).set "west" ⟨"west"⟩

def placeInOne : Placement := ⟨⟨"east", by decide, by decide⟩, leafNamed "east", rfl, "n1", .all⟩

def placeInTwo : Placement := ⟨⟨"west", by decide, by decide⟩, leafNamed "west", rfl, "n2", .all⟩

def dataClaim : PersistentVolumeClaim := { ns := "default", name := "data" }

def twoPlacements (deletion : List Event) : List Event :=
  [.place placeInOne "default" (fun _ => {}) ["data"],
    .place placeInTwo "default" (fun _ => {}) ["data"]] ++ deletion

def terminated : List Event :=
  twoPlacements [.terminate ("default", "data"), .reconcile {} ("default", "data")]

def removed : List Event :=
  twoPlacements [.remove ("default", "data"), .reconcile {} ("default", "data")]

theorem second_owner_keeps_copy :
    (∃ m ∈ (runs ⟨[dataClaim], List.pairwise_singleton _ _⟩ (fun _ => .empty) twoLeaves
        terminated).moves,
      ((m.after.leaves "east").get? ("default", "data")).isNone ∧
        ((m.after.leaves "west").get? ("default", "data")).isSome ∧ ¬ DeletionReaches m) ∧
    ∃ m ∈ (runs ⟨[dataClaim], List.pairwise_singleton _ _⟩ (fun _ => .empty) twoLeaves
        removed).moves,
      ((m.after.leaves "east").get? ("default", "data")).isSome ∧
        ((m.after.leaves "west").get? ("default", "data")).isSome ∧ ¬ DeletionReaches m := by
  refine ⟨⟨_, List.mem_of_getElem? (i := 3) rfl, by decide +kernel, by decide +kernel, ?_⟩,
    _, List.mem_of_getElem? (i := 3) rfl, by decide +kernel, by decide +kernel, ?_⟩
  · intro h
    have hgone := h {} ("default", "data") rfl rfl rfl (fun pvc hpvc => by cases hpvc; rfl)
      ⟨("default", "data"), placeInTwo.cluster, ⟨"west"⟩⟩
      ⟨List.mem_cons_self, rfl, rfl⟩
    cases hgone
  · intro h
    have hgone := h {} ("default", "data") rfl rfl rfl (fun pvc hpvc => nomatch hpvc)
      ⟨("default", "data"), placeInTwo.cluster, ⟨"west"⟩⟩
      ⟨List.mem_cons_self, rfl, rfl⟩
    cases hgone

def onePlacement : List Event :=
  [.place placeInOne "default" (fun _ => {}) ["data"], .terminate ("default", "data"),
    .reconcile {} ("default", "data")]

end Kosmos.RootPVC
