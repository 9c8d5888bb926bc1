import Kosmos.Pods.Reconcile

/-!
# A root pod reconcile while the registries change

Cluster reconciles take leaves out and put them in between its lookups. `HasNode` and
`GetClusterNode` hold no lock: a leaf that is taken out under one is read as nil.

Time is counted in lookups: `changes n` are the calls of others before the `n`-th, and `visit n` is
the order of one with the lock. One without it comes to the keys of `turns n` that are in the map at
their turn. That Go stops the process when it sees a map read and written at once, and an
`AddLeafResource` that panics, are left out.
-/

namespace Kosmos.Pods

open Kosmos.Go Kosmos.Tree

inductive RegistryCall where
  | addLeafResource (cluster : Cluster) (nodes : List String)
  | removeLeafResource (clusterName : String)
  | addLeafClientResource (lcr : LeafClientResource) (cluster : Cluster)
  | removeLeafClientResource (actualClusterName : String)

def RegistryCall.apply (w : Registries) : RegistryCall → Registries
  | .addLeafResource cluster nodes =>
    match Tree.addLeafResource w.resourceMap cluster nodes with
    | .ok resourceMap => { w with resourceMap }
    | .error _ => w
  | .removeLeafResource clusterName =>
    { w with resourceMap := Tree.removeLeafResource w.resourceMap clusterName }
  | .addLeafClientResource lcr cluster =>
    { w with clientResourceMap := Tree.addLeafClientResource w.clientResourceMap lcr cluster }
  | .removeLeafClientResource actualClusterName =>
    { w with
      clientResourceMap := Tree.removeLeafClientResource w.clientResourceMap actualClusterName }

/-! ## Lookups without the lock -/

structure Turn where
  key : String
  before : List RegistryCall := []
  between : List RegistryCall := []

def Turn.apply (w : Registries) (t : Turn) : Registries :=
  t.between.foldl RegistryCall.apply (t.before.foldl RegistryCall.apply w)

def reads : Registries → List Turn → List (Option LeafResource)
  | _, [] => []
  | w, t :: ts =>
    if ((t.before.foldl RegistryCall.apply w).resourceMap.get? t.key).isSome then
      (t.apply w).resourceMap.get? t.key :: reads (t.apply w) ts
    else reads (t.apply w) ts

namespace Unlocked

def getClusterNode : List (Option LeafResource) → String → Outcome (Option ClusterNode)
  | [], _ => pure none
  | leaf :: rest, nodeName => do
    let leaf ← deref leaf
    match findClusterNode leaf.nodes (trimNamePrefix nodeName) with
    | some clusterNode => pure (some clusterNode)
    | none => getClusterNode rest nodeName

def hasNode : List (Option LeafResource) → String → Outcome Bool
  | [], _ => pure false
  | leaf :: rest, nodeName => do
    let leaf ← deref leaf
    if has leaf.nodes (trimNamePrefix nodeName) then pure true else hasNode rest nodeName

/-- The leaves of the range are there when read, up to one with the node. -/
def Intact (read : List (Option LeafResource)) (nodeName : String) : Prop :=
  ∀ before after, read = before ++ none :: after →
    ∃ leaf, some leaf ∈ before ∧ has leaf.nodes (trimNamePrefix nodeName) = true

variable {read : List (Option LeafResource)} {leaf : LeafResource} {nodeName : String}

theorem intact_cons : Intact (some leaf :: read) nodeName ↔
    has leaf.nodes (trimNamePrefix nodeName) = true ∨ Intact read nodeName := by
  constructor
  · intro h
    by_cases hhas : has leaf.nodes (trimNamePrefix nodeName) = true
    · exact Or.inl hhas
    · refine Or.inr fun before after heq => ?_
      obtain ⟨leaf', hmem, hleaf'⟩ := h (some leaf :: before) after (by rw [heq]; rfl)
      rcases List.mem_cons.mp hmem with hsame | hmem
      · cases hsame
        exact absurd hleaf' hhas
      · exact ⟨leaf', hmem, hleaf'⟩
  · intro h before after heq
    cases before with
    | nil => cases heq
    | cons x before =>
      cases heq
      rcases h with hhas | h
      · exact ⟨leaf, List.mem_cons_self, hhas⟩
      · obtain ⟨leaf', hmem, hleaf'⟩ := h before after rfl
        exact ⟨leaf', List.mem_cons_of_mem _ hmem, hleaf'⟩

theorem has_eq_isSome (nodes : List ClusterNode) (target : String) :
    has nodes target = (findClusterNode nodes target).isSome := by
  rw [has, findClusterNode, List.isSome_find?]

theorem getClusterNode_read (read : List (Option LeafResource)) (nodeName : String) :
    (getClusterNode read nodeName = .error (.panic .nilDeref) ∧ ¬ Intact read nodeName) ∨
      ∃ e, getClusterNode read nodeName = .ok e ∧ Intact read nodeName := by
  induction read with
  | nil => exact Or.inr ⟨none, rfl, fun before _ heq => by cases before <;> cases heq⟩
  | cons leaf read ih =>
    cases leaf with
    | none =>
      refine Or.inl ⟨rfl, fun h => ?_⟩
      obtain ⟨_, hmem, _⟩ := h [] read rfl
      cases hmem
    | some leaf =>
      rw [intact_cons, has_eq_isSome]
      show (getClusterNode (some leaf :: read) nodeName = _ ∧ _) ∨ _
      rw [getClusterNode, deref_some, ok_bind]
      cases findClusterNode leaf.nodes (trimNamePrefix nodeName) with
      | some e => exact Or.inr ⟨some e, rfl, Or.inl rfl⟩
      | none => simpa using ih

theorem hasNode_eq (read : List (Option LeafResource)) (nodeName : String) :
    hasNode read nodeName = (fun e => e.isSome) <$> getClusterNode read nodeName := by
  induction read with
  | nil => rfl
  | cons leaf read ih =>
    cases leaf with
    | none => rfl
    | some leaf =>
      rw [hasNode, getClusterNode, deref_some, ok_bind, ok_bind, has_eq_isSome]
      cases findClusterNode leaf.nodes (trimNamePrefix nodeName) with
      | some e => rfl
      | none => exact ih

theorem hasNode_read (read : List (Option LeafResource)) (nodeName : String) :
    (hasNode read nodeName = .error (.panic .nilDeref) ∧ ¬ Intact read nodeName) ∨
      ∃ b, hasNode read nodeName = .ok b ∧ Intact read nodeName := by
  rw [hasNode_eq]
  rcases getClusterNode_read read nodeName with ⟨hnil, hnot⟩ | ⟨e, he, hintact⟩
  · rw [hnil]
    exact Or.inl ⟨rfl, hnot⟩
  · rw [he]
    exact Or.inr ⟨e.isSome, rfl, hintact⟩

theorem getClusterNode_map_some (visited : List (String × LeafResource)) (nodeName : String) :
    getClusterNode (visited.map fun e => some e.2) nodeName =
      .ok (Tree.getClusterNode visited nodeName) := by
  induction visited with
  | nil => rfl
  | cons e visited ih =>
    rw [List.map_cons, getClusterNode, deref_some, ok_bind, Tree.getClusterNode,
      List.findSome?_cons]
    cases findClusterNode e.2.nodes (trimNamePrefix nodeName) with
    | some e => rfl
    | none => exact ih

theorem hasNode_map_some (visited : List (String × LeafResource)) (nodeName : String) :
    hasNode (visited.map fun e => some e.2) nodeName = .ok (Tree.hasNode visited nodeName) := by
  rw [hasNode_eq, getClusterNode_map_some, Tree.hasNode, Tree.getClusterNode]
  refine congrArg Except.ok (Bool.eq_iff_iff.mpr ?_)
  simp [List.findSome?_isSome_iff, has_eq_isSome]

end Unlocked

/-! ## Schedules -/

structure Schedule where
  start : Registries
  changes : Nat → List RegistryCall := fun _ => []
  visit : Nat → RangeOrder (String × LeafResource) := fun _ => .asWritten
  turns : Nat → List Turn := fun _ => []

namespace Schedule

def registries (sc : Schedule) : Nat → Registries
  | 0 => (sc.changes 0).foldl RegistryCall.apply sc.start
  | n + 1 => (sc.changes (n + 1)).foldl RegistryCall.apply
      ((sc.turns n).foldl Turn.apply (sc.registries n))

def leaves (sc : Schedule) (n : Nat) : List (String × LeafResource) :=
  (sc.visit n).visit (sc.registries n).resourceMap.entries

def read (sc : Schedule) (n : Nat) : List (Option LeafResource) :=
  reads (sc.registries n) (sc.turns n)

def exec (sc : Schedule) (api : (op : PodOp) → op.Res) : (op : PodOp) → Nat → op.Res × Nat
  | .listNodes, n => (Tree.listNodes (sc.leaves n), n + 1)
  | .hasNode nodeName, n => (Unlocked.hasNode (sc.read n) nodeName, n + 1)
  | .getLeafResourceByNodeName nodeName, n =>
    (Tree.getLeafResourceByNodeName (sc.leaves n) nodeName, n + 1)
  | .getClusterNode nodeName, n => (Unlocked.getClusterNode (sc.read n) nodeName, n + 1)
  | .leafClientResource lr, n =>
    (Tree.leafClientResource (sc.registries n).clientResourceMap lr, n + 1)
  | op, n => (api op, n)

section Exec

variable (sc : Schedule) (api : (op : PodOp) → op.Res) (n : Nat) (nodeName : String)

@[simp] theorem exec_hasNode :
    sc.exec api (.hasNode nodeName) n = (Unlocked.hasNode (sc.read n) nodeName, n + 1) := rfl

@[simp] theorem exec_getLeafResourceByNodeName :
    sc.exec api (.getLeafResourceByNodeName nodeName) n =
      (Tree.getLeafResourceByNodeName (sc.leaves n) nodeName, n + 1) := rfl

@[simp] theorem exec_getClusterNode :
    sc.exec api (.getClusterNode nodeName) n =
      (Unlocked.getClusterNode (sc.read n) nodeName, n + 1) := rfl

@[simp] theorem exec_leafClientResource (lr : LeafResource) :
    sc.exec api (.leafClientResource lr) n =
      (Tree.leafClientResource (sc.registries n).clientResourceMap lr, n + 1) := rfl

@[simp] theorem exec_getRootPod (nn : NamespacedName) :
    sc.exec api (.getRootPod nn) n = (api (.getRootPod nn), n) := rfl

@[simp] theorem exec_getRootNode :
    sc.exec api (.getRootNode nodeName) n = (api (.getRootNode nodeName), n) := rfl

@[simp] theorem exec_getLeafPod (lcr : LeafClientResource) (nn : NamespacedName) :
    sc.exec api (.getLeafPod lcr nn) n = (api (.getLeafPod lcr nn), n) := rfl

@[simp] theorem exec_populateEnvironmentVariables (pod : Pod) :
    sc.exec api (.populateEnvironmentVariables pod) n =
      (api (.populateEnvironmentVariables pod), n) := rfl

@[simp] theorem exec_visitLabels : sc.exec api .visitLabels n = (api .visitLabels, n) := rfl

end Exec

end Schedule

/-! ## Programs that heed a lookup that finds nothing -/

def Misses : (op : PodOp) → op.Res → Prop
  | .hasNode _, r => r = .ok false
  | .getLeafResourceByNodeName _, r => ∃ err, r = .error err
  | .getClusterNode _, r => r = .ok none
  | .leafClientResource _, r => ∃ err, r = .error err
  | _, _ => False

section Heeds

variable (json : Json) (lr : LeafResource) (nn : NamespacedName)

def IsError (res : Except String Unit) : Prop := ∃ err, res = .error err

theorem orAgain_heeds {may : Prop} {x : PodProg (Except String Unit)}
    (hx : x.Heeds may Misses IsError) :
    (do let res ← x; pure (RootPodReconciler.orAgain res)).Heeds may Misses
      (· = PodResult.again) := by
  refine .bind hx ?_ fun _ => trivial
  rintro _ ⟨err, rfl⟩
  exact rfl

theorem deletePodInRootCluster_heeds : (deletePodInRootCluster nn).Heeds False Misses IsError := by
  unfold deletePodInRootCluster
  refine .ask (fun r h => h.elim) fun r => ?_
  split
  · trivial
  · trivial
  · refine .ask (fun r h => h.elim) fun r => ?_
    split <;> trivial

theorem cleanRootPod_heeds (cleanflag : Bool) :
    (cleanRootPod nn cleanflag).Heeds False Misses IsError := by
  unfold cleanRootPod
  split
  · exact deletePodInRootCluster_heeds nn
  · trivial

theorem deletePodInLeafCluster_heeds (cleanflag : Bool) :
    (deletePodInLeafCluster lr nn cleanflag).Heeds False Misses IsError := by
  unfold deletePodInLeafCluster
  refine .ask ?_ fun r => ?_
  · rintro _ ⟨err, rfl⟩
    exact ⟨_, rfl⟩
  split
  · trivial
  · refine .ask (fun r h => h.elim) fun r => ?_
    split
    · exact cleanRootPod_heeds nn cleanflag
    · trivial
    · split
      · trivial
      · refine .ask (fun r h => h.elim) fun current => .ask (fun r h => h.elim) fun r => ?_
        split
        · exact cleanRootPod_heeds nn cleanflag
        · trivial

theorem deleteInLeaves_heeds :
    ∀ nodeNames, (RootPodReconciler.deleteInLeaves nn nodeNames).Heeds False Misses (· = .again)
  | [] => trivial
  | nodeName :: nodeNames => by
    unfold RootPodReconciler.deleteInLeaves
    refine .ask ?_ fun r => ?_
    · rintro _ ⟨err, rfl⟩
      exact rfl
    split
    · trivial
    · refine .bind (deletePodInLeafCluster_heeds _ nn false) ?_ fun res => ?_
      · rintro _ ⟨err, rfl⟩
        exact rfl
      split
      · trivial
      · exact deleteInLeaves_heeds nodeNames

theorem createNs_heeds (lcr : LeafClientResource) (ns : String) :
    (createNs lcr ns).Heeds False Misses IsError := by
  unfold createNs
  refine .ask (fun r h => h.elim) fun r => ?_
  split
  · trivial
  · refine .ask (fun r h => h.elim) fun r => ?_
    split <;> trivial
  · trivial

theorem placePod_heeds (basicPod : Pod) (clusterNodeInfo : ClusterNode) (root : Nat) :
    (placePod lr basicPod clusterNodeInfo root).Heeds False Misses IsError := by
  unfold placePod
  refine .ask ?_ fun r => ?_
  · rintro _ ⟨err, rfl⟩
    exact ⟨_, rfl⟩
  split
  · trivial
  · refine .bind (createNs_heeds _ _) ?_ fun res => ?_
    · rintro _ ⟨err, rfl⟩
      exact ⟨_, rfl⟩
    split
    · trivial
    · refine .ask (fun r h => h.elim) fun r => ?_
      split
      · trivial
      · exact .ask (fun r h => h.elim) fun spec => .ask (fun r h => h.elim) fun res => trivial

theorem createPodInLeafCluster_heeds (pod : Pod) (nodeSelector : NodeSelector) :
    (createPodInLeafCluster json lr pod nodeSelector).Heeds True Misses IsError := by
  unfold createPodInLeafCluster
  refine .ask (fun r h => h.elim) fun r => ?_
  split
  · trivial
  · refine .ask ?_ fun r => .ofOutcome fun e => ?_
    · rintro _ rfl
      exact ⟨_, rfl⟩
    split
    · trivial
    · refine .ask (fun r h => h.elim) fun order => .ofOutcome fun basicPod => ?_
      exact .ask (fun r h => h.elim) fun _ => (placePod_heeds lr _ _ _).mono

theorem sendUpdate_heeds : ∀ podCopy, (sendUpdate lr podCopy).Heeds False Misses IsError
  | none => trivial
  | some podCopy => by
    unfold sendUpdate
    refine .ask (fun r h => h.elim) fun spec => .ask ?_ fun r => ?_
    · rintro _ ⟨err, rfl⟩
      exact ⟨_, rfl⟩
    split
    · trivial
    · exact .ask (fun r h => h.elim) fun res => trivial

theorem updatePodInLeafCluster_heeds (rootPod leafPod : Pod) (nodeSelector : NodeSelector) :
    (updatePodInLeafCluster json lr rootPod leafPod nodeSelector).Heeds True Misses IsError := by
  unfold updatePodInLeafCluster
  split
  · trivial
  · refine .ask ?_ fun r => .ofOutcome fun e => ?_
    · rintro _ rfl
      exact ⟨_, rfl⟩
    split
    · trivial
    · exact .ask (fun r h => h.elim) fun order => .ofOutcome fun _ => (sendUpdate_heeds lr _).mono

theorem leafNodeSelector_heeds {f : NodeSelector → PodProg PodResult} (nodeName : String)
    (hf : ∀ nodeSelector, (f nodeSelector).Heeds True Misses (· = .again)) :
    (RootPodReconciler.leafNodeSelector nodeName >>= f).Heeds True Misses (· = .again) := by
  refine .bind (A := fun _ => False) ?_ (fun _ h => h.elim) hf
  refine .ask ?_ fun r => .ofOutcome fun e => ?_
  · rintro _ rfl
    trivial
  · exact .ofOutcome fun _ => trivial

theorem syncPod_heeds (rootPod : Pod) :
    (RootPodReconciler.syncPod json nn lr rootPod).Heeds True Misses (· = .again) := by
  unfold RootPodReconciler.syncPod
  refine .ask ?_ fun r => ?_
  · rintro _ ⟨err, rfl⟩
    exact rfl
  split
  · trivial
  · refine .ask (fun r h => h.elim) fun r => ?_
    split
    · refine leafNodeSelector_heeds _ fun nodeSelector => ?_
      exact orAgain_heeds (createPodInLeafCluster_heeds json _ _ _)
    · trivial
    · split
      · refine leafNodeSelector_heeds _ fun nodeSelector => ?_
        exact orAgain_heeds (updatePodInLeafCluster_heeds json _ _ _ _)
      · trivial

theorem nodeFilter_heeds (nodeName : String) :
    (RootPodReconciler.nodeFilter nodeName).Heeds False Misses fun _ => False := by
  unfold RootPodReconciler.nodeFilter
  split
  · trivial
  · refine .ask (fun r h => h.elim) fun r => ?_
    split
    · trivial
    · split <;> trivial

theorem reconcile_heeds :
    (RootPodReconciler.reconcile json nn).Heeds True Misses (· = .again) := by
  unfold RootPodReconciler.reconcile
  refine .ask (fun r h => h.elim) fun r => ?_
  split
  · exact .ask (fun r h => h.elim) fun nodeNames => (deleteInLeaves_heeds nn nodeNames).mono
  · trivial
  · refine .bind (nodeFilter_heeds _).mono (fun _ h => h.elim) fun result => ?_
    split
    · trivial
    · unfold RootPodReconciler.reconcilePod
      refine .ask ?_ fun r => .ofOutcome fun found => ?_
      · rintro _ rfl
        exact rfl
      split
      · refine .ask ?_ fun r => ?_
        · rintro _ ⟨err, rfl⟩
          exact rfl
        split
        · trivial
        · split
          · exact orAgain_heeds (deletePodInLeafCluster_heeds _ nn true).mono
          · exact syncPod_heeds json _ nn _
      · trivial

end Heeds

/-! ## Where a reconcile reads through a nil pointer -/

def DerefsNil {α : Type} (x : Outcome α) : Prop := x = .error (.panic .nilDeref)

section Survival

open Unlocked (Intact hasNode getClusterNode hasNode_read getClusterNode_read)

variable (json : Json) (sc : Schedule) (api : (op : PodOp) → op.Res) {lr : LeafResource}
  {pod rootPod leafPod : Pod} {nodeSelector : NodeSelector} {n : Nat} {nn : NamespacedName}

theorem not_derefsNil_of_heeds {α : Type} {x : PodProg α} {B : α → Prop}
    (hx : x.Heeds False Misses B) : ¬ DerefsNil (x.run (sc.exec api) n) := by
  obtain ⟨r, hr⟩ := hx.returns n
  rw [hr]
  nofun

theorem not_derefsNil_of_ret {α : Type} {a : α} : ¬ DerefsNil (Prog.run (sc.exec api) (.ret a) n) :=
  nofun

theorem derefsNil_run_map {α β : Type} {x : PodProg α} {f : α → β} :
    DerefsNil ((do let a ← x; pure (f a)).run (sc.exec api) n) ↔
      DerefsNil (x.run (sc.exec api) n) := by
  rw [Prog.run_bind, DerefsNil, bind_eq_error]
  refine ⟨fun h => h.resolve_right ?_, Or.inl⟩
  intro ⟨a, _, h⟩
  cases h

theorem derefsNil_ofOutcome_bind {α β : Type} {x : Outcome α} {f : α → PodProg β} {B : β → Prop}
    (hf : ∀ a, (f a).Heeds False Misses B) :
    DerefsNil ((Prog.ofOutcome x >>= f).run (sc.exec api) n) ↔ DerefsNil x := by
  cases x with
  | error stop =>
    constructor
    · intro h
      cases h
      rfl
    · intro h
      cases h
      rfl
  | ok a => exact ⟨fun h => absurd h (not_derefsNil_of_heeds sc api (hf a)), nofun⟩

theorem createPodInLeafCluster_derefsNil :
    DerefsNil ((createPodInLeafCluster json lr pod nodeSelector).run (sc.exec api) n) ↔
      api (.populateEnvironmentVariables pod) = .ok () ∧
        (Intact (sc.read n) pod.spec.nodeName →
          ∃ e, getClusterNode (sc.read n) pod.spec.nodeName = .ok (some e) ∧
            e.leafMode = .party ∧ nodeSelector.labelSelector = none) := by
  unfold createPodInLeafCluster
  rw [Prog.run_ask_bind, Schedule.exec_populateEnvironmentVariables]
  rcases api (.populateEnvironmentVariables pod) with err | ⟨⟨⟩⟩
  · exact ⟨nofun, fun h => nomatch h.1⟩
  · rw [Prog.run_ask_bind, Schedule.exec_getClusterNode]
    rcases getClusterNode_read (sc.read n) pod.spec.nodeName with
      ⟨hnil, hnot⟩ | ⟨_ | clusterNodeInfo, he, hintact⟩
    · rw [hnil]
      exact iff_of_true rfl ⟨rfl, fun h => absurd h hnot⟩
    · rw [he]
      refine ⟨nofun, fun h => ?_⟩
      obtain ⟨_, h, _⟩ := h.2 hintact
      cases h
    · rw [he]
      show DerefsNil (Prog.run _ (ask .visitLabels >>= _) (n + 1)) ↔ _
      rw [Prog.run_ask_bind, Schedule.exec_visitLabels, derefsNil_ofOutcome_bind (B := IsError),
        DerefsNil, fitPod_eq_error]
      · simp [hintact]
      · exact fun basicPod => .ask (fun r h => h.elim) fun _ => placePod_heeds lr _ _ _

theorem updatePodInLeafCluster_derefsNil :
    DerefsNil ((updatePodInLeafCluster json lr rootPod leafPod nodeSelector).run
        (sc.exec api) n) ↔
      isKosmosPod leafPod = true ∧ (Intact (sc.read n) rootPod.spec.nodeName →
        Covers rootPod leafPod ∧
          ∃ e, getClusterNode (sc.read n) rootPod.spec.nodeName = .ok (some e) ∧
            e.leafMode = .party ∧ nodeSelector.labelSelector = none) := by
  unfold updatePodInLeafCluster
  by_cases hkosmos : isKosmosPod leafPod = true
  · rw [if_neg (not_not.mpr hkosmos), Prog.run_ask_bind, Schedule.exec_getClusterNode]
    rcases getClusterNode_read (sc.read n) rootPod.spec.nodeName with
      ⟨hnil, hnot⟩ | ⟨_ | clusterNodeInfo, he, hintact⟩
    · rw [hnil]
      exact iff_of_true rfl ⟨hkosmos, fun h => absurd h hnot⟩
    · rw [he]
      refine ⟨nofun, fun h => ?_⟩
      obtain ⟨_, h, _⟩ := (h.2 hintact).2
      cases h
    · rw [he]
      show DerefsNil (Prog.run _ (ask .visitLabels >>= _) (n + 1)) ↔ _
      rw [Prog.run_ask_bind, Schedule.exec_visitLabels,
        derefsNil_ofOutcome_bind _ _ (sendUpdate_heeds lr),
        DerefsNil, podToUpdate_nilDeref hkosmos]
      simp [hkosmos, hintact]
  · rw [if_pos hkosmos]
    exact ⟨nofun, fun h => absurd h.1 hkosmos⟩

/-! ## The two lookups of the entry -/

/-- The `n`-th lookup finds the entry, which the next one finds as well. -/
def EntryStays (n : Nat) (nodeName : String) (again used : Prop) : Prop :=
  ∃ e, getClusterNode (sc.read n) nodeName = .ok (some e) ∧
    (again → Intact (sc.read (n + 1)) nodeName ∧
      (used → ∀ e', getClusterNode (sc.read (n + 1)) nodeName = .ok (some e') →
        e'.leafMode = .party → e.leafNodeSelector.labelSelector ≠ none))

theorem leafNodeSelector_survives {α : Type} {f : NodeSelector → PodProg α} {nodeName : String}
    {again used : Prop}
    (hf : ∀ nodeSelector, DerefsNil ((f nodeSelector).run (sc.exec api) (n + 1)) ↔
      again ∧ (Intact (sc.read (n + 1)) nodeName → used ∧
        ∃ e, getClusterNode (sc.read (n + 1)) nodeName = .ok (some e) ∧ e.leafMode = .party ∧
          nodeSelector.labelSelector = none)) :
    ¬ DerefsNil ((RootPodReconciler.leafNodeSelector nodeName >>= f).run (sc.exec api) n) ↔
      EntryStays sc n nodeName again used := by
  rw [Prog.run_bind, RootPodReconciler.leafNodeSelector, Prog.run_ask_bind,
    Schedule.exec_getClusterNode, EntryStays]
  rcases getClusterNode_read (sc.read n) nodeName with ⟨hnil, _⟩ | ⟨_ | e, he, _⟩
  · rw [hnil]
    exact ⟨fun h => absurd rfl h, fun ⟨_, h, _⟩ => nomatch h⟩
  · rw [he]
    exact ⟨fun h => absurd rfl h, fun ⟨_, h, _⟩ => nomatch h⟩
  · rw [he]
    show ¬ DerefsNil ((f e.leafNodeSelector).run (sc.exec api) (n + 1)) ↔ _
    rw [hf]
    constructor
    · intro h
      refine ⟨e, rfl, fun hagain => ?_⟩
      have hintact : Intact (sc.read (n + 1)) nodeName := by
        by_contra hnot
        exact h ⟨hagain, fun hintact => absurd hintact hnot⟩
      refine ⟨hintact, fun hused e' he' hparty hsel => ?_⟩
      exact h ⟨hagain, fun _ => ⟨hused, e', he', hparty, hsel⟩⟩
    · intro ⟨_, he, h⟩ ⟨hagain, hderefs⟩
      cases he
      obtain ⟨hintact, hfits⟩ := h hagain
      obtain ⟨hused, e', he', hparty, hsel⟩ := hderefs hintact
      exact hfits hused e' he' hparty hsel

theorem createLeafPod_survives :
    ¬ DerefsNil ((RootPodReconciler.createLeafPod json lr rootPod).run (sc.exec api) n) ↔
      EntryStays sc n rootPod.spec.nodeName
        (api (.populateEnvironmentVariables rootPod) = .ok ()) True :=
  leafNodeSelector_survives sc api fun _ =>
    (derefsNil_run_map sc api).trans <| by
      rw [createPodInLeafCluster_derefsNil, true_and]

theorem updateLeafPod_survives :
    ¬ DerefsNil ((RootPodReconciler.updateLeafPod json lr rootPod leafPod).run (sc.exec api) n) ↔
      EntryStays sc n rootPod.spec.nodeName (isKosmosPod leafPod = true)
        (Covers rootPod leafPod) :=
  leafNodeSelector_survives sc api fun _ =>
    (derefsNil_run_map sc api).trans (updatePodInLeafCluster_derefsNil json sc api)

/-! ## The reconcile -/

/-- The node of a pod is one of Kosmos, by its name or by an annotation. -/
def IsKosmosNode (nodeName : String) : Prop :=
  hasPrefix nodeName kosmosNodePrefix = true ∨
    ∃ annotations, api (.getRootNode nodeName) = .ok annotations ∧
      valueOf annotations kosmosNodeOwnedByClusterAnnotations ≠ ""

/-- The reconcile comes to the leaf pod, with the clients `lcr`. -/
structure Reaches (nn : NamespacedName) (rootPod : Pod) (lcr : LeafClientResource) : Prop where
  pod : api (.getRootPod nn) = .ok rootPod
  node : IsKosmosNode api rootPod.spec.nodeName
  registered : hasNode (sc.read 0) rootPod.spec.nodeName = .ok true
  client : ∃ lr, getLeafResourceByNodeName (sc.leaves 1) rootPod.spec.nodeName = .ok lr ∧
    leafClientResource (sc.registries 2).clientResourceMap lr = .ok lcr
  running : rootPod.deletionTimestamp = none

/-- A creation or update finds the entry of the node, fit for the selector. -/
def FindsEntry (nn : NamespacedName) (rootPod : Pod) (lcr : LeafClientResource) : Prop :=
  match api (.getLeafPod lcr nn) with
  | .error .notFound =>
    EntryStays sc 3 rootPod.spec.nodeName (api (.populateEnvironmentVariables rootPod) = .ok ())
      True
  | .error _ => True
  | .ok leafPod =>
    shouldEnqueue leafPod rootPod = true →
      EntryStays sc 3 rootPod.spec.nodeName (isKosmosPod leafPod = true) (Covers rootPod leafPod)

theorem syncPod_survives :
    ¬ DerefsNil ((RootPodReconciler.syncPod json nn lr rootPod).run (sc.exec api) 2) ↔
      ∀ lcr, leafClientResource (sc.registries 2).clientResourceMap lr = .ok lcr →
        FindsEntry sc api nn rootPod lcr := by
  unfold RootPodReconciler.syncPod
  rw [Prog.run_ask_bind, Schedule.exec_leafClientResource]
  cases leafClientResource (sc.registries 2).clientResourceMap lr with
  | error stop => exact ⟨fun _ => nofun, fun _ => not_derefsNil_of_ret sc api⟩
  | ok lcr =>
    have hone : (∀ lcr', (Except.ok lcr : Outcome LeafClientResource) = .ok lcr' →
        FindsEntry sc api nn rootPod lcr') ↔ FindsEntry sc api nn rootPod lcr := by
      refine ⟨fun h => h lcr rfl, fun h lcr' heq => ?_⟩
      cases heq
      exact h
    rw [hone, Prog.run_ask_bind, Schedule.exec_getLeafPod, FindsEntry]
    rcases api (.getLeafPod lcr nn) with (_ | _ | msg) | leafPod
    · exact createLeafPod_survives json sc api
    · exact iff_of_true (not_derefsNil_of_ret sc api) trivial
    · exact iff_of_true (not_derefsNil_of_ret sc api) trivial
    · show ¬ DerefsNil (Prog.run _ (if shouldEnqueue leafPod rootPod = true then _ else _) 3) ↔ _
      by_cases henqueue : shouldEnqueue leafPod rootPod = true
      · rw [if_pos henqueue, updateLeafPod_survives]
        exact ⟨fun h _ => h, fun h => h henqueue⟩
      · rw [if_neg henqueue]
        exact iff_of_true (not_derefsNil_of_ret sc api)
          fun h => absurd h henqueue

theorem reconcilePod_survives :
    ¬ DerefsNil ((RootPodReconciler.reconcilePod json nn rootPod).run (sc.exec api) 0) ↔
      Intact (sc.read 0) rootPod.spec.nodeName ∧
      (hasNode (sc.read 0) rootPod.spec.nodeName = .ok true →
        ∀ lr, getLeafResourceByNodeName (sc.leaves 1) rootPod.spec.nodeName = .ok lr →
          rootPod.deletionTimestamp = none →
          ∀ lcr, leafClientResource (sc.registries 2).clientResourceMap lr = .ok lcr →
            FindsEntry sc api nn rootPod lcr) := by
  unfold RootPodReconciler.reconcilePod
  rw [Prog.run_ask_bind, Schedule.exec_hasNode]
  rcases hasNode_read (sc.read 0) rootPod.spec.nodeName with
    ⟨hnil, hnot⟩ | ⟨_ | _, hb, hintact⟩
  · rw [hnil]
    exact iff_of_false (fun h => absurd rfl h) fun h => hnot h.1
  · rw [hb]
    exact iff_of_true (not_derefsNil_of_ret sc api) ⟨hintact, nofun⟩
  · rw [hb, and_iff_right hintact]
    show ¬ DerefsNil (Prog.run _ (ask (.getLeafResourceByNodeName _) >>= _) 1) ↔ _
    rw [Prog.run_ask_bind, Schedule.exec_getLeafResourceByNodeName]
    cases getLeafResourceByNodeName (sc.leaves 1) rootPod.spec.nodeName with
    | error stop =>
      exact ⟨fun _ _ => nofun, fun _ => not_derefsNil_of_ret sc api⟩
    | ok lr =>
      show ¬ DerefsNil (Prog.run _ (if rootPod.deletionTimestamp.isSome = true then _ else _) 2) ↔ _
      cases hdel : rootPod.deletionTimestamp with
      | some time =>
        refine ⟨fun _ _ _ _ => nofun, fun _ => ?_⟩
        refine not_derefsNil_of_heeds sc api (B := (· = .again)) ?_
        exact orAgain_heeds (deletePodInLeafCluster_heeds _ nn true)
      | none =>
        refine (syncPod_survives json sc api).trans ⟨fun h _ lr' heq _ => ?_, fun h => ?_⟩
        · cases heq
          exact h
        · exact h rfl lr rfl rfl

theorem nodeFilter_run (nodeName : String) :
    ∃ res, (RootPodReconciler.nodeFilter nodeName).run (sc.exec api) n = .ok (res, n) ∧
      (res = none ↔ IsKosmosNode api nodeName) := by
  unfold RootPodReconciler.nodeFilter IsKosmosNode
  by_cases hprefix : hasPrefix nodeName kosmosNodePrefix = true
  · rw [if_pos hprefix]
    exact ⟨none, rfl, iff_of_true rfl (.inl hprefix)⟩
  · rw [if_neg hprefix, Prog.run_ask_bind, Schedule.exec_getRootNode]
    cases api (.getRootNode nodeName) with
    | error err =>
      refine ⟨_, rfl, iff_of_false nofun ?_⟩
      rintro (h | ⟨_, h, _⟩)
      · exact hprefix h
      · cases h
    | ok annotations =>
      show ∃ res, Prog.run _ (if valueOf annotations kosmosNodeOwnedByClusterAnnotations = "" then _
        else _) n = _ ∧ _
      by_cases hown : valueOf annotations kosmosNodeOwnedByClusterAnnotations = ""
      · rw [if_pos hown]
        refine ⟨_, rfl, iff_of_false nofun ?_⟩
        rintro (h | ⟨_, h, hne⟩)
        · exact hprefix h
        · cases h
          exact hne hown
      · rw [if_neg hown]
        exact ⟨none, rfl, iff_of_true rfl (.inr ⟨annotations, rfl, hown⟩)⟩

theorem reconcile_survives :
    ¬ DerefsNil ((RootPodReconciler.reconcile json nn).run (sc.exec api) 0) ↔
      ∀ rootPod, api (.getRootPod nn) = .ok rootPod → IsKosmosNode api rootPod.spec.nodeName →
        ¬ DerefsNil ((RootPodReconciler.reconcilePod json nn rootPod).run (sc.exec api) 0) := by
  unfold RootPodReconciler.reconcile
  rw [Prog.run_ask_bind, Schedule.exec_getRootPod]
  rcases api (.getRootPod nn) with (_ | _ | msg) | rootPod
  · refine iff_of_true (not_derefsNil_of_heeds sc api (B := (· = .again)) ?_) fun _ h => nomatch h
    exact .ask (fun r h => h.elim) fun nodeNames => deleteInLeaves_heeds nn nodeNames
  · exact iff_of_true (not_derefsNil_of_ret sc api) fun _ h => nomatch h
  · exact iff_of_true (not_derefsNil_of_ret sc api) fun _ h => nomatch h
  · obtain ⟨res, hres, hnone⟩ := nodeFilter_run sc api rootPod.spec.nodeName (n := 0)
    show ¬ DerefsNil (Prog.run _ (RootPodReconciler.nodeFilter rootPod.spec.nodeName >>= _) 0) ↔ _
    rw [Prog.run_bind, hres, ok_bind]
    cases res with
    | some result =>
      refine iff_of_true (not_derefsNil_of_ret sc api) fun rootPod' heq hnode => ?_
      cases heq
      cases hnone.mpr hnode
    | none =>
      refine ⟨fun h rootPod' heq _ => ?_, fun h => h rootPod rfl (hnone.mp rfl)⟩
      cases heq
      exact h

/-- No nil is read through, and a lookup that finds nothing ends in a requeue. -/
structure Survives (x : PodProg PodResult) : Prop where
  derefs : ¬ DerefsNil (x.run (sc.exec api) 0)
  requeues : ∀ r, x.run (sc.exec api) 0 = .ok r →
    (∃ c ∈ x.asked (sc.exec api) 0, Misses c.1 c.2) → r.1 = .again

end Survival

/-! ## A leaf that is taken out -/

def edgeRegistries : Registries where
  resourceMap := GoMap.empty.set "edge"
    { cluster := { name := "edge" }, nodes := [{ nodeName := "edge", leafMode := .all }] }
  clientResourceMap := GoMap.empty.set "edge" { cluster := "edge" }

def edgeRemoved : Schedule where
  start := edgeRegistries
  changes n := if n = 3 then [.removeLeafResource "edge"] else []
  turns _ := [{ key := "edge" }]

def newPodApi : (op : PodOp) → op.Res
  | .getRootPod nn => .ok { ns := nn.ns, name := nn.name, spec := { nodeName := "kosmos-edge" } }
  | .deleteRootPod _ _ => .ok ()
  | .updateRootStatus _ => .ok ()
  | .getRootNode _ => .ok none
  | .listNodes => []
  | .hasNode _ => .ok false
  | .getLeafResourceByNodeName _ => .error (.err "")
  | .getClusterNode _ => .ok none
  | .leafClientResource _ => .error (.err "")
  | .populateEnvironmentVariables _ => .ok ()
  | .mutatePod pod _ => (pod.annotations, pod.spec)
  | .createVolumes _ _ _ => .ok ()
  | .projectedHandler _ pod => pod.spec
  | .getNamespace _ _ => .ok ()
  | .createNamespace _ _ => .ok ()
  | .getLeafPod _ _ => .error .notFound
  | .createLeafPod _ _ _ => .ok ()
  | .updateLeafPod _ _ => .ok ()
  | .deleteLeafPod _ _ _ => .ok ()
  | .visitLabels => .asWritten
  | .now => 0

def edgeTaken : Schedule where
  start := edgeRegistries
  turns _ := [{ key := "edge", between := [.removeLeafResource "edge"] }]

end Kosmos.Pods
