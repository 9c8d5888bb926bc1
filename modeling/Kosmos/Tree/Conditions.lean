import Kosmos.Tree.Capacity

/-!
# When a root node is ready again: `UpdateRootNodeStatusAddNotready`

A change of the leaf is to last before it is written: half an hour to be gone, five seconds to be
back. Time goes on between attempts.

An attempt is one call of the function that `RetryOnConflict` repeats, with its own health check;
anyone may write to the root nodes in between. The leaf is the same for all calls of an attempt,
each of which may fail; a `List` that fails leaves its result empty.
-/

namespace Kosmos.Tree

open Kosmos.Go

def clusterFailureThreshold : Nat := 30 * 60 * 1000000000

def clusterSuccessThreshold : Nat := 5 * 1000000000

structure ClusterData where
  readyCondition : String
  thresholdStartTime : Option Nat := none
  deriving DecidableEq

def ClusterData.pending (data : ClusterData) (now : Nat) (threshold : Nat) : Bool :=
  data.thresholdStartTime.any fun start => decide (now < start + threshold)

def noteStatus (saved : Option ClusterData) (status : String) (now : Nat) : ClusterData :=
  match saved with
  | none => { readyCondition := status }
  | some data => if data.readyCondition ≠ status then ⟨status, some now⟩ else data

def findStatusCondition (conditions : List NodeCondition) : Option NodeCondition :=
  conditions.find? fun c => c.type = "Ready"

def thresholdAdjustedReadyCondition (saved : Option ClusterData) (now : Nat)
    (curReadyConditions observedReadyConditions : List NodeCondition)
    (failureThreshold successThreshold : Nat) :
    Outcome (List NodeCondition × Option ClusterData) :=
  match findStatusCondition observedReadyConditions with
  | none => pure (observedReadyConditions, saved)
  | some observed =>
    let noted := noteStatus saved observed.status now
    match saved with
    | none => pure (observedReadyConditions, some noted)
    | some _ => do
      let threshold := if observed.status = "True" then successThreshold else failureThreshold
      let curReady ← deref (findStatusCondition curReadyConditions)
      pure (if ((observed.status = "True" ∧ curReady.status ≠ "True") ∨
            (observed.status ≠ "True" ∧ curReady.status = "True")) ∧
            noted.pending now threshold = true then curReadyConditions
          else observedReadyConditions, some noted)

def getObservedReadyStatus (online : Bool) : List NodeCondition :=
  if !online then
    [{ type := "Ready", status := "False", reason := "ClusterNotReachable",
       message := "cluster is not reachable." }]
  else
    [{ type := "Ready", status := "True", reason := "ClusterReady",
       message := "cluster is online and ready to accept workloads." }]

def nodeConditions : List NodeCondition :=
  [{ type := "Ready", status := "True", reason := "KubeletReady",
     message := "kubelet is posting ready status" },
   { type := "NetworkUnavailable", status := "False", reason := "RouteCreated",
     message := "RouteController created a route" },
   { type := "MemoryPressure", status := "False", reason := "KubeletHasSufficientMemory",
     message := "kubelet has sufficient memory available" },
   { type := "DiskPressure", status := "False", reason := "KubeletHasNoDiskPressure",
     message := "kubelet has no disk pressure" },
   { type := "PIDPressure", status := "False", reason := "KubeletHasSufficientPID",
     message := "kubelet has sufficient PID available" }]

def labelNodeRoleControlPlane : String := "node-role.kubernetes.io/control-plane"

def checkAllMasterNodesNotReady (masters : List LeafNode) : List NodeCondition :=
  if masters.all fun n => !nodeReady n then
    [{ type := "Ready", status := "False", reason := "LeafNodesNotReady",
       message := "All leaf cluster‘s master nodes are not ready." }]
  else nodeConditions

inductive AttemptError where
  | conflict
  | other (msg : String)
  deriving DecidableEq

structure Attempt where
  elapsed : Nat := 0
  others : List (String × List NodeCondition) := []
  online : Bool
  leaf : LeafCluster
  getErr : Option String := none
  listErr : Option String := none
  mastersErr : Option String := none
  podsErr : Option String := none
  getAgainErr : Option String := none
  addressErr : Option String := none
  updateErr : Option AttemptError := none
  taintsErr : Option String := none

structure Try where
  nodeNameInRoot : String
  attempt : Attempt

structure Check where
  time : Nat
  online : Bool

structure HandlerState where
  clock : Nat
  nodes : GoMap String (List NodeCondition)
  saved : Option ClusterData := none
  checks : List Check := []
  offlined : List String := []

structure Report where
  written : Option (List NodeCondition) := none
  err : Option AttemptError := none

def isReady (conditions : List NodeCondition) : Bool :=
  (findStatusCondition conditions).any fun c => decide (c.status = "True")

namespace HandlerState

def wait (st : HandlerState) (a : Attempt) : HandlerState :=
  { st with clock := st.clock + a.elapsed, nodes := st.nodes.setAll a.others }

def observe (st : HandlerState) (online : Bool) (saved : Option ClusterData) : HandlerState :=
  { st with saved := saved, checks := ⟨st.clock, online⟩ :: st.checks }

def write (st : HandlerState) (name : String) (conditions : List NodeCondition)
    (offline : Bool) : HandlerState :=
  { st with
    nodes := st.nodes.set name conditions
    offlined :=
      if offline then name :: st.offlined
      else if isReady conditions then st.offlined.filter fun n => n ≠ name
      else st.offlined }

end HandlerState

section Handler

variable (leafMode : LeafMode) (leafNodeSelector : GoMap String NodeSelector)

def orFail {α : Type} (err : Option String) (what : String) (x : Outcome α) : Outcome α :=
  match err with
  | some msg => .error (.err (what ++ msg))
  | none =>
    match x with
    | .error (.err msg) => .error (.err (what ++ msg))
    | x => x

def leafConditions (a : Attempt) (name : String) (selector : NodeSelector)
    (nodesInLeaf : List LeafNode) (first : LeafNode) : Outcome (List NodeCondition) :=
  match leafMode with
  | .node => pure first.conditions
  | _ => do
    let masters := if a.mastersErr.isSome then [] else
      a.leaf.nodes.objects.filter fun n => (n.labels.get? labelNodeRoleControlPlane).isSome
    let pods ← orFail a.podsErr ("could not list pod in leaf cluster while update the join " ++
      "node " ++ name ++ " status, err: ") (getLeafPods leafMode a.leaf name selector)
    orFail a.getAgainErr ("cannot get node in root cluster while update the join node " ++
      "status " ++ name ++ ", err: ") (pure ())
    let _ ← calculateClusterResources nodesInLeaf pods
    pure (checkAllMasterNodesNotReady masters)

def conditionsToWrite (e : Try) (readyConditions : List NodeCondition) :
    Outcome (List NodeCondition × Bool) := do
  let name := e.nodeNameInRoot
  let a := e.attempt
  let selector := (leafNodeSelector.get? name).getD {}
  let readyCondition ← deref (findStatusCondition readyConditions)
  if a.online = false ∧ readyCondition.status ≠ "True" then
    pure (readyConditions, true)
  else
    let nodesInLeaf ← orFail a.listErr
      ("cannot get node in leaf cluster while update the join node " ++ name ++ " status, err: ")
      (getLeafNodes leafMode a.leaf name selector)
    match nodesInLeaf with
    | [] => .error (.err ("have no node in leaf cluster while update the join node " ++ name ++
        " status"))
    | first :: _ =>
      let conditions ← leafConditions leafMode a name selector nodesInLeaf first
      orFail a.addressErr "" (pure ())
      pure (conditions, false)

def attempt (st : HandlerState) (e : Try) : Outcome (Report × HandlerState) :=
  let name := e.nodeNameInRoot
  let a := e.attempt
  let st := st.wait a
  let getFailed := fun msg => AttemptError.other
    ("cannot get node in root cluster while update the join node status " ++ name ++
      ", err: " ++ msg)
  match a.getErr with
  | some msg => pure ({ err := some (getFailed msg) }, st)
  | none =>
    match st.nodes.get? name with
    | none => pure ({ err := some (getFailed "not found") }, st)
    | some curConditions => do
      let (readyConditions, saved) ← thresholdAdjustedReadyCondition st.saved st.clock
        curConditions (getObservedReadyStatus a.online)
        clusterFailureThreshold clusterSuccessThreshold
      let st := st.observe a.online saved
      match conditionsToWrite leafMode leafNodeSelector e readyConditions with
      | .error (.panic p) => .error (.panic p)
      | .error (.err msg) => pure ({ err := some (.other msg) }, st)
      | .ok (conditions, offline) =>
        match a.updateErr with
        | some err => pure ({ err := some err }, st)
        | none =>
          let err :=
            if leafMode = .node ∧ offline = false then
              a.taintsErr.map fun msg => AttemptError.other ("update taints failed: " ++ msg)
            else none
          pure ({ written := some conditions, err := err }, st.write name conditions offline)

structure NodeCalls where
  nodeNameInRoot : String
  attempts : Nat → Attempt

abbrev HandlerRun := Run HandlerState Try Report

def defaultRetrySteps : Nat := 5

def updateRootNode (node : NodeCalls) (st : HandlerState) : HandlerRun :=
  if leafMode = .party ∧ (leafNodeSelector.get? node.nodeNameInRoot).isNone then Run.idle st
  else
    Run.retry (attempt leafMode leafNodeSelector) (fun r => decide (r.err = some .conflict))
      (fun i => ⟨node.nodeNameInRoot, node.attempts i⟩) defaultRetrySteps 0 st

def updateRootNodeStatusAddNotready (nodesInRoot : List NodeCalls) (st : HandlerState) :
    HandlerRun :=
  Run.loop (updateRootNode leafMode leafNodeSelector) nodesInRoot st

def executions (es : List (List NodeCalls)) (st : HandlerState) : HandlerRun :=
  Run.loop (updateRootNodeStatusAddNotready leafMode leafNodeSelector) es st

end Handler

def HandlerState.start (clock : Nat) (nodes : GoMap String (List NodeCondition)) :
    HandlerState where
  clock := clock
  nodes := nodes

def onlineFor : List Check → Nat → Bool
  | [], _ => false
  | c :: older, now =>
    c.online && (decide (c.time + clusterSuccessThreshold ≤ now) || onlineFor older now)

/-- A node that was set not ready with the leaf gone is written ready. -/
def putsBack (m : Move HandlerState Try Report) : Prop :=
  m.event.nodeNameInRoot ∈ m.before.offlined ∧ m.result.written.any isReady = true

instance (m : Move HandlerState Try Report) : Decidable (putsBack m) :=
  inferInstanceAs (Decidable (_ ∧ _))

/-- A node is put back only after the leaf has been there for the threshold. -/
def Recovers (m : Move HandlerState Try Report) : Prop :=
  putsBack m → onlineFor m.after.checks m.after.clock = true

/-- The calls go through, and the master, or the node itself, is ready. -/
def FindsReady (leafMode : LeafMode) (a : Attempt) : Prop :=
  a.listErr = none ∧ a.updateErr = none ∧
    ∃ n ∈ a.leaf.nodes.objects, nodeReady n = true ∧
      (leafMode ≠ .node →
        a.mastersErr = none ∧ (n.labels.get? labelNodeRoleControlPlane).isSome = true)

instance (leafMode : LeafMode) (a : Attempt) : Decidable (FindsReady leafMode a) :=
  inferInstanceAs (Decidable (_ ∧ _))

/-- After a miss the leaf is found ready only when it was there for the threshold. -/
def Steady (leafMode : LeafMode) (m : Move HandlerState Try Report) : Prop :=
  let now := m.before.clock + m.event.attempt.elapsed
  (∃ c ∈ m.before.checks, c.online = false) → FindsReady leafMode m.event.attempt →
    onlineFor (⟨now, m.event.attempt.online⟩ :: m.before.checks) now = true

instance (leafMode : LeafMode) (m : Move HandlerState Try Report) :
    Decidable (Steady leafMode m) :=
  inferInstanceAs (Decidable (_ → _ → _))

section Attempts

variable {leafMode : LeafMode} {leafNodeSelector : GoMap String NodeSelector}

theorem orFail_eq_ok {α : Type} {err : Option String} {what : String} {x : Outcome α} {v : α}
    (h : orFail err what x = .ok v) : err = none ∧ x = .ok v := by
  cases err with
  | some msg => cases h
  | none =>
    unfold orFail at h
    simp only at h
    split at h
    · cases h
    · exact ⟨rfl, h⟩

theorem nodeReady_of_isReady {n : LeafNode} (h : isReady n.conditions = true) :
    nodeReady n = true := by
  obtain ⟨c, hc, hstatus⟩ := (Option.any_eq_true ..).mp h
  have htype := List.find?_some hc
  refine List.any_eq_true.mpr ⟨c, List.mem_of_find?_eq_some hc, ?_⟩
  rw [htype, hstatus]
  rfl

theorem checkAllMasterNodesNotReady_ready {masters : List LeafNode}
    (h : isReady (checkAllMasterNodesNotReady masters) = true) :
    ∃ n ∈ masters, nodeReady n = true := by
  unfold checkAllMasterNodesNotReady at h
  split at h
  · cases h
  next hsome =>
    rw [List.all_eq_true] at hsome
    push Not at hsome
    obtain ⟨n, hn, hready⟩ := hsome
    exact ⟨n, hn, by simpa using hready⟩

theorem getLeafNodes_subset {leaf : LeafCluster} {name : String} {selector : NodeSelector}
    {nodes : List LeafNode} (h : getLeafNodes leafMode leaf name selector = .ok nodes) :
    nodes ⊆ leaf.nodes.objects := by
  cases leafMode with
  | party =>
    obtain ⟨labelSelector, _, h⟩ := bind_eq_ok h
    cases h
    exact List.filter_subset_self _
  | node =>
    cases h
    exact List.filter_subset_self _
  | all =>
    cases h
    exact List.Subset.refl _

theorem leafConditions_ready {a : Attempt} {name : String} {selector : NodeSelector}
    {nodesInLeaf : List LeafNode} {first : LeafNode} {conditions : List NodeCondition}
    (hfirst : first ∈ a.leaf.nodes.objects)
    (h : leafConditions leafMode a name selector nodesInLeaf first = .ok conditions)
    (hready : isReady conditions = true) :
    ∃ n ∈ a.leaf.nodes.objects, nodeReady n = true ∧
      (leafMode ≠ .node →
        a.mastersErr = none ∧ (n.labels.get? labelNodeRoleControlPlane).isSome = true) := by
  unfold leafConditions at h
  split at h
  · cases h
    exact ⟨first, hfirst, nodeReady_of_isReady hready, fun hne => absurd rfl hne⟩
  · obtain ⟨_, _, h⟩ := bind_eq_ok h
    obtain ⟨_, _, h⟩ := bind_eq_ok h
    obtain ⟨_, _, h⟩ := bind_eq_ok h
    cases h
    obtain ⟨n, hn, hnready⟩ := checkAllMasterNodesNotReady_ready hready
    split at hn
    · cases hn
    next hmasters =>
      obtain ⟨hmem, hlabel⟩ := List.mem_filter.mp hn
      exact ⟨n, hmem, hnready, fun _ => ⟨Option.not_isSome_iff_eq_none.mp hmasters, hlabel⟩⟩

theorem conditionsToWrite_spec {e : Try} {readyConditions conditions : List NodeCondition}
    {offline : Bool}
    (h : conditionsToWrite leafMode leafNodeSelector e readyConditions =
      .ok (conditions, offline)) :
    (offline = true → e.attempt.online = false) ∧
      (isReady conditions = true → e.attempt.updateErr = none →
        FindsReady leafMode e.attempt) := by
  unfold conditionsToWrite at h
  obtain ⟨ready, hready, h⟩ := bind_eq_ok h
  split at h
  next hoff =>
    cases h
    refine ⟨fun _ => hoff.1, fun htrue => ?_⟩
    rw [isReady, deref_eq_ok hready] at htrue
    exact absurd (of_decide_eq_true htrue) hoff.2
  · obtain ⟨nodesInLeaf, hlist, h⟩ := bind_eq_ok h
    obtain ⟨hlistErr, hnodes⟩ := orFail_eq_ok hlist
    split at h
    · cases h
    next first _ =>
      have hfirst := getLeafNodes_subset hnodes List.mem_cons_self
      obtain ⟨_, hleaf, h⟩ := bind_eq_ok h
      obtain ⟨_, _, h⟩ := bind_eq_ok h
      cases h
      refine ⟨fun h => absurd h Bool.false_ne_true, fun htrue hupdate => ⟨hlistErr, hupdate, ?_⟩⟩
      exact leafConditions_ready hfirst hleaf htrue

theorem attempt_spec {st st' : HandlerState} {e : Try} {r : Report}
    (h : attempt leafMode leafNodeSelector st e = .ok (r, st')) :
    (r.written = none ∧ st' = st.wait e.attempt) ∨
    (∃ saved, (r.written = none ∧ st' = (st.wait e.attempt).observe e.attempt.online saved) ∨
       ∃ conditions offline, r.written = some conditions ∧
        st' = ((st.wait e.attempt).observe e.attempt.online saved).write e.nodeNameInRoot
          conditions offline ∧
        (offline = true → e.attempt.online = false) ∧
        (isReady conditions = true → FindsReady leafMode e.attempt)) := by
  unfold attempt at h
  simp only at h
  split at h
  · cases h
    exact Or.inl ⟨rfl, rfl⟩
  · split at h
    · cases h
      exact Or.inl ⟨rfl, rfl⟩
    · obtain ⟨⟨readyConditions, saved⟩, _, h⟩ := bind_eq_ok h
      refine Or.inr ⟨saved, ?_⟩
      simp only at h
      split at h
      · cases h
      · cases h
        exact Or.inl ⟨rfl, rfl⟩
      next conditions offline hwrite =>
        obtain ⟨hoff, hready⟩ := conditionsToWrite_spec hwrite
        split at h
        · cases h
          exact Or.inl ⟨rfl, rfl⟩
        next hupdate =>
          cases h
          exact Or.inr ⟨conditions, offline, rfl, rfl, hoff, fun htrue => hready htrue hupdate⟩

/-- A node was set not ready only after a check that missed the leaf. -/
def HandlerState.Inv (st : HandlerState) : Prop :=
  st.offlined ≠ [] → ∃ c ∈ st.checks, c.online = false

theorem inv_observe {st : HandlerState} (hst : st.Inv) (online : Bool)
    (saved : Option ClusterData) : (st.observe online saved).Inv := by
  intro hne
  obtain ⟨c, hc, hoff⟩ := hst hne
  exact ⟨c, List.mem_cons_of_mem _ hc, hoff⟩

theorem inv_write {st : HandlerState} (hst : st.Inv) (name : String)
    (conditions : List NodeCondition) {offline : Bool}
    (hoff : offline = true → ∃ c ∈ st.checks, c.online = false) :
    (st.write name conditions offline).Inv := by
  intro hne
  cases offline with
  | true => exact hoff rfl
  | false =>
    refine hst fun hnil => hne ?_
    show (if isReady conditions = true then _ else _) = _
    rw [hnil]
    split
    · rfl
    · rfl

theorem inv_attempt (st : HandlerState) (e : Try) (r : Report) (st' : HandlerState)
    (hst : st.Inv) (h : attempt leafMode leafNodeSelector st e = .ok (r, st')) : st'.Inv := by
  have hwait : (st.wait e.attempt).Inv := hst
  rcases attempt_spec h with
    ⟨_, heq⟩ | ⟨saved, ⟨_, heq⟩ | ⟨_, offline, _, heq, hoff, _⟩⟩
  · rw [heq]
    exact hwait
  · rw [heq]
    exact inv_observe hwait _ _
  · rw [heq]
    refine inv_write (inv_observe hwait _ _) _ _ fun htrue => ?_
    exact ⟨_, List.mem_cons_self, hoff htrue⟩

theorem attempt_recovers {m : Move HandlerState Try Report} (hst : m.before.Inv)
    (h : attempt leafMode leafNodeSelector m.before m.event = .ok (m.result, m.after))
    (hsteady : Steady leafMode m) : Recovers m := by
  rintro ⟨hname, hready⟩
  have hgone := hst (List.ne_nil_of_mem hname)
  have hwritten : m.result.written ≠ none := by
    intro hnone
    rw [hnone] at hready
    cases hready
  rcases attempt_spec h with
    ⟨hnone, _⟩ | ⟨saved, ⟨hnone, _⟩ | ⟨conditions, offline, hsome, heq, _, hfinds⟩⟩
  · exact absurd hnone hwritten
  · exact absurd hnone hwritten
  · rw [hsome] at hready
    rw [heq]
    exact hsteady hgone (hfinds hready)

end Attempts

theorem executions_keep (leafMode : LeafMode) (leafNodeSelector : GoMap String NodeSelector)
    (es : List (List NodeCalls)) (st : HandlerState) (hst : st.Inv) :
    (executions leafMode leafNodeSelector es st).Keeps (attempt leafMode leafNodeSelector)
      HandlerState.Inv := by
  refine Run.Keeps.loop (fun nodesInRoot st hst => ?_) es st hst
  refine Run.Keeps.loop (fun node st hst => ?_) nodesInRoot st hst
  unfold updateRootNode
  split
  · exact Run.Keeps.idle hst
  · exact Run.Keeps.retry inv_attempt _ _ st hst

/-- Recovery: in a steady run root nodes are written ready only after the leaf was back for the
threshold. -/
theorem recovers_of_steady (leafMode : LeafMode) (leafNodeSelector : GoMap String NodeSelector)
    (clock : Nat) (nodes : GoMap String (List NodeCondition)) (es : List (List NodeCalls))
    (hsteady : ∀ m ∈ (executions leafMode leafNodeSelector es (.start clock nodes)).moves,
      Steady leafMode m) :
    ∀ m ∈ (executions leafMode leafNodeSelector es (.start clock nodes)).moves, Recovers m := by
  have hstart : (HandlerState.start clock nodes).Inv := fun h => absurd rfl h
  obtain ⟨hmoves, _⟩ := executions_keep leafMode leafNodeSelector es _ hstart
  intro m hm
  obtain ⟨hst, hstep⟩ := hmoves m hm
  exact attempt_recovers hst hstep (hsteady m hm)

def leafWith (conditions : List NodeCondition) : LeafCluster where
  nodes := ⟨[{ name := "m"
               labels := GoMap.empty.set labelNodeRoleControlPlane ""
               conditions := conditions }], List.nodup_singleton _⟩
  pods := []

def oneMaster : LeafCluster := leafWith nodeConditions

def slowlyBack : List (List NodeCalls) :=
  [[⟨"kosmos-c", fun _ => { online := false, leaf := oneMaster }⟩],
   [⟨"kosmos-c", fun _ => { elapsed := 1000000000, online := true, leaf := leafWith [] }⟩],
   [⟨"kosmos-c", fun _ => { elapsed := 6000000000, online := true, leaf := oneMaster }⟩]]

theorem slowlyBack_recovers :
    (∃ m ∈ (executions .all .empty slowlyBack
        (.start 0 (GoMap.empty.set "kosmos-c" nodeConditions))).moves, putsBack m) ∧
      ∀ m ∈ (executions .all .empty slowlyBack
        (.start 0 (GoMap.empty.set "kosmos-c" nodeConditions))).moves, Recovers m :=
  ⟨⟨_, List.mem_of_getElem? (i := 2) rfl, by decide +kernel⟩,
    recovers_of_steady .all .empty 0 _ slowlyBack (by decide +kernel)⟩

def goneAndBack : List (List NodeCalls) :=
  [[⟨"kosmos-c", fun _ => { online := false, leaf := oneMaster }⟩],
   [⟨"kosmos-c", fun _ => { elapsed := 1000000000, online := true, leaf := oneMaster }⟩]]

theorem goneAndBack_putsBack :
    ∃ m ∈ (executions .all .empty goneAndBack
        (.start 0 (GoMap.empty.set "kosmos-c" nodeConditions))).moves,
      putsBack m ∧
        (m.after.checks.map fun c => (c.time, c.online)) = [(1000000000, true), (0, false)] ∧
        ¬ Recovers m := by
  refine ⟨_, List.mem_of_getElem? (i := 1) rfl, by decide +kernel, by decide +kernel, ?_⟩
  exact fun h => absurd (h (by decide +kernel)) (by decide +kernel)

end Kosmos.Tree
