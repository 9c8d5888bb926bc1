import Kosmos.Go.Store
import Kosmos.Go.Totals
import Kosmos.Tree.LeafModel
import Mathlib.Algebra.Ring.Rat

/-!
# The capacity of a root node: `CalculateClusterResources`

What is allocatable on the nodes of the leaf, less what the pods on them ask for.

A call of the leaf fails only for a selector that cannot be parsed: `FormatLabelSelector` writes
`<none>` for one that is nil or empty.
-/

namespace Kosmos.Tree

open Kosmos.Go

abbrev ResourceList := GoMap String ℚ

structure NodeCondition where
  type : String
  status : String
  reason : String := ""
  message : String := ""
  deriving DecidableEq

structure LeafNode where
  name : String
  labels : GoMap String String := .empty
  unschedulable : Bool := false
  conditions : List NodeCondition := []
  allocatable : ResourceList := .empty

structure ClusterPod where
  labels : Option (GoMap String String) := none
  phase : String := "Running"
  nodeName : String := ""
  requests : ResourceList := .empty

structure LeafCluster where
  nodes : Store LeafNode.name
  pods : List ClusterPod

def nodeReady (node : LeafNode) : Bool :=
  node.conditions.any fun condition =>
    decide (condition.type = "Ready") && decide (condition.status = "True")

def isVirtualPod (pod : ClusterPod) : Bool :=
  pod.labels.any fun labels => decide (labels.get? "kosmos-io/pod" = some "true")

def LabelSelectorRequirement.valid (r : LabelSelectorRequirement) : Bool :=
  match r.operator with
  | "In" => !r.values.isEmpty
  | "NotIn" => !r.values.isEmpty
  | "Exists" => r.values.isEmpty
  | "DoesNotExist" => r.values.isEmpty
  | _ => false

def LabelSelectorRequirement.matches (r : LabelSelectorRequirement)
    (labels : GoMap String String) : Bool :=
  match r.operator with
  | "In" => (labels.get? r.key).any fun v => decide (v ∈ r.values)
  | "NotIn" => (labels.get? r.key).all fun v => decide (v ∉ r.values)
  | "Exists" => (labels.get? r.key).isSome
  | "DoesNotExist" => (labels.get? r.key).isNone
  | _ => false

def LabelSelector.matches (s : LabelSelector) (labels : GoMap String String) : Bool :=
  (s.matchLabels.all fun e => decide (labels.get? e.1 = some e.2)) &&
    s.matchExpressions.all fun r => r.matches labels

def formatLabelSelector : Option LabelSelector → Outcome LabelSelector
  | none => .error (.err "unable to parse requirement: <none>")
  | some s =>
    if ¬ s.matchExpressions.all LabelSelectorRequirement.valid then
      .error (.err "unable to parse requirement: <error>")
    else if s.matchLabels = [] ∧ s.matchExpressions = [] then
      .error (.err "unable to parse requirement: <none>")
    else .ok s

section Handler

variable (leafMode : LeafMode) (leaf : LeafCluster) (rootNode : String) (selector : NodeSelector)

def getLeafNodes : Outcome (List LeafNode) :=
  match leafMode with
  | .party => do
    let labelSelector ← formatLabelSelector selector.labelSelector
    pure (leaf.nodes.objects.filter fun n => labelSelector.matches n.labels)
  | .node => pure (leaf.nodes.objects.filter fun n => decide (n.name = rootNode))
  | .all => pure leaf.nodes.objects

def podsOnNode (nodeName : String) : List ClusterPod :=
  leaf.pods.filter fun p => decide (p.nodeName = nodeName)

def appendPods (pods : Option (List ClusterPod)) (node : LeafNode) : Option (List ClusterPod) :=
  match pods with
  | none => some (podsOnNode leaf node.name)
  | some pods => some (pods ++ podsOnNode leaf node.name)

def getLeafPods : Outcome (Option (List ClusterPod)) :=
  match leafMode with
  | .party => pure (some leaf.pods)
  | .node => pure (some (podsOnNode leaf rootNode))
  | .all => do
    let nodesInLeafs ← getLeafNodes leafMode leaf rootNode selector
    pure (nodesInLeafs.foldl (appendPods leaf) none)

end Handler

def podResourceName : String := "pods"

def unavailable (n : LeafNode) : Bool := n.unschedulable || !nodeReady n

def getNotReadyAndUnschedulableLeafNodes (leafNodes : List LeafNode) : GoMap String LeafNode :=
  leafNodes.foldl (fun m n => if unavailable n then m.set n.name n else m) .empty

def getNodesTotalResources (nodes : List LeafNode) (unavailableNodes : GoMap String LeafNode) :
    ResourceList :=
  GoMap.totalOf LeafNode.allocatable
    (nodes.filter fun n => (unavailableNodes.get? n.name).isNone)

def counts (pod : ClusterPod) : Bool := !isVirtualPod pod && decide (pod.phase = "Running")

def getPodsTotalRequestsAndLimits (podList : List ClusterPod)
    (unavailableNodes : GoMap String LeafNode) : ResourceList :=
  GoMap.totalOf ClusterPod.requests
    (podList.filter fun p => counts p && (unavailableNodes.get? p.nodeName).isNone)

def getUsedPodNums (podList : List ClusterPod) (nodes : List LeafNode) : ResourceList :=
  let nodeMap : GoMap String LeafNode := nodes.foldl (fun m n => m.set n.name n) .empty
  let used := podList.filter fun p =>
    counts p && (nodeMap.get? p.nodeName).any fun n => !unavailable n
  GoMap.empty.set podResourceName used.length

def calculateClusterResources (nodes : List LeafNode) (pods : Option (List ClusterPod)) :
    Outcome ResourceList := do
  let unavailableNodes := getNotReadyAndUnschedulableLeafNodes nodes
  let base := getNodesTotalResources nodes unavailableNodes
  let podList ← deref pods
  let reqs := getPodsTotalRequestsAndLimits podList unavailableNodes
  let podNums := getUsedPodNums podList nodes
  pure ((base.subAll reqs).subAll podNums)

def rootNodeResources (leafMode : LeafMode) (leaf : LeafCluster) (rootNode : String)
    (selector : NodeSelector) : Outcome ResourceList := do
  let nodes ← getLeafNodes leafMode leaf rootNode selector
  let pods ← getLeafPods leafMode leaf rootNode selector
  calculateClusterResources nodes pods

def Available (n : LeafNode) : Prop := nodeReady n = true ∧ n.unschedulable = false

instance (n : LeafNode) : Decidable (Available n) :=
  inferInstanceAs (Decidable (nodeReady n = true ∧ n.unschedulable = false))

def availableNodes (nodes : List LeafNode) : List LeafNode :=
  nodes.filter fun n => decide (Available n)

def selects (leafMode : LeafMode) (rootNode : String) (selector : NodeSelector) (n : LeafNode) :
    Bool :=
  match leafMode with
  | .party => selector.labelSelector.any fun s => s.matches n.labels
  | .node => decide (n.name = rootNode)
  | .all => true

def runningOn (pods : List ClusterPod) (nodes : List LeafNode) : List ClusterPod :=
  pods.filter fun p => counts p && decide (p.nodeName ∈ nodes.map LeafNode.name)

def runningElsewhere (pods : List ClusterPod) (nodes : List LeafNode) : List ClusterPod :=
  pods.filter fun p => counts p && decide (p.nodeName ∉ nodes.map LeafNode.name)

def requested (pods : List ClusterPod) (name : String) : ℚ :=
  (pods.map fun p => p.requests.amount name).sum

def remains (nodes : List LeafNode) (pods : List ClusterPod) (name : String) : ℚ :=
  (nodes.map fun n => n.allocatable.amount name).sum - requested pods name -
    if name = podResourceName then (pods.length : ℚ) else 0

def Offered (nodes : List LeafNode) (name : String) : Prop :=
  ∃ n ∈ nodes, name ∈ n.allocatable.keys

instance (nodes : List LeafNode) (name : String) : Decidable (Offered nodes name) :=
  inferInstanceAs (Decidable (∃ n ∈ nodes, name ∈ n.allocatable.keys))

section Right

variable (leafMode : LeafMode) (leaf : LeafCluster) (rootNode : String) (selector : NodeSelector)

def selectedNodes : List LeafNode :=
  leaf.nodes.objects.filter (selects leafMode rootNode selector)

def countedNodes : List LeafNode :=
  availableNodes (selectedNodes leafMode leaf rootNode selector)

/-- The root node has what the nodes counted for it have left. -/
def CapacityRight : Prop :=
  (∀ p, rootNodeResources leafMode leaf rootNode selector ≠ .error (.panic p)) ∧
    ∀ res, rootNodeResources leafMode leaf rootNode selector = .ok res → ∀ name,
      res.get? name =
        if Offered (countedNodes leafMode leaf rootNode selector) name then
          some (remains (countedNodes leafMode leaf rootNode selector)
            (runningOn leaf.pods (countedNodes leafMode leaf rootNode selector)) name)
        else none

end Right

section Sums

variable {nodes : List LeafNode} {podList : List ClusterPod}

theorem unavailable_iff {n : LeafNode} : unavailable n = true ↔ ¬ Available n := by
  unfold unavailable Available
  rw [Bool.or_eq_true, Bool.not_eq_true', not_and_or, Bool.not_eq_true, Bool.not_eq_false, or_comm]

theorem get?_notReady (name : String) :
    ((getNotReadyAndUnschedulableLeafNodes nodes).get? name).isSome = true ↔
      ∃ n ∈ nodes, n.name = name ∧ ¬ Available n := by
  have hloop : ∀ (l : List LeafNode) (m : GoMap String LeafNode),
      ((l.foldl (fun m n => if unavailable n then m.set n.name n else m) m).get? name).isSome
          = true ↔
        (m.get? name).isSome = true ∨ ∃ n ∈ l, n.name = name ∧ ¬ Available n := by
    intro l
    induction l with
    | nil => simp
    | cons n l ih =>
      intro m
      rw [List.foldl_cons, ih, List.exists_mem_cons_iff, ← or_assoc]
      refine or_congr_left ?_
      by_cases hav : Available n
      · rw [if_neg (unavailable_iff.not.mpr (not_not.mpr hav))]
        exact ⟨Or.inl, fun h => h.resolve_right fun h => h.2 hav⟩
      · rw [if_pos (unavailable_iff.mpr hav), GoMap.isSome_get?, GoMap.mem_keys_set,
          GoMap.isSome_get?, or_comm, eq_comm, and_iff_left hav]
  rw [getNotReadyAndUnschedulableLeafNodes, hloop]
  simp [GoMap.get?, GoMap.empty]

theorem get?_nodeMap (hnd : (nodes.map LeafNode.name).Nodup) (name : String) (n : LeafNode) :
    (nodes.foldl (fun m n => m.set n.name n) GoMap.empty).get? name = some n ↔
      n ∈ nodes ∧ n.name = name := by
  have hkeys : ((nodes.map fun n => (n.name, n)).map Prod.fst).Nodup := by
    rw [List.map_map]
    exact hnd
  have hset : nodes.foldl (fun m n => m.set n.name n) GoMap.empty =
      GoMap.empty.setAll (nodes.map fun n => (n.name, n)) := by
    rw [GoMap.setAll, List.foldl_map]
  rw [hset, GoMap.get?_setAll GoMap.empty ⟨_, hkeys⟩]
  show (GoMap.get? ⟨_, hkeys⟩ name).or none = some n ↔ _
  rw [Option.or_none, GoMap.get?_eq_some, List.mem_map]
  constructor
  · intro ⟨n', hn', heq⟩
    cases heq
    exact ⟨hn', rfl⟩
  · intro ⟨hn, hname⟩
    exact ⟨n, hn, by rw [hname]⟩

theorem mem_names_available {name : String} :
    name ∈ (availableNodes nodes).map LeafNode.name ↔
      ∃ n ∈ nodes, n.name = name ∧ Available n := by
  simp [availableNodes, and_comm, and_left_comm]

theorem listed_iff (hnd : (nodes.map LeafNode.name).Nodup) {name : String}
    (hlisted : name ∈ nodes.map LeafNode.name) :
    (¬ ∃ n ∈ nodes, n.name = name ∧ ¬ Available n) ↔
      name ∈ (availableNodes nodes).map LeafNode.name := by
  obtain ⟨n, hn, hname⟩ := List.mem_map.mp hlisted
  rw [mem_names_available]
  constructor
  · intro hno
    exact ⟨n, hn, hname, not_not.mp fun hav => hno ⟨n, hn, hname, hav⟩⟩
  · intro ⟨n₁, hn₁, hname₁, hav⟩ ⟨n₂, hn₂, hname₂, hnot⟩
    rw [List.inj_on_of_nodup_map hnd hn₁ hn₂ (hname₁.trans hname₂.symm)] at hav
    exact hnot hav

theorem isNone_notReady (name : String) :
    ((getNotReadyAndUnschedulableLeafNodes nodes).get? name).isNone = true ↔
      ¬ ∃ n ∈ nodes, n.name = name ∧ ¬ Available n := by
  rw [← get?_notReady, Option.isNone_iff_eq_none, Option.not_isSome_iff_eq_none]

theorem getNodesTotalResources_eq (hnd : (nodes.map LeafNode.name).Nodup) :
    getNodesTotalResources nodes (getNotReadyAndUnschedulableLeafNodes nodes) =
      GoMap.totalOf LeafNode.allocatable (availableNodes nodes) := by
  refine congrArg (GoMap.totalOf LeafNode.allocatable) (List.filter_congr fun n hn => ?_)
  rw [Bool.eq_iff_iff, isNone_notReady, decide_eq_true_iff,
    listed_iff hnd (List.mem_map_of_mem hn), mem_names_available]
  constructor
  · intro ⟨n', hn', hname, hav⟩
    rwa [List.inj_on_of_nodup_map hnd hn' hn hname] at hav
  · intro hav
    exact ⟨n, hn, rfl, hav⟩

theorem amount_requests (hnd : (nodes.map LeafNode.name).Nodup) (name : String) :
    (getPodsTotalRequestsAndLimits podList
        (getNotReadyAndUnschedulableLeafNodes nodes)).amount name =
      requested (runningOn podList (availableNodes nodes)) name +
        requested (runningElsewhere podList nodes) name := by
  have hparts := filter_perm_append (l := podList)
    (p := fun p => counts p &&
      ((getNotReadyAndUnschedulableLeafNodes nodes).get? p.nodeName).isNone)
    (q := fun p => counts p && decide (p.nodeName ∈ (availableNodes nodes).map LeafNode.name))
    (r := fun p => counts p && decide (p.nodeName ∉ nodes.map LeafNode.name))
    (fun p _ => by
      rw [← Bool.and_or_distrib_left]
      refine congrArg (counts p && ·) ?_
      rw [Bool.eq_iff_iff, isNone_notReady, Bool.or_eq_true, decide_eq_true_iff,
        decide_eq_true_iff]
      by_cases hlisted : p.nodeName ∈ nodes.map LeafNode.name
      · rw [listed_iff hnd hlisted]
        exact (or_iff_left (not_not.mpr hlisted)).symm
      · refine iff_of_true ?_ (Or.inr hlisted)
        intro ⟨n, hn, hname, _⟩
        exact hlisted (hname ▸ List.mem_map_of_mem hn))
    (fun p _ hp => by
      rw [Bool.and_eq_true, decide_eq_true_iff, mem_names_available] at hp
      obtain ⟨_, n, hn, hname, _⟩ := hp
      rw [Bool.and_eq_false_iff, decide_eq_false_iff_not, not_not]
      exact Or.inr (hname ▸ List.mem_map_of_mem hn))
  rw [getPodsTotalRequestsAndLimits, GoMap.amount_totalOf, (hparts.map _).sum_eq,
    List.map_append, List.sum_append]
  rfl

theorem amount_usedPodNums (hnd : (nodes.map LeafNode.name).Nodup) (name : String) :
    (getUsedPodNums podList nodes).amount name =
      if name = podResourceName then ((runningOn podList (availableNodes nodes)).length : ℚ)
      else 0 := by
  have hused : (podList.filter fun p => counts p &&
      ((nodes.foldl (fun m n => m.set n.name n) GoMap.empty).get? p.nodeName).any
        fun n => !unavailable n) = runningOn podList (availableNodes nodes) := by
    refine List.filter_congr fun p _ => congrArg (counts p && ·) ?_
    rw [Bool.eq_iff_iff, Option.any_eq_true, decide_eq_true_iff, mem_names_available]
    refine exists_congr fun n => ?_
    rw [get?_nodeMap hnd, Bool.not_eq_true', ← Bool.not_eq_true, unavailable_iff, not_not,
      and_assoc]
  show (GoMap.empty.set podResourceName _).amount name = _
  rw [hused, GoMap.amount, GoMap.get?_set]
  by_cases hname : name = podResourceName
  · rw [if_pos hname, if_pos hname]
    rfl
  · rw [if_neg hname, if_neg hname]
    rfl

theorem calculateClusterResources_eq (hnd : (nodes.map LeafNode.name).Nodup)
    (podList : List ClusterPod) :
    ∃ res, calculateClusterResources nodes (some podList) = .ok res ∧ ∀ name,
      res.get? name = if Offered (availableNodes nodes) name then
        some (remains (availableNodes nodes) (runningOn podList (availableNodes nodes)) name -
          requested (runningElsewhere podList nodes) name)
      else none := by
  refine ⟨_, rfl, fun name => ?_⟩
  rw [GoMap.get?_subAll, GoMap.get?_subAll, getNodesTotalResources_eq hnd, amount_requests hnd,
    amount_usedPodNums hnd]
  by_cases hoff : Offered (availableNodes nodes) name
  · rw [GoMap.get?_of_mem_keys (GoMap.mem_keys_totalOf.mpr hoff), GoMap.amount_totalOf,
      if_pos hoff]
    refine congrArg some ?_
    show _ - (_ + _) - _ = _ - _ - _ - _
    rw [← sub_sub, sub_right_comm]
  · have hnone : (GoMap.totalOf LeafNode.allocatable (availableNodes nodes)).get? name = none := by
      rw [← Option.not_isSome_iff_eq_none, GoMap.isSome_get?, GoMap.mem_keys_totalOf]
      exact hoff
    rw [hnone, if_neg hoff]
    rfl

end Sums

section Modes

variable {leafMode : LeafMode} {leaf : LeafCluster} {rootNode : String} {selector : NodeSelector}

theorem capacityRight_of_lists {podList : List ClusterPod}
    (hnodes : getLeafNodes leafMode leaf rootNode selector =
      .ok (selectedNodes leafMode leaf rootNode selector))
    (hpods : getLeafPods leafMode leaf rootNode selector = .ok (some podList))
    (hon : (runningOn podList (countedNodes leafMode leaf rootNode selector)).Perm
      (runningOn leaf.pods (countedNodes leafMode leaf rootNode selector))) :
    CapacityRight leafMode leaf rootNode selector ↔
      ∀ name, Offered (countedNodes leafMode leaf rootNode selector) name →
        requested (runningElsewhere podList
          (selectedNodes leafMode leaf rootNode selector)) name = 0 := by
  have hnd : ((selectedNodes leafMode leaf rootNode selector).map LeafNode.name).Nodup :=
    leaf.nodes.nodup.sublist (List.filter_sublist.map _)
  obtain ⟨res, hres, hget⟩ := calculateClusterResources_eq hnd podList
  rw [← countedNodes] at hget
  have hrun : rootNodeResources leafMode leaf rootNode selector = .ok res := by
    rw [rootNodeResources, hnodes, ok_bind, hpods, ok_bind, hres]
  have hremains : ∀ name, remains (countedNodes leafMode leaf rootNode selector)
      (runningOn podList (countedNodes leafMode leaf rootNode selector)) name =
      remains (countedNodes leafMode leaf rootNode selector)
        (runningOn leaf.pods (countedNodes leafMode leaf rootNode selector)) name := by
    intro name
    unfold remains requested
    rw [(hon.map _).sum_eq, hon.length_eq]
  unfold CapacityRight
  rw [hrun]
  constructor
  · intro ⟨_, hright⟩ name hoff
    have hname := hright res rfl name
    rw [hget, if_pos hoff, if_pos hoff, Option.some.injEq, ← hremains] at hname
    exact sub_eq_self.mp hname
  · intro hzero
    refine ⟨nofun, fun res' heq name => ?_⟩
    cases heq
    rw [hget]
    by_cases hoff : Offered (countedNodes leafMode leaf rootNode selector) name
    · rw [if_pos hoff, if_pos hoff, ← hremains, hzero name hoff, sub_zero]
    · rw [if_neg hoff, if_neg hoff]

theorem runningOn_filter {pods : List ClusterPod} {nodes : List LeafNode} {q : ClusterPod → Bool}
    (hq : ∀ p ∈ pods, p.nodeName ∈ nodes.map LeafNode.name → q p = true) :
    runningOn (pods.filter q) nodes = runningOn pods nodes := by
  unfold runningOn
  rw [List.filter_filter]
  refine List.filter_congr fun p hp => ?_
  by_cases hon : p.nodeName ∈ nodes.map LeafNode.name
  · rw [hq p hp hon, Bool.and_true]
  · rw [decide_eq_false hon, Bool.and_false, Bool.false_and]

theorem runningElsewhere_filter {pods : List ClusterPod} {nodes : List LeafNode}
    {q : ClusterPod → Bool} (hq : ∀ p, q p = true → p.nodeName ∈ nodes.map LeafNode.name) :
    runningElsewhere (pods.filter q) nodes = [] := by
  unfold runningElsewhere
  rw [List.filter_eq_nil_iff]
  intro p hp hout
  rw [Bool.and_eq_true, decide_eq_true_iff] at hout
  exact hout.2 (hq p (List.mem_filter.mp hp).2)

theorem mem_names_selected {name : String}
    (h : name ∈ (countedNodes leafMode leaf rootNode selector).map LeafNode.name) :
    ∃ n ∈ leaf.nodes.objects, n.name = name ∧ selects leafMode rootNode selector n = true := by
  obtain ⟨n, hn, hname, _⟩ := mem_names_available.mp h
  obtain ⟨hmem, hsel⟩ := List.mem_filter.mp hn
  exact ⟨n, hmem, hname, hsel⟩

theorem formatLabelSelector_cases (sel : Option LabelSelector) :
    (∃ s, sel = some s ∧ formatLabelSelector sel = .ok s) ∨
      ∃ msg, formatLabelSelector sel = .error (.err msg) := by
  unfold formatLabelSelector
  split
  · exact Or.inr ⟨_, rfl⟩
  next s =>
    split
    · exact Or.inr ⟨_, rfl⟩
    · split
      · exact Or.inr ⟨_, rfl⟩
      · exact Or.inl ⟨s, rfl, rfl⟩

theorem capacityRight_party :
    CapacityRight .party leaf rootNode selector ↔
      ((formatLabelSelector selector.labelSelector).isOk = true →
        ∀ name, Offered (countedNodes .party leaf rootNode selector) name →
          requested (runningElsewhere leaf.pods
            (selectedNodes .party leaf rootNode selector)) name = 0) := by
  rcases formatLabelSelector_cases selector.labelSelector with ⟨s, hsome, hformat⟩ | ⟨msg, hformat⟩
  · have hnodes : getLeafNodes .party leaf rootNode selector =
        .ok (selectedNodes .party leaf rootNode selector) := by
      simp only [getLeafNodes, hformat, selectedNodes]
      refine congrArg Except.ok (List.filter_congr fun n _ => ?_)
      simp [selects, hsome]
    rw [capacityRight_of_lists hnodes rfl (List.Perm.refl _), hformat]
    exact ⟨fun h _ => h, fun h => h rfl⟩
  · have hrun : rootNodeResources .party leaf rootNode selector = .error (.err msg) := by
      simp only [rootNodeResources, getLeafNodes, hformat]
      rfl
    rw [hformat]
    refine iff_of_true ⟨fun p => ?_, fun res => ?_⟩ nofun
    · rw [hrun]
      nofun
    · rw [hrun]
      nofun

theorem capacityRight_node : CapacityRight .node leaf rootNode selector := by
  refine (capacityRight_of_lists rfl rfl ?_).mpr ?_
  · refine List.Perm.of_eq (runningOn_filter fun p _ hp => ?_)
    obtain ⟨n, _, hname, hsel⟩ := mem_names_selected hp
    rw [← hname]
    exact hsel
  · intro name ⟨n, hn, _⟩
    obtain ⟨hmem, _⟩ := List.mem_filter.mp hn
    have hsel : n.name = rootNode := of_decide_eq_true (List.mem_filter.mp hmem).2
    have hno : runningElsewhere (podsOnNode leaf rootNode)
        (selectedNodes .node leaf rootNode selector) = [] :=
      runningElsewhere_filter fun p hp => by
        have hname : p.nodeName = n.name := (of_decide_eq_true hp).trans hsel.symm
        rw [hname]
        exact List.mem_map_of_mem hmem
    rw [hno]
    rfl

theorem foldl_appendPods (l : List LeafNode) (pods : List ClusterPod) :
    l.foldl (appendPods leaf) (some pods) =
      some (pods ++ l.flatMap fun n => podsOnNode leaf n.name) := by
  induction l generalizing pods with
  | nil => simp
  | cons n l ih =>
    rw [List.foldl_cons, List.flatMap_cons, ← List.append_assoc]
    exact ih _

theorem capacityRight_all :
    CapacityRight .all leaf rootNode selector ↔ leaf.nodes.objects ≠ [] := by
  cases hobjects : leaf.nodes.objects with
  | nil =>
    refine iff_of_false (fun h => h.1 .nilDeref ?_) (fun h => h rfl)
    show rootNodeResources .all leaf rootNode selector = _
    simp only [rootNodeResources, getLeafNodes, getLeafPods, hobjects]
    rfl
  | cons n l =>
    have hselected : selectedNodes .all leaf rootNode selector = leaf.nodes.objects :=
      List.filter_eq_self.mpr fun _ _ => rfl
    have hpods : getLeafPods .all leaf rootNode selector =
        .ok (some (leaf.nodes.objects.flatMap fun n => podsOnNode leaf n.name)) := by
      show (Except.ok (leaf.nodes.objects.foldl (appendPods leaf) none) : Outcome _) = _
      rw [hobjects, List.flatMap_cons, ← foldl_appendPods]
      rfl
    have hperm := flatMap_filter_perm ClusterPod.nodeName leaf.pods leaf.nodes.nodup
    refine iff_of_true ((capacityRight_of_lists ?_ hpods ?_).mpr ?_) (by simp)
    · rw [hselected]
      rfl
    · refine (hperm.filter _).trans (List.Perm.of_eq (runningOn_filter fun p _ hp => ?_))
      obtain ⟨n, hn, hname, _⟩ := mem_names_selected hp
      exact decide_eq_true (hname ▸ List.mem_map_of_mem hn)
    · intro name _
      have hno : runningElsewhere (leaf.nodes.objects.flatMap fun n => podsOnNode leaf n.name)
          leaf.nodes.objects = [] :=
        List.perm_nil.mp ((hperm.filter _).trans
          (List.Perm.of_eq (runningElsewhere_filter fun p hp => of_decide_eq_true hp)))
      rw [hselected, hno]
      rfl

end Modes

/-- The capacity of a root node is right unless the leaf has no node, or pods outside a selection
ask for its resources. -/
theorem capacityRight_iff (leafMode : LeafMode) (leaf : LeafCluster) (rootNode : String)
    (selector : NodeSelector) :
    CapacityRight leafMode leaf rootNode selector ↔
      (leafMode = .all → leaf.nodes.objects ≠ []) ∧
      (leafMode = .party → (formatLabelSelector selector.labelSelector).isOk = true →
        ∀ name, Offered (countedNodes leafMode leaf rootNode selector) name →
          requested (runningElsewhere leaf.pods
            (selectedNodes leafMode leaf rootNode selector)) name = 0) := by
  cases leafMode with
  | node => exact iff_of_true capacityRight_node ⟨nofun, nofun⟩
  | all =>
    rw [capacityRight_all]
    exact ⟨fun h => ⟨fun _ => h, nofun⟩, fun h => h.1 rfl⟩
  | party =>
    rw [capacityRight_party]
    exact ⟨fun h => ⟨nofun, fun _ => h⟩, fun h => h.2 rfl⟩

def zoneNode (name zone : String) : LeafNode where
  name := name
  labels := GoMap.empty.set "zone" zone
  conditions := [{ type := "Ready", status := "True" }]
  allocatable := GoMap.empty.set "cpu" 4

def twoZones : LeafCluster where
  nodes := ⟨[zoneNode "a" "one", zoneNode "b" "two"], by decide⟩
  pods := [{ nodeName := "b", requests := GoMap.empty.set "cpu" 3 }]

def zoneOne : NodeSelector where
  labelSelector := some { matchLabels := [("zone", "one")] }

theorem zoneTwo_taken_from_zoneOne :
    ¬ CapacityRight .party twoZones "kosmos-one" zoneOne ∧
      (rootNodeResources .party twoZones "kosmos-one" zoneOne).map (·.get? "cpu") =
        .ok (some 1) ∧
      remains (countedNodes .party twoZones "kosmos-one" zoneOne) [] "cpu" = 4 ∧
      ¬ CapacityRight .all ⟨⟨[], List.nodup_nil⟩, []⟩ "kosmos-all" {} ∧
      rootNodeResources .all ⟨⟨[], List.nodup_nil⟩, []⟩ "kosmos-all" {} =
        .error (.panic .nilDeref) := by
  refine ⟨fun h => ?_, by decide +kernel, by decide +kernel, fun h => h.1 .nilDeref rfl, rfl⟩
  have hcpu := h.2 _ rfl "cpu"
  revert hcpu
  decide +kernel

end Kosmos.Tree
