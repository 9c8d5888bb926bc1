import Kosmos.Go.Budget
import Kosmos.Go.MergePatch
import Kosmos.Go.Strings
import Mathlib.Data.List.Dedup
import Mathlib.Data.List.Perm.Subperm

/-!
# Rolling updates of shadows

`update.go`: old pods are deleted, or with surge new ones started beside them, within a budget.

`IsPodAvailable`, `NodeShouldRunDaemonPod` and the result of `getNodesToDaemonPods` are any. `make`
with a capacity beyond `maxSliceCap` panics. Percentages are rounded up exactly, as they are in
floating point up to that limit: the product is below 2^53.
-/

namespace Kosmos.RollingUpdate

open Go

/-! ## Objects -/

structure Pod where
  name : String
  labels : Option (GoMap String String) := none
  terminating : Bool := false

inductive IntOrString where
  | int (n : Int)
  | str (s : String)

structure RollingUpdateDaemonSet where
  maxUnavailable : Option IntOrString := none
  maxSurge : Option IntOrString := none

inductive UpdateStrategy where
  | rollingUpdate (r : Option RollingUpdateDaemonSet)
  | other

structure ShadowDaemonSet where
  name : String
  annotations : Option (GoMap String String) := none
  updateStrategy : UpdateStrategy := .other

abbrev NodePods := String × List Pod

structure SyncNodes where
  podsToDelete : List String
  nodesNeedingDaemonPods : List String
  deriving DecidableEq

/-! ## Old and new pods -/

def deprecatedTemplateGeneration : String := "deprecated.daemonset.template.generation"

def templateGenerationKey : String := "pod-template-generation"

def uniqueLabelKey : String := "controller-revision-hash"

def getTemplateGeneration (ds : ShadowDaemonSet) : Option Int :=
  (readMap ds.annotations deprecatedTemplateGeneration).bind parseInt

def label (pod : Pod) (key : String) : String := (readMap pod.labels key).getD ""

def isPodUpdated (pod : Pod) (hash : String) (dsTemplateGeneration : Option Int) : Bool :=
  let templateMatches := dsTemplateGeneration.any fun generation =>
    label pod templateGenerationKey = toString generation
  let hashMatches := decide (hash ≠ "") && decide (label pod uniqueLabelKey = hash)
  hashMatches || templateMatches

def findUpdatedPods (updated : Pod → Bool) :
    List Pod → Option Pod → Option Pod → Option (Option Pod × Option Pod)
  | [], newPod, oldPod => some (newPod, oldPod)
  | pod :: podsOnNode, newPod, oldPod =>
    if pod.terminating then findUpdatedPods updated podsOnNode newPod oldPod
    else if updated pod then
      match newPod with
      | some _ => none
      | none => findUpdatedPods updated podsOnNode (some pod) oldPod
    else
      match oldPod with
      | some _ => none
      | none => findUpdatedPods updated podsOnNode newPod (some pod)

def findUpdatedPodsOnNode (ds : ShadowDaemonSet) (podsOnNode : List Pod) (hash : String) :
    Option (Option Pod × Option Pod) :=
  findUpdatedPods (fun pod => isPodUpdated pod hash (getTemplateGeneration ds)) podsOnNode none none

/-! ## The limits -/

def getIntOrPercentValueSafely : IntOrString → Except String (Int × Bool)
  | .int n => .ok (n, false)
  | .str s =>
    match s.toList.reverse with
    | '%' :: digits =>
      match parseInt (String.ofList digits.reverse) with
      | some v => .ok (v, true)
      | none => .error ("invalid value \"" ++ s ++ "\"")
    | _ => .error "invalid type: string is not a percentage"

def getScaledValueFromIntOrPercent (intOrPercent : Option IntOrString) (total : Nat) :
    Except String Int :=
  match intOrPercent with
  | none => .error "nil value for IntOrString"
  | some intOrPercent =>
    match getIntOrPercentValueSafely intOrPercent with
    | .error err => .error ("invalid value for IntOrString: " ++ err)
    | .ok (value, isPercent) => .ok (if isPercent then -(-(value * total) / 100) else value)

def unavailableCount (ds : ShadowDaemonSet) (numberToSchedule : Nat) : Except String Int :=
  match ds.updateStrategy with
  | .rollingUpdate (some r) => getScaledValueFromIntOrPercent r.maxUnavailable numberToSchedule
  | _ => .ok 0

def surgeCount (ds : ShadowDaemonSet) (numberToSchedule : Nat) : Except String Int :=
  match ds.updateStrategy with
  | .rollingUpdate (some r) =>
    if r.maxSurge.isNone then .ok 0
    else getScaledValueFromIntOrPercent r.maxSurge numberToSchedule
  | _ => .ok 0

example : getScaledValueFromIntOrPercent (some (.str "10%")) 11 = .ok 2 := by decide

structure Round where
  ds : ShadowDaemonSet
  hash : String
  nodeToDaemonPods : Except String (GoMap String (List Pod))
  nodeList : List String
  wantToRun : String → Bool
  available : Pod → Bool
  order : RangeOrder NodePods

def maxSliceCap : Int := 17592186044416

def countNode (wantToRun : String → Bool) (st : Nat × GoMap String (List Pod)) (node : String) :
    Nat × GoMap String (List Pod) :=
  if wantToRun node then
    (st.1 + 1, if (st.2.get? node).isSome then st.2 else st.2.set node [])
  else st

def updatedDesiredNodeCounts (x : Round) (nodeToDaemonPods : GoMap String (List Pod)) :
    Except String (Int × Int × GoMap String (List Pod)) :=
  let (desiredNumberScheduled, nodes) :=
    x.nodeList.foldl (countNode x.wantToRun) (0, nodeToDaemonPods)
  match unavailableCount x.ds desiredNumberScheduled with
  | .error err => .error ("invalid value for MaxUnavailable: " ++ err)
  | .ok maxUnavailable =>
    match surgeCount x.ds desiredNumberScheduled with
    | .error err => .error ("invalid value for MaxSurge: " ++ err)
    | .ok maxSurge =>
      -- with neither, one pod may be unavailable
      if desiredNumberScheduled > 0 ∧ maxUnavailable = 0 ∧ maxSurge = 0 then
        .ok (maxSurge, 1, nodes)
      else .ok (maxSurge, maxUnavailable, nodes)

/-! ## The update -/

section Update

variable (x : Round)

structure Replacing where
  numUnavailable : Int := 0
  allowedReplacementPods : List String := []
  candidatePodsToDelete : List String := []

def replaceOn (maxUnavailable : Int) (st : Replacing) (node : NodePods) : Replacing :=
  match findUpdatedPodsOnNode x.ds node.2 x.hash with
  | none => { st with numUnavailable := st.numUnavailable + 1 }
  | some (none, none) => { st with numUnavailable := st.numUnavailable + 1 }
  | some (some _, some _) => { st with numUnavailable := st.numUnavailable + 1 }
  | some (some newPod, none) =>
    if x.available newPod = false then { st with numUnavailable := st.numUnavailable + 1 } else st
  | some (none, some oldPod) =>
    if x.available oldPod = false then
      { st with allowedReplacementPods := st.allowedReplacementPods ++ [oldPod.name] }
    else if st.numUnavailable ≥ maxUnavailable then st
    else { st with candidatePodsToDelete := st.candidatePodsToDelete ++ [oldPod.name] }

def replace (maxUnavailable : Int) (nodes : List NodePods) : Outcome SyncNodes :=
  let st := nodes.foldl (replaceOn x maxUnavailable) {}
  let remainingUnavailable := maxUnavailable - st.numUnavailable
  let remainingUnavailable := if remainingUnavailable < 0 then 0 else remainingUnavailable
  let max : Int := st.candidatePodsToDelete.length
  let remainingUnavailable := if remainingUnavailable > max then max else remainingUnavailable
  if st.candidatePodsToDelete ≠ [] ∧ maxUnavailable > maxSliceCap then
    .error (.panic .capOutOfRange)
  else
    .ok ⟨st.allowedReplacementPods ++ st.candidatePodsToDelete.take remainingUnavailable.toNat, []⟩

structure Surging where
  oldPodsToDelete : List String := []
  candidateNewNodes : List String := []
  allowedNewNodes : List String := []
  numSurge : Int := 0

def surgeOn (maxSurge : Int) (st : Surging) (node : NodePods) : Surging :=
  match findUpdatedPodsOnNode x.ds node.2 x.hash with
  | none => { st with numSurge := st.numSurge + 1 }
  | some (_, none) => st
  | some (none, some oldPod) =>
    if x.available oldPod = false then
      { st with allowedNewNodes := st.allowedNewNodes ++ [node.1] }
    else if st.numSurge ≥ maxSurge then st
    else { st with candidateNewNodes := st.candidateNewNodes ++ [node.1] }
  | some (some newPod, some oldPod) =>
    if x.available newPod = false then { st with numSurge := st.numSurge + 1 }
    else { st with oldPodsToDelete := st.oldPodsToDelete ++ [oldPod.name] }

def surge (maxSurge : Int) (nodes : List NodePods) : Outcome SyncNodes :=
  let st := nodes.foldl (surgeOn x maxSurge) {}
  let remainingSurge := maxSurge - st.numSurge
  let remainingSurge := if remainingSurge < 0 then 0 else remainingSurge
  let max : Int := st.candidateNewNodes.length
  let remainingSurge := if remainingSurge > max then max else remainingSurge
  if st.candidateNewNodes ≠ [] ∧ maxSurge > maxSliceCap then .error (.panic .capOutOfRange)
  else
    .ok ⟨st.oldPodsToDelete, st.allowedNewNodes ++ st.candidateNewNodes.take remainingSurge.toNat⟩

def rollingUpdate : Outcome SyncNodes :=
  match x.nodeToDaemonPods with
  | .error err => .error (.err ("couldn't get node to daemon pod mapping for daemon set \"" ++
      x.ds.name ++ "\": " ++ err))
  | .ok nodeToDaemonPods =>
    match updatedDesiredNodeCounts x nodeToDaemonPods with
    | .error err => .error (.err ("couldn't get unavailable numbers: " ++ err))
    | .ok (maxSurge, maxUnavailable, nodes) =>
      if maxSurge = 0 then replace x maxUnavailable (x.order.visit nodes.entries)
      else surge x maxSurge (x.order.visit nodes.entries)

end Update

/-! ## The nodes and the limits -/

def Round.desiredNumberScheduled (x : Round) : Nat := x.nodeList.countP x.wantToRun

def Round.nodes (x : Round) (assigned : GoMap String (List Pod)) : List NodePods :=
  assigned.entries ++ ((x.nodeList.filter fun node =>
    x.wantToRun node && (assigned.get? node).isNone).dedup.map fun node => (node, []))

def Round.maxUnavailable (x : Round) (m s : Int) : Int :=
  if x.desiredNumberScheduled > 0 ∧ m = 0 ∧ s = 0 then 1 else m

theorem foldl_countNode (wantToRun : String → Bool) :
    ∀ (l : List String) (n : Nat) (m : GoMap String (List Pod)),
      (l.foldl (countNode wantToRun) (n, m)).1 = n + l.countP wantToRun ∧
      ∀ node, (l.foldl (countNode wantToRun) (n, m)).2.get? node =
        if node ∈ l ∧ wantToRun node = true ∧ m.get? node = none then some [] else m.get? node
  | [], n, m => ⟨rfl, fun node => by simp⟩
  | a :: l, n, m => by
    by_cases hwant : wantToRun a = true
    · obtain ⟨hcount, hget⟩ := foldl_countNode wantToRun l (n + 1)
        (if (m.get? a).isSome then m else m.set a [])
      rw [List.foldl_cons, countNode, if_pos hwant]
      refine ⟨by rw [hcount, List.countP_cons_of_pos hwant]; omega, fun node => ?_⟩
      rw [hget]
      cases hm : m.get? a with
      | some pods =>
        by_cases hnode : node = a
        · subst hnode
          simp [hm]
        · simp [hnode]
      | none =>
        by_cases hnode : node = a
        · subst hnode
          simp [hm, hwant]
        · simp [GoMap.get?_set, hnode]
    · obtain ⟨hcount, hget⟩ := foldl_countNode wantToRun l n m
      rw [List.foldl_cons, countNode, if_neg hwant]
      refine ⟨by rw [hcount, List.countP_cons_of_neg hwant], fun node => ?_⟩
      rw [hget]
      by_cases hnode : node = a
      · subst hnode
        simp [hwant]
      · simp [hnode]

theorem Round.nodes_nodup (x : Round) (assigned : GoMap String (List Pod)) :
    (x.nodes assigned).Nodup := by
  refine List.Nodup.append assigned.nodup.of_map ?_ fun e he hmem => ?_
  · exact (List.nodup_dedup _).map fun a b h => congrArg Prod.fst h
  · obtain ⟨node, hnode, rfl⟩ := List.mem_map.mp hmem
    obtain ⟨-, hnone⟩ := List.mem_filter.mp (List.mem_dedup.mp hnode)
    rw [GoMap.get?_eq_some.mpr he] at hnone
    simp at hnone

theorem perm_nodes (x : Round) {assigned m : GoMap String (List Pod)}
    (hget : ∀ node, m.get? node =
      if node ∈ x.nodeList ∧ x.wantToRun node = true ∧ assigned.get? node = none then some []
      else assigned.get? node) :
    m.entries.Perm (x.nodes assigned) := by
  refine (List.perm_ext_iff_of_nodup m.nodup.of_map (x.nodes_nodup assigned)).mpr ?_
  rintro ⟨node, pods⟩
  rw [← GoMap.get?_eq_some, hget, Round.nodes, List.mem_append, ← GoMap.get?_eq_some]
  by_cases hnew : node ∈ x.nodeList ∧ x.wantToRun node = true ∧ assigned.get? node = none
  · rw [if_pos hnew, hnew.2.2]
    simp only [List.mem_map, List.mem_dedup, List.mem_filter, Prod.mk.injEq, reduceCtorEq, false_or,
      Option.some.injEq]
    constructor
    · rintro rfl
      exact ⟨node, ⟨hnew.1, by simp [hnew.2]⟩, rfl, rfl⟩
    · rintro ⟨_, -, -, hpods⟩
      exact hpods
  · rw [if_neg hnew]
    refine ⟨Or.inl, fun h => h.resolve_right fun hmem => hnew ?_⟩
    obtain ⟨node', hnode', heq⟩ := List.mem_map.mp hmem
    cases heq
    obtain ⟨hlist, hwant⟩ := List.mem_filter.mp (List.mem_dedup.mp hnode')
    rw [Bool.and_eq_true, Option.isNone_iff_eq_none] at hwant
    exact ⟨hlist, hwant⟩

theorem updatedDesiredNodeCounts_eq (x : Round) (assigned : GoMap String (List Pod)) {m s : Int}
    (hm : unavailableCount x.ds x.desiredNumberScheduled = .ok m)
    (hs : surgeCount x.ds x.desiredNumberScheduled = .ok s) :
    ∃ nodes, nodes.entries.Perm (x.nodes assigned) ∧
      updatedDesiredNodeCounts x assigned = .ok (s, x.maxUnavailable m s, nodes) := by
  obtain ⟨hcount, hget⟩ := foldl_countNode x.wantToRun x.nodeList 0 assigned
  refine ⟨_, perm_nodes x hget, ?_⟩
  rw [Nat.zero_add] at hcount
  unfold updatedDesiredNodeCounts Round.maxUnavailable
  simp only [hcount]
  rw [← Round.desiredNumberScheduled, hm, hs]
  dsimp only
  split <;> rfl

/-! ## What is on a node -/

section Nodes

variable (x : Round)

def newPods (pods : List Pod) : List Pod :=
  pods.filter fun pod => !pod.terminating && isPodUpdated pod x.hash (getTemplateGeneration x.ds)

def oldPods (pods : List Pod) : List Pod :=
  pods.filter fun pod => !pod.terminating && !isPodUpdated pod x.hash (getTemplateGeneration x.ds)

def loneOld (node : NodePods) : Option Pod :=
  match oldPods x node.2, newPods x node.2 with
  | [oldPod], [] => some oldPod
  | _, _ => none

def pair (node : NodePods) : Option (Pod × Pod) :=
  match oldPods x node.2, newPods x node.2 with
  | [oldPod], [newPod] => some (oldPod, newPod)
  | _, _ => none

def Crowded (node : NodePods) : Prop :=
  2 ≤ (oldPods x node.2).length ∨ 2 ≤ (newPods x node.2).length

instance (node : NodePods) : Decidable (Crowded x node) :=
  inferInstanceAs (Decidable (_ ∨ _))

/-- The node counts as unavailable: no pod, several, or a new one that is not available. -/
def Unavailable (node : NodePods) : Prop :=
  (oldPods x node.2 = [] ∧ newPods x node.2 = []) ∨ Crowded x node ∨
    ((oldPods x node.2).length = 1 ∧ (newPods x node.2).length = 1) ∨
    (oldPods x node.2 = [] ∧ (newPods x node.2).length = 1 ∧
      ∀ newPod ∈ newPods x node.2, x.available newPod = false)

/-- The node counts as surging: crowded, or with an old and an unavailable new pod. -/
def InSurge (node : NodePods) : Prop :=
  Crowded x node ∨
    ((oldPods x node.2).length = 1 ∧ (newPods x node.2).length = 1 ∧
      ∀ newPod ∈ newPods x node.2, x.available newPod = false)

variable (nodes : List NodePods)

def loneOldPods (available : Bool) : List Pod :=
  nodes.filterMap fun node => (loneOld x node).filter fun oldPod => x.available oldPod = available

def loneOldNodes (available : Bool) : List String :=
  nodes.filterMap fun node =>
    ((loneOld x node).filter fun oldPod => x.available oldPod = available).map fun _ => node.1

def replacedPods : List Pod :=
  nodes.filterMap fun node =>
    ((pair x node).filter fun pods => x.available pods.2).map Prod.fst

end Nodes

/-! ## Finding the pods of a node -/

def found : List Pod → List Pod → Option (Option Pod × Option Pod)
  | [], [] => some (none, none)
  | [], [newPod] => some (some newPod, none)
  | [oldPod], [] => some (none, some oldPod)
  | [oldPod], [newPod] => some (some newPod, some oldPod)
  | _, _ => none

theorem found_two_new (olds : List Pod) (p q : Pod) (news : List Pod) :
    found olds (p :: q :: news) = none := by
  match olds with
  | [] => rfl
  | [_] => rfl
  | _ :: _ :: _ => rfl

theorem findUpdatedPods_eq (updated : Pod → Bool) :
    ∀ (pods : List Pod) (newPod oldPod : Option Pod),
      findUpdatedPods updated pods newPod oldPod =
        found (oldPod.toList ++ pods.filter fun pod => !pod.terminating && !updated pod)
          (newPod.toList ++ pods.filter fun pod => !pod.terminating && updated pod)
  | [], newPod, oldPod => by
    cases newPod <;> cases oldPod <;> rfl
  | pod :: pods, newPod, oldPod => by
    unfold findUpdatedPods
    by_cases hterm : pod.terminating = true
    · rw [if_pos hterm, findUpdatedPods_eq updated pods newPod oldPod]
      simp [hterm]
    · rw [if_neg hterm]
      by_cases hup : updated pod = true
      · rw [if_pos hup]
        cases newPod with
        | some p => simp [hterm, hup, found_two_new]
        | none =>
          show findUpdatedPods updated pods (some pod) oldPod = _
          rw [findUpdatedPods_eq updated pods (some pod) oldPod]
          simp [hterm, hup]
      · rw [if_neg hup]
        cases oldPod with
        | some p => simp [hterm, hup, found]
        | none =>
          show findUpdatedPods updated pods newPod (some pod) = _
          rw [findUpdatedPods_eq updated pods newPod (some pod)]
          simp [hterm, hup]

section Found

variable (x : Round) (node : NodePods)

theorem findUpdatedPodsOnNode_eq :
    findUpdatedPodsOnNode x.ds node.2 x.hash = found (oldPods x node.2) (newPods x node.2) :=
  findUpdatedPods_eq _ node.2 none none

def replaceVerdict : Verdict String :=
  match findUpdatedPodsOnNode x.ds node.2 x.hash with
  | none => .counted
  | some (none, none) => .counted
  | some (some _, some _) => .counted
  | some (some newPod, none) => if x.available newPod = false then .counted else .passed
  | some (none, some oldPod) =>
    if x.available oldPod = false then .allowed oldPod.name else .candidate oldPod.name

def surgeVerdict : Verdict String :=
  match findUpdatedPodsOnNode x.ds node.2 x.hash with
  | none => .counted
  | some (_, none) => .passed
  | some (none, some oldPod) =>
    if x.available oldPod = false then .allowed node.1 else .candidate node.1
  | some (some newPod, some _) => if x.available newPod = false then .counted else .passed

theorem replaceVerdict_spec :
    ((replaceVerdict x node).isCounted = true ↔ Unavailable x node) ∧
      (replaceVerdict x node).allowed? =
        ((loneOld x node).filter fun oldPod => x.available oldPod = false).map Pod.name ∧
      (replaceVerdict x node).candidate? =
        ((loneOld x node).filter fun oldPod => x.available oldPod = true).map Pod.name := by
  unfold replaceVerdict Unavailable loneOld
  rw [findUpdatedPodsOnNode_eq]
  unfold Crowded
  rcases oldPods x node.2 with _ | ⟨oldPod, _ | ⟨oldPod', olds⟩⟩
  · rcases newPods x node.2 with _ | ⟨newPod, _ | ⟨newPod', news⟩⟩
    · simp [found]
    · cases h : x.available newPod <;> simp [h, found, Option.filter]
    · simp [found]
  · rcases newPods x node.2 with _ | ⟨newPod, _ | ⟨newPod', news⟩⟩
    · cases h : x.available oldPod <;> simp [h, found, Option.filter]
    · simp [found]
    · simp [found]
  · simp [found]

theorem surgeVerdict_spec :
    ((surgeVerdict x node).isCounted = true ↔ InSurge x node) ∧
      (surgeVerdict x node).allowed? = (((loneOld x node).filter fun oldPod =>
        x.available oldPod = false).map fun _ => node.1).map id ∧
      (surgeVerdict x node).candidate? = (((loneOld x node).filter fun oldPod =>
        x.available oldPod = true).map fun _ => node.1).map id := by
  unfold surgeVerdict InSurge loneOld
  rw [findUpdatedPodsOnNode_eq]
  unfold Crowded
  rcases oldPods x node.2 with _ | ⟨oldPod, _ | ⟨oldPod', olds⟩⟩
  · rcases newPods x node.2 with _ | ⟨newPod, _ | ⟨newPod', news⟩⟩
    · simp [found]
    · simp [found]
    · simp [found]
  · rcases newPods x node.2 with _ | ⟨newPod, _ | ⟨newPod', news⟩⟩
    · cases h : x.available oldPod <;> simp [h, found, Option.filter]
    · cases h : x.available newPod <;> simp [h, found, Option.filter]
    · simp [found]
  · simp [found]

end Found

/-! ## The loops -/

section Loops

variable (x : Round)

def Replacing.ledger (st : Replacing) : Ledger String :=
  ⟨st.numUnavailable, st.allowedReplacementPods, st.candidatePodsToDelete⟩

def Surging.ledger (st : Surging) : Ledger String :=
  ⟨st.numSurge, st.allowedNewNodes, st.candidateNewNodes⟩

theorem replaceOn_ledger (maxUnavailable : Int) (st : Replacing) (node : NodePods) :
    (replaceOn x maxUnavailable st node).ledger =
      st.ledger.enter maxUnavailable (replaceVerdict x node) := by
  unfold replaceOn replaceVerdict
  split
  · rfl
  · rfl
  · rfl
  next newPod _ =>
    by_cases h : x.available newPod = false
    · rw [if_pos h, if_pos h]
      rfl
    · rw [if_neg h, if_neg h]
      rfl
  next oldPod _ =>
    by_cases h : x.available oldPod = false
    · rw [if_pos h, if_pos h]
      rfl
    · rw [if_neg h, if_neg h]
      show _ = if maxUnavailable ≤ st.numUnavailable then _ else _
      split
      · rfl
      · rfl

theorem surgeOn_ledger (maxSurge : Int) (st : Surging) (node : NodePods) :
    (surgeOn x maxSurge st node).ledger = st.ledger.enter maxSurge (surgeVerdict x node) := by
  unfold surgeOn surgeVerdict
  split
  · rfl
  · rfl
  next oldPod _ =>
    by_cases h : x.available oldPod = false
    · rw [if_pos h, if_pos h]
      rfl
    · rw [if_neg h, if_neg h]
      show _ = if maxSurge ≤ st.numSurge then _ else _
      split
      · rfl
      · rfl
  next newPod oldPod _ =>
    by_cases h : x.available newPod = false
    · rw [if_pos h, if_pos h]
      rfl
    · rw [if_neg h, if_neg h]
      rfl

theorem cut_eq_room (limit count : Int) (length : Nat) :
    (if (if limit - count < 0 then 0 else limit - count) > (length : Int) then (length : Int)
      else if limit - count < 0 then 0 else limit - count).toNat =
      min (max 0 (limit - count)).toNat length := by
  split
  · omega
  · omega

theorem replace_eq {maxUnavailable : Int} (hcap : maxUnavailable ≤ maxSliceCap)
    (nodes : List NodePods) :
    replace x maxUnavailable nodes =
      .ok ⟨(nodes.foldl (fun l node => l.enter maxUnavailable (replaceVerdict x node))
        Ledger.empty).taken maxUnavailable, []⟩ := by
  have hloop : nodes.foldl (fun l node => l.enter maxUnavailable (replaceVerdict x node))
      (Replacing.ledger {}) = (nodes.foldl (replaceOn x maxUnavailable) {}).ledger :=
    List.foldl_hom Replacing.ledger fun st node => (replaceOn_ledger x maxUnavailable st node).symm
  show _ = Except.ok (SyncNodes.mk ((nodes.foldl _ (Replacing.ledger {})).taken maxUnavailable) [])
  rw [hloop]
  unfold replace Ledger.taken Ledger.room
  simp only [cut_eq_room]
  exact if_neg fun h => Int.not_le.mpr h.2 hcap

theorem surge_eq {maxSurge : Int} (hcap : maxSurge ≤ maxSliceCap) (nodes : List NodePods) :
    surge x maxSurge nodes = .ok ⟨(nodes.foldl (surgeOn x maxSurge) {}).oldPodsToDelete,
      (nodes.foldl (fun l node => l.enter maxSurge (surgeVerdict x node))
        Ledger.empty).taken maxSurge⟩ := by
  have hloop : nodes.foldl (fun l node => l.enter maxSurge (surgeVerdict x node))
      (Surging.ledger {}) = (nodes.foldl (surgeOn x maxSurge) {}).ledger :=
    List.foldl_hom Surging.ledger fun st node => (surgeOn_ledger x maxSurge st node).symm
  show _ = Except.ok (SyncNodes.mk _ ((nodes.foldl _ (Surging.ledger {})).taken maxSurge))
  rw [hloop]
  unfold surge Ledger.taken Ledger.room
  simp only [cut_eq_room]
  exact if_neg fun h => Int.not_le.mpr h.2 hcap

theorem surgeOn_oldPodsToDelete (maxSurge : Int) (st : Surging) (node : NodePods) :
    (surgeOn x maxSurge st node).oldPodsToDelete = st.oldPodsToDelete ++
      (((pair x node).filter fun pods => x.available pods.2).map
        fun pods => pods.1.name).toList := by
  unfold surgeOn pair
  rw [findUpdatedPodsOnNode_eq]
  rcases oldPods x node.2 with _ | ⟨oldPod, _ | ⟨oldPod', olds⟩⟩
  · rcases newPods x node.2 with _ | ⟨newPod, _ | ⟨newPod', news⟩⟩ <;> simp [found]
  · rcases newPods x node.2 with _ | ⟨newPod, _ | ⟨newPod', news⟩⟩
    · cases h : x.available oldPod with
      | false => simp [found, h]
      | true =>
        by_cases hfull : st.numSurge ≥ maxSurge
        · simp [found, h, hfull]
        · simp [found, h, hfull]
    · cases h : x.available newPod <;> simp [found, h, Option.filter]
    · simp [found]
  · simp [found]

theorem foldl_oldPodsToDelete (maxSurge : Int) :
    ∀ (nodes : List NodePods) (st : Surging),
      (nodes.foldl (surgeOn x maxSurge) st).oldPodsToDelete =
        st.oldPodsToDelete ++ (replacedPods x nodes).map Pod.name
  | [], st => (List.append_nil _).symm
  | node :: nodes, st => by
    rw [List.foldl_cons, foldl_oldPodsToDelete maxSurge nodes, surgeOn_oldPodsToDelete]
    unfold replacedPods
    rw [Ledger.filterMap_cons_toList, List.map_append, List.append_assoc]
    cases (pair x node).filter fun pods => x.available pods.2 <;> rfl

end Loops

/-! ## The budget -/

section Budget

variable (x : Round)

instance (node : NodePods) : Decidable (Unavailable x node) :=
  inferInstanceAs (Decidable (_ ∨ Crowded x node ∨ _ ∨ _))

instance (node : NodePods) : Decidable (InSurge x node) :=
  inferInstanceAs (Decidable (Crowded x node ∨ _))

/-- Old pods go if unavailable, and of the others as many as may. -/
structure ReplacesWithin (nodes : List NodePods) (maxUnavailable : Int) (call : SyncNodes) :
    Prop where
  deleted : ∃ chosen, chosen.Subperm (loneOldPods x nodes true) ∧
    chosen.length =
      min (max 0 (maxUnavailable - nodes.countP fun node => Unavailable x node)).toNat
        (loneOldPods x nodes true).length ∧
    call.podsToDelete.Perm ((loneOldPods x nodes false ++ chosen).map Pod.name)
  created : call.nodesNeedingDaemonPods = []

/-- Replaced pods go, and new ones start as there is surge left. -/
structure SurgesWithin (nodes : List NodePods) (maxSurge : Int) (call : SyncNodes) : Prop where
  deleted : call.podsToDelete.Perm ((replacedPods x nodes).map Pod.name)
  created : ∃ chosen, chosen.Subperm (loneOldNodes x nodes true) ∧
    chosen.length = min (max 0 (maxSurge - nodes.countP fun node => InSurge x node)).toNat
      (loneOldNodes x nodes true).length ∧
    call.nodesNeedingDaemonPods.Perm (loneOldNodes x nodes false ++ chosen)

theorem replace_within {maxUnavailable : Int} (hcap : maxUnavailable ≤ maxSliceCap)
    {nodes visited : List NodePods} (hvisit : visited.Perm nodes) :
    ∃ call, replace x maxUnavailable visited = .ok call ∧
      ReplacesWithin x nodes maxUnavailable call := by
  have hspec := replaceVerdict_spec x
  have htaken := Ledger.taken_within maxUnavailable (replaceVerdict x)
    (fun available node => (loneOld x node).filter fun oldPod => x.available oldPod = available)
    Pod.name (fun node => (hspec node).1) (fun node => (hspec node).2.1)
    (fun node => (hspec node).2.2) hvisit
  exact ⟨_, replace_eq x hcap visited, htaken, rfl⟩

theorem surge_within {maxSurge : Int} (hcap : maxSurge ≤ maxSliceCap)
    {nodes visited : List NodePods} (hvisit : visited.Perm nodes) :
    ∃ call, surge x maxSurge visited = .ok call ∧ SurgesWithin x nodes maxSurge call := by
  obtain ⟨chosen, hsub, hlength, htaken⟩ := Ledger.taken_within maxSurge (surgeVerdict x)
    (fun available node => ((loneOld x node).filter fun oldPod =>
      x.available oldPod = available).map fun _ => node.1) id
    (fun node => (surgeVerdict_spec x node).1) (fun node => (surgeVerdict_spec x node).2.1)
    (fun node => (surgeVerdict_spec x node).2.2) hvisit
  rw [List.map_id] at htaken
  refine ⟨_, surge_eq x hcap visited, ?_, chosen, hsub, hlength, htaken⟩
  rw [foldl_oldPodsToDelete x maxSurge visited {}]
  exact (hvisit.filterMap _).map Pod.name

end Budget

/-- For limits that a slice can have, a rolling update keeps to its budget exactly. -/
theorem rollingUpdate_budget (x : Round) (assigned : GoMap String (List Pod)) (m s : Int)
    (hassigned : x.nodeToDaemonPods = .ok assigned)
    (hm : unavailableCount x.ds x.desiredNumberScheduled = .ok m)
    (hs : surgeCount x.ds x.desiredNumberScheduled = .ok s)
    (hmcap : m ≤ maxSliceCap) (hscap : s ≤ maxSliceCap) :
    ∃ call, rollingUpdate x = .ok call ∧
      (s = 0 → ReplacesWithin x (x.nodes assigned) (x.maxUnavailable m s) call) ∧
      (s ≠ 0 → SurgesWithin x (x.nodes assigned) s call) := by
  obtain ⟨nodes, hperm, hcounts⟩ := updatedDesiredNodeCounts_eq x assigned hm hs
  have hvisit := (x.order.perm nodes.entries).trans hperm
  have hcap : x.maxUnavailable m s ≤ maxSliceCap := by
    unfold Round.maxUnavailable
    split
    · decide
    · exact hmcap
  unfold rollingUpdate
  simp only [hassigned, hcounts]
  by_cases hsurge : s = 0
  · rw [if_pos hsurge]
    obtain ⟨call, hcall, hwithin⟩ := replace_within x hcap hvisit
    exact ⟨call, hcall, fun _ => hwithin, fun h => absurd hsurge h⟩
  · rw [if_neg hsurge]
    obtain ⟨call, hcall, hwithin⟩ := surge_within x hscap hvisit
    exact ⟨call, hcall, fun h => absurd h hsurge, fun _ => hwithin⟩

def threeNodes : Round where
  ds := { name := "agent", updateStrategy := .rollingUpdate (some ⟨some (.int 2), none⟩) }
  hash := "new"
  nodeToDaemonPods := .ok
    ((GoMap.empty.set "n1" [⟨"a", none, false⟩]).set "n2" [⟨"b", none, false⟩])
  nodeList := ["n1", "n2", "n3"]
  wantToRun _ := true
  available pod := pod.name = "a"
  order := .asWritten

theorem rollingUpdate_budget_threeNodes :
    ∃ call, rollingUpdate threeNodes = .ok call ∧ ReplacesWithin threeNodes
      [("n2", [⟨"b", none, false⟩]), ("n1", [⟨"a", none, false⟩]), ("n3", [])] 2 call := by
  obtain ⟨call, hcall, hreplaces, -⟩ :=
    rollingUpdate_budget threeNodes _ 2 0 rfl rfl rfl (by decide) (by decide)
  exact ⟨call, hcall, hreplaces rfl⟩

example : rollingUpdate threeNodes = .ok ⟨["b", "a"], []⟩ := by decide

def noLimits : Round :=
  { threeNodes with
    ds := { name := "agent", updateStrategy := .rollingUpdate (some ⟨some (.int 0), none⟩) }
    nodeToDaemonPods := .ok (GoMap.empty.set "n1" [⟨"a", none, false⟩])
    nodeList := ["n1"] }

theorem noLimits_deletes :
    unavailableCount noLimits.ds noLimits.desiredNumberScheduled = .ok 0 ∧
    surgeCount noLimits.ds noLimits.desiredNumberScheduled = .ok 0 ∧
    (loneOldPods noLimits [("n1", [⟨"a", none, false⟩])] true).map Pod.name = ["a"] ∧
    rollingUpdate noLimits = .ok ⟨["a"], []⟩ := by
  decide

end Kosmos.RollingUpdate
