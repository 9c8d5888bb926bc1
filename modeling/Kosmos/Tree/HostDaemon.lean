import Kosmos.Tree.RollingUpdate
import Mathlib.Algebra.Ring.Nat
import Mathlib.Data.List.Sort
import Mathlib.Data.Prod.Lex
import Mathlib.Data.String.Basic

/-!
# The host daemon controller: the pods of a shadow

`podsShouldBeOnNode` decides for each node, and `syncNodes` creates in batches of growing size and
keeps the expectations (`syncNodes_accounts`).

Each answer is any answer, and one order of the calls of a batch stands for all.
-/

namespace Kosmos.HostDaemon

open Go

structure DaemonPod extends RollingUpdate.Pod where
  nodeName : String := ""
  creationTimestamp : Nat := 0
  failed : Bool := false
  ready : Bool := false
  available : Bool := false

def less (a b : DaemonPod) : Bool :=
  if a.nodeName ≠ "" ∧ b.nodeName = "" then true
  else if a.nodeName = "" ∧ b.nodeName ≠ "" then false
  else if a.creationTimestamp = b.creationTimestamp then a.name < b.name
  else a.creationTimestamp < b.creationTimestamp

def sortPods (pods : List DaemonPod) : List DaemonPod :=
  pods.insertionSort fun a b => less b a = false

/-- Pods on a node first, then the older one, then by name. -/
def Precedes (a b : DaemonPod) : Prop :=
  a.nodeName ≠ "" ∧ b.nodeName = "" ∨ (a.nodeName = "" ↔ b.nodeName = "") ∧
    (a.creationTimestamp < b.creationTimestamp ∨
      a.creationTimestamp = b.creationTimestamp ∧ a.name ≤ b.name)

def rank (pod : DaemonPod) : Bool ×ₗ Nat ×ₗ String :=
  toLex (decide (pod.nodeName = ""), toLex (pod.creationTimestamp, pod.name))

theorem precedes_iff_rank {a b : DaemonPod} : Precedes a b ↔ rank a ≤ rank b := by
  simp only [Precedes, rank, Prod.Lex.le_iff, ofLex_toLex, decide_eq_decide, Bool.lt_iff,
    decide_eq_false_iff_not, decide_eq_true_eq, ne_eq]

theorem less_eq_false {a b : DaemonPod} : less b a = false ↔ Precedes a b := by
  unfold less Precedes
  by_cases ha : a.nodeName = "" <;> by_cases hb : b.nodeName = "" <;>
    simp only [ha, hb, ne_eq, not_true_eq_false, not_false_eq_true, and_false, and_true, if_true,
      if_false, false_or, true_or, true_and, reduceCtorEq, iff_true, iff_false, iff_self,
      false_and, or_self]
  all_goals
    by_cases heq : b.creationTimestamp = a.creationTimestamp
    · simp only [heq, if_true, decide_eq_false_iff_not, not_lt, lt_irrefl, false_or, true_and]
    · rw [if_neg heq, decide_eq_false_iff_not]
      omega

theorem sortPods_pairwise (pods : List DaemonPod) : (sortPods pods).Pairwise Precedes := by
  have htotal : Std.Total fun a b : DaemonPod => less b a = false := ⟨fun a b => by
    simpa only [less_eq_false, precedes_iff_rank] using le_total (rank a) (rank b)⟩
  have htrans : IsTrans DaemonPod fun a b => less b a = false := ⟨fun a b c => by
    simpa only [less_eq_false, precedes_iff_rank] using le_trans⟩
  exact (List.pairwise_insertionSort _ pods).imp less_eq_false.mp

theorem sortPods_perm (pods : List DaemonPod) : (sortPods pods).Perm pods :=
  List.perm_insertionSort _ pods

structure NodeSync where
  shouldRun : Bool
  shouldContinueRunning : Bool
  daemonPods : Option (List DaemonPod)
  allowsSurge : Bool
  hash : String
  inBackoff : String → Bool

namespace NodeSync

def alive (x : NodeSync) : List DaemonPod :=
  (x.daemonPods.getD []).filter fun pod => !pod.terminating

def daemonPodsRunning (x : NodeSync) : List DaemonPod := x.alive.filter fun pod => !pod.failed

def failedPods (x : NodeSync) : List String :=
  (x.alive.filter fun pod => pod.failed && !x.inBackoff pod.name).map (·.name)

def isNew (x : NodeSync) (pod : DaemonPod) : Bool :=
  RollingUpdate.label pod.toPod RollingUpdate.uniqueLabelKey = x.hash

def oldestPods (x : NodeSync) : List DaemonPod → Option DaemonPod → Option DaemonPod →
    List String → Option DaemonPod × Option DaemonPod × List String
  | [], oldestNewPod, oldestOldPod, podsToDelete => (oldestNewPod, oldestOldPod, podsToDelete)
  | pod :: pods, oldestNewPod, oldestOldPod, podsToDelete =>
    if x.isNew pod then
      match oldestNewPod with
      | none => oldestPods x pods (some pod) oldestOldPod podsToDelete
      | some _ => oldestPods x pods oldestNewPod oldestOldPod (podsToDelete ++ [pod.name])
    else
      match oldestOldPod with
      | none => oldestPods x pods oldestNewPod (some pod) podsToDelete
      | some _ => oldestPods x pods oldestNewPod oldestOldPod (podsToDelete ++ [pod.name])

def podsShouldBeOnNode (x : NodeSync) : Bool × List String :=
  if x.shouldRun && x.daemonPods.isNone then (true, [])
  else if x.shouldContinueRunning then
    if x.daemonPodsRunning.length ≤ 1 then
      (x.allowsSurge && x.daemonPodsRunning.isEmpty && x.shouldRun, x.failedPods)
    else if !x.allowsSurge then
      (false, x.failedPods ++ (sortPods x.daemonPodsRunning).tail.map (·.name))
    else
      match oldestPods x (sortPods x.daemonPodsRunning) none none x.failedPods with
      | (some oldestNewPod, some oldestOldPod, podsToDelete) =>
        if !oldestOldPod.ready then (false, podsToDelete ++ [oldestOldPod.name])
        else if oldestNewPod.available then (false, podsToDelete ++ [oldestOldPod.name])
        else (false, podsToDelete)
      | (_, _, podsToDelete) => (false, podsToDelete)
  else (false, x.alive.map (·.name))

/-- The first of the running pods with `p`. -/
structure IsFirst (x : NodeSync) (p : DaemonPod → Bool) (pod : DaemonPod) : Prop where
  mem : pod ∈ x.daemonPodsRunning
  kind : p pod = true
  precedes : ∀ other ∈ x.daemonPodsRunning, p other = true → Precedes pod other

/-- The pods that stay: the oldest, or with surge the oldest new one and, until that is available,
the oldest old one if it is ready. -/
def Stays (x : NodeSync) (pod : DaemonPod) : Prop :=
  if x.allowsSurge then
    x.IsFirst x.isNew pod ∨ x.IsFirst (fun p => !x.isNew p) pod ∧
      ∀ newPod, x.IsFirst x.isNew newPod → pod.ready = true ∧ newPod.available = false
  else x.IsFirst (fun _ => true) pod

def oldestNewPod (x : NodeSync) : Option DaemonPod :=
  (sortPods x.daemonPodsRunning).find? x.isNew

def oldestOldPod (x : NodeSync) : Option DaemonPod :=
  (sortPods x.daemonPodsRunning).find? fun pod => !x.isNew pod

variable {x : NodeSync} {pod : DaemonPod}

theorem mem_tail_names {l : List DaemonPod} (hnd : (l.map (·.name)).Nodup) (hpod : pod ∈ l) :
    pod.name ∈ (l.map (·.name)).tail ↔ l.head? ≠ some pod := by
  cases l with
  | nil => cases hpod
  | cons a l =>
    rw [List.map_cons, List.nodup_cons] at hnd
    rw [List.map_cons, List.tail_cons, List.head?_cons, ne_eq, Option.some.injEq]
    constructor
    · rintro hmem rfl
      exact hnd.1 hmem
    · intro hne
      rcases List.mem_cons.mp hpod with rfl | hmem
      · exact absurd rfl hne
      · exact List.mem_map_of_mem hmem

theorem oldestPods_spec (x : NodeSync) :
    ∀ (l : List DaemonPod) (newPod oldPod : Option DaemonPod) (del : List String),
      ∃ names, oldestPods x l newPod oldPod del =
          (newPod.or (l.filter x.isNew).head?,
            oldPod.or (l.filter fun p => !x.isNew p).head?, names) ∧
        names.Perm (del
          ++ ((l.filter x.isNew).drop (if newPod.isNone then 1 else 0)).map (·.name)
          ++ ((l.filter fun p => !x.isNew p).drop (if oldPod.isNone then 1 else 0)).map (·.name))
  | [], newPod, oldPod, del => ⟨del, by simp [oldestPods], by simp⟩
  | p :: l, newPod, oldPod, del => by
    unfold oldestPods
    by_cases hnew : x.isNew p = true
    · cases newPod with
      | none =>
        obtain ⟨names, heq, hperm⟩ := oldestPods_spec x l (some p) oldPod del
        exact ⟨names, by simp [hnew, heq], by simpa [hnew] using hperm⟩
      | some q =>
        obtain ⟨names, heq, hperm⟩ := oldestPods_spec x l (some q) oldPod (del ++ [p.name])
        exact ⟨names, by simp [hnew, heq], by simpa [hnew] using hperm⟩
    · rw [Bool.not_eq_true] at hnew
      cases oldPod with
      | none =>
        obtain ⟨names, heq, hperm⟩ := oldestPods_spec x l newPod (some p) del
        exact ⟨names, by simp [hnew, heq], by simpa [hnew] using hperm⟩
      | some q =>
        obtain ⟨names, heq, hperm⟩ := oldestPods_spec x l newPod (some q) (del ++ [p.name])
        refine ⟨names, by simp [hnew, heq], hperm.trans ?_⟩
        simp only [hnew, Bool.not_false, List.filter_cons_of_pos, List.append_assoc]
        refine List.Perm.append_left del ?_
        simpa [hnew] using List.perm_middle.symm

theorem isNone_of_alive (hpod : pod ∈ x.alive) : x.daemonPods.isNone = false := by
  cases hpods : x.daemonPods with
  | none => simp [alive, hpods] at hpod
  | some pods => rfl

section Leaves

variable (hnames : (x.alive.map (·.name)).Nodup) (hpod : pod ∈ x.daemonPodsRunning)
include hnames

theorem sorted_names : ((sortPods x.daemonPodsRunning).map (·.name)).Nodup :=
  (((sortPods_perm _).map _).nodup_iff).mpr (hnames.sublist (List.filter_sublist.map _))

theorem find?_sortPods {p : DaemonPod → Bool} :
    (sortPods x.daemonPodsRunning).find? p = some pod ↔ x.IsFirst p pod := by
  have hmem : ∀ q, q ∈ sortPods x.daemonPodsRunning ↔ q ∈ x.daemonPodsRunning := fun q =>
    (sortPods_perm _).mem_iff
  have hfirst : ∀ q, (sortPods x.daemonPodsRunning).find? p = some q → x.IsFirst p q := by
    intro q hq
    refine ⟨(hmem q).mp (List.mem_of_find?_eq_some hq), List.find?_some hq, fun r hr hpr => ?_⟩
    obtain ⟨-, before, after, hl, hbefore⟩ := List.find?_eq_some_iff_append.mp hq
    have hsorted := sortPods_pairwise x.daemonPodsRunning
    rw [← hmem, hl] at hr
    rw [hl] at hsorted
    rcases List.mem_append.mp hr with hr | hr
    · have hnot := hbefore r hr
      rw [hpr] at hnot
      cases hnot
    rcases List.mem_cons.mp hr with rfl | hr
    · exact precedes_iff_rank.mpr le_rfl
    · exact List.rel_of_pairwise_cons (List.pairwise_append.mp hsorted).2.1 hr
  refine ⟨hfirst pod, fun h => ?_⟩
  cases hq : (sortPods x.daemonPodsRunning).find? p with
  | none => exact absurd h.kind (List.find?_eq_none.mp hq pod ((hmem pod).mpr h.mem))
  | some q =>
    have hq' := hfirst q hq
    have hrank : rank pod = rank q := le_antisymm
      (precedes_iff_rank.mp (h.precedes q hq'.mem hq'.kind))
      (precedes_iff_rank.mp (hq'.precedes pod h.mem h.kind))
    have hname : pod.name = q.name := congrArg (fun r => (ofLex (ofLex r).2).2) hrank
    rw [List.inj_on_of_nodup_map hnames (List.mem_filter.mp h.mem).1
      (List.mem_filter.mp hq'.mem).1 hname]

include hpod

theorem not_mem_failedPods : pod.name ∉ x.failedPods := by
  intro hmem
  obtain ⟨q, hq, hname⟩ := List.mem_map.mp hmem
  obtain ⟨hqalive, hqfailed⟩ := List.mem_filter.mp hq
  obtain ⟨halive, hrunning⟩ := List.mem_filter.mp hpod
  rw [List.inj_on_of_nodup_map hnames hqalive halive hname, Bool.and_eq_true] at hqfailed
  rw [hqfailed.1] at hrunning
  cases hrunning

theorem mem_drop_filter {p : DaemonPod → Bool} :
    pod.name ∈ (((sortPods x.daemonPodsRunning).filter p).map (·.name)).tail ↔
      p pod = true ∧ (sortPods x.daemonPodsRunning).find? p ≠ some pod := by
  have hsorted : pod ∈ sortPods x.daemonPodsRunning := (sortPods_perm _).mem_iff.mpr hpod
  rw [← List.head?_filter]
  by_cases hp : p pod = true
  · rw [mem_tail_names ((sorted_names hnames).sublist (List.filter_sublist.map _))
      (List.mem_filter.mpr ⟨hsorted, hp⟩), and_iff_right hp]
  · simp only [hp, Bool.false_eq_true, false_and, iff_false]
    intro hmem
    obtain ⟨q, hq, hname⟩ := List.mem_map.mp (List.mem_of_mem_tail hmem)
    obtain ⟨hqsorted, hqp⟩ := List.mem_filter.mp hq
    rw [List.inj_on_of_nodup_map (sorted_names hnames) hqsorted hsorted hname] at hqp
    exact hp hqp

theorem oldestPods_names :
    ∃ names, x.oldestPods (sortPods x.daemonPodsRunning) none none x.failedPods
        = (x.oldestNewPod, x.oldestOldPod, names) ∧
      (pod.name ∉ names ↔ x.oldestNewPod = some pod ∨ x.oldestOldPod = some pod) := by
  obtain ⟨names, heq, hperm⟩ :=
    oldestPods_spec x (sortPods x.daemonPodsRunning) none none x.failedPods
  refine ⟨names, ?_, ?_⟩
  · rw [heq, List.head?_filter, List.head?_filter, Option.none_or, Option.none_or]
    rfl
  have hmem : pod.name ∈ names ↔ x.isNew pod = true ∧ x.oldestNewPod ≠ some pod ∨
      x.isNew pod = false ∧ x.oldestOldPod ≠ some pod := by
    rw [hperm.mem_iff]
    simp [not_mem_failedPods hnames hpod, mem_drop_filter hnames hpod, oldestNewPod, oldestOldPod]
  rw [hmem]
  cases hkind : x.isNew pod with
  | true =>
    have hold : x.oldestOldPod ≠ some pod := by
      intro hold
      have hnot := List.find?_some hold
      rw [hkind] at hnot
      cases hnot
    simp [hold]
  | false =>
    have hnew : x.oldestNewPod ≠ some pod := by
      intro hnew
      have hnot := List.find?_some hnew
      rw [hkind] at hnot
      cases hnot
    simp [hnew]

theorem not_mem_surge {names : List String}
    (hmem : pod.name ∉ names ↔ x.oldestNewPod = some pod ∨ x.oldestOldPod = some pod) :
    pod.name ∉ (match (x.oldestNewPod, x.oldestOldPod, names) with
        | (some oldestNewPod, some oldestOldPod, podsToDelete) =>
          if !oldestOldPod.ready then (false, podsToDelete ++ [oldestOldPod.name])
          else if oldestNewPod.available then (false, podsToDelete ++ [oldestOldPod.name])
          else (false, podsToDelete)
        | (_, _, podsToDelete) => (false, podsToDelete)).2 ↔
      x.oldestNewPod = some pod ∨ x.oldestOldPod = some pod ∧
        ∀ newPod, x.oldestNewPod = some newPod → pod.ready = true ∧ newPod.available = false := by
  cases hN : x.oldestNewPod with
  | none => simpa [hN] using hmem
  | some a =>
    cases hO : x.oldestOldPod with
    | none => simpa [hN, hO] using hmem
    | some b =>
      have hpodS : pod ∈ sortPods x.daemonPodsRunning := (sortPods_perm _).mem_iff.mpr hpod
      have hname : pod.name = b.name ↔ b = pod := by
        refine ⟨fun h => ?_, fun h => by rw [h]⟩
        exact (List.inj_on_of_nodup_map (sorted_names hnames) hpodS
          (List.mem_of_find?_eq_some hO) h).symm
      -- the two are of different kinds
      have hne : a ≠ b := by
        rintro rfl
        have hnot := List.find?_some hO
        rw [List.find?_some hN] at hnot
        cases hnot
      rw [hN, hO, Option.some.injEq, Option.some.injEq] at hmem
      simp only [Option.some.injEq, forall_eq']
      have hgoes : ∀ goes : Bool, (goes = false ↔ b.ready = true ∧ a.available = false) →
          (pod.name ∉ (if goes then names ++ [b.name] else names) ↔
            a = pod ∨ b = pod ∧ pod.ready = true ∧ a.available = false) := by
        intro goes hiff
        cases goes with
        | true =>
          rw [if_pos rfl, List.mem_append, List.mem_singleton, not_or, hmem, hname]
          constructor
          · rintro ⟨rfl | rfl, h⟩
            · exact Or.inl rfl
            · exact absurd rfl h
          · rintro (rfl | ⟨rfl, h⟩)
            · exact ⟨Or.inl rfl, hne.symm⟩
            · cases hiff.mpr h
        | false =>
          obtain ⟨hready, havailable⟩ := hiff.mp rfl
          rw [if_neg Bool.false_ne_true, hmem]
          constructor
          · rintro (rfl | rfl)
            · exact Or.inl rfl
            · exact Or.inr ⟨rfl, hready, havailable⟩
          · rintro (h | ⟨h, -⟩)
            · exact Or.inl h
            · exact Or.inr h
      rw [← hgoes (!b.ready || a.available) (by simp)]
      cases b.ready <;> cases a.available <;> rfl

theorem not_mem_podsToDelete (hcontinue : x.shouldContinueRunning = true) :
    pod.name ∉ x.podsShouldBeOnNode.2 ↔ x.Stays pod := by
  have hfailed := not_mem_failedPods hnames hpod
  have hsorted : pod ∈ sortPods x.daemonPodsRunning := (sortPods_perm _).mem_iff.mpr hpod
  simp only [Stays, ← find?_sortPods hnames]
  rw [podsShouldBeOnNode, if_neg (by simp [isNone_of_alive (List.mem_filter.mp hpod).1]),
    if_pos hcontinue]
  split
  next hlen =>
    obtain ⟨q, hq⟩ := List.length_eq_one_iff.mp (Nat.le_antisymm hlen (List.length_pos_of_mem hpod))
    obtain rfl : pod = q := by simpa [hq] using hpod
    have hone : sortPods x.daemonPodsRunning = [pod] := by simp [hq, sortPods]
    cases hnew : x.isNew pod <;> simp [hfailed, hone, hnew]
  · split
    next hsurge =>
      rw [Bool.not_eq_true'] at hsurge
      simp [hsurge, hfailed, mem_tail_names (sorted_names hnames) hsorted, ← List.head?_filter]
    next hsurge =>
      rw [Bool.not_eq_true, Bool.not_eq_false'] at hsurge
      obtain ⟨names, heq, hmem⟩ := oldestPods_names hnames hpod
      rw [heq, if_pos hsurge]
      exact not_mem_surge hnames hpod hmem

end Leaves

/-- What a sync makes of a node. -/
structure Decided (x : NodeSync) : Prop where
  creates : x.podsShouldBeOnNode.1 = true ↔ x.shouldRun = true ∧ (x.daemonPods = none ∨
    x.allowsSurge = true ∧ x.shouldContinueRunning = true ∧ x.daemonPodsRunning = [])
  keeps : x.shouldContinueRunning = true → ∀ pod ∈ x.daemonPodsRunning,
    (pod.name ∉ x.podsShouldBeOnNode.2 ↔ x.Stays pod)
  noGap : x.shouldContinueRunning = true → x.daemonPodsRunning ≠ [] →
    ∃ pod ∈ x.daemonPodsRunning, pod.name ∉ x.podsShouldBeOnNode.2
  clears : x.shouldContinueRunning = false → ∀ pod ∈ x.alive, pod.name ∈ x.podsShouldBeOnNode.2

theorem exists_stays (hnames : (x.alive.map (·.name)).Nodup) (hrunning : x.daemonPodsRunning ≠ []) :
    ∃ pod ∈ x.daemonPodsRunning, x.Stays pod := by
  obtain ⟨pod, hpod⟩ := List.exists_mem_of_ne_nil _ hrunning
  have hsorted : pod ∈ sortPods x.daemonPodsRunning := (sortPods_perm _).mem_iff.mpr hpod
  have hfirst : ∀ {p : DaemonPod → Bool}, p pod = true → ∃ q, x.IsFirst p q := by
    intro p hp
    cases hq : (sortPods x.daemonPodsRunning).find? p with
    | none => exact absurd hp (List.find?_eq_none.mp hq pod hsorted)
    | some q => exact ⟨q, (find?_sortPods hnames).mp hq⟩
  unfold Stays
  cases x.allowsSurge with
  | false =>
    obtain ⟨q, hq⟩ := hfirst (p := fun _ => true) rfl
    exact ⟨q, hq.mem, hq⟩
  | true =>
    by_cases hnew : ∃ q, x.IsFirst x.isNew q
    · obtain ⟨q, hq⟩ := hnew
      exact ⟨q, hq.mem, Or.inl hq⟩
    · -- there is no new pod, so this one is old
      have hold : (!x.isNew pod) = true := by
        rw [Bool.not_eq_true']
        exact Bool.eq_false_iff.mpr fun h => hnew (hfirst h)
      obtain ⟨q, hq⟩ := hfirst (p := fun q => !x.isNew q) hold
      exact ⟨q, hq.mem, Or.inr ⟨hq, fun newPod h => absurd ⟨newPod, h⟩ hnew⟩⟩

theorem podsShouldBeOnNode_creates (x : NodeSync) :
    x.podsShouldBeOnNode.1 = true ↔ x.shouldRun = true ∧ (x.daemonPods = none ∨
      x.allowsSurge = true ∧ x.shouldContinueRunning = true ∧ x.daemonPodsRunning = []) := by
  unfold podsShouldBeOnNode
  cases hpods : x.daemonPods with
  | none =>
    have hrunning : x.daemonPodsRunning = [] := by simp [daemonPodsRunning, alive, hpods]
    cases x.shouldRun <;> cases x.shouldContinueRunning <;> simp [hrunning]
  | some pods =>
    rw [if_neg (by simp)]
    cases x.shouldContinueRunning with
    | false => simp
    | true =>
      rw [if_pos rfl]
      by_cases hlen : x.daemonPodsRunning.length ≤ 1
      · simp only [if_pos hlen, Bool.and_eq_true, List.isEmpty_iff, reduceCtorEq, false_or,
          true_and]
        tauto
      · have hne : x.daemonPodsRunning ≠ [] := by
          intro h
          simp [h] at hlen
        simp only [if_neg hlen, hne, and_false, or_false, reduceCtorEq, iff_false]
        cases x.allowsSurge with
        | false => exact Bool.false_ne_true
        | true =>
          -- what the loop leaves does not matter
          rw [if_neg (by decide)]
          split
          · split
            · exact Bool.false_ne_true
            · split <;> exact Bool.false_ne_true
          · exact Bool.false_ne_true

/-- **Main result**: what `podsShouldBeOnNode` decides, for pods with distinct names. -/
theorem podsShouldBeOnNode_decided (x : NodeSync) (hnames : (x.alive.map (·.name)).Nodup) :
    Decided x where
  creates := podsShouldBeOnNode_creates x
  keeps := fun hcontinue pod hpod => not_mem_podsToDelete hnames hpod hcontinue
  noGap := by
    intro hcontinue hrunning
    obtain ⟨pod, hpod, hstays⟩ := exists_stays hnames hrunning
    exact ⟨pod, hpod, (not_mem_podsToDelete hnames hpod hcontinue).mpr hstays⟩
  clears := by
    intro hstop pod hpod
    rw [podsShouldBeOnNode, if_neg (by simp [isNone_of_alive hpod]), if_neg (by simp [hstop])]
    exact List.mem_map_of_mem hpod

def surging : NodeSync where
  shouldRun := true
  shouldContinueRunning := true
  daemonPods := some [
    { name := "old", ready := true, available := true },
    { name := "new", labels := some (GoMap.empty.set "controller-revision-hash" "h2") },
    { name := "bad", failed := true }]
  allowsSurge := true
  hash := "h2"
  inBackoff := fun _ => false

theorem surging_decided :
    surging.podsShouldBeOnNode = (false, ["bad"]) ∧ Decided surging :=
  ⟨by decide +kernel, podsShouldBeOnNode_decided surging (by decide)⟩

end NodeSync

structure Expectations where
  add : Int
  del : Int
  deriving DecidableEq

def Expectations.lower (e : Expectations) (add del : Int) : Expectations :=
  ⟨e.add - add, e.del - del⟩

inductive CreateAnswer where
  | created
  | terminating
  | failed (err : String)
  deriving DecidableEq

inductive DeleteAnswer where
  | deleted
  | notFound
  | failed (err : String)
  deriving DecidableEq

structure Calls where
  expectations : Expectations
  errCh : List String := []
  deriving DecidableEq

def createPod (create : Nat → CreateAnswer) (s : Calls) (ix : Nat) : Calls :=
  match create ix with
  | .created => s
  | .terminating => s
  | .failed err => ⟨s.expectations.lower 1 0, s.errCh ++ [err]⟩

def deletePod (delete : Nat → DeleteAnswer) (s : Calls) (ix : Nat) : Calls :=
  match delete ix with
  | .deleted => s
  | .notFound => ⟨s.expectations.lower 0 1, s.errCh⟩
  | .failed err => ⟨s.expectations.lower 0 1, s.errCh ++ [err]⟩

def createBatches (create : Nat → CreateAnswer) (createDiff : Nat) :
    Nat → Nat → Nat → Calls → Nat × Calls
  | 0, pos, _, s => (pos, s)
  | fuel + 1, pos, batchSize, s =>
    if createDiff > pos then
      let s' := (List.range' pos batchSize).foldl (createPod create) s
      let skippedPods := createDiff - (batchSize + pos)
      if s.errCh.length < s'.errCh.length ∧ skippedPods > 0 then
        (pos + batchSize, { s' with expectations := s'.expectations.lower skippedPods 0 })
      else
        createBatches create createDiff fuel (pos + batchSize)
          (min (2 * batchSize) (createDiff - (pos + batchSize))) s'
    else (pos, s)

def slowStartInitialBatchSize : Nat := 1

def syncNodes (burstReplicas : Nat) (podsToDelete nodesNeedingDaemonPods : List String)
    (create : Nat → CreateAnswer) (delete : Nat → DeleteAnswer) : Nat × Calls :=
  let createDiff := min nodesNeedingDaemonPods.length burstReplicas
  let deleteDiff := min podsToDelete.length burstReplicas
  let (tried, s) := createBatches create createDiff createDiff 0
    (min createDiff slowStartInitialBatchSize) ⟨⟨createDiff, deleteDiff⟩, []⟩
  (tried, (List.range' 0 deleteDiff).foldl (deletePod delete) s)

def CreateAnswer.error? : CreateAnswer → Option String
  | .failed err => some err
  | _ => none

def DeleteAnswer.error? : DeleteAnswer → Option String
  | .failed err => some err
  | _ => none

def createErrors (create : Nat → CreateAnswer) (pos n : Nat) : List String :=
  (List.range' pos n).filterMap fun ix => (create ix).error?

theorem createErrors_add (create : Nat → CreateAnswer) (pos m n : Nat) :
    createErrors create pos (m + n)
      = createErrors create pos m ++ createErrors create (pos + m) n := by
  rw [createErrors, ← List.range'_append_1, List.filterMap_append]
  rfl

theorem foldl_createPod (create : Nat → CreateAnswer) (n : Nat) :
    ∀ (pos : Nat) (s : Calls), (List.range' pos n).foldl (createPod create) s
      = ⟨s.expectations.lower (createErrors create pos n).length 0,
          s.errCh ++ createErrors create pos n⟩ := by
  induction n with
  | zero =>
    intro pos s
    simp [createErrors, Expectations.lower]
  | succ n ih =>
    intro pos s
    rw [List.range'_succ, List.foldl_cons, ih, createErrors, createErrors, List.range'_succ]
    cases hix : create pos <;>
      simp [createPod, hix, CreateAnswer.error?, Expectations.lower]
    omega

/-- The creations tried: batches of doubling size, up to the first with an error. -/
structure SlowStart (create : Nat → CreateAnswer) (createDiff tried : Nat) : Prop where
  le : tried ≤ createDiff
  last : ∃ j pos, pos + 1 = 2 ^ j ∧ pos ≤ tried ∧ tried ≤ 2 * pos + 1 ∧
    createErrors create 0 pos = [] ∧
    (tried = createDiff ∨ tried = 2 * pos + 1 ∧ createErrors create 0 tried ≠ [])

theorem createBatches_of_done {create : Nat → CreateAnswer} (createDiff fuel batchSize : Nat)
    (s : Calls) :
    createBatches create createDiff fuel createDiff batchSize s = (createDiff, s) := by
  cases fuel with
  | zero => rfl
  | succ fuel => exact if_neg (Nat.lt_irrefl _)

theorem createBatches_spec (create : Nat → CreateAnswer) (createDiff : Nat) (deleteDiff : Int) :
    ∀ (fuel pos j : Nat), createDiff ≤ pos + fuel → pos ≤ createDiff → pos + 1 = 2 ^ j →
      createErrors create 0 pos = [] →
      ∃ tried, SlowStart create createDiff tried ∧
        createBatches create createDiff fuel pos (min (pos + 1) (createDiff - pos))
            ⟨⟨createDiff, deleteDiff⟩, []⟩
          = (tried, ⟨⟨tried - (createErrors create 0 tried).length, deleteDiff⟩,
              createErrors create 0 tried⟩) := by
  intro fuel
  induction fuel with
  | zero =>
    intro pos j hfuel hpos hj hnone
    obtain rfl : pos = createDiff := by omega
    refine ⟨pos, ⟨Nat.le_refl _, j, pos, hj, Nat.le_refl _, by omega, hnone, Or.inl rfl⟩, ?_⟩
    simp [createBatches, hnone]
  | succ fuel ih =>
    intro pos j hfuel hpos hj hnone
    rcases Nat.eq_or_lt_of_le hpos with rfl | hlt
    · refine ⟨pos, ⟨Nat.le_refl _, j, pos, hj, Nat.le_refl _, by omega, hnone, Or.inl rfl⟩, ?_⟩
      simp [createBatches_of_done, hnone]
    have hbatch := createErrors_add create 0 pos (min (pos + 1) (createDiff - pos))
    rw [hnone, List.nil_append, Nat.zero_add] at hbatch
    rw [createBatches, if_pos hlt, foldl_createPod, ← hbatch]
    by_cases hskip : createDiff - (min (pos + 1) (createDiff - pos) + pos) > 0
    · have hsize : min (pos + 1) (createDiff - pos) = pos + 1 := by omega
      have hend : pos + (pos + 1) = 2 * pos + 1 := by omega
      rw [hsize] at hskip ⊢
      rw [hend]
      by_cases herr : createErrors create 0 (2 * pos + 1) = []
      · have hnext := ih (2 * pos + 1) (j + 1) (by omega) (by omega) (by omega) herr
        rw [herr, if_neg (by simp)]
        simpa [Expectations.lower, Nat.mul_add] using hnext
      · refine ⟨2 * pos + 1, ⟨by omega, j, pos, hj, by omega, Nat.le_refl _, hnone,
          Or.inr ⟨rfl, herr⟩⟩, ?_⟩
        rw [if_pos ⟨List.length_pos_iff.mpr (by simpa using herr), hskip⟩]
        simp only [Expectations.lower, List.nil_append, Int.sub_zero, Prod.mk.injEq, Calls.mk.injEq,
          Expectations.mk.injEq, true_and, and_true]
        omega
    · have hend : pos + min (pos + 1) (createDiff - pos) = createDiff := by omega
      rw [if_neg fun h => hskip h.2, hend, createBatches_of_done]
      refine ⟨createDiff, ⟨Nat.le_refl _, j, pos, hj, hpos, by omega, hnone, Or.inl rfl⟩, ?_⟩
      simp [Expectations.lower]

theorem foldl_deletePod (delete : Nat → DeleteAnswer) (n : Nat) :
    ∀ (pos : Nat) (s : Calls), (List.range' pos n).foldl (deletePod delete) s
      = ⟨s.expectations.lower 0 (n - (List.range' pos n).countP fun ix => delete ix = .deleted),
          s.errCh ++ (List.range' pos n).filterMap fun ix => (delete ix).error?⟩ := by
  induction n with
  | zero =>
    intro pos s
    simp [Expectations.lower]
  | succ n ih =>
    intro pos s
    rw [List.range'_succ, List.foldl_cons, ih]
    cases hix : delete pos <;>
      simp [deletePod, hix, DeleteAnswer.error?, Expectations.lower]
    all_goals omega

theorem length_createErrors (create : Nat → CreateAnswer) (pos n : Nat) :
    ((createErrors create pos n).length : Int)
      = n - (List.range' pos n).countP fun ix => (create ix).error? = none := by
  induction n generalizing pos with
  | zero => rfl
  | succ n ih =>
    have hrest := ih (pos + 1)
    rw [createErrors] at hrest ⊢
    rw [List.range'_succ, List.filterMap_cons, List.countP_cons]
    cases (create pos).error? <;> simp <;> omega

/-- The expectations left are the pods created, refused for the namespace, or deleted. -/
theorem syncNodes_accounts (burstReplicas : Nat) (podsToDelete nodesNeedingDaemonPods : List String)
    (create : Nat → CreateAnswer) (delete : Nat → DeleteAnswer) :
    ∃ tried, SlowStart create (min nodesNeedingDaemonPods.length burstReplicas) tried ∧
      syncNodes burstReplicas podsToDelete nodesNeedingDaemonPods create delete = (tried, {
        expectations := {
          add := (List.range' 0 tried).countP fun ix => (create ix).error? = none
          del := (List.range' 0 (min podsToDelete.length burstReplicas)).countP fun ix =>
            delete ix = .deleted }
        errCh := createErrors create 0 tried ++
          (List.range' 0 (min podsToDelete.length burstReplicas)).filterMap fun ix =>
            (delete ix).error? }) := by
  obtain ⟨tried, hslow, hcreate⟩ := createBatches_spec create
    (min nodesNeedingDaemonPods.length burstReplicas) (min podsToDelete.length burstReplicas : Nat)
    _ 0 0 (Nat.le_add_left _ _) (Nat.zero_le _) rfl rfl
  have hinit : min (min nodesNeedingDaemonPods.length burstReplicas) slowStartInitialBatchSize
      = min (0 + 1) (min nodesNeedingDaemonPods.length burstReplicas - 0) := by
    rw [slowStartInitialBatchSize]
    omega
  refine ⟨tried, hslow, ?_⟩
  simp only [syncNodes, hinit, hcreate, foldl_deletePod, length_createErrors]
  simp only [Expectations.lower, Int.sub_zero, Prod.mk.injEq, Calls.mk.injEq,
    Expectations.mk.injEq, true_and, and_true]
  omega

end Kosmos.HostDaemon
