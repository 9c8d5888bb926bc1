import Mathlib

/-!
# Joining the workers of `createVolumes`

Three tasks send their errors and ends through one channel, from which three messages are received.

Steps are taken in any order.
-/

namespace Kosmos.Workers

structure Task where
  failure : Option String
  unsent : List String

def messages (failure : Option String) : List String := failure.toList ++ [""]

structure State where
  tasks : List Task
  buffer : List String := []
  received : List String := []

def start (failures : List (Option String)) : State where
  tasks := failures.map fun failure => ⟨failure, messages failure⟩

inductive Step (n : Nat) : State → State → Prop
  | send {before after : List Task} {failure : Option String} {m : String}
      {unsent buffer received : List String} (room : buffer.length < n) :
      Step n ⟨before ++ ⟨failure, m :: unsent⟩ :: after, buffer, received⟩
        ⟨before ++ ⟨failure, unsent⟩ :: after, buffer ++ [m], received⟩
  | receive {tasks : List Task} {m : String} {buffer received : List String}
      (more : received.length < n) :
      Step n ⟨tasks, m :: buffer, received⟩ ⟨tasks, buffer, received ++ [m]⟩

def joinErrors (errs : List String) : Option String :=
  let errString := errs.foldl
    (fun errString e => if e.length > 0 then errString ++ e else errString) ""
  if errString.length > 0 then some errString else none

def State.sent (s : State) : List String := s.received ++ s.buffer

def State.left (s : State) : Nat := (s.tasks.map fun t => t.unsent.length).sum

/-- What a task has still to send are the last of its messages. -/
def Task.InTurn (sent : List String) (t : Task) : Prop :=
  t.unsent <:+ messages t.failure ∧
    (t.unsent = messages t.failure ∨ ∀ e, t.failure = some e → e ∈ sent)

/-- What was sent and what is left are the messages of the tasks. -/
structure Inv (failures : List (Option String)) (s : State) : Prop where
  tasks : s.tasks.map Task.failure = failures
  inTurn : ∀ t ∈ s.tasks, t.InTurn s.sent
  count : s.sent.length + s.left = (failures.map fun f => (messages f).length).sum
  only : ∀ m ∈ s.sent, m = "" ∨ some m ∈ failures
  quiet : ∀ p, p <+: s.sent → (∀ m ∈ p, m = "") → p.length ≤ failures.count none
  taken : s.received.length ≤ failures.length

variable {failures : List (Option String)} {s s' : State}

theorem inv_start : Inv failures (start failures) where
  tasks := by simp [start, Function.comp_def]
  inTurn := by simp [start, Task.InTurn]
  count := by simp [start, State.sent, State.left, Function.comp_def]
  only := by simp [start, State.sent]
  quiet p hp _ := by
    rw [List.prefix_nil.mp hp]
    exact Nat.zero_le _
  taken := Nat.zero_le _

theorem sum_messages_le {tasks : List Task}
    (h : ∀ t ∈ tasks, t.unsent = messages t.failure ∨ t.failure = none) :
    ((tasks.map Task.failure).map fun f => (messages f).length).sum ≤
      (tasks.map fun t => t.unsent.length).sum + (tasks.map Task.failure).count none := by
  induction tasks with
  | nil => exact Nat.zero_le _
  | cons t tasks ih =>
    rw [List.forall_mem_cons] at h
    have ih := ih h.2
    obtain ⟨failure, unsent⟩ := t
    cases failure with
    | none =>
      simp [messages] at ih ⊢
      omega
    | some e =>
      obtain rfl : unsent = messages (some e) := h.1.resolve_right (by simp)
      simp [messages] at ih ⊢
      omega

theorem Inv.step (h : Inv failures s) (hne : some "" ∉ failures)
    (hstep : Step failures.length s s') : Inv failures s' := by
  cases hstep with
  | @receive tasks m buffer received more =>
    have hsent : State.sent ⟨tasks, buffer, received ++ [m]⟩ =
        State.sent ⟨tasks, m :: buffer, received⟩ := by simp [State.sent]
    refine ⟨h.tasks, hsent ▸ h.inTurn, hsent ▸ h.count, hsent ▸ h.only, hsent ▸ h.quiet, ?_⟩
    simp
    omega
  | @send before after failure m unsent buffer received room =>
    have hsent : State.sent ⟨before ++ ⟨failure, unsent⟩ :: after, buffer ++ [m], received⟩ =
        received ++ buffer ++ [m] := by simp [State.sent]
    have htasks : (before ++ ⟨failure, unsent⟩ :: after).map Task.failure = failures := by
      rw [← h.tasks]
      simp
    obtain ⟨hbefore, ⟨hsuffix, htold⟩, hafter⟩ : (∀ t ∈ before, t.InTurn (received ++ buffer)) ∧
        Task.InTurn (received ++ buffer) ⟨failure, m :: unsent⟩ ∧
        ∀ t ∈ after, t.InTurn (received ++ buffer) := by
      simpa only [State.sent, List.forall_mem_append, List.forall_mem_cons] using h.inTurn
    have hinTurn : ∀ t ∈ before ++ ⟨failure, unsent⟩ :: after,
        t.InTurn (received ++ buffer ++ [m]) := by
      have hmore : ∀ t : Task, t.InTurn (received ++ buffer) →
          t.InTurn (received ++ buffer ++ [m]) :=
        fun t ht => ⟨ht.1, ht.2.imp_right fun he e hf => List.mem_append_left _ (he e hf)⟩
      rw [List.forall_mem_append, List.forall_mem_cons]
      refine ⟨fun t ht => hmore t (hbefore t ht), ⟨(List.suffix_cons m unsent).trans hsuffix, ?_⟩,
        fun t ht => hmore t (hafter t ht)⟩
      refine Or.inr fun e (hfailure : failure = some e) => ?_
      rcases htold with hfirst | hsaid
      · subst hfailure
        simp [(List.cons_eq_cons.mp hfirst).1]
      · exact List.mem_append_left _ (hsaid e hfailure)
    have hcount : (received ++ buffer ++ [m]).length +
        ((before ++ ⟨failure, unsent⟩ :: after).map fun t => t.unsent.length).sum =
          (failures.map fun f => (messages f).length).sum := by
      rw [← h.count]
      simp [State.sent, State.left]
      omega
    refine ⟨htasks, hsent ▸ hinTurn, hsent ▸ hcount, ?_, ?_, h.taken⟩
    · rw [hsent, List.forall_mem_append, List.forall_mem_singleton]
      refine ⟨h.only, ?_⟩
      rcases List.mem_append.mp (hsuffix.subset List.mem_cons_self) with hm | hm
      · refine Or.inr ?_
        rw [← htasks, ← Option.mem_toList.mp hm]
        simp
      · exact Or.inl (List.mem_singleton.mp hm)
    · rw [hsent]
      intro p hp hempty
      rcases List.prefix_concat_iff.mp hp with rfl | hp
      · -- all that was sent is empty, so the failed tasks are before their error
        have hle := sum_messages_le fun t ht => (hinTurn t ht).2.imp_right fun hsaid => by
          refine Option.eq_none_iff_forall_ne_some.mpr fun e he => hne ?_
          rw [← htasks, ← hempty e (hsaid e he), ← he]
          exact List.mem_map_of_mem ht
        rw [htasks, ← hcount] at hle
        omega
      · exact h.quiet p hp hempty

theorem inv_of_run (hne : some "" ∉ failures)
    (h : Relation.ReflTransGen (Step failures.length) (start failures) s) : Inv failures s := by
  induction h with
  | refl => exact inv_start
  | tail _ hstep ih => exact ih.step hne hstep

theorem sum_messages_bounds (failures : List (Option String)) :
    failures.length ≤ (failures.map fun f => (messages f).length).sum ∧
      (failures.map fun f => (messages f).length).sum ≤ 2 * failures.length := by
  induction failures with
  | nil => simp
  | cons f failures ih =>
    cases f with
    | none =>
      simp [messages] at ih ⊢
      omega
    | some e =>
      simp [messages] at ih ⊢
      omega

theorem Inv.ends (h : Inv failures s) (hend : ∀ s', ¬ Step failures.length s s') :
    s.received.length = failures.length ∧ ∀ t ∈ s.tasks, t.unsent = [] := by
  obtain ⟨tasks, buffer, received⟩ := s
  have hreceive : received.length < failures.length → buffer = [] := by
    intro hmore
    cases buffer with
    | nil => rfl
    | cons m buffer => exact absurd (Step.receive hmore) (hend _)
  have hleft : (tasks.map fun t => t.unsent.length).sum = 0 ↔ ∀ t ∈ tasks, t.unsent = [] := by
    simp [List.sum_eq_zero_iff_forall_eq_nat]
  have hsend : buffer.length < failures.length → ∀ t ∈ tasks, t.unsent = [] := by
    intro hroom t ht
    obtain ⟨before, after, rfl⟩ := List.append_of_mem ht
    obtain ⟨failure, unsent⟩ := t
    cases unsent with
    | nil => rfl
    | cons m unsent => exact absurd (Step.send hroom) (hend _)
  have hcount := h.count
  have htaken : received.length ≤ failures.length := h.taken
  obtain ⟨hall, htwice⟩ := sum_messages_bounds failures
  rw [← hleft] at hsend
  show received.length = _ ∧ ∀ t ∈ tasks, t.unsent = []
  rw [← hleft]
  simp only [State.sent, State.left, List.length_append] at hcount
  by_cases hmore : received.length < failures.length
  · -- nothing is left to receive, so all has been sent and received
    have hempty : buffer.length = 0 := List.length_eq_zero_iff.mpr (hreceive hmore)
    omega
  · omega

theorem Step.lowers {n : Nat} (hstep : Step n s s') :
    2 * s'.left + s'.buffer.length < 2 * s.left + s.buffer.length := by
  cases hstep with
  | send room =>
    simp [State.left]
    omega
  | receive more => simp [State.left]

theorem joinErrors_eq_none {errs : List String} : joinErrors errs = none ↔ ∀ e ∈ errs, e = "" := by
  have hloop : ∀ (errs : List String) (errString : String),
      errs.foldl (fun errString e => if e.length > 0 then errString ++ e else errString) errString
        = "" ↔ errString = "" ∧ ∀ e ∈ errs, e = "" := by
    intro errs
    induction errs with
    | nil => simp
    | cons e errs ih =>
      intro errString
      rw [List.foldl_cons, ih, List.forall_mem_cons, ← and_assoc]
      by_cases he : e = ""
      · simp [he]
      · simp [he, Nat.pos_iff_ne_zero]
  rw [joinErrors, ← (hloop errs "").trans (and_iff_right rfl)]
  generalize errs.foldl _ "" = errString
  by_cases h : errString = ""
  · simp [h]
  · simp [h, Nat.pos_iff_ne_zero]

def outcomes (configmap pvc secret : Option String) : List (Option String) :=
  [configmap.map ("create configmap failed: " ++ ·), pvc.map ("create pvc failed: " ++ ·),
    secret.map ("create secrets failed: " ++ ·)]

/-- However sends and receives take turns, there is an error exactly if a task failed; and the run
ends. -/
theorem createVolumes_joins (configmap pvc secret : Option String) :
    (∀ s, Relation.ReflTransGen (Step 3) (start (outcomes configmap pvc secret)) s →
      (s.received.length = 3 →
        (joinErrors s.received = none ↔ configmap = none ∧ pvc = none ∧ secret = none)) ∧
      ((∀ s', ¬ Step 3 s s') → s.received.length = 3 ∧ ∀ t ∈ s.tasks, t.unsent = [])) ∧
    ∀ run : Nat → State, ¬ ∀ k, Step 3 (run k) (run (k + 1)) := by
  refine ⟨fun s hrun => ?_, fun run hrun => ?_⟩
  · have hne : some "" ∉ outcomes configmap pvc secret := by
      have hfailed : ∀ (text : String) (err : Option String), text ≠ "" →
          some "" ≠ err.map (text ++ ·) := by
        intro text err htext h
        obtain ⟨e, -, he⟩ := Option.map_eq_some_iff.mp h.symm
        exact htext (String.append_eq_empty_iff.mp he).1
      simp [outcomes, hfailed]
    have h : Inv (outcomes configmap pvc secret) s := inv_of_run hne hrun
    have hlength : (outcomes configmap pvc secret).length = 3 := rfl
    have hall : configmap = none ∧ pvc = none ∧ secret = none ↔
        ∀ f ∈ outcomes configmap pvc secret, none = f := by
      simp [outcomes, eq_comm]
    refine ⟨fun hthree => ?_, fun hend => h.ends hend⟩
    rw [joinErrors_eq_none, hall]
    refine ⟨fun hempty => ?_, fun hnone m hm => ?_⟩
    · have hle := h.quiet s.received (List.prefix_append _ _) hempty
      exact List.count_eq_length.mp (Nat.le_antisymm List.count_le_length (by omega))
    · refine (h.only m (List.mem_append_left _ hm)).resolve_right fun hfailed => ?_
      cases hnone _ hfailed
  · have hlower : ∀ k, 2 * (run k).left + (run k).buffer.length + k ≤
        2 * (run 0).left + (run 0).buffer.length := by
      intro k
      induction k with
      | zero => exact Nat.le_refl _
      | succ k ih =>
        have hstep := (hrun k).lowers
        omega
    have hend := hlower (2 * (run 0).left + (run 0).buffer.length + 1)
    omega

end Kosmos.Workers
