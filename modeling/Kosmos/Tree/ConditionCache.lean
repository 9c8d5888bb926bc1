import Kosmos.Tree.Conditions

/-!
# The cache of conditions over time: `clusterConditionStore`

For each cluster the last status, and since when: a change counts when it has lasted.

Times do not go back, and the zero time is past any threshold.
-/

namespace Kosmos.ConditionCache

open Go Kosmos.Tree

structure Call where
  cluster : String
  now : Nat
  curReadyConditions : List NodeCondition
  observedReadyConditions : List NodeCondition
  current : (findStatusCondition curReadyConditions).isSome
  observed : (findStatusCondition observedReadyConditions).isSome

abbrev ClusterConditionStore := GoMap String ClusterData

section Calls

variable (failure success : Int)

def call (store : ClusterConditionStore) (c : Call) :
    Outcome (List NodeCondition × ClusterConditionStore) := do
  let (conditions, saved) ← thresholdAdjustedReadyCondition (store.get? c.cluster) c.now
    c.curReadyConditions c.observedReadyConditions failure.toNat success.toNat
  pure (conditions, saved.elim store (store.set c.cluster))

def answer (earlier : List Call) (c : Call) : Outcome (List NodeCondition) := do
  let store ← earlier.foldlM (fun store e => Prod.snd <$> call failure success store e) .empty
  let (conditions, _) ← call failure success store c
  pure conditions

end Calls

def seenBy (earlier : List Call) (c : Call) : List Call :=
  (earlier.filter fun e => e.cluster = c.cluster) ++ [c]

/-- All observations for the threshold have the readiness. -/
def Lasted (threshold : Int) (seen : List Call) (now : Nat) (ready : Bool) : Prop :=
  (∀ e ∈ seen, isReady e.observedReadyConditions = ready) ∨
  ∃ before start since, seen = before ++ start :: since ∧ start.now + threshold ≤ now ∧
    ∀ e ∈ start :: since, isReady e.observedReadyConditions = ready

def Call.status (c : Call) : String :=
  ((findStatusCondition c.observedReadyConditions).get c.observed).status

theorem isReady_observed (c : Call) :
    isReady c.observedReadyConditions = decide (c.status = "True") := by
  obtain ⟨o, ho⟩ := Option.isSome_iff_exists.mp c.observed
  simp [isReady, Call.status, ho]

def note (store : ClusterConditionStore) (c : Call) : ClusterConditionStore :=
  store.set c.cluster (noteStatus (store.get? c.cluster) c.status c.now)

section Step

variable {failure success : Int}

def adjusted (failure success : Int) (saved : Option ClusterData) (c : Call) :
    List NodeCondition :=
  let ready := isReady c.observedReadyConditions
  if saved.isSome ∧ ready ≠ isReady c.curReadyConditions ∧
      (noteStatus saved c.status c.now).pending c.now
        (if ready then success else failure).toNat = true then c.curReadyConditions
  else c.observedReadyConditions

theorem call_eq (store : ClusterConditionStore) (c : Call) :
    call failure success store c =
      .ok (adjusted failure success (store.get? c.cluster) c, note store c) := by
  obtain ⟨o, ho⟩ := Option.isSome_iff_exists.mp c.observed
  obtain ⟨r, hr⟩ := Option.isSome_iff_exists.mp c.current
  have hstatus : c.status = o.status := by simp [Call.status, ho]
  cases hsaved : store.get? c.cluster with
  | none =>
    simp [call, thresholdAdjustedReadyCondition, adjusted, ho, hsaved, note, hstatus]
  | some data =>
    have hdiffer : ((o.status = "True" ∧ r.status ≠ "True") ∨
        (o.status ≠ "True" ∧ r.status = "True")) ↔
        isReady c.observedReadyConditions ≠ isReady c.curReadyConditions := by
      by_cases h : o.status = "True"
      · simp [isReady, ho, hr, h]
      · simp [isReady, ho, hr, h]
    have hready : isReady c.observedReadyConditions = decide (o.status = "True") := by
      simp [isReady, ho]
    simp only [call, thresholdAdjustedReadyCondition, ho, hr, hsaved, deref_some, ok_bind, hdiffer]
    simp [adjusted, note, hsaved, hstatus, hready, apply_ite Int.toNat]

theorem adjusted_differs {saved : Option ClusterData} {c : Call} (hsaved : saved.isSome = true)
    (h : isReady (adjusted failure success saved c) ≠ isReady c.curReadyConditions) :
    adjusted failure success saved c = c.observedReadyConditions ∧
    (noteStatus saved c.status c.now).pending c.now
      (if isReady (adjusted failure success saved c) then success else failure).toNat = false := by
  by_cases hheld : isReady c.observedReadyConditions ≠ isReady c.curReadyConditions ∧
      (noteStatus saved c.status c.now).pending c.now
        (if isReady c.observedReadyConditions then success else failure).toNat = true
  · rw [adjusted, if_pos ⟨hsaved, hheld⟩] at h
    exact absurd rfl h
  · have heq : adjusted failure success saved c = c.observedReadyConditions :=
      if_neg fun hand => hheld hand.2
    rw [heq] at h ⊢
    exact ⟨rfl, Bool.eq_false_iff.mpr fun hpending => hheld ⟨h, hpending⟩⟩

end Step

def Noted (seen : List Call) : Option ClusterData → Prop
  | none => seen = []
  | some ⟨status, none⟩ => ∀ e ∈ seen, e.status = status
  | some ⟨status, some start⟩ => ∃ before first since, seen = before ++ first :: since ∧
      first.now = start ∧ ∀ e ∈ first :: since, e.status = status

theorem noteStatus_noted {seen : List Call} {saved : Option ClusterData} (h : Noted seen saved)
    (c : Call) : Noted (seen ++ [c]) (some (noteStatus saved c.status c.now)) := by
  cases saved with
  | none =>
    rw [show seen = [] from h]
    simp [noteStatus, Noted]
  | some data =>
    obtain ⟨status, start⟩ := data
    by_cases hchanged : status = c.status
    · have hmore : ∀ l : List Call, (∀ e ∈ l, e.status = status) →
          ∀ e ∈ l ++ [c], e.status = status := fun l hl e he =>
        (List.mem_append.mp he).elim (hl e) fun he => List.mem_singleton.mp he ▸ hchanged.symm
      rw [noteStatus, if_neg (not_not_intro hchanged)]
      cases start with
      | none => exact hmore seen h
      | some start =>
        obtain ⟨before, first, since, rfl, hfirst, hsince⟩ := h
        exact ⟨before, first, since ++ [c], by simp, hfirst, hmore (first :: since) hsince⟩
    · rw [noteStatus, if_pos hchanged]
      exact ⟨seen, c, [], rfl, rfl, by simp⟩

theorem noteStatus_readyCondition (saved : Option ClusterData) (status : String) (now : Nat) :
    (noteStatus saved status now).readyCondition = status := by
  unfold noteStatus
  split
  · rfl
  · split
    · rfl
    next h => exact not_not.mp h

theorem get?_foldl_note (earlier : List Call) (cluster : String) :
    (earlier.foldl note .empty).get? cluster =
      (earlier.filter fun e => e.cluster = cluster).foldl
        (fun saved e => some (noteStatus saved e.status e.now)) none := by
  induction earlier using List.reverseRecOn with
  | nil => rfl
  | append_singleton earlier c ih =>
    rw [List.foldl_concat, note, GoMap.get?_set, List.filter_append]
    by_cases hc : c.cluster = cluster
    · simp [hc, ih]
    · simp [hc, ih, Ne.symm hc]

theorem noted_foldl (seen : List Call) :
    Noted seen (seen.foldl (fun saved e => some (noteStatus saved e.status e.now)) none) := by
  induction seen using List.reverseRecOn with
  | nil => exact rfl
  | append_singleton seen c ih =>
    rw [List.foldl_concat]
    exact noteStatus_noted ih c

theorem answer_eq (failure success : Int) (earlier : List Call) (c : Call) :
    answer failure success earlier c =
      .ok (adjusted failure success ((earlier.foldl note .empty).get? c.cluster) c) := by
  have hstore : ∀ store, earlier.foldlM (fun store e => Prod.snd <$> call failure success store e)
      store = (.ok (earlier.foldl note store) : Outcome _) := by
    induction earlier with
    | nil => exact fun _ => rfl
    | cons e earlier ih => exact fun store => by rw [List.foldlM_cons, call_eq]; exact ih _
  rw [answer, hstore, ok_bind, call_eq]
  rfl

/-- An answer depends on the own cluster only, and changes the readiness only if the observations
have lasted. -/
theorem answer_lasted (failure success : Int) (earlier : List Call) (c : Call) :
    ∃ conditions, answer failure success earlier c = .ok conditions ∧
      answer failure success (earlier.filter fun e => e.cluster = c.cluster) c = .ok conditions ∧
      ((∃ e ∈ earlier, e.cluster = c.cluster) →
        isReady conditions ≠ isReady c.curReadyConditions →
        Lasted (if isReady conditions then success else failure) (seenBy earlier c) c.now
          (isReady conditions)) := by
  let seen := earlier.filter fun e => e.cluster = c.cluster
  let saved := (earlier.foldl note .empty).get? c.cluster
  have hsaved : saved = seen.foldl (fun saved e => some (noteStatus saved e.status e.now)) none :=
    get?_foldl_note earlier c.cluster
  have hothers : (seen.foldl note .empty).get? c.cluster = saved := by
    rw [hsaved, get?_foldl_note, List.filter_filter]
    simp [seen]
  refine ⟨_, answer_eq failure success earlier c, ?_, fun hbefore hdiffer => ?_⟩
  · rw [answer_eq, hothers]
  · have hnoted : Noted seen saved := hsaved ▸ noted_foldl seen
    have hsome : saved.isSome = true := by
      obtain ⟨e, he, hcluster⟩ := hbefore
      refine Option.isSome_iff_ne_none.mpr fun hnone => ?_
      rw [hnone] at hnoted
      exact List.ne_nil_of_mem (List.mem_filter.mpr ⟨he, decide_eq_true hcluster⟩) hnoted
    obtain ⟨hobserved, hold⟩ := adjusted_differs hsome hdiffer
    have hready : ∀ e : Call, e.status = c.status →
        isReady e.observedReadyConditions = isReady c.observedReadyConditions := fun e he => by
      rw [isReady_observed, isReady_observed, he]
    have hnoted' : Noted (seenBy earlier c) (some (noteStatus saved c.status c.now)) :=
      noteStatus_noted hnoted c
    have hstatus := noteStatus_readyCondition saved c.status c.now
    rw [hobserved] at hold ⊢
    generalize noteStatus saved c.status c.now = data at hold hnoted' hstatus
    obtain ⟨status, start⟩ := data
    obtain rfl : status = c.status := hstatus
    cases start with
    | none => exact Or.inl fun e he => hready e (hnoted' e he)
    | some start =>
      obtain ⟨before, first, since, hseen, hfirst, hsince⟩ := hnoted'
      have hago : ¬ c.now < start + _ := of_decide_eq_false hold
      exact Or.inr ⟨before, first, since, hseen, by omega, fun e he => hready e (hsince e he)⟩

def checked (online : Bool) (now : Nat) : Call where
  cluster := "a"
  now := now
  curReadyConditions := getObservedReadyStatus false
  observedReadyConditions := getObservedReadyStatus online
  current := rfl
  observed := by cases online <;> rfl

theorem checked_lasted :
    answer 10 5 [checked false 0, checked true 10] (checked true 12) =
        .ok (getObservedReadyStatus false) ∧
      answer 10 5 [checked false 0, checked true 10] (checked true 20) =
        .ok (getObservedReadyStatus true) ∧
      Lasted 5 (seenBy [checked false 0, checked true 10] (checked true 20)) 20 true := by
  obtain ⟨conditions, hanswer, _, hlasted⟩ :=
    answer_lasted 10 5 [checked false 0, checked true 10] (checked true 20)
  have hready : conditions = getObservedReadyStatus true :=
    Except.ok.inj (hanswer.symm.trans (by decide +kernel))
  rw [hready] at hanswer hlasted
  exact ⟨by decide +kernel, hanswer, hlasted ⟨_, List.mem_cons_self, rfl⟩ (by decide)⟩

end Kosmos.ConditionCache
