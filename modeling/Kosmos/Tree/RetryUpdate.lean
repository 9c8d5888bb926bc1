import Kosmos.Mcs.ServiceImport

/-!
# Updates that are tried again

A read after a failed update replaces what was to be written (`updates_kept_iff`).
-/

namespace Kosmos.RetryUpdate

open Go Mcs

structure Answer (α : Type) where
  update : Option CallError
  get : Except CallError α

inductive Call (α : Type) where
  | update (object : α) (err : Option CallError)
  | get (result : Except CallError α)

structure Tries (α : Type) where
  object : α
  round : Nat := 0
  issued : List (Call α) := []

variable {α : Type}

def lastWritten : List (Call α) → Option α
  | [] => none
  | .update object none :: _ => some object
  | .update _ (some _) :: issued => lastWritten issued
  | .get _ :: issued => lastWritten issued

def Gone : List (Call α) → Prop
  | .update _ err :: _ => err = some .notFound
  | .get (.error err) :: _ => err = .notFound
  | .get (.ok _) :: _ => False
  | [] => False

def sliceTry (answers : Nat → Answer α) (s : Tries α) : Option CallError × Tries α :=
  let answer := answers s.round
  let issued := .update s.object answer.update :: s.issued
  match answer.update with
  | some .notFound => (none, ⟨s.object, s.round + 1, issued⟩)
  | none => (none, ⟨s.object, s.round + 1, issued⟩)
  | some updateErr =>
    let issued := .get answer.get :: issued
    match answer.get with
    | .ok newEps => (some updateErr, ⟨newEps, s.round + 1, issued⟩)
    | .error .notFound => (none, ⟨s.object, s.round + 1, issued⟩)
    | .error _ => (some updateErr, ⟨s.object, s.round + 1, issued⟩)

def retrySlice (steps : Int) (answers : Nat → Answer α) (eps : α) : Option CallError × Tries α :=
  retryOnConflict (defaultUpdateRetrySteps steps) (sliceTry answers) ⟨eps, 0, []⟩

def ServiceImportController.updateEndpointSlice (steps : Int)
    (answers : Nat → Answer EndpointSlice) (eps : EndpointSlice) :
    Option CallError × Tries EndpointSlice :=
  retrySlice steps answers eps

def SimpleSyncEPSController.updateEndpointSlice (steps : Int)
    (answers : Nat → Answer EndpointSlice) (slice : EndpointSlice) :
    Option CallError × Tries EndpointSlice :=
  retrySlice steps answers slice

structure ServiceAccount where
  ns : String
  name : String
  secrets : List String := []
  labels : GoMap String String := .empty
  annotations : GoMap String String := .empty

def serviceAccountTry (secretName : String) (answers : Nat → Answer ServiceAccount)
    (s : Tries ServiceAccount) : Option CallError × Tries ServiceAccount :=
  let answer := answers s.round
  let saCopy := { s.object with secrets := [secretName] }
  let issued := .update saCopy answer.update :: s.issued
  match answer.update with
  | none => (none, ⟨saCopy, s.round + 1, issued⟩)
  | some _ =>
    let issued := .get answer.get :: issued
    match answer.get with
    | .ok newServiceAccount => (none, ⟨newServiceAccount, s.round + 1, issued⟩)
    | .error err => (some err, ⟨saCopy, s.round + 1, issued⟩)

def defaultRetrySteps : Nat := 5

def updateServiceAccountObjectReferenceRetry (secretName : String)
    (answers : Nat → Answer ServiceAccount) (saCopy : ServiceAccount) :
    Option CallError × Tries ServiceAccount :=
  retryOnConflict defaultRetrySteps (serviceAccountTry secretName answers) ⟨saCopy, 0, []⟩

def answerOf (updates : Nat → TryAnswer) (s : Mcs.Tries) : Answer EndpointSlice :=
  let written := answered (updates s.round).update (s.slices.update s.eps) s.slices
  { update := written.1
    get := match (updates s.round).get with
      | some err => .error err
      | none => ((written.2.get? s.eps.key).map .ok).getD (.error .notFound) }

theorem sliceTry_eq (updates : Nat → TryAnswer) (answers : Nat → Answer EndpointSlice)
    {s : Mcs.Tries} {t : Tries EndpointSlice} (hobject : t.object = s.eps)
    (hanswer : answers t.round = answerOf updates s) :
    (Mcs.sliceTry updates s).1 = (sliceTry answers t).1 ∧
      (sliceTry answers t).2.round = t.round + 1 ∧
      (sliceTry answers t).2.object = (Mcs.sliceTry updates s).2.eps := by
  unfold Mcs.sliceTry sliceTry
  rw [hanswer, answerOf, hobject]
  dsimp only
  rcases answered (updates s.round).update (s.slices.update s.eps) s.slices with
    ⟨_ | (_ | _ | _ | msg), slices⟩
  · simp
  all_goals rcases (updates s.round).get with _ | (_ | _ | _ | msg) <;>
    cases hget : slices.get? s.eps.key <;> simp [hget]

theorem updateEndpointSlice_eq (steps : Int) (updates : Nat → TryAnswer) (eps : EndpointSlice)
    (slices : Slices) :
    (Mcs.updateEndpointSlice steps updates eps slices).1 =
      (retrySlice steps
        (fun i => answerOf updates (tried (Mcs.sliceTry updates) ⟨eps, 0, slices⟩ i)) eps).1 := by
  refine (retryOnConflict_simulates (fun s t => s = tried (Mcs.sliceTry updates) ⟨eps, 0, slices⟩
    t.round ∧ t.object = s.eps) (fun s t h => ?_) _ ⟨rfl, rfl⟩).1
  obtain ⟨herr, hround, hobject⟩ := sliceTry_eq updates (fun i =>
    answerOf updates (tried (Mcs.sliceTry updates) ⟨eps, 0, slices⟩ i)) h.2 (by rw [← h.1])
  refine ⟨herr, ?_, hobject⟩
  rw [hround, tried_succ, ← h.1]

/-- If the call returns nil, an object that exists was last written as wanted. -/
def Kept (wanted : α → Prop) (result : Option CallError × Tries α) : Prop :=
  result.1 = none → ¬ Gone result.2.issued →
    ∃ written, lastWritten result.2.issued = some written ∧ wanted written

/-- The two slices have one content. -/
def HasContent (slice eps : EndpointSlice) : Prop :=
  eps.endpoints = slice.endpoints ∧ eps.ports = slice.ports ∧ eps.labels = slice.labels ∧
    eps.annotations = slice.annotations

/-- A try ends in a conflict if its answer has `again`, and writes nothing. -/
structure TakesTurns (answers : Nat → Answer α) (fn : Tries α → Option CallError × Tries α)
    (again : Answer α → Prop) : Prop where
  conflict : ∀ s, (fn s).1 = some .conflict ↔ again (answers s.round)
  round : ∀ s, (fn s).2.round = s.round + 1
  written : ∀ s, (fn s).1 = some .conflict →
    lastWritten (fn s).2.issued = lastWritten s.issued

namespace TakesTurns

variable {answers : Nat → Answer α} {fn : Tries α → Option CallError × Tries α}
  {again : Answer α → Prop} {object : α} {k : Nat}

theorem tried_round (h : TakesTurns answers fn again) (object : α) (k : Nat) :
    (tried fn ⟨object, 0, []⟩ k).round = k := by
  induction k with
  | zero => rfl
  | succ k ih => rw [tried_succ, h.round, ih]

theorem tried_written (h : TakesTurns answers fn again) (object : α)
    (hagain : ∀ i < k, again (answers i)) :
    lastWritten (tried fn ⟨object, 0, []⟩ k).issued = none := by
  induction k with
  | zero => rfl
  | succ k ih =>
    have hconflict : (fn (tried fn ⟨object, 0, []⟩ k)).1 = some .conflict := by
      rw [h.conflict, h.tried_round]
      exact hagain k (by omega)
    rw [tried_succ, h.written _ hconflict]
    exact ih fun i hi => hagain i (by omega)

theorem failsUntil_iff (h : TakesTurns answers fn again) :
    FailsUntil (fun e => e = .conflict) fn ⟨object, 0, []⟩ k ↔ ∀ i < k, again (answers i) := by
  refine forall₂_congr fun i _ => ?_
  have hround := h.tried_round object i
  constructor
  · rintro ⟨e, he, hretry⟩
    rw [of_decide_eq_true hretry, h.conflict, hround] at he
    exact he
  · intro hagain
    refine ⟨.conflict, ?_, decide_eq_true rfl⟩
    rw [h.conflict, hround]
    exact hagain

theorem nil_iff (h : TakesTurns answers fn again) {steps : Nat} (hsteps : 0 < steps) :
    (retryOnConflict steps fn ⟨object, 0, []⟩).1 = none ↔
      ∃ k < steps, (∀ i < k, again (answers i)) ∧ (fn (tried fn ⟨object, 0, []⟩ k)).1 = none := by
  rw [retryOnConflict, onError_nil_iff (by omega)]
  simp only [h.failsUntil_iff]

theorem result_eq (h : TakesTurns answers fn again) {steps : Nat} (hk : k < steps)
    (hagain : ∀ i < k, again (answers i)) (hnil : (fn (tried fn ⟨object, 0, []⟩ k)).1 = none) :
    retryOnConflict steps fn ⟨object, 0, []⟩ = fn (tried fn ⟨object, 0, []⟩ k) :=
  onError_of_failsUntil hk (h.failsUntil_iff.mpr hagain) hnil

end TakesTurns

section Slices

variable {answers : Nat → Answer α} {eps : α} {k : Nat}

def SliceConflict (answer : Answer α) : Prop :=
  answer.update = some .conflict ∧ answer.get ≠ .error .notFound

def objectAt (answers : Nat → Answer α) (eps : α) : Nat → α
  | 0 => eps
  | k + 1 =>
    match (answers k).get with
    | .ok newEps => newEps
    | .error _ => objectAt answers eps k

theorem takesTurns_slice (answers : Nat → Answer α) :
    TakesTurns answers (sliceTry answers) SliceConflict where
  conflict s := by
    unfold sliceTry SliceConflict
    generalize answers s.round = answer
    rcases answer with ⟨_ | _ | _ | _, (_ | _ | _) | _⟩ <;> simp
  round s := by
    unfold sliceTry
    generalize answers s.round = answer
    rcases answer with ⟨_ | _ | _ | _, (_ | _ | _) | _⟩ <;> rfl
  written s := by
    unfold sliceTry
    generalize answers s.round = answer
    rcases answer with ⟨_ | _ | _ | _, (_ | _ | _) | _⟩ <;> simp [lastWritten]

theorem sliceTry_object {s : Tries α} (h : SliceConflict (answers s.round)) :
    (sliceTry answers s).2.object =
      match (answers s.round).get with
      | .ok newEps => newEps
      | .error _ => s.object := by
  unfold sliceTry
  revert h
  generalize answers s.round = answer
  rcases answer with ⟨_ | _ | _ | _, (_ | _ | _) | _⟩ <;> simp [SliceConflict]

theorem tried_object (h : ∀ i < k, SliceConflict (answers i)) :
    (tried (sliceTry answers) ⟨eps, 0, []⟩ k).object = objectAt answers eps k := by
  induction k with
  | zero => rfl
  | succ k ih =>
    have hround := (takesTurns_slice answers).tried_round eps k
    have hobject := sliceTry_object (s := tried (sliceTry answers) ⟨eps, 0, []⟩ k) (by
      rw [hround]
      exact h k (by omega))
    rw [tried_succ, hobject, hround, ih fun i hi => h i (by omega)]
    rfl

theorem sliceTry_done {s : Tries α} (h : (answers s.round).update = none) :
    sliceTry answers s =
      (none, ⟨s.object, s.round + 1, .update s.object none :: s.issued⟩) := by
  simp only [sliceTry, h]

theorem sliceTry_writes {s : Tries α} (hnil : (sliceTry answers s).1 = none)
    (hgone : ¬ Gone (sliceTry answers s).2.issued) :
    (answers s.round).update = none ∧
      lastWritten (sliceTry answers s).2.issued = some s.object := by
  unfold sliceTry at hnil hgone ⊢
  revert hnil hgone
  generalize answers s.round = answer
  rcases answer with ⟨_ | _ | _ | _, (_ | _ | _) | _⟩ <;> simp [Gone, lastWritten]

/-- The try that succeeds has what is wanted in hand. -/
def SliceInHand (steps : Int) (answers : Nat → Answer α) (eps : α) (wanted : α → Prop) : Prop :=
  ∀ k < defaultUpdateRetrySteps steps, (∀ i < k, SliceConflict (answers i)) →
    (answers k).update = none → wanted (objectAt answers eps k)

theorem kept_slice_iff {steps : Int} {wanted : α → Prop} :
    Kept wanted (retrySlice steps answers eps) ↔ SliceInHand steps answers eps wanted := by
  have hturns := takesTurns_slice answers
  unfold Kept retrySlice
  constructor
  · intro h k hk hagain hupdate
    have htry := sliceTry_done (s := tried (sliceTry answers) ⟨eps, 0, []⟩ k) (by
      rw [hturns.tried_round]
      exact hupdate)
    rw [hturns.result_eq hk hagain (by rw [htry]), htry] at h
    obtain ⟨written, hwritten, hwanted⟩ := h rfl (by simp [Gone])
    rw [lastWritten, tried_object hagain] at hwritten
    exact Option.some.inj hwritten ▸ hwanted
  · intro h hnil hgone
    obtain ⟨k, hk, hagain, hend⟩ := (hturns.nil_iff (defaultUpdateRetrySteps_pos steps)).mp hnil
    rw [hturns.result_eq hk hagain hend] at hgone ⊢
    obtain ⟨hupdate, hwritten⟩ := sliceTry_writes hend hgone
    rw [hturns.tried_round] at hupdate
    rw [tried_object hagain] at hwritten
    exact ⟨_, hwritten, h k hk hagain hupdate⟩

end Slices

section ServiceAccounts

variable {answers : Nat → Answer ServiceAccount} {secretName : String} {saCopy : ServiceAccount}

def ReadConflict (answer : Answer ServiceAccount) : Prop :=
  answer.update ≠ none ∧ answer.get = .error .conflict

theorem takesTurns_serviceAccount (secretName : String) (answers : Nat → Answer ServiceAccount) :
    TakesTurns answers (serviceAccountTry secretName answers) ReadConflict where
  conflict s := by
    unfold serviceAccountTry ReadConflict
    generalize answers s.round = answer
    rcases answer with ⟨_ | _, _ | _⟩ <;> simp
  round s := by
    unfold serviceAccountTry
    generalize answers s.round = answer
    rcases answer with ⟨_ | _, _ | _⟩ <;> rfl
  written s := by
    unfold serviceAccountTry
    generalize answers s.round = answer
    rcases answer with ⟨_ | _, _ | _⟩ <;> simp [lastWritten]

theorem serviceAccountTry_nil {s : Tries ServiceAccount}
    (h : (serviceAccountTry secretName answers s).1 = none) :
    (lastWritten (serviceAccountTry secretName answers s).2.issued =
        some { s.object with secrets := [secretName] }) ∨
    ((answers s.round).update ≠ none ∧ ∃ sa, (answers s.round).get = .ok sa) := by
  unfold serviceAccountTry at h ⊢
  revert h
  generalize answers s.round = answer
  rcases answer with ⟨_ | _, _ | _⟩ <;> simp [lastWritten]

theorem serviceAccountTry_read (secretName : String) (s : Tries ServiceAccount)
    {sa : ServiceAccount} (hupdate : (answers s.round).update ≠ none)
    (hget : (answers s.round).get = .ok sa) :
    (serviceAccountTry secretName answers s).1 = none ∧
    ¬ Gone (serviceAccountTry secretName answers s).2.issued ∧
    lastWritten (serviceAccountTry secretName answers s).2.issued = lastWritten s.issued := by
  unfold serviceAccountTry
  revert hupdate hget
  generalize answers s.round = answer
  rcases answer with ⟨_ | _, _ | _⟩ <;> simp [Gone, lastWritten]

/-- Where the update of a try fails, so does its read. -/
def ReadsFail (answers : Nat → Answer ServiceAccount) : Prop :=
  ∀ k < defaultRetrySteps, (∀ i < k, ReadConflict (answers i)) →
    (answers k).update ≠ none → ∀ sa, (answers k).get ≠ .ok sa

theorem kept_serviceAccount_iff :
    Kept (fun sa => sa.secrets = [secretName])
        (updateServiceAccountObjectReferenceRetry secretName answers saCopy) ↔
      ReadsFail answers := by
  have hturns := takesTurns_serviceAccount secretName answers
  unfold Kept updateServiceAccountObjectReferenceRetry
  constructor
  · intro h k hk hagain hupdate sa hget
    rw [← hturns.tried_round saCopy k] at hupdate hget
    obtain ⟨hnil, hgone, hwritten⟩ :=
      serviceAccountTry_read secretName
        (tried (serviceAccountTry secretName answers) ⟨saCopy, 0, []⟩ k)
        hupdate hget
    rw [hturns.result_eq hk hagain hnil] at h
    obtain ⟨written, hlast, -⟩ := h hnil hgone
    rw [hwritten, hturns.tried_written saCopy hagain] at hlast
    cases hlast
  · intro h hnil _
    obtain ⟨k, hk, hagain, hend⟩ := (hturns.nil_iff (by decide)).mp hnil
    rw [hturns.result_eq hk hagain hend]
    rcases serviceAccountTry_nil hend with hwritten | ⟨hupdate, sa, hget⟩
    · exact ⟨_, hwritten, rfl⟩
    · rw [hturns.tried_round] at hupdate hget
      exact absurd hget (h k hk hagain hupdate sa)

end ServiceAccounts

/-- No update is lost exactly if the slice in hand has the content, and no failed update is followed
by a read. -/
theorem updates_kept_iff (steps : Int) (eps slice : EndpointSlice) (secretName : String)
    (saCopy : ServiceAccount) (answers answers' : Nat → Answer EndpointSlice)
    (answersSa : Nat → Answer ServiceAccount) :
    (Kept (HasContent eps) (ServiceImportController.updateEndpointSlice steps answers eps) ↔
      SliceInHand steps answers eps (HasContent eps)) ∧
    (Kept (HasContent slice) (SimpleSyncEPSController.updateEndpointSlice steps answers' slice) ↔
      SliceInHand steps answers' slice (HasContent slice)) ∧
    (Kept (fun sa => sa.secrets = [secretName])
        (updateServiceAccountObjectReferenceRetry secretName answersSa saCopy) ↔
      ReadsFail answersSa) :=
  ⟨kept_slice_iff, kept_slice_iff, kept_serviceAccount_iff⟩

def sliceAt (port : Nat) : EndpointSlice where
  ns := "default"
  name := "web-1"
  addressType := .ipv4
  endpoints := []
  ports := [{ port := some port }]

def conflictOnce {α : Type} (stored : α) (round : Nat) : Answer α :=
  ⟨if round = 0 then some .conflict else none, .ok stored⟩

theorem conflictOnce_loses_update :
    ¬ Kept (HasContent (sliceAt 80)) (ServiceImportController.updateEndpointSlice 5
        (conflictOnce (sliceAt 8080)) (sliceAt 80)) ∧
    ¬ Kept (HasContent (sliceAt 80)) (SimpleSyncEPSController.updateEndpointSlice 5
        (conflictOnce (sliceAt 8080)) (sliceAt 80)) ∧
    ¬ Kept (fun sa => sa.secrets = ["token"]) (updateServiceAccountObjectReferenceRetry "token"
        (conflictOnce { ns := "default", name := "web" }) { ns := "default", name := "web" }) := by
  have hslice : ¬ Kept (HasContent (sliceAt 80)) (retrySlice 5 (conflictOnce (sliceAt 8080))
      (sliceAt 80)) := by
    intro h
    have hexists : ¬ Gone (retrySlice 5 (conflictOnce (sliceAt 8080)) (sliceAt 80)).2.issued := by
      show ¬ (none = some CallError.notFound)
      simp
    obtain ⟨written, hwritten, -, hports, -⟩ := h rfl hexists
    cases hwritten
    revert hports
    decide
  refine ⟨hslice, hslice, fun h => ?_⟩
  obtain ⟨written, hwritten, -⟩ := h rfl id
  cases hwritten

end Kosmos.RetryUpdate
