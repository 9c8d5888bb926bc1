import Kosmos.Go.Keyed
import Mathlib.Data.List.Basic

/-!
# Stores of objects

What an API server keeps of one kind: objects with distinct keys.
-/

namespace Kosmos.Go

inductive ApiError where
  | notFound
  | alreadyExists
  | other (msg : String)
  deriving DecidableEq

structure Store {α κ : Type} (key : α → κ) where
  objects : List α
  nodup : (objects.map key).Nodup

namespace Store

variable {α κ : Type} {key : α → κ} [DecidableEq κ] {s s' : Store key} {a x : α} {k : κ}

def empty : Store key := ⟨[], List.nodup_nil⟩

def get? (s : Store key) (k : κ) : Option α := s.objects.find? fun x => key x = k

def create (s : Store key) (a : α) : Except ApiError (Store key) :=
  if h : ∀ x ∈ s.objects, key x ≠ key a then
    .ok ⟨s.objects ++ [a], nodup_append_key s.nodup h⟩
  else .error .alreadyExists

def update (s : Store key) (a : α) : Except ApiError (Store key) :=
  if (s.get? (key a)).isSome then
    .ok ⟨s.objects.map fun x => if key x = key a then a else x, by
      rw [map_key_replace]
      exact s.nodup⟩
  else .error .notFound

def delete (s : Store key) (k : κ) : Except ApiError (Store key) :=
  if (s.get? k).isSome then
    .ok ⟨s.objects.filter fun x => key x ≠ k, s.nodup.sublist (List.filter_sublist.map _)⟩
  else .error .notFound

def deleteAllOf (s : Store key) (p : α → Bool) : Store key where
  objects := s.objects.filter fun x => !p x
  nodup := s.nodup.sublist (List.filter_sublist.map _)

theorem get?_eq_some : s.get? k = some x ↔ x ∈ s.objects ∧ key x = k :=
  find?_key_eq_some s.nodup

theorem get?_eq_none : s.get? k = none ↔ ∀ x ∈ s.objects, key x ≠ k :=
  find?_key_eq_none

theorem get?_isSome_of_mem (hx : x ∈ s.objects) : (s.get? (key x)).isSome = true :=
  Option.isSome_of_eq_some (get?_eq_some.mpr ⟨hx, rfl⟩)

theorem mem_create (h : s.create a = .ok s') : x ∈ s'.objects ↔ x ∈ s.objects ∨ x = a := by
  unfold create at h
  split at h
  · cases h
    rw [List.mem_append, List.mem_singleton]
  · cases h

theorem create_free (h : s.create a = .ok s') : ∀ x ∈ s.objects, key x ≠ key a := by
  unfold create at h
  split at h
  next hfree => exact hfree
  · cases h

theorem mem_update (h : s.update a = .ok s') :
    x ∈ s'.objects ↔ x = a ∨ x ∈ s.objects ∧ key x ≠ key a := by
  unfold update at h
  split at h
  next hsome =>
    cases h
    obtain ⟨y, hy⟩ := Option.isSome_iff_exists.mp hsome
    obtain ⟨hmem, hkey⟩ := get?_eq_some.mp hy
    exact mem_replace ⟨y, hmem, hkey⟩
  · cases h

theorem update_of_mem (h : a ∈ s.objects) : s.update a = .ok s := by
  unfold update
  rw [if_pos (get?_isSome_of_mem h)]
  obtain ⟨objects, nodup⟩ := s
  have hself := replace_self nodup h
  simp only [hself]

theorem create_or_update (s : Store key) (a : α) :
    (∃ s', s.create a = .ok s' ∧
      ∀ x, x ∈ s'.objects ↔ x = a ∨ x ∈ s.objects ∧ key x ≠ key a) ∨
    (s.create a = .error .alreadyExists ∧ ∃ s', s.update a = .ok s' ∧
      ∀ x, x ∈ s'.objects ↔ x = a ∨ x ∈ s.objects ∧ key x ≠ key a) := by
  by_cases hfree : ∀ x ∈ s.objects, key x ≠ key a
  · refine Or.inl ⟨_, dif_pos hfree, fun x => ?_⟩
    rw [List.mem_append, List.mem_singleton, or_comm]
    exact or_congr_right ⟨fun hx => ⟨hx, hfree x hx⟩, And.left⟩
  · have hsome : (s.get? (key a)).isSome = true :=
      Option.isSome_iff_ne_none.mpr fun hnone => hfree (get?_eq_none.mp hnone)
    exact Or.inr ⟨dif_neg hfree, _, if_pos hsome, fun x => mem_update (if_pos hsome)⟩

theorem mem_delete (h : s.delete k = .ok s') : x ∈ s'.objects ↔ x ∈ s.objects ∧ key x ≠ k := by
  unfold delete at h
  split at h
  · cases h
    exact mem_filter_key_ne
  · cases h

theorem get?_of_update_error {e : ApiError} (h : s.update a = .error e) :
    s.get? (key a) = none := by
  unfold update at h
  split at h
  · cases h
  next hnone => exact Option.not_isSome_iff_eq_none.mp hnone

theorem get?_of_delete_error {e : ApiError} (h : s.delete k = .error e) : s.get? k = none := by
  unfold delete at h
  split at h
  · cases h
  next hnone => exact Option.not_isSome_iff_eq_none.mp hnone

theorem get?_create (h : s.create a = .ok s') (j : κ) :
    s'.get? j = if j = key a then some a else s.get? j := by
  refine Option.ext fun x => ?_
  rw [get?_eq_some, mem_create h]
  split
  next hj =>
    rw [hj, Option.some.injEq]
    constructor
    · rintro ⟨hx | rfl, hkey⟩
      · exact absurd hkey (create_free h x hx)
      · rfl
    · rintro rfl
      exact ⟨Or.inr rfl, rfl⟩
  next hj =>
    rw [get?_eq_some]
    refine and_congr_left fun hkey => or_iff_left ?_
    rintro rfl
    exact hj hkey.symm

theorem get?_update (h : s.update a = .ok s') (j : κ) :
    s'.get? j = if j = key a then some a else s.get? j := by
  refine Option.ext fun x => ?_
  rw [get?_eq_some, mem_update h]
  split
  next hj =>
    rw [hj, Option.some.injEq]
    constructor
    · rintro ⟨rfl | ⟨-, hne⟩, hkey⟩
      · rfl
      · exact absurd hkey hne
    · rintro rfl
      exact ⟨Or.inl rfl, rfl⟩
  next hj =>
    rw [get?_eq_some]
    refine and_congr_left fun hkey => ?_
    have hne : key x ≠ key a := fun heq => hj (hkey.symm.trans heq)
    constructor
    · rintro (rfl | ⟨hx, -⟩)
      · exact absurd rfl hne
      · exact hx
    · exact fun hx => Or.inr ⟨hx, hne⟩

theorem get?_delete (h : s.delete k = .ok s') (j : κ) :
    s'.get? j = if j = k then none else s.get? j := by
  refine Option.ext fun x => ?_
  rw [get?_eq_some, mem_delete h]
  split
  next hj =>
    rw [hj]
    simp only [reduceCtorEq, iff_false]
    rintro ⟨⟨-, hne⟩, hkey⟩
    exact hne hkey
  next hj =>
    rw [get?_eq_some]
    refine and_congr_left fun hkey => and_iff_left fun heq => hj (hkey.symm.trans heq)

def overwrite (s : Store key) (a : α) : Store key :=
  match s.update a with
  | .ok s' => s'
  | .error _ => s

theorem overwrite_eq (h : (s.get? (key a)).isSome = true) : s.update a = .ok (s.overwrite a) := by
  have hupdate : s.update a = .ok _ := if_pos h
  rw [overwrite, hupdate]

theorem mem_overwrite (hx : x ∈ (s.overwrite a).objects) : x = a ∨ x ∈ s.objects := by
  unfold overwrite at hx
  split at hx
  next s' hupdate => exact ((mem_update hupdate).mp hx).imp_right And.left
  · exact Or.inr hx

theorem get?_overwrite (h : (s.get? (key a)).isSome = true) (j : κ) :
    (s.overwrite a).get? j = if j = key a then some a else s.get? j :=
  get?_update (overwrite_eq h) j

def remove (s : Store key) (k : κ) : Store key :=
  match s.delete k with
  | .ok s' => s'
  | .error _ => s

theorem get?_remove (j : κ) : (s.remove k).get? j = if j = k then none else s.get? j := by
  unfold remove
  split
  next s' hdelete => exact get?_delete hdelete j
  next e hdelete =>
    unfold delete at hdelete
    split at hdelete
    · cases hdelete
    next hnone =>
      split
      next hj =>
        rw [hj]
        exact Option.not_isSome_iff_eq_none.mp hnone
      · rfl

theorem mem_remove (hx : x ∈ (s.remove k).objects) : x ∈ s.objects := by
  unfold remove at hx
  split at hx
  next s' hdelete => exact ((mem_delete hdelete).mp hx).1
  · exact hx

def insert (s : Store key) (a : α) : Store key :=
  match s.create a with
  | .ok s' => s'
  | .error _ => s

theorem mem_insert (hx : x ∈ (s.insert a).objects) : x = a ∨ x ∈ s.objects := by
  unfold insert at hx
  split at hx
  next s' hcreate => exact ((mem_create hcreate).mp hx).symm
  · exact Or.inr hx

theorem get?_insert (j : κ) :
    (s.insert a).get? j = if j = key a ∧ s.get? j = none then some a else s.get? j := by
  unfold insert
  split
  next s' hcreate =>
    rw [get?_create hcreate]
    have hfree : s.get? (key a) = none := get?_eq_none.mpr (create_free hcreate)
    by_cases hj : j = key a
    · rw [if_pos hj, if_pos ⟨hj, hj ▸ hfree⟩]
    · rw [if_neg hj, if_neg fun h => hj h.1]
  next e hcreate =>
    rw [if_neg]
    rintro ⟨rfl, hnone⟩
    unfold create at hcreate
    rw [dif_pos (get?_eq_none.mp hnone)] at hcreate
    cases hcreate

omit [DecidableEq κ] in
theorem mem_deleteAllOf {p : α → Bool} :
    x ∈ (s.deleteAllOf p).objects ↔ x ∈ s.objects ∧ p x = false := by
  rw [deleteAllOf, List.mem_filter, Bool.not_eq_true']

def Has (p : α → Bool) (s : Store key) (k : κ) : Prop := ∃ x, s.get? k = some x ∧ p x = true

section Has

variable {p : α → Bool} {j : κ}

theorem has_iff_mem : s.Has p j ↔ ∃ x ∈ s.objects, key x = j ∧ p x = true := by
  simp only [Has, get?_eq_some, and_assoc]

theorem has_create (h : s.create a = .ok s') :
    s'.Has p j ↔ (j = key a ∧ p a = true) ∨ s.Has p j := by
  simp only [has_iff_mem, mem_create h]
  constructor
  · rintro ⟨x, hx | rfl, hkey, hp⟩
    · exact Or.inr ⟨x, hx, hkey, hp⟩
    · exact Or.inl ⟨hkey.symm, hp⟩
  · rintro (⟨rfl, hp⟩ | ⟨x, hx, hkey, hp⟩)
    · exact ⟨a, Or.inr rfl, rfl, hp⟩
    · exact ⟨x, Or.inl hx, hkey, hp⟩

theorem has_update (h : s.update a = .ok s') :
    s'.Has p j ↔ (j = key a ∧ p a = true) ∨ (j ≠ key a ∧ s.Has p j) := by
  simp only [Has, get?_update h]
  by_cases hj : j = key a
  · simp [hj]
  · simp [hj]

theorem has_delete (h : s.delete k = .ok s') : s'.Has p j ↔ j ≠ k ∧ s.Has p j := by
  simp only [Has, get?_delete h]
  by_cases hj : j = k
  · simp [hj]
  · simp [hj]

theorem has_deleteAllOf {q : α → Bool} :
    (s.deleteAllOf q).Has p j ↔ s.Has (fun x => p x && !q x) j := by
  simp only [has_iff_mem, mem_deleteAllOf, Bool.and_eq_true, Bool.not_eq_true']
  constructor
  · rintro ⟨x, ⟨hx, hq⟩, hkey, hp⟩
    exact ⟨x, hx, hkey, hp, hq⟩
  · rintro ⟨x, hx, hkey, hp, hq⟩
    exact ⟨x, ⟨hx, hq⟩, hkey, hp⟩

end Has

end Store

inductive CallError where
  | conflict
  | notFound
  | alreadyExists
  | other (msg : String)
  deriving DecidableEq

def callError : ApiError → CallError
  | .notFound => .notFound
  | .alreadyExists => .alreadyExists
  | .other msg => .other msg

inductive WriteAnswer where
  | done
  | refused (e : CallError)
  | lost (e : CallError)

def WriteAnswer.takesEffect : WriteAnswer → Bool
  | .done => true
  | .refused _ => false
  | .lost _ => true

variable {σ : Type} {s s' : σ}

def answered (answer : WriteAnswer) (result : Except ApiError σ) (s : σ) : Option CallError × σ :=
  match answer, result with
  | .refused e, _ => (some e, s)
  | _, .error e => (some (callError e), s)
  | .done, .ok s' => (none, s')
  | .lost e, .ok s' => (some e, s')

variable (answer : WriteAnswer)

theorem answered_ok : answered answer (.ok s') s =
      match answer with
      | .done => (none, s')
      | .refused e => (some e, s)
      | .lost e => (some e, s') := by
  cases answer <;> rfl

theorem answered_ok_snd :
    (answered answer (.ok s') s).2 = if answer.takesEffect then s' else s := by
  cases answer <;> rfl

theorem answered_nil {answer : WriteAnswer} {result : Except ApiError σ}
    (h : answered answer result s = (none, s')) : result = .ok s' := by
  cases answer <;> cases result <;> cases h
  rfl

theorem answered_split {answer : WriteAnswer} {result : Except ApiError σ} {err : Option CallError}
    (h : answered answer result s = (err, s')) :
    s' = s ∧ (∃ e, err = some e) ∨ result = .ok s' := by
  cases answer <;> cases result <;> cases h <;> simp

theorem answered_state (result : Except ApiError σ) :
    (answered answer result s).2 = s ∧ (answer.takesEffect = false ∨ ∃ e, result = .error e) ∨
      answer.takesEffect = true ∧ result = .ok (answered answer result s).2 := by
  cases answer <;> cases result <;> simp [answered, WriteAnswer.takesEffect]

theorem get?_answered_delete {α κ : Type} {key : α → κ} [DecidableEq κ] {s : Store key} {k : κ}
    {answer : WriteAnswer} (hanswer : answer ≠ .refused .notFound)
    (herr : (answered answer (s.delete k) s).1 = none ∨
      (answered answer (s.delete k) s).1 = some .notFound) (j : κ) :
    (answered answer (s.delete k) s).2.get? j = if j = k then none else s.get? j := by
  cases hdelete : s.delete k with
  | ok s' =>
    rw [hdelete] at herr
    cases answer with
    | done => exact Store.get?_delete hdelete j
    | lost e => exact Store.get?_delete hdelete j
    | refused e =>
      rcases herr with herr | herr
      · cases herr
      · cases herr
        exact absurd rfl hanswer
  | error e =>
    have hnone : s.get? k = none := Store.get?_of_delete_error hdelete
    have hsame : (answered answer (.error e : Except ApiError (Store key)) s).2 = s := by
      cases answer <;> rfl
    rw [hsame]
    split
    next hj => rw [hj, hnone]
    · rfl

section Delete

variable {α κ : Type} {key : α → κ} [DecidableEq κ] {s s' : Store key} {j k : κ}

theorem answered_delete_fst_congr (h : s.get? k = s'.get? k) :
    (answered answer (s.delete k) s).1 = (answered answer (s'.delete k) s').1 := by
  unfold Store.delete
  rw [h]
  split <;> cases answer <;> rfl

theorem get?_answered_delete_self :
    (answered answer (s.delete k) s).2.get? k = if answer.takesEffect then none else s.get? k := by
  cases hdelete : s.delete k with
  | ok s' =>
    rw [answered_ok_snd]
    split
    · rw [Store.get?_delete hdelete, if_pos rfl]
    · rfl
  | error e =>
    have hsame : (answered answer (.error e : Except ApiError (Store key)) s).2 = s := by
      cases answer <;> rfl
    rw [hsame, Store.get?_of_delete_error hdelete, ite_self]

theorem get?_answered_delete_of_ne (h : j ≠ k) :
    (answered answer (s.delete k) s).2.get? j = s.get? j := by
  rcases answered_state (s := s) answer (s.delete k) with ⟨hsame, -⟩ | ⟨-, hok⟩
  · rw [hsame]
  · rw [Store.get?_delete hok, if_neg h]

end Delete

namespace Store

variable {α κ : Type} {key : α → κ} {own : α → Prop}

/-- The objects of a kind are as they were. -/
def Spares (own : α → Prop) (s s' : Store key) : Prop := ∀ x ∈ s.objects, own x → x ∈ s'.objects

theorem Spares.refl (own : α → Prop) (s : Store key) : Spares own s s := fun _ hx _ => hx

theorem spares_deleteAllOf {s : Store key} {p : α → Bool} :
    Spares own s (answered answer (.ok (s.deleteAllOf p) : Except ApiError (Store key)) s).2 ↔
      (answer.takesEffect = true → ∀ x ∈ s.objects, p x = true → ¬ own x) := by
  rw [answered_ok_snd]
  split
  next heffect =>
    constructor
    · intro h _ x hx hp hown
      rw [(mem_deleteAllOf.mp (h x hx hown)).2] at hp
      cases hp
    · intro h x hx hown
      exact mem_deleteAllOf.mpr ⟨hx, Bool.eq_false_iff.mpr fun hp => h heffect x hx hp hown⟩
  next heffect => exact iff_of_true (.refl own s) fun h => absurd h heffect

variable [DecidableEq κ] {s : Store key} {k : κ} {a : α}

theorem spares_create : Spares own s (answered answer (s.create a) s).2 := by
  rcases answered_state (s := s) answer (s.create a) with ⟨hsame, -⟩ | ⟨-, hok⟩
  · rw [hsame]
    exact .refl own s
  · exact fun x hx _ => (mem_create hok).mpr (Or.inl hx)

theorem get?_of_idle {answer : WriteAnswer} {result : Except ApiError (Store key)}
    (hmissing : ∀ e, result = .error e → s.get? k = none)
    (hidle : answer.takesEffect = false ∨ ∃ e, result = .error e)
    (heffect : answer.takesEffect = true) : s.get? k = none := by
  rcases hidle with hno | ⟨e, he⟩
  · rw [heffect] at hno
    cases hno
  · exact hmissing e he

theorem spares_delete : Spares own s (answered answer (s.delete k) s).2 ↔
      (answer.takesEffect = true → ∀ x, s.get? k = some x → ¬ own x) := by
  rcases answered_state (s := s) answer (s.delete k) with ⟨hsame, hno⟩ | ⟨heffect, hok⟩
  · rw [hsame]
    refine iff_of_true (.refl own s) fun heffect x hx => ?_
    rw [get?_of_idle (fun _ => get?_of_delete_error) hno heffect] at hx
    cases hx
  · constructor
    · intro h _ x hx hown
      obtain ⟨hmem, hkey⟩ := get?_eq_some.mp hx
      exact ((mem_delete hok).mp (h x hmem hown)).2 hkey
    · intro h x hx hown
      exact (mem_delete hok).mpr ⟨hx, fun hkey => h heffect x (get?_eq_some.mpr ⟨hx, hkey⟩) hown⟩

theorem spares_update : Spares own s (answered answer (s.update a) s).2 ↔
      (answer.takesEffect = true → ∀ x, s.get? (key a) = some x → own x → x = a) := by
  rcases answered_state (s := s) answer (s.update a) with ⟨hsame, hno⟩ | ⟨heffect, hok⟩
  · rw [hsame]
    refine iff_of_true (.refl own s) fun heffect x hx => ?_
    rw [get?_of_idle (fun _ => get?_of_update_error) hno heffect] at hx
    cases hx
  · constructor
    · intro h _ x hx hown
      obtain ⟨hmem, hkey⟩ := get?_eq_some.mp hx
      exact ((mem_update hok).mp (h x hmem hown)).resolve_right fun hother => hother.2 hkey
    · intro h x hx hown
      by_cases hkey : key x = key a
      · exact (mem_update hok).mpr (Or.inl (h heffect x (get?_eq_some.mpr ⟨hx, hkey⟩) hown))
      · exact (mem_update hok).mpr (Or.inr ⟨hx, hkey⟩)

end Store

end Kosmos.Go
