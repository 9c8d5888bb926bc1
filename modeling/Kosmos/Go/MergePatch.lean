import Kosmos.Go.Basic

/-!
# Merge patches of a map field

A map without entries is left out of the JSON, so that a nil map takes all entries with it.
-/

namespace Kosmos.Go

variable {κ υ : Type} [DecidableEq κ] [DecidableEq υ]

def readMap (m : Option (GoMap κ υ)) (k : κ) : Option υ := m.bind fun m => m.get? k

def jsonMap (m : Option (GoMap κ υ)) : Option (GoMap κ υ) :=
  m.bind fun m => if m.entries = [] then none else some m

inductive MapPatch (κ υ : Type) where
  | keep
  | remove
  | change (entries : List (κ × Option υ))

def entryChanges (original modified : GoMap κ υ) : List (κ × Option υ) :=
  (original.entries.filter fun e => (modified.get? e.1).isNone).map (fun e => (e.1, none)) ++
    (modified.entries.filter fun e => original.get? e.1 ≠ some e.2).map fun e => (e.1, some e.2)

def createMergePatch (original modified : Option (GoMap κ υ)) : MapPatch κ υ :=
  match jsonMap original, jsonMap modified with
  | none, none => .keep
  | some _, none => .remove
  | none, some m => .change (entryChanges .empty m)
  | some o, some m => .change (entryChanges o m)

def applyEntry (m : GoMap κ υ) (e : κ × Option υ) : GoMap κ υ :=
  match e.2 with
  | none => m.delete e.1
  | some v => m.set e.1 v

def MapPatch.apply (target : Option (GoMap κ υ)) : MapPatch κ υ → Option (GoMap κ υ)
  | .keep => target
  | .remove => none
  | .change entries => some (entries.foldl applyEntry (target.getD .empty))

omit [DecidableEq υ] in
theorem get?_applyEntry (m : GoMap κ υ) (e : κ × Option υ) (k : κ) :
    (applyEntry m e).get? k = if k = e.1 then e.2 else m.get? k := by
  unfold applyEntry
  cases he : e.2 with
  | none => rw [GoMap.get?_delete]
  | some v => rw [GoMap.get?_set]

omit [DecidableEq υ] in
theorem get?_foldl_applyEntry {k : κ} {v : Option υ} :
    ∀ (entries : List (κ × Option υ)) (m : GoMap κ υ),
      (∀ e ∈ entries, e.1 = k → e.2 = v) → (m.get? k = v ∨ ∃ e ∈ entries, e.1 = k) →
        (entries.foldl applyEntry m).get? k = v := by
  intro entries
  induction entries with
  | nil =>
    rintro m - (h | ⟨e, he, -⟩)
    · exact h
    · cases he
  | cons e entries ih =>
    intro m hall hsome
    rw [List.forall_mem_cons] at hall
    refine ih (applyEntry m e) hall.2 ?_
    rw [get?_applyEntry]
    by_cases hk : k = e.1
    · exact Or.inl (by rw [if_pos hk, hall.1 hk.symm])
    · rw [if_neg hk]
      rcases hsome with h | ⟨e', he', hk'⟩
      · exact Or.inl h
      · rcases List.mem_cons.mp he' with rfl | he'
        · exact absurd hk'.symm hk
        · exact Or.inr ⟨e', he', hk'⟩

theorem get?_entryChanges (o m : GoMap κ υ) (k : κ) :
    ((entryChanges o m).foldl applyEntry o).get? k = m.get? k := by
  apply get?_foldl_applyEntry
  · intro e he hk
    subst hk
    rcases List.mem_append.mp he with he | he
    · obtain ⟨e', he', rfl⟩ := List.mem_map.mp he
      exact (Option.isNone_iff_eq_none.mp (List.mem_filter.mp he').2).symm
    · obtain ⟨e', he', rfl⟩ := List.mem_map.mp he
      exact (GoMap.get?_eq_some.mpr (List.mem_filter.mp he').1).symm
  · by_cases hsame : o.get? k = m.get? k
    · exact Or.inl hsame
    · refine Or.inr ?_
      cases hm : m.get? k with
      | some v =>
        rw [hm] at hsame
        exact ⟨(k, some v), List.mem_append_right _ (List.mem_map.mpr
          ⟨(k, v), List.mem_filter.mpr ⟨GoMap.get?_eq_some.mp hm, decide_eq_true hsame⟩, rfl⟩), rfl⟩
      | none =>
        rw [hm] at hsame
        obtain ⟨v, hv⟩ := Option.ne_none_iff_exists'.mp hsame
        have hnone : (m.get? k).isNone = true := by rw [hm]; rfl
        exact ⟨(k, none), List.mem_append_left _ (List.mem_map.mpr
          ⟨(k, v), List.mem_filter.mpr ⟨GoMap.get?_eq_some.mp hv, hnone⟩, rfl⟩), rfl⟩

omit [DecidableEq υ] in
theorem readMap_jsonMap (m : Option (GoMap κ υ)) (k : κ) :
    readMap (jsonMap m) k = readMap m k := by
  cases m with
  | none => rfl
  | some m =>
    unfold jsonMap readMap
    by_cases h : m.entries = []
    · simp [h, GoMap.get?]
    · simp [h]

theorem read_apply_create (original modified : Option (GoMap κ υ)) (k : κ) :
    readMap ((createMergePatch original modified).apply original) k = readMap modified k := by
  rw [← readMap_jsonMap modified]
  unfold createMergePatch
  cases ho : jsonMap original with
  | none =>
    cases hm : jsonMap modified with
    | none =>
      show readMap original k = _
      rw [← readMap_jsonMap original, ho]
    | some m =>
      have hempty : (original.getD .empty).entries = [] := by
        cases original with
        | none => rfl
        | some o =>
          by_contra hne
          simp [jsonMap, show ¬ o.entries = [] from hne] at ho
      have hsame : original.getD .empty = (.empty : GoMap κ υ) := by
        generalize original.getD .empty = o at hempty
        cases o
        cases hempty
        rfl
      show ((entryChanges .empty m).foldl applyEntry (original.getD .empty)).get? k = m.get? k
      rw [hsame, get?_entryChanges]
  | some o =>
    obtain ⟨o', ho'⟩ : ∃ o', original = some o' := by
      cases original with
      | none => cases ho
      | some o' => exact ⟨o', rfl⟩
    subst ho'
    have hsame : o' = o := by
      unfold jsonMap at ho
      simp only [Option.bind_some] at ho
      split at ho
      · cases ho
      · exact Option.some.inj ho
    subst hsame
    cases hm : jsonMap modified with
    | none => rfl
    | some m => exact get?_entryChanges o' m k

end Kosmos.Go
