import Mathlib.Data.List.Nodup

/-!
# Lists with a key

What is found and what is in the list after an element is added, replaced or taken out at its key.
-/

namespace Kosmos.Go

instance lawfulBEq_pair : LawfulBEq (String × String) := inferInstance

variable {α κ : Type} {key : α → κ} {k : κ} {a x : α} {l : List α}

theorem nodup_append_key (hnd : (l.map key).Nodup) (hfree : ∀ x ∈ l, key x ≠ key a) :
    ((l ++ [a]).map key).Nodup := by
  rw [List.map_append, List.map_singleton]
  refine List.Nodup.append hnd (List.nodup_singleton _) ?_
  rw [List.disjoint_singleton]
  intro hin
  obtain ⟨x, hx, hk⟩ := List.mem_map.mp hin
  exact hfree x hx hk

theorem map_find?_perm {β : Type} {p : α → Bool} {f : α → β} {l' : List α} (hp : l.Perm l')
    (h : ∀ a ∈ l, ∀ b ∈ l, p a = true → p b = true → f a = f b) :
    (l.find? p).map f = (l'.find? p).map f := by
  cases hl : l.find? p with
  | none =>
    have hl' : l'.find? p = none := by
      rw [List.find?_eq_none] at hl ⊢
      exact fun x hx => hl x (hp.mem_iff.mpr hx)
    rw [hl']
  | some a =>
    have ha := List.mem_of_find?_eq_some hl
    have hpa := List.find?_some hl
    cases hl' : l'.find? p with
    | none => exact absurd hpa (List.find?_eq_none.mp hl' a (hp.mem_iff.mp ha))
    | some b =>
      have hb := hp.mem_iff.mpr (List.mem_of_find?_eq_some hl')
      exact congrArg some (h a ha b hb hpa (List.find?_some hl'))

variable [DecidableEq κ]

theorem find?_key_eq_none : (l.find? fun x => key x = k) = none ↔ ∀ x ∈ l, key x ≠ k := by
  simp

theorem of_find?_key (h : (l.find? fun x => key x = k) = some x) : x ∈ l ∧ key x = k :=
  ⟨List.mem_of_find?_eq_some h, by simpa using List.find?_some h⟩

theorem find?_key_eq_some (hnd : (l.map key).Nodup) :
    (l.find? fun x => key x = k) = some x ↔ x ∈ l ∧ key x = k := by
  refine ⟨of_find?_key, fun ⟨hx, hk⟩ => ?_⟩
  cases hfind : l.find? fun x => key x = k with
  | none => exact absurd hk (find?_key_eq_none.mp hfind x hx)
  | some y =>
    obtain ⟨hy, hk'⟩ := of_find?_key hfind
    rw [List.inj_on_of_nodup_map hnd hy hx (hk'.trans hk.symm)]

theorem mem_filter_key_ne : x ∈ (l.filter fun x => key x ≠ k) ↔ x ∈ l ∧ key x ≠ k := by
  rw [List.mem_filter, decide_eq_true_iff]

theorem map_key_replace (a : α) :
    (l.map fun x => if key x = key a then a else x).map key = l.map key := by
  rw [List.map_map]
  refine List.map_congr_left fun x _ => ?_
  show key (if key x = key a then a else x) = key x
  split
  next hk => exact hk.symm
  · rfl

theorem mem_replace (ha : ∃ x ∈ l, key x = key a) :
    x ∈ (l.map fun x => if key x = key a then a else x) ↔ x = a ∨ x ∈ l ∧ key x ≠ key a := by
  rw [List.mem_map]
  constructor
  · intro ⟨y, hy, heq⟩
    split at heq
    · exact Or.inl heq.symm
    next hk =>
      subst heq
      exact Or.inr ⟨hy, hk⟩
  · intro hx
    rcases hx with hx | ⟨hx, hk⟩
    · obtain ⟨y, hy, hk⟩ := ha
      exact ⟨y, hy, by rw [if_pos hk, hx]⟩
    · exact ⟨x, hx, if_neg hk⟩

theorem replace_of_free (hfree : ∀ x ∈ l, key x ≠ key a) :
    (l.map fun x => if key x = key a then a else x) = l := by
  rw [List.map_congr_left (g := id), List.map_id]
  intro x hx
  exact if_neg (hfree x hx)

theorem replace_self (hnd : (l.map key).Nodup) (ha : a ∈ l) :
    (l.map fun x => if key x = key a then a else x) = l := by
  rw [List.map_congr_left (g := id), List.map_id]
  intro x hx
  show (if key x = key a then a else x) = x
  split
  next hk => exact List.inj_on_of_nodup_map hnd ha hx hk.symm
  · rfl

end Kosmos.Go
