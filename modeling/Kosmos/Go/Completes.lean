import Kosmos.Go.Basic

/-!
# Calls that return

A sequence returns if its parts do; the conditions are collected (`completes_bind_iff`).
-/

namespace Kosmos.Go

variable {α β σ : Type}

def Completes (x : Outcome α) : Prop := ∃ a, x = .ok a

@[simp] theorem completes_ok (a : α) : Completes (.ok a) := ⟨a, rfl⟩

@[simp] theorem not_completes_error (stop : Stop) : ¬ Completes (.error stop : Outcome α) := by
  rintro ⟨a, h⟩
  cases h

@[simp] theorem completes_deref {o : Option α} : Completes (deref o) ↔ o ≠ none := by
  cases o with
  | none => simp [deref]
  | some a => simp

@[simp] theorem completes_index {l : List α} {i : Nat} : Completes (index l i) ↔ i < l.length := by
  simp only [Completes, index_eq_ok, List.getElem?_eq_some_iff]
  exact ⟨fun ⟨_, h, _⟩ => h, fun h => ⟨_, h, rfl⟩⟩

theorem completes_bind_iff {x : Outcome α} {f : α → Outcome β} {P : Prop}
    (h : ∀ a, x = .ok a → (Completes (f a) ↔ P)) :
    Completes (x >>= f) ↔ Completes x ∧ P := by
  cases x with
  | error stop => simp
  | ok a => simp [h a rfl]

theorem completes_bind_of_rest {x : Outcome α} {f : α → Outcome β} (h : ∀ a, Completes (f a)) :
    Completes (x >>= f) ↔ Completes x :=
  (completes_bind_iff (P := True) fun a _ => iff_of_true (h a) trivial).trans
    (and_iff_left trivial)

theorem completes_map_iff {f : α → β} {x : Outcome α} : Completes (x.map f) ↔ Completes x := by
  cases x with
  | error stop => exact iff_of_false (not_completes_error stop) (not_completes_error stop)
  | ok a => exact iff_of_true (completes_ok _) (completes_ok _)

theorem completes_foldlM {step : σ → α → Outcome σ} {good : α → Prop} :
    ∀ {xs : List α} {s : σ}, (∀ s, ∀ x ∈ xs, Completes (step s x) ↔ good x) →
      (Completes (xs.foldlM step s) ↔ ∀ x ∈ xs, good x)
  | [], s, _ => by simp
  | x :: xs, s, h => by
    have hrest : ∀ s', Completes (xs.foldlM step s') ↔ ∀ y ∈ xs, good y :=
      fun s' => completes_foldlM fun s'' y hy => h s'' y (List.mem_cons_of_mem _ hy)
    rw [List.foldlM_cons, completes_bind_iff fun s' _ => hrest s', List.forall_mem_cons,
      h s x (List.mem_cons_self ..)]

end Kosmos.Go
