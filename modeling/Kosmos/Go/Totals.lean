import Kosmos.Go.Basic
import Mathlib.Algebra.BigOperators.Group.List.Basic

/-!
# Totals by key

Maps of amounts that are added up; a key that is not there stands for no amount.
-/

namespace Kosmos.Go

section Parts

variable {β κ ν : Type}

theorem filter_perm_append {p q r : β → Bool} {l : List β}
    (hp : ∀ x ∈ l, p x = (q x || r x)) (hqr : ∀ x ∈ l, q x = true → r x = false) :
    (l.filter p).Perm (l.filter q ++ l.filter r) := by
  have hq : (l.filter p).filter q = l.filter q := by
    rw [List.filter_filter]
    refine List.filter_congr fun x hx => ?_
    rw [hp x hx]
    cases q x <;> simp
  have hr : ((l.filter p).filter fun x => !q x) = l.filter r := by
    rw [List.filter_filter]
    refine List.filter_congr fun x hx => ?_
    rw [hp x hx]
    cases hq : q x with
    | false => simp
    | true => simp [hqr x hx hq]
  rw [← hq, ← hr]
  exact (List.filter_append_perm q (l.filter p)).symm

theorem flatMap_filter_perm [DecidableEq κ] {key : ν → κ} (f : β → κ) (l : List β) :
    ∀ {ks : List ν}, (ks.map key).Nodup →
      (ks.flatMap fun n => l.filter fun x => decide (f x = key n)).Perm
        (l.filter fun x => decide (f x ∈ ks.map key)) := by
  intro ks hnd
  induction ks with
  | nil => simp
  | cons n ks ih =>
    rw [List.map_cons, List.nodup_cons] at hnd
    rw [List.flatMap_cons]
    refine ((ih hnd.2).append_left _).trans (filter_perm_append ?_ ?_).symm
    · intro x _
      simp
    · intro x _ hx
      rw [decide_eq_true_iff] at hx
      rw [hx]
      exact decide_eq_false hnd.1

end Parts

namespace GoMap

variable {κ α β : Type} [DecidableEq κ] [AddCommGroup α]

def amount (m : GoMap κ α) (k : κ) : α := (m.get? k).getD 0

def addEntry (m : GoMap κ α) (e : κ × α) : GoMap κ α :=
  match m.get? e.1 with
  | none => m.set e.1 e.2
  | some v => m.set e.1 (v + e.2)

def addAll (m t : GoMap κ α) : GoMap κ α := t.entries.foldl addEntry m

def subEntry (m : GoMap κ α) (e : κ × α) : GoMap κ α :=
  match m.get? e.1 with
  | none => m
  | some v => m.set e.1 (v - e.2)

def subAll (m t : GoMap κ α) : GoMap κ α := t.entries.foldl subEntry m

def totalOf (f : β → GoMap κ α) (l : List β) : GoMap κ α :=
  l.foldl (fun m x => m.addAll (f x)) .empty

theorem amount_of_get? {m : GoMap κ α} {k : κ} {v : α} (h : m.get? k = some v) :
    m.amount k = v := by
  rw [amount, h]
  rfl

theorem get?_of_mem_keys {m : GoMap κ α} {k : κ} (h : k ∈ m.keys) :
    m.get? k = some (m.amount k) := by
  obtain ⟨v, hv⟩ := Option.isSome_iff_exists.mp (isSome_get?.mpr h)
  rw [amount_of_get? hv, hv]

theorem amount_addEntry (m : GoMap κ α) (e : κ × α) (k : κ) :
    (m.addEntry e).amount k = m.amount k + if e.1 = k then e.2 else 0 := by
  unfold addEntry
  by_cases hk : e.1 = k
  · rw [if_pos hk, ← hk]
    cases h : m.get? e.1 with
    | none =>
      show (m.set e.1 e.2).amount e.1 = _
      rw [amount, get?_set_self, amount, h]
      exact (zero_add _).symm
    | some v =>
      show (m.set e.1 (v + e.2)).amount e.1 = _
      rw [amount, get?_set_self, amount_of_get? h]
      rfl
  · rw [if_neg hk, add_zero]
    cases m.get? e.1 with
    | none => rw [amount, get?_set_of_ne _ _ (Ne.symm hk), amount]
    | some v => rw [amount, get?_set_of_ne _ _ (Ne.symm hk), amount]

theorem mem_keys_addEntry {m : GoMap κ α} {e : κ × α} {k : κ} :
    k ∈ (m.addEntry e).keys ↔ k ∈ m.keys ∨ k = e.1 := by
  unfold addEntry
  cases m.get? e.1 with
  | none => rw [mem_keys_set, or_comm]
  | some v => rw [mem_keys_set, or_comm]

theorem sum_entries (t : GoMap κ α) (k : κ) :
    (t.entries.map fun e => if e.1 = k then e.2 else 0).sum = t.amount k := by
  have hlist : ∀ l : List (κ × α), (l.map Prod.fst).Nodup →
      (l.map fun e => if e.1 = k then e.2 else 0).sum =
        ((l.find? fun e => e.1 = k).map Prod.snd).getD 0 := by
    intro l hnd
    induction l with
    | nil => rfl
    | cons e l ih =>
      rw [List.map_cons, List.nodup_cons] at hnd
      rw [List.map_cons, List.sum_cons, ih hnd.2]
      by_cases hk : e.1 = k
      · have hnone : l.find? (fun e => decide (e.1 = k)) = none := by
          rw [List.find?_eq_none]
          intro e' he' heq
          rw [decide_eq_true_iff] at heq
          exact hnd.1 (List.mem_map.mpr ⟨e', he', heq.trans hk.symm⟩)
        rw [List.find?_cons_of_pos (by simpa using hk), hnone, if_pos hk]
        exact add_zero _
      · rw [List.find?_cons_of_neg (by simpa using hk), if_neg hk, zero_add]
  exact hlist t.entries t.nodup

theorem amount_addAll (m t : GoMap κ α) (k : κ) :
    (m.addAll t).amount k = m.amount k + t.amount k := by
  have hloop : ∀ (l : List (κ × α)) (m : GoMap κ α), (l.foldl addEntry m).amount k =
      m.amount k + (l.map fun e => if e.1 = k then e.2 else 0).sum := by
    intro l
    induction l with
    | nil => exact fun m => (add_zero _).symm
    | cons e l ih =>
      intro m
      rw [List.foldl_cons, ih, amount_addEntry, List.map_cons, List.sum_cons, add_assoc]
  rw [addAll, hloop, sum_entries]

theorem mem_keys_addAll {m t : GoMap κ α} {k : κ} :
    k ∈ (m.addAll t).keys ↔ k ∈ m.keys ∨ k ∈ t.keys := by
  have hloop : ∀ (l : List (κ × α)) (m : GoMap κ α),
      k ∈ (l.foldl addEntry m).keys ↔ k ∈ m.keys ∨ k ∈ l.map Prod.fst := by
    intro l
    induction l with
    | nil => simp
    | cons e l ih =>
      intro m
      rw [List.foldl_cons, ih, mem_keys_addEntry, List.map_cons, List.mem_cons, or_assoc]
  exact hloop t.entries m

theorem amount_totalOf (f : β → GoMap κ α) (l : List β) (k : κ) :
    (totalOf f l).amount k = (l.map fun x => (f x).amount k).sum := by
  have hloop : ∀ (l : List β) (m : GoMap κ α),
      (l.foldl (fun m x => m.addAll (f x)) m).amount k =
        m.amount k + (l.map fun x => (f x).amount k).sum := by
    intro l
    induction l with
    | nil => exact fun m => (add_zero _).symm
    | cons x l ih =>
      intro m
      rw [List.foldl_cons, ih, amount_addAll, List.map_cons, List.sum_cons, add_assoc]
  rw [totalOf, hloop]
  exact zero_add _

theorem mem_keys_totalOf {f : β → GoMap κ α} {l : List β} {k : κ} :
    k ∈ (totalOf f l).keys ↔ ∃ x ∈ l, k ∈ (f x).keys := by
  have hloop : ∀ (l : List β) (m : GoMap κ α),
      k ∈ (l.foldl (fun m x => m.addAll (f x)) m).keys ↔
        k ∈ m.keys ∨ ∃ x ∈ l, k ∈ (f x).keys := by
    intro l
    induction l with
    | nil => simp
    | cons x l ih =>
      intro m
      rw [List.foldl_cons, ih, mem_keys_addAll, or_assoc]
      simp
  rw [totalOf, hloop]
  simp [keys, empty]

theorem get?_subEntry (m : GoMap κ α) (e : κ × α) (k : κ) :
    (m.subEntry e).get? k = (m.get? k).map fun v => v - if e.1 = k then e.2 else 0 := by
  unfold subEntry
  by_cases hk : e.1 = k
  · rw [if_pos hk, ← hk]
    cases h : m.get? e.1 with
    | none => exact h
    | some v => exact get?_set_self _ _ _
  · simp only [if_neg hk, sub_zero]
    cases m.get? e.1 with
    | none => simp
    | some v =>
      show (m.set e.1 (v - e.2)).get? k = _
      rw [get?_set_of_ne _ _ (Ne.symm hk)]
      simp

theorem get?_subAll (m t : GoMap κ α) (k : κ) :
    (m.subAll t).get? k = (m.get? k).map fun v => v - t.amount k := by
  have hloop : ∀ (l : List (κ × α)) (m : GoMap κ α), (l.foldl subEntry m).get? k =
      (m.get? k).map fun v => v - (l.map fun e => if e.1 = k then e.2 else 0).sum := by
    intro l
    induction l with
    | nil =>
      intro m
      simp
    | cons e l ih =>
      intro m
      rw [List.foldl_cons, ih, get?_subEntry, Option.map_map, List.map_cons, List.sum_cons]
      refine congrArg (fun f => Option.map f (m.get? k)) (funext fun v => ?_)
      exact sub_sub _ _ _
  rw [subAll, hloop, sum_entries]

end GoMap

end Kosmos.Go
