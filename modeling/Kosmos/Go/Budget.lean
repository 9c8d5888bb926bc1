import Mathlib.Data.List.Perm.Subperm

/-!
# Candidates within a limit

Of the candidates a loop finds, as many are taken as the limit leaves room for at its end.
-/

namespace Kosmos.Go

variable {α β : Type}

inductive Verdict (α : Type) where
  | counted
  | allowed (a : α)
  | candidate (a : α)
  | passed

@[simp] def Verdict.isCounted : Verdict α → Bool
  | .counted => true
  | _ => false

@[simp] def Verdict.allowed? : Verdict α → Option α
  | .allowed a => some a
  | _ => none

@[simp] def Verdict.candidate? : Verdict α → Option α
  | .candidate a => some a
  | _ => none

structure Ledger (α : Type) where
  count : Int
  allowed : List α
  candidates : List α

namespace Ledger

def empty : Ledger α := ⟨0, [], []⟩

def enter (limit : Int) (l : Ledger α) : Verdict α → Ledger α
  | .counted => { l with count := l.count + 1 }
  | .allowed a => { l with allowed := l.allowed ++ [a] }
  | .candidate a =>
    if limit ≤ l.count then l else { l with candidates := l.candidates ++ [a] }
  | .passed => l

def room (limit : Int) (l : Ledger α) : Nat :=
  min (max 0 (limit - l.count)).toNat l.candidates.length

def taken (limit : Int) (l : Ledger α) : List α := l.allowed ++ l.candidates.take (l.room limit)

theorem enter_count (limit : Int) (l : Ledger α) (v : Verdict α) :
    (l.enter limit v).count = l.count + if v.isCounted then 1 else 0 := by
  cases v with
  | counted => rfl
  | allowed a => exact (Int.add_zero _).symm
  | candidate a =>
    show (if limit ≤ l.count then l else _).count = l.count + 0
    split
    · exact (Int.add_zero _).symm
    · exact (Int.add_zero _).symm
  | passed => exact (Int.add_zero _).symm

theorem enter_allowed (limit : Int) (l : Ledger α) (v : Verdict α) :
    (l.enter limit v).allowed = l.allowed ++ v.allowed?.toList := by
  cases v with
  | counted => exact (List.append_nil _).symm
  | allowed a => rfl
  | candidate a =>
    show (if limit ≤ l.count then l else _).allowed = l.allowed ++ []
    rw [List.append_nil]
    split
    · rfl
    · rfl
  | passed => exact (List.append_nil _).symm

theorem enter_candidates {limit : Int} {l : Ledger α} (h : l.count < limit) (v : Verdict α) :
    (l.enter limit v).candidates = l.candidates ++ v.candidate?.toList := by
  cases v with
  | counted => exact (List.append_nil _).symm
  | allowed a => exact (List.append_nil _).symm
  | candidate a =>
    show (if limit ≤ l.count then l else _).candidates = l.candidates ++ [a]
    rw [if_neg (by omega)]
  | passed => exact (List.append_nil _).symm

section Loop

variable (limit : Int) (verdict : β → Verdict α)

theorem filterMap_cons_toList (f : β → Option α) (x : β) (xs : List β) :
    (x :: xs).filterMap f = (f x).toList ++ xs.filterMap f := by
  cases h : f x with
  | none => rw [List.filterMap_cons_none h]; rfl
  | some a => rw [List.filterMap_cons_some h]; rfl

theorem foldl_enter :
    ∀ (xs : List β) (l : Ledger α),
      (xs.foldl (fun l x => l.enter limit (verdict x)) l).count =
        l.count + xs.countP (fun x => (verdict x).isCounted) ∧
      (xs.foldl (fun l x => l.enter limit (verdict x)) l).allowed =
        l.allowed ++ xs.filterMap (fun x => (verdict x).allowed?) ∧
      ((xs.foldl (fun l x => l.enter limit (verdict x)) l).count < limit →
        (xs.foldl (fun l x => l.enter limit (verdict x)) l).candidates =
          l.candidates ++ xs.filterMap (fun x => (verdict x).candidate?))
  | [], l => ⟨(Int.add_zero _).symm, (List.append_nil _).symm, fun _ => (List.append_nil _).symm⟩
  | x :: xs, l => by
    obtain ⟨hcount, hallowed, hcandidates⟩ := foldl_enter xs (l.enter limit (verdict x))
    rw [List.foldl_cons]
    refine ⟨?_, ?_, fun hlt => ?_⟩
    · rw [hcount, enter_count, List.countP_cons]
      split
      · omega
      · omega
    · rw [hallowed, enter_allowed, filterMap_cons_toList, List.append_assoc]
    · -- the count before this turn is no more than it is in the end
      have hle : l.count ≤ (l.enter limit (verdict x)).count := by
        rw [enter_count]
        split
        · omega
        · omega
      rw [hcandidates hlt, enter_candidates (by omega), filterMap_cons_toList, List.append_assoc]

theorem taken_foldl (xs : List β) :
    ∃ chosen, chosen.Sublist (xs.filterMap fun x => (verdict x).candidate?) ∧
      chosen.length = min (max 0 (limit - xs.countP fun x => (verdict x).isCounted)).toNat
        (xs.filterMap fun x => (verdict x).candidate?).length ∧
      (xs.foldl (fun l x => l.enter limit (verdict x)) empty).taken limit =
        (xs.filterMap fun x => (verdict x).allowed?) ++ chosen := by
  obtain ⟨hcount, hallowed, hcandidates⟩ := foldl_enter limit verdict xs empty
  have hzero : (empty : Ledger α).count = 0 := rfl
  rw [hzero, Int.zero_add] at hcount
  have hallowed : _ = xs.filterMap fun x => (verdict x).allowed? := hallowed
  unfold taken room
  rw [hallowed, hcount]
  by_cases hlt : ((xs.countP fun x => (verdict x).isCounted : Nat) : Int) < limit
  · have hall : _ = xs.filterMap fun x => (verdict x).candidate? :=
      hcandidates (by rw [hcount]; exact hlt)
    rw [hall]
    refine ⟨_, List.take_sublist _ _, ?_, rfl⟩
    rw [List.length_take]
    omega
  · have hroom : (max 0 (limit - ((xs.countP fun x => (verdict x).isCounted : Nat) : Int))).toNat
        = 0 := by omega
    refine ⟨[], List.nil_sublist _, ?_, ?_⟩
    · rw [hroom, Nat.zero_min, List.length_nil]
    · rw [hroom, Nat.zero_min, List.take_zero]

theorem taken_within {γ : Type} {p : β → Prop} [DecidablePred p] (pick : Bool → β → Option γ)
    (name : γ → α) (hcounted : ∀ x, (verdict x).isCounted = true ↔ p x)
    (hallowed : ∀ x, (verdict x).allowed? = (pick false x).map name)
    (hcandidate : ∀ x, (verdict x).candidate? = (pick true x).map name) {xs visited : List β}
    (hvisit : visited.Perm xs) :
    ∃ chosen, chosen.Subperm (xs.filterMap (pick true)) ∧
      chosen.length = min (max 0 (limit - xs.countP fun x => p x)).toNat
        (xs.filterMap (pick true)).length ∧
      ((visited.foldl (fun l x => l.enter limit (verdict x)) empty).taken limit).Perm
        ((xs.filterMap (pick false) ++ chosen).map name) := by
  have hpick : ∀ b, (visited.filterMap (pick b)).Perm (xs.filterMap (pick b)) :=
    fun b => hvisit.filterMap _
  have hcount : (visited.countP fun x => (verdict x).isCounted) = xs.countP fun x => p x := by
    rw [← hvisit.countP_eq]
    exact List.countP_congr fun x _ => by rw [hcounted, decide_eq_true_iff]
  obtain ⟨names, hsub, hlength, htaken⟩ := taken_foldl limit verdict visited
  simp only [hcandidate, ← List.map_filterMap] at hsub hlength
  obtain ⟨chosen, hchosen, rfl⟩ := List.sublist_map_iff.mp hsub
  rw [hcount, List.length_map, List.length_map, (hpick true).length_eq] at hlength
  refine ⟨chosen, hchosen.subperm.trans (hpick true).subperm, hlength, ?_⟩
  simp only [htaken, hallowed, ← List.map_filterMap, ← List.map_append]
  exact ((hpick false).append_right chosen).map name

end Loop

end Ledger

end Kosmos.Go
