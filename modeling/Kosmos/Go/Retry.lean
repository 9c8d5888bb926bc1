import Kosmos.Go.Basic
import Kosmos.Go.Store
import Mathlib.Logic.Function.Iterate

/-!
# Calls that are tried again

`retry.OnError`: called until it returns nil, or an error that is not retriable, or steps run out.
-/

namespace Kosmos.Go

variable {σ ε : Type}

def onError (retriable : ε → Bool) (fn : σ → Option ε × σ) : Nat → Option ε → σ → Option ε × σ
  | 0, lastErr, s => (lastErr, s)
  | steps + 1, _, s =>
    match fn s with
    | (none, s') => (none, s')
    | (some e, s') =>
      if retriable e then onError retriable fn steps (some e) s' else (some e, s')

def retryOnConflict (steps : Nat) (fn : σ → Option CallError × σ) (s : σ) :
    Option CallError × σ :=
  onError (fun e => e = .conflict) fn steps none s

variable {retriable : ε → Bool} {fn : σ → Option ε × σ}

theorem onError_of_nil {s s' : σ} (h : fn s = (none, s')) (n : Nat) (lastErr : Option ε) :
    onError retriable fn (n + 1) lastErr s = (none, s') := by
  rw [onError, h]

theorem onError_of_err {s s' : σ} {e : ε} (h : fn s = (some e, s')) (n : Nat)
    (lastErr : Option ε) :
    onError retriable fn (n + 1) lastErr s =
      if retriable e then onError retriable fn n (some e) s' else (some e, s') := by
  rw [onError, h]

def tried (fn : σ → Option ε × σ) (s : σ) (i : Nat) : σ := (fun s => (fn s).2)^[i] s

theorem tried_succ (fn : σ → Option ε × σ) (s : σ) (i : Nat) :
    tried fn s (i + 1) = (fn (tried fn s i)).2 :=
  Function.iterate_succ_apply' (fun s => (fn s).2) i s

/-- The first `k` calls fail with errors that are retriable. -/
def FailsUntil (retriable : ε → Bool) (fn : σ → Option ε × σ) (s : σ) (k : Nat) : Prop :=
  ∀ i < k, ∃ e, (fn (tried fn s i)).1 = some e ∧ retriable e = true

theorem onError_of_failsUntil {k : Nat} :
    ∀ {steps : Nat} {lastErr : Option ε} {s : σ}, k < steps → FailsUntil retriable fn s k →
      (fn (tried fn s k)).1 = none → onError retriable fn steps lastErr s = fn (tried fn s k) := by
  induction k with
  | zero =>
    intro steps lastErr s hk _ hnil
    obtain ⟨n, rfl⟩ := Nat.exists_eq_succ_of_ne_zero (by omega : steps ≠ 0)
    have hnil : (fn s).1 = none := hnil
    show onError retriable fn (n + 1) lastErr s = fn s
    unfold onError
    split
    next s' heq => exact heq.symm
    next e s' heq =>
      rw [heq] at hnil
      cases hnil
  | succ k ih =>
    intro steps lastErr s hk hfails hnil
    obtain ⟨n, rfl⟩ := Nat.exists_eq_succ_of_ne_zero (by omega : steps ≠ 0)
    obtain ⟨e, he, hretry⟩ := hfails 0 (by omega)
    have he : (fn s).1 = some e := he
    have hrest : FailsUntil retriable fn (fn s).2 k := fun i hi => hfails (i + 1) (by omega)
    have hstep : onError retriable fn n (some e) (fn s).2 = fn (tried fn (fn s).2 k) :=
      ih (by omega) hrest hnil
    rw [show tried fn s (k + 1) = tried fn (fn s).2 k from rfl, ← hstep]
    show onError retriable fn (n + 1) lastErr s = _
    unfold onError
    split
    next s' heq =>
      rw [heq] at he
      cases he
    next e' s' heq =>
      rw [heq] at he ⊢
      cases he
      rw [if_pos hretry]
      cases n <;> rfl

theorem onError_nil_iff :
    ∀ {steps : Nat} {lastErr : Option ε} {s : σ}, (steps = 0 → lastErr ≠ none) →
      ((onError retriable fn steps lastErr s).1 = none ↔
        ∃ k < steps, FailsUntil retriable fn s k ∧ (fn (tried fn s k)).1 = none) := by
  intro steps lastErr s hlast
  constructor
  · induction steps generalizing lastErr s with
    | zero => exact fun hnil => absurd hnil (hlast rfl)
    | succ n ih =>
      intro hnil
      unfold onError at hnil
      split at hnil
      next s' heq =>
        refine ⟨0, by omega, fun i hi => absurd hi (by omega), ?_⟩
        show (fn s).1 = none
        rw [heq]
      next e s' heq =>
        split at hnil
        next hretry =>
          obtain ⟨k, hk, hfails, hend⟩ := ih (fun _ => Option.some_ne_none e) hnil
          have hs' : s' = (fn s).2 := by rw [heq]
          subst hs'
          refine ⟨k + 1, by omega, fun i hi => ?_, hend⟩
          cases i with
          | zero => exact ⟨e, by show (fn s).1 = some e; rw [heq], hretry⟩
          | succ i => exact hfails i (by omega)
        · cases hnil
  · rintro ⟨k, hk, hfails, hnil⟩
    rw [onError_of_failsUntil hk hfails hnil]
    exact hnil

theorem retryOnConflict_nil {fn : σ → Option CallError × σ} {steps : Nat} {s : σ}
    (hsteps : 0 < steps) (h : (retryOnConflict steps fn s).1 = none) :
    ∃ s', fn s' = (none, (retryOnConflict steps fn s).2) := by
  obtain ⟨k, hk, hfails, hnil⟩ := (onError_nil_iff (by omega)).mp h
  refine ⟨tried fn s k, ?_⟩
  rw [retryOnConflict, onError_of_failsUntil hk hfails hnil]
  exact Prod.ext hnil rfl

theorem onError_keeps {I : σ → Prop} (hfn : ∀ s, I s → I (fn s).2) :
    ∀ (steps : Nat) (lastErr : Option ε) (s : σ), I s →
      I (onError retriable fn steps lastErr s).2 := by
  intro steps
  induction steps with
  | zero => exact fun _ s hs => hs
  | succ steps ih =>
    intro lastErr s hs
    have hnext := hfn s hs
    unfold onError
    split
    next s' heq =>
      rw [heq] at hnext
      exact hnext
    next e s' heq =>
      rw [heq] at hnext
      split
      · exact ih (some e) s' hnext
      · exact hnext

theorem onError_simulates {τ : Type} {gn : τ → Option ε × τ} (R : σ → τ → Prop)
    (hfn : ∀ s t, R s t → (fn s).1 = (gn t).1 ∧ R (fn s).2 (gn t).2) :
    ∀ (steps : Nat) (lastErr : Option ε) (s : σ) (t : τ), R s t →
      (onError retriable fn steps lastErr s).1 = (onError retriable gn steps lastErr t).1 ∧
        R (onError retriable fn steps lastErr s).2 (onError retriable gn steps lastErr t).2 := by
  intro steps
  induction steps with
  | zero => exact fun _ s t hR => ⟨rfl, hR⟩
  | succ steps ih =>
    intro lastErr s t hR
    obtain ⟨herr, hnext⟩ := hfn s t hR
    unfold onError
    revert herr hnext
    rcases fn s with ⟨_ | e, s'⟩ <;> rcases gn t with ⟨_ | e', t'⟩ <;> intro herr hnext
    · exact ⟨rfl, hnext⟩
    · cases herr
    · cases herr
    · cases herr
      cases hretry : retriable e with
      | true =>
        simp only [hretry, if_true]
        exact ih (some e) s' t' hnext
      | false =>
        simp only [hretry, Bool.false_eq_true, if_false]
        exact ⟨trivial, hnext⟩

theorem retryOnConflict_simulates {τ : Type} {fn : σ → Option CallError × σ}
    {gn : τ → Option CallError × τ} (R : σ → τ → Prop)
    (hfn : ∀ s t, R s t → (fn s).1 = (gn t).1 ∧ R (fn s).2 (gn t).2) (steps : Nat) {s : σ} {t : τ}
    (h : R s t) :
    (retryOnConflict steps fn s).1 = (retryOnConflict steps gn t).1 ∧
      R (retryOnConflict steps fn s).2 (retryOnConflict steps gn t).2 :=
  onError_simulates R hfn steps none s t h

end Kosmos.Go
