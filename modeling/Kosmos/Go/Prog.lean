import Kosmos.Go.Basic

/-!
# Programs that call, alone and side by side

A program is a tree of calls, and what a call does is said from outside. `Rules` are for programs
that take turns with others (`Covered`), `Heeds` for one alone.
-/

namespace Kosmos.Go

variable {Op : Type} {Res : Op → Type} {σ α β κ : Type}

inductive Prog (Res : Op → Type) (α : Type) where
  | ret (a : α)
  | stop (reason : Stop)
  | call (op : Op) (next : Res op → Prog Res α)

variable {x : Prog Res α}

namespace Prog

protected def bind : Prog Res α → (α → Prog Res β) → Prog Res β
  | .ret a, f => f a
  | .stop reason, _ => .stop reason
  | .call op next, f => .call op fun r => (next r).bind f

instance : Monad (Prog Res) where
  pure := .ret
  bind := Prog.bind

def ask (op : Op) : Prog Res (Res op) := .call op .ret

def ofOutcome : Outcome α → Prog Res α
  | .ok a => .ret a
  | .error reason => .stop reason

def Calls (C : Op → Prop) : Prog Res α → Prop
  | .ret _ => True
  | .stop _ => True
  | .call op next => C op ∧ ∀ r, (next r).Calls C

def run (exec : (op : Op) → σ → Res op × σ) : Prog Res α → σ → Outcome (α × σ)
  | .ret a, s => .ok (a, s)
  | .stop reason, _ => .error reason
  | .call op next, s => (next (exec op s).1).run exec (exec op s).2

def asked (exec : (op : Op) → σ → Res op × σ) : Prog Res α → σ → List ((op : Op) × Res op)
  | .ret _, _ => []
  | .stop _, _ => []
  | .call op next, s => ⟨op, (exec op s).1⟩ :: (next (exec op s).1).asked exec (exec op s).2

def Yields (B : α → Prop) : Prog Res α → Prop
  | .ret a => B a
  | .stop _ => True
  | .call _ next => ∀ r, (next r).Yields B

def Heeds (may : Prop) (M : (op : Op) → Res op → Prop) (B : α → Prop) : Prog Res α → Prop
  | .ret _ => True
  | .stop _ => may
  | .call op next => ∀ r, (M op r → (next r).Yields B) ∧ (next r).Heeds may M B

variable {exec : (op : Op) → σ → Res op × σ}

theorem run_ask_bind (op : Op) (f : Res op → Prog Res β) (s : σ) :
    (ask op >>= f).run exec s = (f (exec op s).1).run exec (exec op s).2 := rfl

theorem run_bind (x : Prog Res α) (f : α → Prog Res β) (s : σ) :
    (x >>= f).run exec s = x.run exec s >>= fun r => (f r.1).run exec r.2 := by
  induction x generalizing s with
  | ret a => rfl
  | stop reason => rfl
  | call op next ih => exact ih _ _

theorem Calls.ask {C : Op → Prop} {op : Op} {f : Res op → Prog Res β} (hop : C op)
    (hf : ∀ r, (f r).Calls C) : (Prog.ask op >>= f).Calls C := ⟨hop, hf⟩

section Heeds

variable {may : Prop} {M : (op : Op) → Res op → Prop} {A : α → Prop} {B : β → Prop}
  {f : α → Prog Res β}

theorem Yields.bind (hx : x.Yields A) (hf : ∀ a, A a → (f a).Yields B) : (x >>= f).Yields B := by
  induction x with
  | ret a => exact hf a hx
  | stop reason => trivial
  | call op next ih => exact fun r => ih r (hx r)

theorem Yields.run {s : σ} {r : α × σ} (hx : x.Yields A) (h : x.run exec s = .ok r) : A r.1 := by
  induction x generalizing s with
  | ret a =>
    cases h
    exact hx
  | stop reason => cases h
  | call op next ih => exact ih _ (hx _) h

theorem Heeds.ask {op : Op} {f : Res op → Prog Res β} (hmiss : ∀ r, M op r → (f r).Yields B)
    (hf : ∀ r, (f r).Heeds may M B) : (Prog.ask op >>= f).Heeds may M B :=
  fun r => ⟨hmiss r, hf r⟩

theorem Heeds.ofOutcome {x : Outcome α} (hf : ∀ a, (f a).Heeds True M B) :
    (Prog.ofOutcome x >>= f).Heeds True M B := by
  cases x with
  | ok a => exact hf a
  | error reason => trivial

theorem Heeds.bind (hx : x.Heeds may M A) (hmiss : ∀ a, A a → (f a).Yields B)
    (hf : ∀ a, (f a).Heeds may M B) : (x >>= f).Heeds may M B := by
  induction x with
  | ret a => exact hf a
  | stop reason => exact hx
  | call op next ih => exact fun r => ⟨fun h => ((hx r).1 h).bind hmiss, ih r (hx r).2⟩

theorem Heeds.run {s : σ} {r : α × σ} (hx : x.Heeds may M A) (h : x.run exec s = .ok r)
    (hmet : ∃ c ∈ x.asked exec s, M c.1 c.2) : A r.1 := by
  induction x generalizing s with
  | ret a =>
    obtain ⟨_, hc, _⟩ := hmet
    cases hc
  | stop reason => cases h
  | call op next ih =>
    obtain ⟨c, hc, hM⟩ := hmet
    rcases List.mem_cons.mp hc with heq | hc
    · rw [heq] at hM
      exact ((hx _).1 hM).run h
    · exact ih _ (hx _).2 h ⟨c, hc, hM⟩

theorem Heeds.returns (hx : x.Heeds False M A) (s : σ) : ∃ r, x.run exec s = .ok r := by
  induction x generalizing s with
  | ret a => exact ⟨(a, s), rfl⟩
  | stop reason => exact hx.elim
  | call op next ih => exact ih _ (hx _).2 _

theorem Heeds.mono (hx : x.Heeds False M A) : x.Heeds may M A := by
  induction x with
  | ret a => trivial
  | stop reason => exact hx.elim
  | call op next ih => exact fun r => ⟨(hx r).1, ih r (hx r).2⟩

end Heeds

end Prog

structure Rules (σ : Type) (Res : Op → Type) where
  answers : (op : Op) → σ → Res op → σ → Prop
  allowed : Op → σ → Prop
  rely : σ → σ → Prop

namespace Rules

def Stable (R : Rules σ Res) (P : σ → Prop) : Prop := ∀ s s', P s → R.rely s s' → P s'

def Holds (R : Rules σ Res) (Q : α → σ → Prop) : Prog Res α → (σ → Prop) → Prop
  | .ret a, P => ∀ s, P s → Q a s
  | .stop _, _ => True
  | .call op next, P =>
    ∃ M : Res op → σ → Prop, (∀ r, R.Stable (M r)) ∧
      (∀ s, P s → R.allowed op s ∧ ∀ r s', R.answers op s r s' → M r s') ∧
      ∀ r, R.Holds Q (next r) (M r)

variable {R : Rules σ Res} {P P' : σ → Prop} {Q : α → σ → Prop} {Q' : β → σ → Prop}

theorem Holds.mono (h : R.Holds Q x P) (hP : ∀ s, P' s → P s) : R.Holds Q x P' := by
  cases x with
  | ret a => exact fun s hs => h s (hP s hs)
  | stop reason => trivial
  | call op next =>
    obtain ⟨M, hstable, hcall, hnext⟩ := h
    exact ⟨M, hstable, fun s hs => hcall s (hP s hs), hnext⟩

theorem Holds.weaken {Q' : α → σ → Prop} (h : R.Holds Q x P) (hQ : ∀ a s, Q a s → Q' a s) :
    R.Holds Q' x P := by
  induction x generalizing P with
  | ret a => exact fun s hs => hQ a s (h s hs)
  | stop reason => trivial
  | call op next ih =>
    obtain ⟨M, hstable, hcall, hnext⟩ := h
    exact ⟨M, hstable, hcall, fun r => ih r (hnext r)⟩

theorem Stable.and (hP : R.Stable P) (hP' : R.Stable P') : R.Stable fun s => P s ∧ P' s :=
  fun s s' h hrely => ⟨hP s s' h.1 hrely, hP' s s' h.2 hrely⟩

theorem Stable.imp {N : Prop} (hP : R.Stable P) : R.Stable fun s => N → P s :=
  fun s s' h hrely hN => hP s s' (h hN) hrely

theorem Holds.absurd (x : Prog Res α) (h : ∀ s, ¬ P s) : R.Holds Q x P := by
  induction x generalizing P with
  | ret a => exact fun s hs => (h s hs).elim
  | stop reason => trivial
  | call op next ih =>
    exact ⟨fun _ _ => False, fun _ _ _ h => h.elim, fun s hs => (h s hs).elim,
      fun r => ih r fun _ => id⟩

theorem Holds.of_fact {N : Prop} (h : N → R.Holds Q x P) : R.Holds Q x fun s => P s ∧ N := by
  by_cases hN : N
  · exact (h hN).mono fun s hs => hs.1
  · exact .absurd x fun s hs => hN hs.2

theorem Holds.pure {a : α} (h : ∀ s, P s → Q a s) : R.Holds Q (Pure.pure a) P := h

theorem Holds.bind {f : α → Prog Res β} (hx : R.Holds Q x P) (hf : ∀ a, R.Holds Q' (f a) (Q a)) :
    R.Holds Q' (x >>= f) P := by
  induction x generalizing P with
  | ret a => exact (hf a).mono hx
  | stop reason => trivial
  | call op next ih =>
    obtain ⟨M, hstable, hcall, hnext⟩ := hx
    exact ⟨M, hstable, hcall, fun r => ih r (hnext r)⟩

theorem Holds.ask {op : Op} {f : Res op → Prog Res β} (M : Res op → σ → Prop)
    (hstable : ∀ r, R.Stable (M r)) (hallowed : ∀ s, P s → R.allowed op s)
    (hanswers : ∀ s r s', P s → R.answers op s r s' → M r s')
    (hf : ∀ r, R.Holds Q' (f r) (M r)) : R.Holds Q' (Prog.ask op >>= f) P :=
  ⟨M, hstable, fun s hs => ⟨hallowed s hs, fun r s' => hanswers s r s' hs⟩, hf⟩

theorem Holds.ofOutcome {x : Outcome α} {f : α → Prog Res β}
    (h : ∀ a, x = .ok a → R.Holds Q' (f a) P) : R.Holds Q' (Prog.ofOutcome x >>= f) P := by
  cases x with
  | error reason => trivial
  | ok a => exact h a rfl

theorem Holds.of_calls {C : Op → Prop} (hx : x.Calls C) (hstable : R.Stable P)
    (hallowed : ∀ op s, C op → P s → R.allowed op s)
    (hkeeps : ∀ op s r s', P s → R.answers op s r s' → P s') : R.Holds (fun _ => P) x P := by
  induction x with
  | ret a => exact fun s hs => hs
  | stop reason => trivial
  | call op next ih =>
    refine ⟨fun _ => P, fun _ => hstable, fun s hs => ⟨hallowed op s hx.1 hs, ?_⟩, ?_⟩
    · exact fun r s' h => hkeeps op s r s' hs h
    · exact fun r => ih r (hx.2 r)

end Rules

section Pool

variable (R : κ → Rules σ Res) (Q : κ → α → σ → Prop)

/-- Each program of the pool may go on from an assertion that holds and is kept. -/
def Covered (s : σ) (pool : GoMap κ (Prog Res α)) : Prop :=
  ∀ t x, (t, x) ∈ pool.entries → ∃ P, (R t).Stable P ∧ P s ∧ (R t).Holds (Q t) x P

variable {R Q} {s s' : σ} {pool : GoMap κ (Prog Res α)} {t : κ} {op : Op}
  {next : Res op → Prog Res α} {r : Res op}

theorem Covered.others (h : Covered R Q s pool)
    (hrely : ∀ t x, (t, x) ∈ pool.entries → (R t).rely s s') : Covered R Q s' pool := by
  intro t x ht
  obtain ⟨P, hstable, hP, hx⟩ := h t x ht
  exact ⟨P, hstable, hstable s s' hP (hrely t x ht), hx⟩

variable [DecidableEq κ]

theorem Covered.allowed (h : Covered R Q s pool) (ht : pool.get? t = some (.call op next)) :
    (R t).allowed op s := by
  obtain ⟨P, -, hP, M, -, hcall, -⟩ := h t _ (GoMap.get?_eq_some.mp ht)
  exact (hcall s hP).1

theorem Covered.answer (h : Covered R Q s pool) (ht : pool.get? t = some (.call op next))
    (hanswers : (R t).answers op s r s')
    (hrely : ∀ t' x, (t', x) ∈ pool.entries → t' ≠ t → (R t').rely s s') :
    Covered R Q s' (pool.set t (next r)) := by
  intro t' x hx
  rcases GoMap.mem_set.mp hx with heq | ⟨hmem, hne⟩
  · cases heq
    obtain ⟨P, -, hP, M, hstable, hcall, hnext⟩ := h t _ (GoMap.get?_eq_some.mp ht)
    exact ⟨M r, hstable r, (hcall s hP).2 r s' hanswers, hnext r⟩
  · obtain ⟨P, hstable, hP, hx⟩ := h t' x hmem
    exact ⟨P, hstable, hstable s s' hP (hrely t' x hmem hne), hx⟩

theorem Covered.start (h : Covered R Q s pool) (P : σ → Prop) (hstable : (R t).Stable P)
    (hP : P s) (hx : (R t).Holds (Q t) x P) : Covered R Q s (pool.set t x) := by
  intro t' x' hx'
  rcases GoMap.mem_set.mp hx' with heq | ⟨hmem, -⟩
  · cases heq
    exact ⟨P, hstable, hP, hx⟩
  · exact h t' x' hmem

theorem Covered.finish (h : Covered R Q s pool) : Covered R Q s (pool.delete t) :=
  fun t' x hx => h t' x (GoMap.mem_delete.mp hx).1

theorem Covered.returned (h : Covered R Q s pool) {a : α} (ht : pool.get? t = some (.ret a)) :
    Q t a s := by
  obtain ⟨P, -, hP, hret⟩ := h t _ (GoMap.get?_eq_some.mp ht)
  exact hret s hP

end Pool

end Kosmos.Go
