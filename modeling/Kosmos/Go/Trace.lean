import Kosmos.Go.Basic

/-!
# Runs of a machine

`trace` keeps every move of a run, so that a property of the run is a property of its moves.
-/

namespace Kosmos.Go

variable {S E R : Type}

structure Move (S E R : Type) where
  before : S
  event : E
  result : R
  after : S

def trace (step : S → E → Outcome (R × S)) : S → List E → Outcome (List (Move S E R))
  | _, [] => .ok []
  | s, e :: es => do
    let (r, s') ← step s e
    let xs ← trace step s' es
    pure (⟨s, e, r, s'⟩ :: xs)

variable {step : S → E → Outcome (R × S)} {I : S → Prop}

theorem trace_returns (hstep : ∀ s e, I s → ∃ r s', step s e = .ok (r, s') ∧ I s') :
    ∀ (es : List E) (s : S), I s → ∃ xs, trace step s es = .ok xs
  | [], _, _ => ⟨[], rfl⟩
  | e :: es, s, hs => by
    obtain ⟨r, s', he, hs'⟩ := hstep s e hs
    obtain ⟨xs, hxs⟩ := trace_returns hstep es s' hs'
    exact ⟨⟨s, e, r, s'⟩ :: xs, by simp [trace, he, hxs]⟩

theorem trace_events :
    ∀ {es : List E} {s : S} {xs : List (Move S E R)}, trace step s es = .ok xs →
      xs.map Move.event = es
  | [], _, _, h => by
    cases h
    rfl
  | e :: es, s, xs, h => by
    obtain ⟨⟨r, s'⟩, -, h⟩ := bind_eq_ok h
    obtain ⟨xs', hes, h⟩ := bind_eq_ok h
    cases h
    rw [List.map_cons, trace_events hes]

theorem trace_step :
    ∀ {es : List E} {s : S} {xs : List (Move S E R)}, trace step s es = .ok xs →
      ∀ x ∈ xs, step x.before x.event = .ok (x.result, x.after)
  | [], _, _, h => by
    cases h
    exact List.forall_mem_nil _
  | e :: es, s, xs, h => by
    obtain ⟨⟨r, s'⟩, he, h⟩ := bind_eq_ok h
    obtain ⟨xs', hes, h⟩ := bind_eq_ok h
    cases h
    rw [List.forall_mem_cons]
    exact ⟨he, trace_step hes⟩

theorem trace_split {x : Move S E R} {post : List (Move S E R)} :
    ∀ {pre : List (Move S E R)} {es : List E} {s : S}, trace step s es = .ok (pre ++ x :: post) →
      ∃ es', trace step x.after es' = .ok post
  | _, [], _, h => by
    have hnil := Except.ok.inj h
    simp at hnil
  | pre, e :: es, s, h => by
    obtain ⟨⟨r, s'⟩, -, h⟩ := bind_eq_ok h
    obtain ⟨xs, hes, h⟩ := bind_eq_ok h
    cases pre with
    | nil =>
      cases h
      exact ⟨es, hes⟩
    | cons y pre =>
      cases h
      exact trace_split hes

theorem trace_before :
    ∀ {es : List E} {s : S} {xs : List (Move S E R)}, trace step s es = .ok xs → I s →
      (∀ x ∈ xs, I x.after) → ∀ x ∈ xs, I x.before
  | [], _, _, h, _, _ => by
    cases h
    exact List.forall_mem_nil _
  | e :: es, s, xs, h, hs, hafter => by
    obtain ⟨⟨r, s'⟩, he, h⟩ := bind_eq_ok h
    obtain ⟨xs', hes, h⟩ := bind_eq_ok h
    cases h
    rw [List.forall_mem_cons] at hafter ⊢
    exact ⟨hs, trace_before hes hafter.1 hafter.2⟩

theorem trace_keeps {A B : Move S E R → Prop}
    (hstep : ∀ s e r s', I s → step s e = .ok (r, s') → A ⟨s, e, r, s'⟩ →
      I s' ∧ B ⟨s, e, r, s'⟩) :
    ∀ (es : List E) (s : S) (xs : List (Move S E R)), I s → trace step s es = .ok xs →
      (∀ x ∈ xs, A x) → ∀ x ∈ xs, B x
  | [], _, _, _, h, _ => by
    cases h
    intro x hx
    cases hx
  | e :: es, s, xs, hs, h, hA => by
    obtain ⟨⟨r, s'⟩, he, h⟩ := bind_eq_ok h
    obtain ⟨xs', hes, h⟩ := bind_eq_ok h
    cases h
    rw [List.forall_mem_cons] at hA ⊢
    obtain ⟨hs', hB⟩ := hstep s e r s' hs he hA.1
    exact ⟨hB, trace_keeps hstep es s' xs' hs' hes hA.2⟩

theorem trace_keeps_iff {A : Move S E R → Prop}
    (hstep : ∀ s e r s', I s → step s e = .ok (r, s') → (I s' ↔ A ⟨s, e, r, s'⟩))
    {es : List E} {s : S} {xs : List (Move S E R)} (hs : I s) (h : trace step s es = .ok xs) :
    (∀ x ∈ xs, I x.after) ↔ ∀ x ∈ xs, A x := by
  refine ⟨fun hafter x hx => ?_, fun hA => ?_⟩
  · have hbefore := trace_before h hs hafter x hx
    exact (hstep _ _ _ _ hbefore (trace_step h x hx)).mp (hafter x hx)
  · refine trace_keeps (I := I) (A := A) ?_ es s xs hs h hA
    intro s e r s' hs he hmet
    have hs' := (hstep s e r s' hs he).mpr hmet
    exact ⟨hs', hs'⟩

structure Run (S E R : Type) where
  moves : List (Move S E R)
  state : S
  stopped : Option Stop := none

namespace Run

def idle (s : S) : Run S E R := ⟨[], s, none⟩

def andThen (x : Run S E R) (next : S → Run S E R) : Run S E R :=
  match x.stopped with
  | some _ => x
  | none => ⟨x.moves ++ (next x.state).moves, (next x.state).state, (next x.state).stopped⟩

def once (step : S → E → Outcome (R × S)) (e : E) (s : S) : Run S E R :=
  match step s e with
  | .error stop => ⟨[], s, some stop⟩
  | .ok (r, s') => ⟨[⟨s, e, r, s'⟩], s', none⟩

def onceUnless (step : S → E → Outcome (R × S)) (stops : R → Option Stop) (e : E) (s : S) :
    Run S E R :=
  match step s e with
  | .error stop => ⟨[], s, some stop⟩
  | .ok (r, s') => ⟨[⟨s, e, r, s'⟩], s', stops r⟩

def retry (step : S → E → Outcome (R × S)) (again : R → Bool) (events : Nat → E) :
    Nat → Nat → S → Run S E R
  | 0, _, s => idle s
  | n + 1, i, s =>
    match step s (events i) with
    | .error stop => ⟨[], s, some stop⟩
    | .ok (r, s') =>
      andThen ⟨[⟨s, events i, r, s'⟩], s', none⟩ fun s' =>
        if again r then retry step again events n (i + 1) s' else idle s'

def loop {α : Type} (body : α → S → Run S E R) : List α → S → Run S E R
  | [], s => idle s
  | a :: as, s => (body a s).andThen (loop body as)

def caught (x : Run S E R) : Run S E R :=
  { x with
    stopped :=
      match x.stopped with
      | some (.err _) => none
      | stopped => stopped }

/-- The moves are steps from states of the invariant, and so is what follows. -/
def Keeps (step : S → E → Outcome (R × S)) (I : S → Prop) (x : Run S E R) : Prop :=
  (∀ m ∈ x.moves, I m.before ∧ step m.before m.event = .ok (m.result, m.after)) ∧ I x.state

theorem Keeps.idle {s : S} (hs : I s) : Keeps step I (Run.idle s) :=
  ⟨List.forall_mem_nil _, hs⟩

theorem Keeps.andThen {x : Run S E R} {next : S → Run S E R} (hx : Keeps step I x)
    (hnext : ∀ s, I s → Keeps step I (next s)) : Keeps step I (x.andThen next) := by
  unfold Run.andThen
  cases x.stopped with
  | some stop => exact hx
  | none =>
    obtain ⟨hmoves, hstate⟩ := hnext x.state hx.2
    refine ⟨fun m hm => ?_, hstate⟩
    rcases List.mem_append.mp hm with hm | hm
    · exact hx.1 m hm
    · exact hmoves m hm

theorem Keeps.once (hstep : ∀ s e r s', I s → step s e = .ok (r, s') → I s') (e : E) (s : S)
    (hs : I s) : Keeps step I (Run.once step e s) := by
  unfold Run.once
  cases he : step s e with
  | error stop => exact ⟨List.forall_mem_nil _, hs⟩
  | ok x => exact ⟨List.forall_mem_singleton.mpr ⟨hs, he⟩, hstep s e x.1 x.2 hs he⟩

theorem Keeps.onceUnless {stops : R → Option Stop}
    (hstep : ∀ s e r s', I s → step s e = .ok (r, s') → I s') (e : E) (s : S) (hs : I s) :
    Keeps step I (Run.onceUnless step stops e s) := by
  unfold Run.onceUnless
  cases he : step s e with
  | error stop => exact ⟨List.forall_mem_nil _, hs⟩
  | ok x => exact ⟨List.forall_mem_singleton.mpr ⟨hs, he⟩, hstep s e x.1 x.2 hs he⟩

theorem Keeps.retry {again : R → Bool} {events : Nat → E}
    (hstep : ∀ s e r s', I s → step s e = .ok (r, s') → I s') :
    ∀ (n i : Nat) (s : S), I s → Keeps step I (Run.retry step again events n i s) := by
  intro n
  induction n with
  | zero => exact fun _ s hs => Keeps.idle hs
  | succ n ih =>
    intro i s hs
    unfold Run.retry
    cases he : step s (events i) with
    | error stop => exact ⟨List.forall_mem_nil _, hs⟩
    | ok x =>
      obtain ⟨r, s'⟩ := x
      have hs' := hstep s (events i) r s' hs he
      refine Keeps.andThen ⟨List.forall_mem_singleton.mpr ⟨hs, he⟩, hs'⟩ fun s' hs' => ?_
      split
      · exact ih (i + 1) s' hs'
      · exact Keeps.idle hs'

theorem Keeps.loop {α : Type} {body : α → S → Run S E R}
    (hbody : ∀ a s, I s → Keeps step I (body a s)) :
    ∀ (as : List α) (s : S), I s → Keeps step I (Run.loop body as s) := by
  intro as
  induction as with
  | nil => exact fun s hs => Keeps.idle hs
  | cons a as ih => exact fun s hs => Keeps.andThen (hbody a s hs) ih

theorem Keeps.caught {x : Run S E R} (hx : Keeps step I x) : Keeps step I x.caught := hx

theorem loop_moves_trace :
    ∀ (es : List E) (s : S), ∃ es', trace step s es' = .ok (loop (once step) es s).moves := by
  intro es
  induction es with
  | nil => exact fun s => ⟨[], rfl⟩
  | cons e es ih =>
    intro s
    unfold loop andThen
    cases he : step s e with
    | error stop =>
      refine ⟨[], ?_⟩
      simp only [once, he]
      rfl
    | ok x =>
      obtain ⟨r, s'⟩ := x
      have honce : once step e s = ⟨[⟨s, e, r, s'⟩], s', none⟩ := by
        rw [once, he]
      obtain ⟨es', htrace⟩ := ih s'
      refine ⟨e :: es', ?_⟩
      rw [honce, trace, he]
      simp [htrace]

theorem event_mem_of_loop {m : Move S E R} :
    ∀ {es : List E} {s : S}, m ∈ (loop (once step) es s).moves → m.event ∈ es := by
  intro es
  induction es with
  | nil => exact fun hm => nomatch hm
  | cons e es ih =>
    intro s hm
    unfold loop andThen once at hm
    cases he : step s e with
    | error stop =>
      rw [he] at hm
      cases hm
    | ok x =>
      simp only [he, List.singleton_append, List.mem_cons] at hm
      rcases hm with rfl | hm
      · exact List.mem_cons_self
      · exact List.mem_cons_of_mem e (ih hm)

theorem loop_state_of_total {f : S → E → R × S} (hf : ∀ s e, step s e = .ok (f s e)) :
    ∀ (es : List E) (s : S),
      (loop (once step) es s).state = es.foldl (fun s e => (f s e).2) s := by
  intro es
  induction es with
  | nil => exact fun _ => rfl
  | cons e es ih =>
    intro s
    have honce : once step e s = ⟨[⟨s, e, (f s e).1, (f s e).2⟩], (f s e).2, none⟩ := by
      rw [once, hf]
    rw [loop, andThen, honce, List.foldl_cons]
    exact ih (f s e).2

end Run

end Kosmos.Go
