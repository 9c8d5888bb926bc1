import Kosmos.Go.Prog
import Kosmos.Go.Store

/-!
# Objects in hand, and updates that are tried again

The server takes an object that still has the version that was read; here that is the object itself
as it was read.
-/

namespace Kosmos.Go

inductive Fault where
  | conflict
  | other (msg : String)

def Fault.err : Fault → CallError
  | .conflict => .conflict
  | .other msg => .other msg

theorem Fault.err_ne_notFound (f : Fault) : f.err ≠ .notFound := by
  cases f <;> exact fun h => nomatch h

inductive WriteReply where
  | done
  | refused (f : Fault)
  | lost (f : Fault)

def WriteReply.takesEffect : WriteReply → Bool
  | .done => true
  | .refused _ => false
  | .lost _ => true

variable {α κ σ : Type} {s s' : σ} {x : α} {result : Except CallError (α × σ)}

def WriteReply.to (reply : WriteReply) (result : Except CallError (α × σ)) (s : σ) :
    Except CallError α × σ :=
  match reply, result with
  | .refused f, _ => (.error f.err, s)
  | _, .error e => (.error e, s)
  | .done, .ok (x, s') => (.ok x, s')
  | .lost f, .ok (_, s') => (.error f.err, s')

variable (reply : WriteReply)

theorem WriteReply.to_ok_snd (x : α) (s s' : σ) :
    (reply.to (.ok (x, s')) s).2 = if reply.takesEffect then s' else s := by
  cases reply <;> rfl

theorem WriteReply.to_error_snd (e : CallError) (s : σ) :
    (reply.to (.error e : Except CallError (α × σ)) s).2 = s := by
  cases reply <;> rfl

theorem WriteReply.to_cases (result : Except CallError (α × σ)) (s : σ) :
    (∃ e, reply.to result s = (.error e, s) ∧ (result = .error e ∨ ∃ f : Fault, e = f.err)) ∨
      ∃ x s', result = .ok (x, s') ∧
        (reply.to result s = (.ok x, s') ∨
          ∃ f : Fault, reply.to result s = (.error f.err, s')) := by
  cases reply with
  | refused f => exact Or.inl ⟨_, rfl, Or.inr ⟨f, rfl⟩⟩
  | done =>
    cases result with
    | error e => exact Or.inl ⟨e, rfl, Or.inl rfl⟩
    | ok r => exact Or.inr ⟨r.1, r.2, rfl, Or.inl rfl⟩
  | lost f =>
    cases result with
    | error e => exact Or.inl ⟨e, rfl, Or.inl rfl⟩
    | ok r => exact Or.inr ⟨r.1, r.2, rfl, Or.inr ⟨f, rfl⟩⟩

theorem WriteReply.to_eq_ok {reply : WriteReply} (h : (reply.to result s).1 = .ok x) :
    result = .ok (x, (reply.to result s).2) := by
  rcases reply.to_cases result s with ⟨e, heq, -⟩ | ⟨y, s', hok, heq | ⟨f, heq⟩⟩
  · rw [heq] at h
    cases h
  · rw [heq] at h ⊢
    cases h
    exact hok
  · rw [heq] at h
    cases h

theorem WriteReply.to_notFound {reply : WriteReply}
    (h : (reply.to result s).1 = .error .notFound) :
    result = .error .notFound ∧ (reply.to result s).2 = s := by
  rcases reply.to_cases result s with ⟨e, heq, herr⟩ | ⟨y, s', hok, heq | ⟨f, heq⟩⟩
  · rw [heq] at h ⊢
    cases h
    refine ⟨herr.resolve_right ?_, rfl⟩
    rintro ⟨f, hf⟩
    exact f.err_ne_notFound hf.symm
  · rw [heq] at h
    cases h
  · rw [heq] at h
    exact absurd (Except.error.inj h) f.err_ne_notFound

theorem WriteReply.to_state (result : Except CallError (α × σ)) (s : σ) :
    (reply.to result s).2 = s ∨ ∃ x, result = .ok (x, (reply.to result s).2) := by
  rcases reply.to_cases result s with ⟨e, heq, -⟩ | ⟨x, s', hok, heq | ⟨f, heq⟩⟩
  · exact Or.inl (by rw [heq])
  · exact Or.inr ⟨x, by rw [heq, hok]⟩
  · exact Or.inr ⟨x, by rw [heq, hok]⟩

structure InHand (α : Type) where
  read : Option α
  value : α

def InHand.fresh (a : α) : InHand α := ⟨some a, a⟩

def InHand.modified (modify : α → α) (x : InHand α) : InHand α := ⟨x.read, modify x.value⟩

section Put

variable [DecidableEq α] [DecidableEq κ] {key : α → κ}

/-- The server may take the object for the one that it has. -/
def InHand.Current (x : InHand α) (cur : α) : Prop := x.read = none ∨ x.read = some cur

instance (x : InHand α) (cur : α) : Decidable (x.Current cur) :=
  inferInstanceAs (Decidable (_ ∨ _))

def Store.put (s : Store key) (x : InHand α) : Except CallError (α × Store key) :=
  match s.get? (key x.value) with
  | none => .error .notFound
  | some cur =>
    if x.Current cur then
      match s.update x.value with
      | .error e => .error (callError e)
      | .ok s' => .ok (x.value, s')
    else .error .conflict

theorem Store.put_eq_ok {s s' : Store key} {x : InHand α} {a : α} (h : s.put x = .ok (a, s')) :
    a = x.value ∧ s.update x.value = .ok s' ∧
      ∃ cur, s.get? (key x.value) = some cur ∧ x.Current cur := by
  unfold Store.put at h
  split at h
  · cases h
  next cur hcur =>
    split at h
    next hcurrent =>
      split at h
      · cases h
      next s' hupdate =>
        cases h
        exact ⟨rfl, hupdate, cur, hcur, hcurrent⟩
    · cases h

theorem Store.put_of_current {s : Store key} {x : InHand α} {cur : α}
    (hcur : s.get? (key x.value) = some cur) (h : x.Current cur) : ∃ r, s.put x = .ok r := by
  have hupdate : ∃ s', s.update x.value = .ok s' := ⟨_, if_pos (Option.isSome_of_eq_some hcur)⟩
  obtain ⟨s', hs'⟩ := hupdate
  simp only [Store.put, hcur, if_pos h, hs']
  exact ⟨_, rfl⟩

theorem Store.put_notFound {s : Store key} {x : InHand α} (h : s.put x = .error .notFound) :
    s.get? (key x.value) = none := by
  cases hget : s.get? (key x.value) with
  | none => rfl
  | some cur =>
    by_cases hcur : x.Current cur
    · obtain ⟨r, hr⟩ := Store.put_of_current hget hcur
      cases h.symm.trans hr
    · simp [Store.put, hget, hcur] at h

omit [DecidableEq α] in
theorem Store.has_write {β : Type} {p : α → Bool} {j : κ} {st : Store key} {reply : WriteReply}
    {result : Except CallError (β × Store key)} (h : (reply.to result st).2.Has p j) :
    st.Has p j ∨ ∃ x st', result = .ok (x, st') ∧ st'.Has p j := by
  rcases reply.to_state result st with hsame | ⟨x, hok⟩
  · rw [hsame] at h
    exact Or.inl h
  · exact Or.inr ⟨x, _, hok, h⟩

theorem Store.spares_put {own : α → Prop} {st : Store key} (x : InHand α) :
    Spares own st (reply.to (st.put x) st).2 ↔
      (reply.takesEffect = true → ∀ cur, st.get? (key x.value) = some cur → x.Current cur →
        own cur → cur = x.value) := by
  cases hput : st.put x with
  | error e =>
    rw [reply.to_error_snd]
    refine iff_of_true (.refl own st) fun _ cur hcur hcurrent => ?_
    obtain ⟨r, hr⟩ := Store.put_of_current hcur hcurrent
    cases hput.symm.trans hr
  | ok r =>
    obtain ⟨y, st'⟩ := r
    obtain ⟨-, hupdate, cur, hcur, hcurrent⟩ := Store.put_eq_ok hput
    have hspares : Spares own st (answered .done (st.update x.value) st).2 ↔ _ :=
      Store.spares_update .done
    rw [hupdate] at hspares
    rw [reply.to_ok_snd]
    split
    · refine hspares.trans ⟨fun h _ z hz _ => h rfl z hz, fun h _ z hz => ?_⟩
      rw [hcur] at hz
      cases hz
      exact h ‹_› cur hcur hcurrent
    next hno => exact iff_of_true (.refl own st) fun h => absurd h hno

def Store.changed (s s' : Store key) : List κ :=
  ((s.objects ++ s'.objects).map key).filter fun k => s.get? k ≠ s'.get? k

end Put

section Loop

variable {Op : Type} {Res : Op → Type}

def retryUpdate (update : InHand α → Prog Res (Except CallError α))
    (get : Prog Res (Except CallError α)) (modify : α → α) :
    Nat → Option CallError → Option (InHand α) → InHand α →
      Prog Res (Option CallError × InHand α)
  | 0, lastErr, caller, x => pure (lastErr, caller.getD x)
  | n + 1, _, caller, x => do
    let x := x.modified modify
    match ← update x with
    | .ok new => pure (none, caller.getD (.fresh new))
    | .error .notFound => pure (none, caller.getD x)
    | .error updateErr =>
      match ← get with
      | .ok new =>
        if updateErr = .conflict then
          retryUpdate update get modify n (some updateErr) (some (caller.getD x)) (.fresh new)
        else pure (some updateErr, caller.getD x)
      | .error .notFound => pure (none, caller.getD x)
      | .error _ =>
        if updateErr = .conflict then
          retryUpdate update get modify n (some updateErr) caller x
        else pure (some updateErr, caller.getD x)

def Told (ok : α → σ → Prop) (gone failed : σ → Prop) : Except CallError α → σ → Prop
  | .ok x => ok x
  | .error .notFound => gone
  | .error _ => failed

section Told

variable {ok : α → σ → Prop} {gone failed : σ → Prop} {r : Except CallError α} {e : CallError}

theorem told_error_iff (he : e ≠ .notFound) : Told ok gone failed (.error e) s ↔ failed s := by
  cases e with
  | notFound => exact absurd rfl he
  | conflict | alreadyExists | other msg => exact Iff.rfl

theorem Told.intro (hok : ∀ x, r = .ok x → ok x s) (hgone : r = .error .notFound → gone s)
    (hfailed : (∃ e, e ≠ .notFound ∧ r = .error e) → failed s) : Told ok gone failed r s := by
  cases r with
  | ok x => exact hok x rfl
  | error e =>
    by_cases he : e = .notFound
    · cases he
      exact hgone rfl
    · exact (told_error_iff he).mpr (hfailed ⟨e, he, rfl⟩)

theorem Rules.Stable.told {R : Rules σ Res} (hok : ∀ x, R.Stable (ok x)) (hgone : R.Stable gone)
    (hfailed : R.Stable failed) (r : Except CallError α) : R.Stable (Told ok gone failed r) := by
  cases r with
  | ok x => exact hok x
  | error e => cases e <;> first | exact hgone | exact hfailed

end Told

def Answered (G : InHand α → Prop) (P Q : σ → Prop) (written : Bool) :
    Except CallError α → σ → Prop :=
  Told (fun new s => G (.fresh new) ∧ if written then Q s else P s) Q P

theorem Answered.of_same {G : InHand α → Prop} {P : σ → Prop} {written : Bool}
    {r : Except CallError α} (hok : ∀ new, r = .ok new → G (.fresh new)) (hs : P s) :
    Answered G P P written r s :=
  Told.intro (fun new hnew => ⟨hok new hnew, (ite_self _).mpr hs⟩) (fun _ => hs) fun _ => hs

theorem Rules.Stable.answered {R : Rules σ Res} {G : InHand α → Prop} {P Q : σ → Prop}
    {written : Bool} (hP : R.Stable P) (hQ : R.Stable Q) (r : Except CallError α) :
    R.Stable (Answered G P Q written r) := by
  refine Rules.Stable.told (fun new s s' h hrely => ⟨h.1, ?_⟩) hQ hP r
  cases written with
  | true => exact hQ s s' h.2 hrely
  | false => exact hP s s' h.2 hrely

/-- What the loop returns: without an error `Q` holds. -/
def Updated (G : InHand α → Prop) (P Q : σ → Prop) (r : Option CallError × InHand α) (s : σ) :
    Prop :=
  G r.2 ∧ if r.1 = none then Q s else P s

variable {R : Rules σ Res} {P Q : σ → Prop} {G : InHand α → Prop}
  {update : InHand α → Prog Res (Except CallError α)} {get : Prog Res (Except CallError α)}
  {modify : α → α}

theorem Rules.Holds.retryUpdate (hmodify : ∀ x, G x → G (x.modified modify))
    (hupdate : ∀ x, G x → R.Holds (Answered G P Q true) (update (x.modified modify)) P)
    (hget : R.Holds (Answered G P Q false) get P) :
    ∀ (n : Nat) (lastErr : Option CallError) (caller : Option (InHand α)) (x : InHand α),
      (n = 0 → lastErr ≠ none) → (∀ c ∈ caller, G c) → G x →
        R.Holds (Updated G P Q) (Go.retryUpdate update get modify n lastErr caller x) P := by
  intro n
  induction n with
  | zero =>
    intro lastErr caller x hlast hcaller hx
    refine Holds.pure fun s hs => ⟨?_, ?_⟩
    · cases caller with
      | none => exact hx
      | some c => exact hcaller c rfl
    · rw [if_neg (hlast rfl)]
      exact hs
  | succ n ih =>
    intro lastErr caller x _ hcaller hx
    have hown : ∀ y, G y → G (caller.getD y) := by
      intro y hy
      cases caller with
      | none => exact hy
      | some c => exact hcaller c rfl
    have hx' := hmodify x hx
    unfold Go.retryUpdate
    refine (hupdate x hx).bind fun r => ?_
    split
    next new =>
      exact Holds.pure fun s hs => ⟨hown _ hs.1, hs.2⟩
    · exact Holds.pure fun s hs => ⟨hown _ hx', hs⟩
    next updateErr hne =>
      refine (hget.mono fun s hs => ?_).bind fun r => ?_
      · exact (told_error_iff hne).mp hs
      split
      next new =>
        split
        · refine Holds.of_fact (N := G (.fresh new)) (fun hnew => ?_) |>.mono
            fun s hs => ⟨hs.2, hs.1⟩
          refine ih _ _ _ (fun _ => Option.some_ne_none _) ?_ hnew
          rintro c ⟨⟩
          exact hown _ hx'
        · exact Holds.pure fun s hs => ⟨hown _ hx', hs.2⟩
      · exact Holds.pure fun s hs => ⟨hown _ hx', hs⟩
      next e hne' =>
        have hP : ∀ s, Answered G P Q false (.error e) s → P s := fun s hs =>
          (told_error_iff hne').mp hs
        split
        · exact (ih _ _ _ (fun _ => Option.some_ne_none _) hcaller hx').mono hP
        · exact Holds.pure fun s hs => ⟨hown _ hx', hP s hs⟩

end Loop

end Kosmos.Go
