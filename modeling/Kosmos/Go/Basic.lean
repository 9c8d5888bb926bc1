import Kosmos.Go.Keyed
import Mathlib.Data.List.Basic
import Mathlib.Data.List.Forall2
import Mathlib.Data.List.Nodup
import Mathlib.Data.List.Perm.Basic
import Mathlib.Logic.Function.Basic

/-!
# Go values and control flow: slices, maps, panics and `range` loops

A call returns a value, returns an error or panics: `Outcome`. A nil slice is not an empty one, and
a map is visited in any order.
-/

namespace Kosmos.Go

abbrev Slice (α : Type) := Option (List α)

def Slice.elems {α : Type} (s : Slice α) : List α := s.getD []

@[simp] theorem Slice.elems_none {α : Type} : Slice.elems (none : Slice α) = [] := rfl

@[simp] theorem Slice.elems_some {α : Type} (l : List α) :
    Slice.elems (some l : Slice α) = l := rfl

def appended {α : Type} : List α → Slice α
  | [] => none
  | l => some l

@[simp] theorem elems_appended {α : Type} (l : List α) : (appended l).elems = l := by
  cases l <;> rfl

structure GoMap (κ υ : Type) where
  entries : List (κ × υ)
  nodup : (entries.map Prod.fst).Nodup
  deriving DecidableEq

def GoMap.get? {κ υ : Type} [DecidableEq κ] (m : GoMap κ υ) (k : κ) : Option υ :=
  (m.entries.find? fun e => e.1 = k).map Prod.snd

def GoMap.empty {κ υ : Type} : GoMap κ υ := ⟨[], List.nodup_nil⟩

section Maps

variable {κ υ : Type} [DecidableEq κ]

def GoMap.delete (m : GoMap κ υ) (k : κ) : GoMap κ υ where
  entries := m.entries.filter fun e => e.1 ≠ k
  nodup := m.nodup.sublist (List.filter_sublist.map _)

@[simp] theorem GoMap.mem_delete {m : GoMap κ υ} {k : κ} {e : κ × υ} :
    e ∈ (m.delete k).entries ↔ e ∈ m.entries ∧ e.1 ≠ k := by
  simp [GoMap.delete]

def GoMap.set (m : GoMap κ υ) (k : κ) (v : υ) : GoMap κ υ where
  entries := (k, v) :: (m.delete k).entries
  nodup := by
    rw [List.map_cons, List.nodup_cons]
    refine ⟨?_, (m.delete k).nodup⟩
    intro hk
    obtain ⟨e, he, hek⟩ := List.mem_map.mp hk
    exact (GoMap.mem_delete.mp he).2 hek

@[simp] theorem GoMap.mem_set {m : GoMap κ υ} {k : κ} {v : υ} {e : κ × υ} :
    e ∈ (m.set k v).entries ↔ e = (k, v) ∨ e ∈ m.entries ∧ e.1 ≠ k := by
  rw [GoMap.set, List.mem_cons, GoMap.mem_delete]

theorem GoMap.get?_eq_some {m : GoMap κ υ} {k : κ} {v : υ} :
    m.get? k = some v ↔ (k, v) ∈ m.entries := by
  rw [GoMap.get?, Option.map_eq_some_iff]
  simp only [find?_key_eq_some m.nodup]
  constructor
  · intro ⟨e, ⟨he, hk⟩, hv⟩
    subst hk hv
    exact he
  · intro he
    exact ⟨(k, v), ⟨he, rfl⟩, rfl⟩

theorem GoMap.get?_set (m : GoMap κ υ) (k k' : κ) (v : υ) :
    (m.set k v).get? k' = if k' = k then some v else m.get? k' := by
  apply Option.ext
  intro v'
  rw [GoMap.get?_eq_some, GoMap.mem_set, Prod.mk.injEq]
  by_cases hk : k' = k
  · simp [hk, eq_comm]
  · simp [hk, GoMap.get?_eq_some]

theorem GoMap.get?_delete (m : GoMap κ υ) (k k' : κ) :
    (m.delete k).get? k' = if k' = k then none else m.get? k' := by
  apply Option.ext
  intro v'
  rw [GoMap.get?_eq_some, GoMap.mem_delete]
  by_cases hk : k' = k
  · simp [hk]
  · simp [hk, GoMap.get?_eq_some]

@[simp] theorem GoMap.get?_set_self (m : GoMap κ υ) (k : κ) (v : υ) :
    (m.set k v).get? k = some v := by
  rw [GoMap.get?_set, if_pos rfl]

theorem GoMap.get?_set_of_ne (m : GoMap κ υ) {k k' : κ} (v : υ) (h : k' ≠ k) :
    (m.set k v).get? k' = m.get? k' := by
  rw [GoMap.get?_set, if_neg h]

/-- The two maps are equal, as `reflect.DeepEqual` has it. -/
def GoMap.Same (m m' : GoMap κ υ) : Prop := ∀ k, m.get? k = m'.get? k

theorem GoMap.Same.refl (m : GoMap κ υ) : m.Same m := fun _ => rfl

def GoMap.deepEqual [DecidableEq υ] (m m' : GoMap κ υ) : Bool :=
  (m.entries.all fun e => m'.get? e.1 = some e.2) && m'.entries.all fun e => m.get? e.1 = some e.2

theorem GoMap.deepEqual_iff [DecidableEq υ] {m m' : GoMap κ υ} :
    m.deepEqual m' = true ↔ m.Same m' := by
  simp only [GoMap.deepEqual, Bool.and_eq_true, List.all_eq_true, decide_eq_true_eq]
  constructor
  · intro h k
    apply Option.ext
    intro v
    rw [GoMap.get?_eq_some, GoMap.get?_eq_some]
    exact ⟨fun hm => GoMap.get?_eq_some.mp (h.1 _ hm), fun hm => GoMap.get?_eq_some.mp (h.2 _ hm)⟩
  · intro h
    refine ⟨fun e he => ?_, fun e he => ?_⟩
    · rw [← h e.1]
      exact GoMap.get?_eq_some.mpr he
    · rw [h e.1]
      exact GoMap.get?_eq_some.mpr he

def GoMap.setAll (m : GoMap κ υ) (entries : List (κ × υ)) : GoMap κ υ :=
  entries.foldl (fun m e => m.set e.1 e.2) m

theorem GoMap.get?_setAll (m t : GoMap κ υ) (k : κ) :
    (m.setAll t.entries).get? k = (t.get? k).or (m.get? k) := by
  have hloop : ∀ (l : List (κ × υ)) (m : GoMap κ υ), (l.map Prod.fst).Nodup →
      (m.setAll l).get? k = ((l.find? fun e => e.1 = k).map Prod.snd).or (m.get? k) := by
    intro l
    induction l with
    | nil => intro m _; rfl
    | cons e l ih =>
      intro m hnd
      rw [List.map_cons, List.nodup_cons] at hnd
      show ((m.set e.1 e.2).setAll l).get? k = _
      rw [ih _ hnd.2, GoMap.get?_set]
      by_cases hk : e.1 = k
      · have hno : (l.find? fun x => x.1 = k) = none := by
          rw [find?_key_eq_none]
          intro x hx hkey
          exact hnd.1 (List.mem_map.mpr ⟨x, hx, hkey.trans hk.symm⟩)
        simp [hno, hk]
      · simp [hk, Ne.symm hk]
  exact hloop t.entries m t.nodup

theorem GoMap.get?_setAll_some {l : List (κ × υ)} {m : GoMap κ υ} {k : κ} {v : υ}
    (h : (m.setAll l).get? k = some v) : (k, v) ∈ l ∨ m.get? k = some v := by
  induction l generalizing m with
  | nil => exact Or.inr h
  | cons e l ih =>
    rcases ih h with hl | hset
    · exact Or.inl (List.mem_cons_of_mem _ hl)
    · rw [GoMap.get?_set] at hset
      split at hset
      next hk =>
        cases hset
        exact Or.inl (hk ▸ List.mem_cons_self ..)
      · exact Or.inr hset

def GoMap.keys (m : GoMap κ υ) : List κ := m.entries.map Prod.fst

theorem GoMap.mem_keys_delete {m : GoMap κ υ} {k k' : κ} :
    k' ∈ (m.delete k).keys ↔ k' ∈ m.keys ∧ k' ≠ k := by
  simp only [GoMap.keys, List.mem_map, GoMap.mem_delete]
  constructor
  · intro ⟨e, ⟨he, hne⟩, hk⟩
    subst hk
    exact ⟨⟨e, he, rfl⟩, hne⟩
  · intro ⟨⟨e, he, hk⟩, hne⟩
    subst hk
    exact ⟨e, ⟨he, hne⟩, rfl⟩

theorem GoMap.mem_keys_set {m : GoMap κ υ} {k k' : κ} {v : υ} :
    k' ∈ (m.set k v).keys ↔ k' = k ∨ k' ∈ m.keys := by
  have hset : (m.set k v).keys = k :: (m.delete k).keys := rfl
  rw [hset, List.mem_cons, GoMap.mem_keys_delete]
  by_cases hk : k' = k
  · simp [hk]
  · simp [hk]

theorem GoMap.isSome_get? {m : GoMap κ υ} {k : κ} : (m.get? k).isSome = true ↔ k ∈ m.keys := by
  rw [GoMap.get?, Option.isSome_map, List.find?_isSome, GoMap.keys, List.mem_map]
  simp

structure RangeOrder (α : Type) where
  visit : List α → List α
  perm : ∀ l, (visit l).Perm l

def RangeOrder.asWritten {α : Type} : RangeOrder α := ⟨id, fun _ => List.Perm.refl _⟩

def RangeOrder.first {α : Type} [DecidableEq α] (l : List α) (a : α) (ha : a ∈ l) :
    RangeOrder α where
  visit l' := if l' = l then a :: l.erase a else l'
  perm l' := by
    split
    next h =>
      rw [h]
      exact (List.perm_cons_erase ha).symm
    · exact List.Perm.refl _

theorem RangeOrder.exists_visit {α : Type} {l l' : List α} (h : l'.Perm l) :
    ∃ o : RangeOrder α, o.visit l = l' := by
  classical
  refine ⟨⟨fun l₀ => if l₀ = l then l' else l₀, fun l₀ => ?_⟩, if_pos rfl⟩
  split
  next heq =>
    rw [heq]
    exact h
  · exact List.Perm.refl _

theorem RangeOrder.exists_visit_map {α β : Type} {f : α → β} {l : List α} {l' : List β}
    (h : l'.Perm (l.map f)) : ∃ o : RangeOrder α, (o.visit l).map f = l' := by
  have hmap : List.Forall₂ (fun b a => b = f a) (l.map f) l :=
    List.forall₂_map_left_iff.mpr (List.forall₂_same.mpr fun a _ => rfl)
  obtain ⟨l₀, hl₀, hperm⟩ := List.perm_comp_forall₂ h hmap
  obtain ⟨o, ho⟩ := RangeOrder.exists_visit hperm
  have heq := List.forall₂_map_right_iff.mpr hl₀
  rw [List.forall₂_eq_eq_eq] at heq
  exact ⟨o, by rw [ho, heq]⟩

end Maps

def insertAll {α : Type} [DecidableEq α] (set xs : List α) : List α :=
  xs.foldl (fun set x => set.insert x) set

@[simp] theorem mem_insertAll {α : Type} [DecidableEq α] {a : α} {set xs : List α} :
    a ∈ insertAll set xs ↔ a ∈ set ∨ a ∈ xs := by
  unfold insertAll
  induction xs generalizing set with
  | nil => simp
  | cons x xs ih =>
    rw [List.foldl_cons, ih, List.mem_insert_iff, List.mem_cons, or_comm (a := a = x), or_assoc]

theorem nodup_insertAll {α : Type} [DecidableEq α] {set xs : List α} (h : set.Nodup) :
    (insertAll set xs).Nodup := by
  unfold insertAll
  induction xs generalizing set with
  | nil => exact h
  | cons x xs ih => exact ih (List.Nodup.insert h)

inductive Panic where
  | nilDeref
  | indexOutOfRange
  | capOutOfRange
  deriving DecidableEq, Repr

inductive Stop where
  | panic (p : Panic)
  | err (msg : String)
  deriving DecidableEq, Repr

abbrev Outcome (α : Type) := Except Stop α

def deref {α : Type} : Option α → Outcome α
  | none => .error (.panic .nilDeref)
  | some a => .ok a

@[simp] theorem deref_some {α : Type} (a : α) : deref (some a) = .ok a := rfl

theorem deref_eq_ok {α : Type} {o : Option α} {a : α} (h : deref o = .ok a) : o = some a := by
  cases o with
  | none => cases h
  | some b => cases h; rfl

/-- `l[i]`. -/
def index {α : Type} (l : List α) (i : Nat) : Outcome α :=
  match l[i]? with
  | none => .error (.panic .indexOutOfRange)
  | some a => .ok a

theorem index_eq_ok {α : Type} {l : List α} {i : Nat} {a : α} :
    index l i = .ok a ↔ l[i]? = some a := by
  unfold index
  cases l[i]? <;> simp

@[simp] theorem ok_bind {α β : Type} (a : α) (f : α → Outcome β) :
    ((Except.ok a : Outcome α) >>= f) = f a := rfl

@[simp] theorem error_bind {α β : Type} (e : Stop) (f : α → Outcome β) :
    ((Except.error e : Outcome α) >>= f) = .error e := rfl

@[simp] theorem pure_eq_ok {α : Type} (a : α) : (pure a : Outcome α) = .ok a := rfl

theorem bind_eq_ok {ε α β : Type} {x : Except ε α} {f : α → Except ε β} {b : β}
    (h : x >>= f = .ok b) : ∃ a, x = .ok a ∧ f a = .ok b := by
  cases x with
  | error e => cases h
  | ok a => exact ⟨a, rfl, h⟩

theorem bind_eq_error {α β : Type} {x : Outcome α} {f : α → Outcome β} {stop : Stop} :
    (x >>= f) = .error stop ↔ x = .error stop ∨ ∃ a, x = .ok a ∧ f a = .error stop := by
  cases x with
  | error e => simp [bind, Except.bind]
  | ok a => simp [bind, Except.bind]

theorem mapM_eq_ok {α β ε : Type} {f : α → Except ε β} :
    ∀ {xs : List α} {ys : List β},
      xs.mapM f = .ok ys ↔ List.Forall₂ (fun x y => f x = .ok y) xs ys
  | [], ys => by
    rw [List.mapM_nil, List.forall₂_nil_left_iff]
    exact ⟨fun h => by cases h; rfl, fun h => by rw [h]; rfl⟩
  | x :: xs, ys => by
    rw [List.mapM_cons, List.forall₂_cons_left_iff]
    constructor
    · intro h
      obtain ⟨y, hx, h⟩ := bind_eq_ok h
      obtain ⟨ys', hxs, h⟩ := bind_eq_ok h
      cases h
      exact ⟨y, ys', hx, mapM_eq_ok.mp hxs, rfl⟩
    · rintro ⟨y, ys', hx, hxs, rfl⟩
      rw [hx, mapM_eq_ok.mpr hxs]
      rfl

theorem forall_mem_iff_of_forall₂ {α β : Type} {P : α → Prop} {Q : β → Prop} {xs : List α}
    {ys : List β} (h : List.Forall₂ (fun x y => P x ↔ Q y) xs ys) :
    (∀ x ∈ xs, P x) ↔ ∀ y ∈ ys, Q y := by
  induction h with
  | nil => simp
  | cons hxy _ ih => rw [List.forall_mem_cons, List.forall_mem_cons, hxy, ih]

def rangeFilter {α : Type} (p : α → Outcome Bool) : List α → Outcome (List α)
  | [] => pure []
  | x :: xs => do
    let keep ← p x
    let rest ← rangeFilter p xs
    pure (if keep then x :: rest else rest)

theorem rangeFilter_eq {α : Type} {p : α → Outcome Bool} {q : α → Bool} :
    ∀ {xs : List α}, (∀ x ∈ xs, p x = .ok (q x)) →
      rangeFilter p xs = .ok (xs.filter q)
  | [], _ => rfl
  | x :: xs, h => by
    have hx := h x (List.mem_cons_self ..)
    have hxs : rangeFilter p xs = .ok (xs.filter q) :=
      rangeFilter_eq fun y hy => h y (List.mem_cons_of_mem _ hy)
    rw [rangeFilter, hx, hxs]
    cases hq : q x <;> simp [hq]

theorem foldlM_keeps {α σ : Type} {P : σ → Prop} {step : σ → α → Outcome σ} :
    ∀ {xs : List α} {s s' : σ},
      (∀ s, ∀ x ∈ xs, ∀ s', step s x = .ok s' → P s → P s') →
      xs.foldlM step s = .ok s' → P s → P s'
  | [], s, s', _, he, hs => by
    rw [List.foldlM_nil, pure_eq_ok, Except.ok.injEq] at he
    exact he ▸ hs
  | x :: xs, s, s', h, he, hs => by
    rw [List.foldlM_cons] at he
    cases hx : step s x with
    | error e =>
      rw [hx] at he
      cases he
    | ok s₁ =>
      rw [hx, ok_bind] at he
      exact foldlM_keeps (fun s y hy => h s y (List.mem_cons_of_mem _ hy)) he
        (h s x (List.mem_cons_self ..) s₁ hx hs)

theorem foldlM_stop_iff {α σ : Type} {I : σ → Prop} {bad : α → Prop} {e : Stop}
    {step : σ → α → Outcome σ} :
    ∀ {xs : List α} {s : σ},
      (∀ s x, x ∈ xs → I s →
        (bad x ∧ step s x = .error e) ∨ (¬ bad x ∧ ∃ s', step s x = .ok s' ∧ I s')) →
      I s →
      ((∃ x ∈ xs, bad x) ∧ xs.foldlM step s = .error e) ∨
      ((∀ x ∈ xs, ¬ bad x) ∧ ∃ s', xs.foldlM step s = .ok s' ∧ I s')
  | [], s, _, hs => Or.inr ⟨by simp, s, rfl, hs⟩
  | x :: xs, s, h, hs => by
    rcases h s x (List.mem_cons_self ..) hs with ⟨hb, he⟩ | ⟨hb, s₁, he, h₁⟩
    · exact Or.inl ⟨⟨x, List.mem_cons_self .., hb⟩, by rw [List.foldlM_cons, he, error_bind]⟩
    · have hrest := foldlM_stop_iff (fun s y hy => h s y (List.mem_cons_of_mem _ hy)) h₁
      rw [List.foldlM_cons, he, ok_bind]
      rcases hrest with ⟨⟨y, hy, hby⟩, hf⟩ | ⟨hall, hf⟩
      · exact Or.inl ⟨⟨y, List.mem_cons_of_mem _ hy, hby⟩, hf⟩
      · refine Or.inr ⟨fun y hy => ?_, hf⟩
        rcases List.mem_cons.mp hy with rfl | hy'
        · exact hb
        · exact hall y hy'

theorem foldlM_act {α σ ε : Type} {I : List α → σ → Prop} {act : σ → List ε → σ}
    {step : σ → α → Outcome σ} {log : α → List ε}
    (hnil : ∀ s, act s [] = s) (happ : ∀ s l₁ l₂, act (act s l₁) l₂ = act s (l₁ ++ l₂))
    (hstep : ∀ s x xs, I (x :: xs) s →
      step s x = .ok (act s (log x)) ∧ I xs (act s (log x))) :
    ∀ {xs : List α} {s : σ}, I xs s →
      xs.foldlM step s = .ok (act s (xs.flatMap log)) ∧ I [] (act s (xs.flatMap log))
  | [], s, hs => by
    rw [List.flatMap_nil, hnil]
    exact ⟨rfl, hs⟩
  | x :: xs, s, hs => by
    obtain ⟨he, h₁⟩ := hstep s x xs hs
    have hrest := foldlM_act hnil happ hstep h₁
    rw [List.foldlM_cons, he, ok_bind, List.flatMap_cons, ← happ]
    exact hrest

section Posts

variable {α σ ε : Type} {I : σ → Prop} {act : σ → List ε → σ}

/-- From every state with `I` the action returns, with the log as its effect, and keeps `I`. -/
def Posts (I : σ → Prop) (act : σ → List ε → σ) (h : σ → Outcome σ) (log : List ε) : Prop :=
  ∀ s, I s → h s = .ok (act s log) ∧ I (act s log)

theorem Posts.skip (hnil : ∀ s, act s [] = s) : Posts I act (fun s => .ok s) [] := by
  intro s hs
  rw [hnil]
  exact ⟨rfl, hs⟩

theorem Posts.bind (happ : ∀ s l₁ l₂, act (act s l₁) l₂ = act s (l₁ ++ l₂))
    {h₁ h₂ : σ → Outcome σ} {l₁ l₂ : List ε} (p₁ : Posts I act h₁ l₁) (p₂ : Posts I act h₂ l₂) :
    Posts I act (fun s => h₁ s >>= h₂) (l₁ ++ l₂) := by
  intro s hs
  obtain ⟨e₁, i₁⟩ := p₁ s hs
  obtain ⟨e₂, i₂⟩ := p₂ _ i₁
  rw [happ] at e₂ i₂
  exact ⟨by simp [e₁, e₂], i₂⟩

theorem Posts.congr {h h' : σ → Outcome σ} {log : List ε} (p : Posts I act h' log)
    (he : ∀ s, I s → h s = h' s) : Posts I act h log := by
  intro s hs
  rw [he s hs]
  exact p s hs

theorem Posts.loop (hnil : ∀ s, act s [] = s)
    (happ : ∀ s l₁ l₂, act (act s l₁) l₂ = act s (l₁ ++ l₂))
    {step : σ → α → Outcome σ} {log : α → List ε} {xs : List α}
    (hstep : ∀ x ∈ xs, Posts I act (fun s => step s x) (log x)) :
    Posts I act (fun s => xs.foldlM step s) (xs.flatMap log) := by
  intro s hs
  have hbody : ∀ s x rest, ((∀ y ∈ x :: rest, y ∈ xs) ∧ I s) →
      step s x = .ok (act s (log x)) ∧ (∀ y ∈ rest, y ∈ xs) ∧ I (act s (log x)) := by
    rintro s x rest ⟨hmem, hi⟩
    obtain ⟨he, hi'⟩ := hstep x (hmem x (List.mem_cons_self ..)) s hi
    exact ⟨he, fun y hy => hmem y (List.mem_cons_of_mem _ hy), hi'⟩
  have h := foldlM_act (I := fun rest s => (∀ y ∈ rest, y ∈ xs) ∧ I s) hnil happ hbody
    ⟨fun _ hx => hx, hs⟩
  exact ⟨h.1, h.2.2⟩

end Posts

section Journal

variable {κ μ ε : Type} [DecidableEq κ]

def updateAt (m : κ → Option μ) (k : κ) (f : μ → μ) : Outcome (κ → Option μ) :=
  match m k with
  | none => .error (.panic .nilDeref)
  | some v => .ok (Function.update m k (some (f v)))

def entriesFor (k : κ) (log : List (κ × ε)) : List ε :=
  (log.filter fun ke => ke.1 = k).map Prod.snd

@[simp] theorem entriesFor_nil (k : κ) : entriesFor k ([] : List (κ × ε)) = [] := rfl

@[simp] theorem entriesFor_append (k : κ) (l₁ l₂ : List (κ × ε)) :
    entriesFor k (l₁ ++ l₂) = entriesFor k l₁ ++ entriesFor k l₂ := by
  simp [entriesFor]

theorem entriesFor_map_self (k : κ) (es : List ε) :
    entriesFor k (es.map fun e => (k, e)) = es := by
  induction es with
  | nil => rfl
  | cons e es ih =>
    simp only [entriesFor, List.map_cons, decide_true, List.filter_cons_of_pos] at ih ⊢
    rw [ih]

theorem entriesFor_map_ne {k k' : κ} (h : k ≠ k') (es : List ε) :
    entriesFor k' (es.map fun e => (k, e)) = [] := by
  simp [entriesFor, h]

theorem mem_entriesFor {k : κ} {log : List (κ × ε)} {e : ε} :
    e ∈ entriesFor k log ↔ (k, e) ∈ log := by
  simp only [entriesFor, List.mem_map, List.mem_filter, decide_eq_true_eq]
  constructor
  · rintro ⟨⟨k', e'⟩, ⟨hmem, hk⟩, he⟩
    subst hk; subst he
    exact hmem
  · intro h
    exact ⟨(k, e), ⟨h, rfl⟩, rfl⟩

theorem entriesFor_perm {k : κ} {l₁ l₂ : List (κ × ε)} (h : l₁.Perm l₂) :
    (entriesFor k l₁).Perm (entriesFor k l₂) :=
  (h.filter _).map _

theorem entriesFor_flatMap_other {α : Type} {key : α → κ} {g : α → List ε} {k : κ} :
    ∀ {xs : List α}, k ∉ xs.map key →
      entriesFor k (xs.flatMap fun y => (g y).map fun e => (key y, e)) = []
  | [], _ => rfl
  | y :: ys, h => by
    rw [List.map_cons, List.mem_cons, not_or] at h
    rw [List.flatMap_cons, entriesFor_append, entriesFor_map_ne fun he => h.1 he.symm,
      List.nil_append]
    exact entriesFor_flatMap_other h.2

theorem entriesFor_flatMap_self {α : Type} {key : α → κ} {g : α → List ε} :
    ∀ {xs : List α} {x : α}, (xs.map key).Nodup → x ∈ xs →
      entriesFor (key x) (xs.flatMap fun y => (g y).map fun e => (key y, e)) = g x
  | y :: ys, x, hnd, hx => by
    rw [List.map_cons, List.nodup_cons] at hnd
    rw [List.flatMap_cons, entriesFor_append]
    rcases List.mem_cons.mp hx with rfl | hx'
    · rw [entriesFor_map_self, entriesFor_flatMap_other hnd.1, List.append_nil]
    · have hne : key y ≠ key x := fun he => hnd.1 (he ▸ List.mem_map_of_mem hx')
      rw [entriesFor_map_ne hne, List.nil_append]
      exact entriesFor_flatMap_self hnd.2 hx'

def posted (add : μ → ε → μ) (m : κ → Option μ) (log : List (κ × ε)) : κ → Option μ :=
  fun k => (m k).map fun v => (entriesFor k log).foldl add v

@[simp] theorem posted_nil (add : μ → ε → μ) (m : κ → Option μ) :
    posted add m [] = m := by
  funext k
  simp [posted]

theorem posted_append (add : μ → ε → μ) (m : κ → Option μ) (l₁ l₂ : List (κ × ε)) :
    posted add (posted add m l₁) l₂ = posted add m (l₁ ++ l₂) := by
  funext k
  cases h : m k <;> simp [posted, h]

@[simp] theorem posted_isSome (add : μ → ε → μ) (m : κ → Option μ) (log : List (κ × ε))
    (k : κ) : (posted add m log k).isSome = (m k).isSome := by
  simp [posted]

theorem updateAt_eq_posted (add : μ → ε → μ) {m : κ → Option μ} {k : κ} {f : μ → μ}
    {es : List ε} (h : (m k).isSome) (hf : ∀ v, f v = es.foldl add v) :
    updateAt m k f = .ok (posted add m (es.map fun e => (k, e))) := by
  obtain ⟨v, hv⟩ := Option.isSome_iff_exists.mp h
  simp only [updateAt, hv]
  congr 1
  funext k'
  by_cases hk : k' = k
  · subst hk
    simp [posted, hv, entriesFor_map_self, hf]
  · rw [Function.update_of_ne hk, posted, entriesFor_map_ne fun he => hk he.symm]
    simp

end Journal

end Kosmos.Go
