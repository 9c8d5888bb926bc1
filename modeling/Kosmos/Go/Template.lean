import Mathlib.Data.List.Nodup
import Mathlib.Data.List.Perm.Basic
import Mathlib.Logic.Function.Basic

/-!
# Templates, and definitions that are resolved in order

A reference stands for what was defined before, and else for what `base` has (`everyOrder_iff`).
-/

namespace Kosmos.Go

variable {κ α : Type}

inductive Piece (κ α : Type) where
  | text (s : List α)
  | ref (k : κ)

abbrev Template (κ α : Type) := List (Piece κ α)

def Piece.eval (m : κ → List α) : Piece κ α → List α
  | .text s => s
  | .ref k => m k

def Piece.ref? : Piece κ α → Option κ
  | .text _ => none
  | .ref k => some k

namespace Template

def eval (m : κ → List α) (t : Template κ α) : List α := t.flatMap (Piece.eval m)

def refs (t : Template κ α) : List κ := t.filterMap Piece.ref?

@[simp] theorem eval_nil (m : κ → List α) : eval m [] = [] := rfl

@[simp] theorem eval_text_cons (m : κ → List α) (s : List α) (t : Template κ α) :
    eval m (.text s :: t) = s ++ eval m t := rfl

@[simp] theorem eval_ref_cons (m : κ → List α) (k : κ) (t : Template κ α) :
    eval m (.ref k :: t) = m k ++ eval m t := rfl

@[simp] theorem refs_nil : refs ([] : Template κ α) = [] := rfl

@[simp] theorem refs_text_cons (s : List α) (t : Template κ α) : refs (.text s :: t) = refs t := rfl

variable {m m' : κ → List α} {t : Template κ α}

theorem eval_congr (h : ∀ k ∈ refs t, m k = m' k) : eval m t = eval m' t := by
  induction t with
  | nil => rfl
  | cons p t ih =>
    cases p with
    | text s => rw [eval_text_cons, eval_text_cons, ih h]
    | ref k =>
      obtain ⟨hk, hrest⟩ := List.forall_mem_cons.mp h
      rw [eval_ref_cons, eval_ref_cons, hk, ih hrest]

theorem forall_refs_of_eval_eq (hlength : ∀ k, (m k).length = (m' k).length)
    (h : eval m t = eval m' t) : ∀ k ∈ refs t, m k = m' k := by
  induction t with
  | nil => simp
  | cons p t ih =>
    cases p with
    | text s =>
      rw [eval_text_cons, eval_text_cons] at h
      exact ih (List.append_cancel_left h)
    | ref k =>
      rw [eval_ref_cons, eval_ref_cons] at h
      obtain ⟨hk, hrest⟩ := List.append_inj h (hlength k)
      exact List.forall_mem_cons.mpr ⟨hk, ih hrest⟩

theorem length_eval_le (hle : ∀ k, (m k).length ≤ (m' k).length) :
    (eval m t).length ≤ (eval m' t).length := by
  induction t with
  | nil => exact Nat.le_refl _
  | cons p t ih =>
    cases p with
    | text s =>
      simp only [eval_text_cons, List.length_append]
      omega
    | ref k =>
      have hk := hle k
      simp only [eval_ref_cons, List.length_append]
      omega

theorem length_eval_lt {a : κ} (hle : ∀ k, (m k).length ≤ (m' k).length)
    (hlt : (m a).length < (m' a).length) (ha : a ∈ refs t) :
    (eval m t).length < (eval m' t).length := by
  induction t with
  | nil => simp at ha
  | cons p t ih =>
    cases p with
    | text s =>
      have hrest := ih ha
      simp only [eval_text_cons, List.length_append]
      omega
    | ref k =>
      have hk := hle k
      have htail := length_eval_le (t := t) hle
      simp only [eval_ref_cons, List.length_append]
      rcases List.mem_cons.mp ha with rfl | ha
      · omega
      · have hrest := ih ha
        omega

theorem eq_of_eval_eq {a : κ} (hoff : ∀ k, k ≠ a → m k = m' k) (ha : a ∈ refs t)
    (h : eval m t = eval m' t) : m a = m' a := by
  have hlengths : ∀ {n n' : κ → List α}, (∀ k, k ≠ a → n k = n' k) → eval n t = eval n' t →
      ¬ (n a).length < (n' a).length := by
    intro n n' hoff h hlt
    refine absurd (congrArg List.length h) (Nat.ne_of_lt (length_eval_lt (fun k => ?_) hlt ha))
    by_cases hk : k = a
    · rw [hk]
      exact Nat.le_of_lt hlt
    · exact Nat.le_of_eq (congrArg List.length (hoff k hk))
  refine forall_refs_of_eval_eq (fun k => ?_) h a ha
  by_cases hk : k = a
  · have hle := hlengths hoff h
    have hge := hlengths (fun k hk => (hoff k hk).symm) h.symm
    rw [hk]
    omega
  · rw [hoff k hk]

end Template

variable [DecidableEq κ]

def define (base : κ → List α) (env : κ → Option (List α)) (d : κ × Template κ α) :
    κ → Option (List α) :=
  Function.update env d.1 (some (d.2.eval fun k => (env k).getD (base k)))

def resolveFrom (base : κ → List α) (env : κ → Option (List α)) (defs : List (κ × Template κ α)) :
    κ → Option (List α) :=
  defs.foldl (define base) env

def resolve (base : κ → List α) (defs : List (κ × Template κ α)) : κ → Option (List α) :=
  resolveFrom base (fun _ => none) defs

variable {base : κ → List α} {env : κ → Option (List α)} {defs : List (κ × Template κ α)}

@[simp] theorem define_self (d : κ × Template κ α) :
    define base env d d.1 = some (d.2.eval fun k => (env k).getD (base k)) :=
  Function.update_self ..

theorem define_of_ne {d : κ × Template κ α} {k : κ} (h : k ≠ d.1) :
    define base env d k = env k :=
  Function.update_of_ne h ..

theorem resolveFrom_of_not_mem {k : κ} (h : k ∉ defs.map Prod.fst) :
    resolveFrom base env defs k = env k := by
  induction defs generalizing env with
  | nil => rfl
  | cons d defs ih =>
    rw [List.map_cons, List.mem_cons, not_or] at h
    exact (ih h.2).trans (define_of_ne h.1)

theorem resolveFrom_cons_self {d : κ × Template κ α} (h : d.1 ∉ defs.map Prod.fst) :
    resolveFrom base env (d :: defs) d.1 =
      some (d.2.eval fun k => (env k).getD (base k)) :=
  (resolveFrom_of_not_mem h).trans (define_self d)

theorem resolveFrom_append (defs' : List (κ × Template κ α)) :
    resolveFrom base env (defs ++ defs') = resolveFrom base (resolveFrom base env defs) defs' :=
  List.foldl_append

theorem exists_resolveFrom (hnodup : (defs.map Prod.fst).Nodup) :
    ∀ d ∈ defs, ∃ m, resolveFrom base env defs d.1 = some (d.2.eval m) := by
  induction defs generalizing env with
  | nil => simp
  | cons d defs ih =>
    rw [List.map_cons, List.nodup_cons] at hnodup
    exact List.forall_mem_cons.mpr ⟨⟨_, resolveFrom_cons_self hnodup.1⟩, ih hnodup.2⟩

theorem resolveFrom_perm {l : List (κ × Template κ α)} (hl : l.Perm defs)
    (hnodup : (defs.map Prod.fst).Nodup) (hrefs : ∀ d ∈ defs, d.2.refs = []) :
    resolveFrom base env l = resolveFrom base env defs := by
  refine hl.foldl_eq' (fun d hd d' hd' env => ?_) env
  have hconst : ∀ d ∈ l, ∀ m m' : κ → List α, d.2.eval m = d.2.eval m' := by
    intro d hd m m'
    refine Template.eval_congr fun k hk => ?_
    rw [hrefs d (hl.mem_iff.mp hd)] at hk
    cases hk
  by_cases hname : d.1 = d'.1
  · rw [List.inj_on_of_nodup_map hnodup (hl.mem_iff.mp hd) (hl.mem_iff.mp hd') hname]
  · unfold define
    rw [hconst d' hd' _ fun k => (env k).getD (base k),
      hconst d hd (fun k => (Function.update env _ _ k).getD (base k)) fun k =>
        (env k).getD (base k), Function.update_comm hname]

/-- The values `K` do not depend on the order: see `everyOrder_iff`. -/
structure Settled (base : κ → List α) (defs : List (κ × Template κ α)) (K : κ → List α) :
    Prop where
  value : ∀ d ∈ defs, d.2.eval base = K d.1
  others : ∀ d ∈ defs, ∀ a ∈ d.2.refs, a ≠ d.1 → a ∈ defs.map Prod.fst → K a = base a

variable {K : κ → List α}

theorem Settled.resolveFrom_eq (hs : Settled base defs K) :
    ∀ {l : List (κ × Template κ α)} {env : κ → Option (List α)}, l ⊆ defs →
      (l.map Prod.fst).Nodup → (∀ d ∈ l, env d.1 = none) →
      (∀ k v, env k = some v → k ∈ defs.map Prod.fst ∧ v = K k) →
      ∀ d ∈ l, resolveFrom base env l d.1 = some (K d.1)
  | [], _, _, _, _, _ => by simp
  | d :: l, env, hsub, hnodup, hfresh, henv => by
    rw [List.map_cons, List.nodup_cons] at hnodup
    obtain ⟨hd, hl⟩ := List.cons_subset.mp hsub
    obtain ⟨hdfresh, hlfresh⟩ := List.forall_mem_cons.mp hfresh
    have hvalue : d.2.eval (fun k => (env k).getD (base k)) = K d.1 := by
      rw [← hs.value d hd]
      refine Template.eval_congr fun a ha => ?_
      cases henva : env a with
      | none => rfl
      | some v =>
        have hne : a ≠ d.1 := by
          intro h
          rw [h, hdfresh] at henva
          cases henva
        obtain ⟨hmem, hv⟩ := henv a v henva
        rw [Option.getD_some, hv, hs.others d hd a ha hne hmem]
    refine List.forall_mem_cons.mpr ⟨?_, ?_⟩
    · rw [resolveFrom_cons_self hnodup.1, hvalue]
    · refine hs.resolveFrom_eq hl hnodup.2 (fun d' hd' => ?_) fun k v hk => ?_
      · have hne : d'.1 ≠ d.1 := fun h => hnodup.1 (h ▸ List.mem_map_of_mem hd')
        rw [define_of_ne hne, hlfresh d' hd']
      · by_cases hkd : k = d.1
        · rw [hkd, define_self, Option.some.injEq] at hk
          exact ⟨hkd ▸ List.mem_map_of_mem hd, by rw [← hk, hvalue, hkd]⟩
        · rw [define_of_ne hkd] at hk
          exact henv k v hk

theorem everyOrder_iff (hnodup : (defs.map Prod.fst).Nodup) :
    (∀ l : List (κ × Template κ α), l.Perm defs → ∀ d ∈ defs, resolve base l d.1 = some (K d.1)) ↔
      Settled base defs K := by
  constructor
  · intro h
    have hnames : ∀ {l : List (κ × Template κ α)}, l.Perm defs → (l.map Prod.fst).Nodup :=
      fun hl => (hl.map Prod.fst).nodup_iff.mpr hnodup
    -- the definition comes first
    have hvalue : ∀ d ∈ defs, d.2.eval base = K d.1 := by
      intro d hd
      obtain ⟨s, t, hdefs⟩ := List.append_of_mem hd
      have hperm : (d :: (s ++ t)).Perm defs := hdefs ▸ List.perm_middle.symm
      have hfirst : resolve base (d :: (s ++ t)) d.1 = some (d.2.eval base) :=
        resolveFrom_cons_self (List.nodup_cons.mp (hnames hperm)).1
      exact Option.some.inj (hfirst.symm.trans (h _ hperm d hd))
    refine ⟨hvalue, fun d hd a ha hne hmem => ?_⟩
    obtain ⟨d', hd', rfl⟩ := List.mem_map.mp hmem
    obtain ⟨s, t, hdefs⟩ := List.append_of_mem hd
    have hd'st : d' ∈ s ++ t := by
      rw [hdefs, List.perm_middle.mem_iff, List.mem_cons] at hd'
      exact hd'.resolve_left fun hdd => hne (congrArg Prod.fst hdd)
    obtain ⟨s', t', hst⟩ := List.append_of_mem hd'st
    have hperm : (d' :: d :: (s' ++ t')).Perm defs := by
      rw [hdefs]
      refine (List.Perm.swap d d' _).trans ?_
      have hrest : (d' :: (s' ++ t')).Perm (s ++ t) := hst ▸ List.perm_middle.symm
      exact (hrest.cons d).trans List.perm_middle.symm
    have hsecond : resolve base (d' :: d :: (s' ++ t')) d.1 =
        some (d.2.eval fun k => (define base (fun _ => none) d' k).getD (base k)) :=
      resolveFrom_cons_self (List.nodup_cons.mp (List.nodup_cons.mp (hnames hperm)).2).1
    have heval := Option.some.inj (hsecond.symm.trans (h _ hperm d hd))
    rw [← hvalue d hd] at heval
    have heq := Template.eq_of_eval_eq (a := d'.1) (fun k hk => ?_) ha heval
    · rw [define_self, Option.getD_some] at heq
      rw [← hvalue d' hd']
      exact heq
    · rw [define_of_ne hk, Option.getD_none]
  · intro hs l hl d hd
    refine hs.resolveFrom_eq hl.subset ((hl.map Prod.fst).nodup_iff.mpr hnodup) (fun _ _ => rfl)
      (fun k v hk => ?_) d (hl.mem_iff.mpr hd)
    cases hk

end Kosmos.Go
