import Mathlib.Data.List.Sort
import Mathlib.Data.String.Basic
import Std.Data.String.ToInt

/-!
# `json.Marshal` of flat records, and sorting by the text

The text determines the record (`marshalObject_inj`): every piece of it can be read back.
-/

namespace Kosmos.Go

def escapeChar (c : Char) : List Char :=
  if c = '\"' ∨ c = '\\' then ['\\', c]
  else if c = '\n' then ['\\', 'n']
  else if c = '\r' then ['\\', 'r']
  else if c = '\t' then ['\\', 't']
  else if c.toNat < 0x20 ∨ c = '<' ∨ c = '>' ∨ c = '&' then
    ['\\', 'u', '0', '0', Nat.digitChar (c.toNat / 16), Nat.digitChar (c.toNat % 16)]
  else if c = '\u2028' ∨ c = '\u2029' then
    ['\\', 'u', '2', '0', '2', Nat.digitChar (c.toNat % 16)]
  else [c]

def hexVal (c : Char) : Nat :=
  if c.isDigit then c.toNat - '0'.toNat else c.toNat - 'a'.toNat + 10

def unescapeChar : List Char → Option (Char × List Char)
  | '\\' :: 'u' :: a :: b :: c :: d :: rest =>
    some (Char.ofNat (((hexVal a * 16 + hexVal b) * 16 + hexVal c) * 16 + hexVal d), rest)
  | '\\' :: 'n' :: rest => some ('\n', rest)
  | '\\' :: 'r' :: rest => some ('\r', rest)
  | '\\' :: 't' :: rest => some ('\t', rest)
  | '\\' :: c :: rest => some (c, rest)
  | c :: rest => some (c, rest)
  | [] => none

theorem hexVal_pair : ∀ n < 64,
    hexVal (Nat.digitChar (n / 16)) * 16 + hexVal (Nat.digitChar (n % 16)) = n := by
  decide

theorem unescapeChar_escapeChar (c : Char) (rest : List Char) :
    unescapeChar (escapeChar c ++ rest) = some (c, rest) := by
  unfold escapeChar
  split
  next h =>
    rcases h with rfl | rfl <;> rfl
  next hq =>
    rw [not_or] at hq
    split
    next h => subst h; rfl
    split
    next h => subst h; rfl
    split
    next h => subst h; rfl
    split
    next h =>
      have hlt : c.toNat < 64 := by
        rcases h with h | rfl | rfl | rfl
        · omega
        all_goals decide
      have hval := hexVal_pair c.toNat hlt
      have h0 : hexVal '0' = 0 := by decide
      simp only [List.cons_append, List.nil_append, unescapeChar, h0]
      rw [show ((0 * 16 + 0) * 16 + hexVal (Nat.digitChar (c.toNat / 16))) * 16
        + hexVal (Nat.digitChar (c.toNat % 16)) = c.toNat by omega, Char.ofNat_toNat]
    split
    next h =>
      rcases h with rfl | rfl <;> rfl
    · simp only [List.cons_append, List.nil_append]
      unfold unescapeChar
      split <;> simp_all

theorem escapeChar_ne_quote (c : Char) (rest tail : List Char) :
    escapeChar c ++ rest ≠ '\"' :: tail := by
  unfold escapeChar
  split_ifs with h1 <;> simp_all

def quote (s : String) : List Char :=
  '\"' :: (s.toList.flatMap escapeChar ++ ['\"'])

theorem flatMap_escapeChar_inj : ∀ (s t x y : List Char),
    s.flatMap escapeChar ++ '\"' :: x = t.flatMap escapeChar ++ '\"' :: y → s = t ∧ x = y
  | [], [], x, y, h => ⟨rfl, by simpa using h⟩
  | [], d :: t, x, y, h => by
    rw [List.flatMap_nil, List.flatMap_cons, List.append_assoc] at h
    exact absurd h.symm (escapeChar_ne_quote d _ _)
  | c :: s, [], x, y, h => by
    rw [List.flatMap_nil, List.flatMap_cons, List.append_assoc] at h
    exact absurd h (escapeChar_ne_quote c _ _)
  | c :: s, d :: t, x, y, h => by
    rw [List.flatMap_cons, List.flatMap_cons, List.append_assoc, List.append_assoc] at h
    have hu := congrArg unescapeChar h
    rw [unescapeChar_escapeChar, unescapeChar_escapeChar, Option.some.injEq,
      Prod.mk.injEq] at hu
    obtain ⟨rfl, hrest⟩ := hu
    obtain ⟨rfl, hxy⟩ := flatMap_escapeChar_inj s t x y hrest
    exact ⟨rfl, hxy⟩

variable {x y : List Char} {c : Char}

theorem quote_append_inj {s t : String} (h : quote s ++ x = quote t ++ y) : s = t ∧ x = y := by
  simp only [quote, List.cons_append, List.append_assoc, List.nil_append,
    List.cons.injEq, true_and] at h
  obtain ⟨hs, hxy⟩ := flatMap_escapeChar_inj _ _ _ _ h
  exact ⟨String.toList_inj.mp hs, hxy⟩

inductive Scalar where
  | str (s : String)
  | int (i : Int)
  deriving DecidableEq, Repr

def Scalar.marshal : Scalar → List Char
  | .str s => quote s
  | .int i => i.repr.toList

def isIntChar (c : Char) : Bool := c.isDigit || c = '-'

theorem isIntChar_of_mem_repr {i : Int} (h : c ∈ i.repr.toList) : isIntChar c = true := by
  have hnat : ∀ n : Nat, c ∈ n.repr.toList → isIntChar c = true := by
    intro n hn
    rw [Nat.toList_repr] at hn
    simp [isIntChar, Nat.isDigit_of_mem_toDigits (by decide) (by decide) hn]
  cases i with
  | ofNat n => exact hnat n h
  | negSucc n =>
    rw [show (Int.negSucc n).repr = "-" ++ Nat.repr (n + 1) from rfl,
      String.toList_append] at h
    rcases List.mem_append.mp h with h | h
    · have hc : c = '-' := by simpa using h
      rw [hc]
      decide
    · exact hnat _ h

theorem repr_append_inj {i j : Int} {d : Char} (hc : isIntChar c = false)
    (hd : isIntChar d = false) (h : i.repr.toList ++ c :: x = j.repr.toList ++ d :: y) :
    i = j ∧ c :: x = d :: y := by
  have htake : ∀ (k : Int) (e : Char) (z : List Char), isIntChar e = false →
      (k.repr.toList ++ e :: z).takeWhile isIntChar = k.repr.toList := by
    intro k e z he
    rw [List.takeWhile_append_of_pos fun a ha => isIntChar_of_mem_repr ha,
      List.takeWhile_cons_of_neg (by simp [he]), List.append_nil]
  have hij : i.repr.toList = j.repr.toList := by
    rw [← htake i c x hc, ← htake j d y hd, h]
  refine ⟨Int.repr_injective (String.toList_inj.mp hij), ?_⟩
  rw [hij] at h
  exact List.append_cancel_left h

theorem quote_ne_repr {s : String} {i : Int} (hq : c ≠ '\"') :
    quote s ++ x ≠ i.repr.toList ++ c :: y := by
  intro h
  cases hi : i.repr.toList with
  | nil =>
    rw [hi, quote, List.cons_append, List.nil_append, List.cons.injEq] at h
    exact hq h.1.symm
  | cons e es =>
    rw [hi, quote, List.cons_append, List.cons_append, List.cons.injEq] at h
    have := isIntChar_of_mem_repr (i := i) (c := e) (by rw [hi]; exact List.mem_cons_self ..)
    rw [← h.1] at this
    exact absurd this (by decide)

theorem Scalar.marshal_append_inj {v w : Scalar} {d : Char} (hc : c = ',' ∨ c = '\x7d')
    (hd : d = ',' ∨ d = '\x7d') (h : v.marshal ++ c :: x = w.marshal ++ d :: y) :
    v = w ∧ c :: x = d :: y := by
  have hci : isIntChar c = false := by rcases hc with rfl | rfl <;> decide
  have hdi : isIntChar d = false := by rcases hd with rfl | rfl <;> decide
  have hcq : c ≠ '\"' := by rcases hc with rfl | rfl <;> decide
  have hdq : d ≠ '\"' := by rcases hd with rfl | rfl <;> decide
  cases v with
  | str s =>
    cases w with
    | str t =>
      obtain ⟨rfl, hxy⟩ := quote_append_inj h
      exact ⟨rfl, hxy⟩
    | int j => exact absurd h (quote_ne_repr hdq)
  | int i =>
    cases w with
    | str t => exact absurd h.symm (quote_ne_repr hcq)
    | int j =>
      obtain ⟨rfl, hxy⟩ := repr_append_inj hci hdi h
      exact ⟨rfl, hxy⟩

def marshalFields : List (String × Scalar) → List Char
  | [] => ['\x7d']
  | [(k, v)] => quote k ++ ':' :: (v.marshal ++ ['\x7d'])
  | (k, v) :: f :: fs => quote k ++ ':' :: (v.marshal ++ ',' :: marshalFields (f :: fs))

def marshalObject (fs : List (String × Scalar)) : String :=
  String.ofList ('\x7b' :: marshalFields fs)

theorem marshalFields_inj : ∀ (fs gs : List (String × Scalar)),
    marshalFields fs = marshalFields gs → fs = gs
  | [], [], _ => rfl
  | [], [(k, v)], h => by simp [marshalFields, quote] at h
  | [], (k, v) :: g :: gs, h => by simp [marshalFields, quote] at h
  | [(k, v)], [], h => by simp [marshalFields, quote] at h
  | (k, v) :: f :: fs, [], h => by simp [marshalFields, quote] at h
  | [(k, v)], [(k', v')], h => by
    obtain ⟨rfl, h₁⟩ := quote_append_inj h
    rw [List.cons.injEq] at h₁
    obtain ⟨rfl, -⟩ := Scalar.marshal_append_inj (Or.inr rfl) (Or.inr rfl) h₁.2
    rfl
  | [(k, v)], (k', v') :: g :: gs, h => by
    obtain ⟨rfl, h₁⟩ := quote_append_inj h
    rw [List.cons.injEq] at h₁
    obtain ⟨-, h₂⟩ := Scalar.marshal_append_inj (Or.inr rfl) (Or.inl rfl) h₁.2
    simp at h₂
  | (k, v) :: f :: fs, [(k', v')], h => by
    obtain ⟨rfl, h₁⟩ := quote_append_inj h
    rw [List.cons.injEq] at h₁
    obtain ⟨-, h₂⟩ := Scalar.marshal_append_inj (Or.inl rfl) (Or.inr rfl) h₁.2
    simp at h₂
  | (k, v) :: f :: fs, (k', v') :: g :: gs, h => by
    obtain ⟨rfl, h₁⟩ := quote_append_inj h
    rw [List.cons.injEq] at h₁
    obtain ⟨rfl, h₂⟩ := Scalar.marshal_append_inj (Or.inl rfl) (Or.inl rfl) h₁.2
    rw [List.cons.injEq] at h₂
    rw [marshalFields_inj (f :: fs) (g :: gs) h₂.2]

theorem marshalObject_inj {fs gs : List (String × Scalar)}
    (h : marshalObject fs = marshalObject gs) : fs = gs := by
  have h' := String.ofList_injective h
  rw [List.cons.injEq] at h'
  exact marshalFields_inj fs gs h'.2

section Sorting

variable {α : Type} (text : α → String)

def sortBy (l : List α) : List α :=
  l.insertionSort fun a b => text b ≤ text a

theorem sortBy_permut (l : List α) : (sortBy text l).Perm l :=
  List.perm_insertionSort _ l

@[simp] theorem mem_sortBy {l : List α} {a : α} : a ∈ sortBy text l ↔ a ∈ l :=
  (sortBy_permut text l).mem_iff

theorem sortBy_pairwise (l : List α) :
    (sortBy text l).Pairwise fun a b => text b ≤ text a := by
  have : Std.Total fun a b : α => text b ≤ text a := ⟨fun a b => le_total (text b) (text a)⟩
  have : IsTrans α fun a b => text b ≤ text a := ⟨fun _ _ _ h₁ h₂ => le_trans h₂ h₁⟩
  exact List.pairwise_insertionSort _ l

variable {text}

theorem eq_sortBy (hinj : Function.Injective text) {l s : List α} (hp : s.Perm l)
    (hs : s.Pairwise fun a b => text b ≤ text a) : s = sortBy text l := by
  have : Std.Antisymm fun a b : α => text b ≤ text a :=
    ⟨fun a b h₁ h₂ => hinj (le_antisymm h₂ h₁)⟩
  exact List.Perm.eq_of_pairwise' hs (sortBy_pairwise text l)
    (hp.trans (sortBy_permut text l).symm)

theorem sortBy_perm (hinj : Function.Injective text) {l l' : List α} (h : l.Perm l') :
    sortBy text l = sortBy text l' :=
  eq_sortBy hinj ((sortBy_permut text l).trans h) (sortBy_pairwise text l)

end Sorting

end Kosmos.Go
