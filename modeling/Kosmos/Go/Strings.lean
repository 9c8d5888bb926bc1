import Kosmos.Go.Basic
import Mathlib.Data.List.Infix
import Mathlib.Data.List.TakeWhile

/-!
# Package `strings`

Names of objects are ASCII, so positions are counted in characters.
-/

namespace Kosmos.Go

def hasPrefix (s p : String) : Bool := p.toList.isPrefixOf s.toList

def trimPrefix (s p : String) : String :=
  if hasPrefix s p then String.ofList (s.toList.drop p.toList.length) else s

def trimSuffix (s t : String) : String :=
  if t.toList.isSuffixOf s.toList then
    String.ofList (s.toList.take (s.toList.length - t.toList.length))
  else s

def lastIndexFrom (sub : List Char) : Nat → List Char → Option Nat
  | i, [] => if sub.isPrefixOf [] then some i else none
  | i, c :: cs =>
    match lastIndexFrom sub (i + 1) cs with
    | some j => some j
    | none => if sub.isPrefixOf (c :: cs) then some i else none

def lastIndex (s sub : String) : Int :=
  match lastIndexFrom sub.toList 0 s.toList with
  | some j => j
  | none => -1

def contains (s sub : String) : Bool := (lastIndexFrom sub.toList 0 s.toList).isSome

def replaceAll (s : String) (old new : Char) : String :=
  String.ofList (s.toList.map fun c => if c = old then new else c)

def split (s : String) (sep : Char) : List String := (s.toList.splitOn sep).map String.ofList

def join (xs : List String) (sep : Char) : String :=
  String.ofList ([sep].intercalate (xs.map String.toList))

def splitN2 (s : String) (sep : Char) : String × Option String :=
  match s.toList.dropWhile (· ≠ sep) with
  | [] => (s, none)
  | _ :: rest => (String.ofList (s.toList.takeWhile (· ≠ sep)), some (String.ofList rest))

def slice (s : String) (start stop : Nat) : Outcome String :=
  if start ≤ stop ∧ stop ≤ s.toList.length then
    .ok (String.ofList ((s.toList.take stop).drop start))
  else .error (.panic .indexOutOfRange)

def parseInt (s : String) : Option Int :=
  let (negative, digits) :=
    match s.toList with
    | '-' :: cs => (true, cs)
    | '+' :: cs => (false, cs)
    | cs => (false, cs)
  if digits.isEmpty || !digits.all Char.isDigit then none
  else
    let n : Nat := digits.foldl (fun n c => 10 * n + (c.toNat - '0'.toNat)) 0
    let n : Int := if negative then -(n : Int) else n
    -- the range of an `int64`
    if -9223372036854775808 ≤ n ∧ n ≤ 9223372036854775807 then some n else none

example : lastIndex "clusterlink-c1-pod-10-0-0-0-16" "pod" = 15 := by decide

variable {s p : String} {sep : Char}

theorem hasPrefix_iff : hasPrefix s p = true ↔ ∃ t, s = p ++ t := by
  unfold hasPrefix
  rw [List.isPrefixOf_iff_prefix]
  constructor
  · intro ⟨t, ht⟩
    refine ⟨String.ofList t, ?_⟩
    apply String.toList_injective
    rw [String.toList_append, String.toList_ofList, ht]
  · intro ⟨t, ht⟩
    exact ⟨t.toList, by rw [ht, String.toList_append]⟩

theorem hasPrefix_append (p t : String) : hasPrefix (p ++ t) p = true :=
  hasPrefix_iff.mpr ⟨t, rfl⟩

theorem hasPrefix_self (s : String) : hasPrefix s s = true := by
  simp [hasPrefix]

theorem hasPrefix_antisymm (h : hasPrefix s p = true) (h' : hasPrefix p s = true) : s = p := by
  unfold hasPrefix at h h'
  rw [List.isPrefixOf_iff_prefix] at h h'
  apply String.toList_injective
  exact h'.eq_of_length (Nat.le_antisymm h'.length_le h.length_le)

theorem trimPrefix_append (p t : String) : trimPrefix (p ++ t) p = t := by
  rw [trimPrefix, if_pos (hasPrefix_append p t), String.toList_append, List.drop_left,
    String.ofList_toList]

theorem trimSuffix_append (s t : String) : trimSuffix (s ++ t) t = s := by
  have hsuffix : t.toList.isSuffixOf (s ++ t).toList = true := by
    rw [List.isSuffixOf_iff_suffix, String.toList_append]
    exact List.suffix_append _ _
  rw [trimSuffix, if_pos hsuffix, String.toList_append, List.length_append, Nat.add_sub_cancel,
    List.take_left, String.ofList_toList]

theorem trimPrefix_of_not (h : hasPrefix s p = false) : trimPrefix s p = s := by
  rw [trimPrefix, if_neg (by rw [h]; decide)]

theorem hasPrefix_of_trimPrefix_eq_self (hp : p ≠ "") (h : trimPrefix s p = s) :
    hasPrefix s p = false := by
  cases hpre : hasPrefix s p with
  | false => rfl
  | true =>
    obtain ⟨t, ht⟩ := hasPrefix_iff.mp hpre
    rw [ht, trimPrefix_append] at h
    have hlen := congrArg (fun s => s.toList.length) h
    simp only [String.toList_append, List.length_append] at hlen
    have hnil : p.toList = [] := List.eq_nil_of_length_eq_zero (by omega)
    exact absurd (String.toList_injective hnil) hp

theorem not_mem_replaceAll {x old new : Char} (hnew : x ≠ new) (h : x ∉ s.toList) :
    x ∉ (replaceAll s old new).toList := by
  rw [replaceAll, String.toList_ofList]
  intro hmem
  obtain ⟨c, hc, heq⟩ := List.mem_map.mp hmem
  split at heq
  · exact hnew heq.symm
  · exact h (heq ▸ hc)

theorem splitN2_of_not_mem (h : sep ∉ s.toList) : splitN2 s sep = (s, none) := by
  have hall : ∀ c ∈ s.toList, decide (c ≠ sep) = true := by
    intro c hc
    exact decide_eq_true fun heq => h (heq ▸ hc)
  have hnil : s.toList.dropWhile (· ≠ sep) = [] := List.dropWhile_eq_nil_iff.mpr hall
  rw [splitN2, hnil]

theorem splitN2_append {t : String} (h : sep ∉ s.toList) :
    splitN2 (s ++ String.singleton sep ++ t) sep = (s, some t) := by
  have hall : ∀ c ∈ s.toList, decide (c ≠ sep) = true := by
    intro c hc
    exact decide_eq_true fun heq => h (heq ▸ hc)
  have hlist : (s ++ String.singleton sep ++ t).toList = s.toList ++ sep :: t.toList := by
    simp
  have hstop : (sep :: t.toList).dropWhile (· ≠ sep) = sep :: t.toList := by simp
  have hnone : (sep :: t.toList).takeWhile (· ≠ sep) = [] := by simp
  rw [splitN2, hlist, List.dropWhile_append_of_pos hall, List.takeWhile_append_of_pos hall, hstop,
    hnone, List.append_nil, String.ofList_toList]
  exact congrArg (fun rest => (s, some rest)) String.ofList_toList

theorem not_mem_of_mem_split {x : String} (h : x ∈ split s sep) : sep ∉ x.toList := by
  have hparts : ∀ l : List Char, ∀ part ∈ l.splitOn sep, sep ∉ part := by
    intro l
    induction l with
    | nil =>
      intro part hpart
      rw [List.splitOn_nil, List.mem_singleton] at hpart
      simp [hpart]
    | cons c l ih =>
      intro part hpart
      rw [List.splitOn_cons_eq_if_modifyHead] at hpart
      split at hpart
      · rcases List.mem_cons.mp hpart with rfl | hpart
        · exact List.not_mem_nil
        · exact ih part hpart
      next hc =>
        obtain ⟨first, rest, hl⟩ := List.exists_cons_of_ne_nil (List.splitOn_ne_nil sep l)
        rw [hl, List.modifyHead_cons] at hpart
        rw [hl] at ih
        rcases List.mem_cons.mp hpart with rfl | hpart
        · rw [List.mem_cons, not_or]
          exact ⟨fun heq => hc (beq_iff_eq.mpr heq.symm), ih first List.mem_cons_self⟩
        · exact ih part (List.mem_cons_of_mem first hpart)
  obtain ⟨part, hpart, rfl⟩ := List.mem_map.mp h
  rw [String.toList_ofList]
  exact hparts s.toList part hpart

theorem split_join {xs : List String} (hne : xs ≠ []) (h : ∀ x ∈ xs, sep ∉ x.toList) :
    split (join xs sep) sep = xs := by
  have hmap : xs.map String.toList ≠ [] := fun hnil => hne (List.map_eq_nil_iff.mp hnil)
  have hparts : ∀ l ∈ xs.map String.toList, sep ∉ l := by
    intro l hl
    obtain ⟨x, hx, rfl⟩ := List.mem_map.mp hl
    exact h x hx
  rw [split, join, String.toList_ofList, List.splitOn_intercalate sep hparts hmap, List.map_map]
  exact List.map_id'' (fun x => String.ofList_toList) xs

section Occurs

variable {sub a b pre post rest cs : List Char} {x c : Char} {i : Nat}

theorem lastIndexFrom_eq_none : lastIndexFrom sub i cs = none ↔ ¬ sub <:+: cs := by
  induction cs generalizing i with
  | nil => simp [lastIndexFrom, List.infix_nil]
  | cons c cs ih =>
    rw [lastIndexFrom, List.infix_cons_iff, not_or]
    cases h : lastIndexFrom sub (i + 1) cs with
    | some j =>
      have hin : sub <:+: cs := by
        by_contra hnot
        rw [ih.mpr hnot] at h
        cases h
      simp [hin]
    | none =>
      have hnot : ¬ sub <:+: cs := ih.mp h
      simp [hnot]

theorem contains_iff {sub : String} : contains s sub = true ↔ sub.toList <:+: s.toList := by
  rw [contains, Option.isSome_iff_ne_none, ne_eq, lastIndexFrom_eq_none, not_not]

theorem lastIndexFrom_cons_of_not (h : sub.isPrefixOf (c :: cs) = false) :
    lastIndexFrom sub i (c :: cs) = lastIndexFrom sub (i + 1) cs := by
  rw [lastIndexFrom, h]
  cases lastIndexFrom sub (i + 1) cs <;> rfl

theorem lastIndexFrom_bounds {j : Nat} (h : lastIndexFrom sub i cs = some j) :
    i ≤ j ∧ j ≤ i + cs.length := by
  induction cs generalizing i with
  | nil =>
    rw [lastIndexFrom] at h
    split at h
    · cases h
      exact ⟨Nat.le_refl _, Nat.le_add_right ..⟩
    · cases h
  | cons c cs ih =>
    rw [lastIndexFrom] at h
    rw [List.length_cons]
    split at h
    next k hk =>
      cases h
      have hbounds := ih hk
      omega
    · split at h
      · cases h
        omega
      · cases h

theorem lastIndexFrom_append (h : c ∉ rest ++ post) :
    lastIndexFrom (c :: rest) i (pre ++ (c :: rest ++ post)) = some (i + pre.length) := by
  induction pre generalizing i with
  | nil =>
    have hnone : lastIndexFrom (c :: rest) (i + 1) (rest ++ post) = none :=
      lastIndexFrom_eq_none.mpr fun hin => h (hin.subset List.mem_cons_self)
    rw [List.nil_append, List.cons_append, lastIndexFrom, hnone]
    simp
  | cons d pre ih =>
    rw [List.cons_append, lastIndexFrom, ih, List.length_cons]
    simp only [Option.some.injEq]
    omega

theorem infix_append_cons_iff (hx : x ∉ sub) :
    sub <:+: a ++ x :: b ↔ sub <:+: a ∨ sub <:+: b := by
  -- a beginning of `x :: b` without `x` is empty
  have hnil : ∀ l, x ∉ l → l <+: x :: b → l = [] := by
    intro l hl hpre
    rcases List.prefix_cons_iff.mp hpre with hnil | ⟨t, rfl, -⟩
    · exact hnil
    · exact absurd List.mem_cons_self hl
  constructor
  · rw [List.infix_append_iff]
    rintro (hin | hin | ⟨l₁, l₂, rfl, hsuffix, hpre⟩)
    · exact Or.inl hin
    · rcases List.infix_cons_iff.mp hin with hpre | hin
      · rw [hnil sub hx hpre]
        exact Or.inr List.nil_infix
      · exact Or.inr hin
    · rw [hnil l₂ (fun h => hx (List.mem_append_right l₁ h)) hpre, List.append_nil]
      exact Or.inl hsuffix.isInfix
  · rintro (hin | hin)
    · exact hin.trans (List.prefix_append a (x :: b)).isInfix
    · exact hin.trans ((List.suffix_cons x b).trans (List.suffix_append a (x :: b))).isInfix

end Occurs

end Kosmos.Go
