import Kosmos.Go.Net.Parse

/-!
# Printing addresses and networks, and reading them back

The canonical form of the standard library, with the first longest run of zero groups as `::`.
-/

namespace Kosmos.Go.Net

def joinWith (sep : Char) : List (List Char) → List Char
  | [] => []
  | [x] => x
  | x :: y :: xs => x ++ sep :: joinWith sep (y :: xs)

def dotted (p : List UInt8) : List Char :=
  joinWith '.' (p.map fun b => Nat.toDigits 10 b.toNat)

def groups : List UInt8 → List Nat
  | a :: b :: rest => (a.toNat * 256 + b.toNat) :: groups rest
  | _ => []

def runLen (gs : List Nat) : Nat := (gs.takeWhile (· = 0)).length

def longestRun (gs : List Nat) : Nat × Nat :=
  (List.range gs.length).foldl
    (fun best i => if runLen (gs.drop i) > best.2 then (i, runLen (gs.drop i)) else best) (0, 0)

def hexJoin (gs : List Nat) : List Char := joinWith ':' (gs.map (Nat.toDigits 16))

def ipv6Text (gs : List Nat) : List Char :=
  let run := longestRun gs
  if run.2 < 2 then hexJoin gs
  else hexJoin (gs.take run.1) ++ ':' :: ':' :: hexJoin (gs.drop (run.1 + run.2))

def hexString (b : List UInt8) : List Char :=
  b.flatMap fun v => [Nat.digitChar (v.toNat / 16), Nat.digitChar (v.toNat % 16)]

def ipChars (ip : IP) : List Char :=
  if ip = [] then "<nil>".toList
  else
    match to4 ip with
    | some p => dotted p
    | none => if ip.length = 16 then ipv6Text (groups ip) else '?' :: hexString ip

def ipText (ip : IP) : String := String.ofList (ipChars ip)

def netText (n : IPNet) : String :=
  match networkNumberAndMask n with
  | none => "<nil>"
  | some (nn, m) =>
    match simpleMaskLength m with
    | none => String.ofList (ipChars nn ++ '/' :: hexString m)
    | some l => String.ofList (ipChars nn ++ '/' :: Nat.toDigits 10 l)

def Ends (val : Char → Option Nat) (r : List Char) : Prop :=
  ∀ c cs, r = c :: cs → val c = none

theorem ends_nil (val : Char → Option Nat) : Ends val [] := by
  intro c cs h
  cases h

theorem ends_cons {val : Char → Option Nat} {c : Char} (h : val c = none) (cs : List Char) :
    Ends val (c :: cs) := by
  intro c' cs' he
  cases he
  exact h

def digitsVal (base : Nat) (val : Char → Option Nat) (acc : Nat) (ds : List Char) : Nat :=
  ds.foldl (fun a c => a * base + (val c).getD 0) acc

theorem le_digitsVal {base : Nat} (val : Char → Option Nat) (hb : 0 < base) :
    ∀ (ds : List Char) (acc : Nat), acc ≤ digitsVal base val acc ds
  | [], acc => Nat.le_refl acc
  | c :: ds, acc => by
    have h1 : acc ≤ acc * base := Nat.le_mul_of_pos_right acc hb
    have h2 := le_digitsVal val hb ds (acc * base + (val c).getD 0)
    show acc ≤ digitsVal base val (acc * base + (val c).getD 0) ds
    omega

variable {r : List Char} (strict : Bool) (gs : List Nat) {ip : IP}

theorem scanLoop_digits {base : Nat} {val : Char → Option Nat} (hb : 0 < base) (hr : Ends val r) :
    ∀ (ds : List Char) (acc : Nat), (∀ c ∈ ds, (val c).isSome) →
      digitsVal base val acc ds < big →
      scanLoop base val acc (ds ++ r) = some (digitsVal base val acc ds, r)
  | [], acc, _, _ => by
    rw [List.nil_append]
    cases r with
    | nil => rfl
    | cons c cs => simp [scanLoop, hr c cs rfl, digitsVal]
  | c :: ds, acc, h, hlt => by
    obtain ⟨v, hv⟩ := Option.isSome_iff_exists.mp (h c (List.mem_cons_self ..))
    have hlt' : digitsVal base val (acc * base + v) ds < big := by
      have : digitsVal base val acc (c :: ds) = digitsVal base val (acc * base + v) ds := by
        simp [digitsVal, hv]
      rw [← this]
      exact hlt
    have hle := le_digitsVal val hb ds (acc * base + v)
    rw [List.cons_append, scanLoop, hv]
    dsimp only
    rw [if_neg (by omega), scanLoop_digits hb hr ds _
      (fun d hd => h d (List.mem_cons_of_mem _ hd)) hlt']
    simp [digitsVal, hv]

section Digits

variable {base : Nat} {val : Char → Option Nat} (hb : 1 < base)
  (hval : ∀ d < base, val (Nat.digitChar d) = some d)

include hb hval

theorem toDigits_isSome (n : Nat) : ∀ c ∈ Nat.toDigits base n, (val c).isSome := by
  induction n using Nat.strongRecOn with
  | _ n ih =>
    intro c hc
    rw [Nat.toDigits_eq_if hb] at hc
    split at hc
    next hn =>
      rw [List.mem_singleton] at hc
      rw [hc, hval n hn]
      rfl
    next hn =>
      rcases List.mem_append.mp hc with hc | hc
      · exact ih (n / base) (Nat.div_lt_self (by omega) hb) c hc
      · rw [List.mem_singleton] at hc
        rw [hc, hval _ (Nat.mod_lt n (by omega))]
        rfl

theorem digitsVal_toDigits (n : Nat) : digitsVal base val 0 (Nat.toDigits base n) = n := by
  induction n using Nat.strongRecOn with
  | _ n ih =>
    rw [Nat.toDigits_eq_if hb]
    split
    next hn => simp [digitsVal, hval n hn]
    next hn =>
      have hrec := ih (n / base) (Nat.div_lt_self (by omega) hb)
      unfold digitsVal at hrec ⊢
      rw [List.foldl_append, hrec, List.foldl_cons, List.foldl_nil,
        hval _ (Nat.mod_lt n (by omega)), Option.getD_some, Nat.mul_comm]
      exact Nat.div_add_mod n base

theorem scan_toDigits {n : Nat} (hn : n < big) (hr : Ends val r) :
    scan base val (Nat.toDigits base n ++ r) = some (n, r) := by
  have hsome := toDigits_isSome hb hval n
  have hv := digitsVal_toDigits hb hval n
  have hloop := scanLoop_digits (Nat.lt_of_succ_lt hb) hr (Nat.toDigits base n) 0 hsome
    (by rw [hv]; exact hn)
  rw [hv] at hloop
  cases hd : Nat.toDigits base n with
  | nil => exact absurd hd Nat.toDigits_ne_nil
  | cons c cs =>
    rw [hd] at hloop hsome
    have hc := hsome c (List.mem_cons_self ..)
    rw [List.cons_append] at hloop ⊢
    rw [scan, if_pos hc, hloop]

end Digits

theorem toDigits_head {base : Nat} (hb : 1 < base) (hb16 : base ≤ 16) (n : Nat) :
    (Nat.toDigits base n).head? = some '0' → n = 0 := by
  have hz : ∀ d < 16, Nat.digitChar d = '0' → d = 0 := by decide
  induction n using Nat.strongRecOn with
  | _ n ih =>
    intro h
    rw [Nat.toDigits_eq_if hb] at h
    split at h
    next hn =>
      simp only [List.head?_cons, Option.some.injEq] at h
      exact hz n (by omega) h
    next hn =>
      rw [List.head?_append_of_ne_nil _ Nat.toDigits_ne_nil] at h
      have := ih (n / base) (Nat.div_lt_self (by omega) hb) h
      have hle : 1 ≤ n / base := (Nat.one_le_div_iff (by omega)).mpr (by omega)
      omega

theorem decVal_digitChar : ∀ d < 10, decVal (Nat.digitChar d) = some d := by decide

theorem hexDigitVal_digitChar : ∀ d < 16, hexDigitVal (Nat.digitChar d) = some d := by decide

theorem dtoi_toDigits {n : Nat} (hn : n < big) (hr : Ends decVal r) :
    dtoi (Nat.toDigits 10 n ++ r) = some (n, r) :=
  scan_toDigits (by decide) decVal_digitChar hn hr

theorem xtoi_toDigits {n : Nat} (hn : n < big) (hr : Ends hexDigitVal r) :
    xtoi (Nat.toDigits 16 n ++ r) = some (n, r) :=
  scan_toDigits (by decide) hexDigitVal_digitChar hn hr

theorem parseOctet_toDigits (b : UInt8) (hr : Ends decVal r) :
    parseOctet strict (Nat.toDigits 10 b.toNat ++ r) = some (b, r) := by
  have hb : b.toNat < 256 := b.toNat_lt
  unfold parseOctet
  rw [dtoi_toDigits (by unfold big; omega) hr]
  simp only [Option.bind_eq_bind, Option.bind_some]
  rw [if_neg (by omega)]
  have hzero : ¬ (strict = true ∧ (Nat.toDigits 10 b.toNat ++ r).length - r.length > 1 ∧
      (Nat.toDigits 10 b.toNat ++ r).head? = some '0') := by
    rintro ⟨-, hlen, hhead⟩
    rw [List.head?_append_of_ne_nil _ Nat.toDigits_ne_nil] at hhead
    have h0 := toDigits_head (by decide) (by decide) b.toNat hhead
    rw [h0] at hlen
    simp at hlen
  rw [if_neg hzero, UInt8.ofNat_toNat]

theorem parseOctets_dotted (strict : Bool) :
    ∀ (p : List UInt8), p ≠ [] → parseOctets strict p.length (dotted p) = some (p, [])
  | [], h => absurd rfl h
  | [b], _ => by
    have := parseOctet_toDigits strict b (ends_nil decVal)
    rw [List.append_nil] at this
    simp [parseOctets, dotted, joinWith, this]
  | b :: c :: p, _ => by
    have hrest := parseOctets_dotted strict (c :: p) (by simp)
    have hb := parseOctet_toDigits strict b
      (ends_cons (show decVal '.' = none by decide) (dotted (c :: p)))
    have htext : dotted (b :: c :: p) = Nat.toDigits 10 b.toNat ++ '.' :: dotted (c :: p) := rfl
    rw [htext, List.length_cons, parseOctets, hb]
    simp only [List.length_cons, Option.bind_eq_bind, Option.bind_some, Nat.succ_ne_zero,
      if_false] at hrest ⊢
    rw [hrest]
    rfl

theorem parseIPv4_dotted {p : List UInt8} (hp : p.length = 4) :
    parseIPv4 strict (dotted p) = some (ipv4 p) := by
  have hne : p ≠ [] := by
    intro h
    rw [h] at hp
    cases hp
  have := parseOctets_dotted strict p hne
  rw [hp] at this
  simp [parseIPv4, this]

def bytesOf (gs : List Nat) : List UInt8 := gs.flatMap groupBytes

@[simp] theorem bytesOf_length : (bytesOf gs).length = 2 * gs.length := by
  induction gs with
  | nil => rfl
  | cons g gs ih =>
    rw [bytesOf, List.flatMap_cons, List.length_append, ← bytesOf, ih]
    simp [groupBytes]
    omega

theorem bytesOf_append (hs : List Nat) : bytesOf (gs ++ hs) = bytesOf gs ++ bytesOf hs :=
  List.flatMap_append

theorem bytesOf_replicate (n : Nat) :
    bytesOf (List.replicate n 0) = List.replicate (2 * n) 0 := by
  induction n with
  | zero => rfl
  | succ n ih =>
    rw [List.replicate_succ, show 2 * (n + 1) = 2 * n + 1 + 1 by omega, List.replicate_succ,
      List.replicate_succ, ← ih]
    rfl

theorem groups_lt : ∀ {ip : List UInt8}, ∀ g ∈ groups ip, g < 65536
  | [], g, h => by cases h
  | [a], g, h => by cases h
  | a :: b :: ip, g, h => by
    rcases List.mem_cons.mp h with rfl | h
    · have ha : a.toNat < 256 := a.toNat_lt
      have hb : b.toNat < 256 := b.toNat_lt
      omega
    · exact groups_lt g h

theorem bytesOf_groups : ∀ {ip : List UInt8}, ip.length % 2 = 0 → bytesOf (groups ip) = ip
  | [], _ => rfl
  | [a], h => by simp at h
  | a :: b :: ip, h => by
    have hrest : bytesOf (groups ip) = ip := bytesOf_groups (by simp at h; omega)
    have hb : b.toNat < 256 := b.toNat_lt
    have h1 : (a.toNat * 256 + b.toNat) / 256 = a.toNat := by omega
    have h2 : (a.toNat * 256 + b.toNat) % 256 = b.toNat := by omega
    rw [groups, bytesOf, List.flatMap_cons, ← bytesOf, hrest, groupBytes, h1, h2,
      UInt8.ofNat_toNat, UInt8.ofNat_toNat]
    rfl

theorem groups_length : ∀ (ip : List UInt8), (groups ip).length = ip.length / 2
  | [] => rfl
  | [_] => by simp [groups]
  | a :: b :: ip => by
    rw [groups, List.length_cons, groups_length ip, List.length_cons, List.length_cons]
    omega

theorem ends_colon (cs : List Char) : Ends hexDigitVal (':' :: cs) :=
  ends_cons (by decide) cs

theorem hexJoin_cons (g : Nat) (gs : List Nat) :
    ∃ c cs, hexJoin (g :: gs) = c :: cs ∧ c ≠ ':' ∧ c ≠ '/' := by
  have hsome := toDigits_isSome (by decide) hexDigitVal_digitChar g
  have hne : ∃ c cs, Nat.toDigits 16 g = c :: cs := by
    cases h : Nat.toDigits 16 g with
    | nil => exact absurd h Nat.toDigits_ne_nil
    | cons c cs => exact ⟨c, cs, rfl⟩
  obtain ⟨c, cs, hd⟩ := hne
  have hc := hsome c (by rw [hd]; exact List.mem_cons_self ..)
  have h1 : c ≠ ':' := fun he => by rw [he] at hc; exact absurd hc (by decide)
  have h2 : c ≠ '/' := fun he => by rw [he] at hc; exact absurd hc (by decide)
  cases gs with
  | nil => exact ⟨c, cs, by simp [hexJoin, joinWith, hd], h1, h2⟩
  | cons h gs =>
    refine ⟨c, cs ++ ':' :: hexJoin (h :: gs), ?_, h1, h2⟩
    simp [hexJoin, joinWith, hd]

theorem parseGroups_step {k g h : Nat} {gs : List Nat} {ip : List UInt8} {e : Option Nat}
    {t : List Char} (hg : g < 65536) : parseGroups strict (k + 1) ip e (hexJoin (g :: h :: gs) ++ t)
      = parseGroups strict k (ip ++ groupBytes g) e (hexJoin (h :: gs) ++ t) := by
  obtain ⟨c, cs, hc, hcol, -⟩ := hexJoin_cons h gs
  have htext : hexJoin (g :: h :: gs) ++ t
      = Nat.toDigits 16 g ++ ':' :: (hexJoin (h :: gs) ++ t) := by
    simp [hexJoin, joinWith]
  rw [htext, parseGroups, xtoi_toDigits (by unfold big; omega) (ends_colon _), hc]
  simp only [List.cons_append, Option.bind_eq_bind, Option.bind_some]
  rw [if_neg (by omega)]

theorem parseGroups_join (strict : Bool) {e : Option Nat} :
    ∀ {gs : List Nat} {k : Nat} (ip : List UInt8), gs ≠ [] → (∀ g ∈ gs, g < 65536) →
      gs.length ≤ k → parseGroups strict k ip e (hexJoin gs) = some (ip ++ bytesOf gs, e, [])
  | [], _, _, h, _, _ => absurd rfl h
  | _ :: _, 0, _, _, _, hk => absurd hk (by simp)
  | [g], k + 1, ip, _, hlt, _ => by
    have hg := hlt g (List.mem_cons_self ..)
    have hx := xtoi_toDigits (n := g) (by unfold big; omega) (ends_nil hexDigitVal)
    rw [List.append_nil] at hx
    simp only [hexJoin, List.map_cons, List.map_nil, joinWith, parseGroups, hx,
      Option.bind_eq_bind, Option.bind_some]
    rw [if_neg (by omega)]
    simp [bytesOf]
  | g :: h :: gs, k + 1, ip, _, hlt, hk => by
    have hstep : parseGroups strict (k + 1) ip e (hexJoin (g :: h :: gs))
        = parseGroups strict k (ip ++ groupBytes g) e (hexJoin (h :: gs)) := by
      simpa using parseGroups_step strict (t := []) (hlt g (List.mem_cons_self ..))
    rw [hstep, parseGroups_join strict _ (by simp)
      (fun x hx => hlt x (List.mem_cons_of_mem _ hx)) (by simpa using hk)]
    simp [bytesOf]

theorem parseGroups_join_ellipsis (strict : Bool) {u : List Char} :
    ∀ {gs : List Nat} {k : Nat} (ip : List UInt8), gs ≠ [] → (∀ g ∈ gs, g < 65536) →
      gs.length ≤ k →
      parseGroups strict k ip none (hexJoin gs ++ ':' :: ':' :: u)
        = if u = [] then some (ip ++ bytesOf gs, some (ip ++ bytesOf gs).length, [])
          else parseGroups strict (k - gs.length) (ip ++ bytesOf gs)
            (some (ip ++ bytesOf gs).length) u
  | [], _, _, h, _, _ => absurd rfl h
  | _ :: _, 0, _, _, _, hk => absurd hk (by simp)
  | [g], k + 1, ip, _, hlt, _ => by
    have hg := hlt g (List.mem_cons_self ..)
    have hx := xtoi_toDigits (n := g) (by unfold big; omega) (ends_colon (':' :: u))
    simp only [hexJoin, List.map_cons, List.map_nil, joinWith, parseGroups, hx,
      Option.bind_eq_bind, Option.bind_some]
    rw [if_neg (by omega)]
    simp [bytesOf, groupBytes]
  | g :: h :: gs, k + 1, ip, _, hlt, hk => by
    rw [parseGroups_step strict (hlt g (List.mem_cons_self ..)),
      parseGroups_join_ellipsis strict _ (by simp)
        (fun x hx => hlt x (List.mem_cons_of_mem _ hx)) (by simpa using hk)]
    simp [bytesOf, Nat.add_sub_add_right]

theorem take_runLen : gs.take (runLen gs) = List.replicate (runLen gs) 0 := by
  induction gs with
  | nil => rfl
  | cons g gs ih =>
    unfold runLen at ih ⊢
    by_cases hg : g = 0
    · rw [List.takeWhile_cons_of_pos (by simp [hg]), List.length_cons, List.take_succ_cons, ih,
        List.replicate_succ, hg]
    · rw [List.takeWhile_cons_of_neg (by simp [hg])]
      rfl

theorem longestRun_zeros : (gs.drop (longestRun gs).1).take (longestRun gs).2
      = List.replicate (longestRun gs).2 0 := by
  unfold longestRun
  generalize List.range gs.length = is
  have hfold : ∀ (is : List Nat) (best : Nat × Nat),
      (gs.drop best.1).take best.2 = List.replicate best.2 0 →
      (gs.drop (is.foldl (fun best i => if runLen (gs.drop i) > best.2
        then (i, runLen (gs.drop i)) else best) best).1).take
        (is.foldl (fun best i => if runLen (gs.drop i) > best.2
        then (i, runLen (gs.drop i)) else best) best).2
      = List.replicate (is.foldl (fun best i => if runLen (gs.drop i) > best.2
        then (i, runLen (gs.drop i)) else best) best).2 0 := by
    intro is
    induction is with
    | nil => intro best h; exact h
    | cons i is ih =>
      intro best h
      rw [List.foldl_cons]
      apply ih
      split
      · exact take_runLen (gs.drop i)
      · exact h
  exact hfold is (0, 0) rfl

theorem longestRun_split : gs = gs.take (longestRun gs).1 ++ (List.replicate (longestRun gs).2 0
      ++ gs.drop ((longestRun gs).1 + (longestRun gs).2)) := by
  rw [← longestRun_zeros, ← List.drop_drop, List.take_append_drop, List.take_append_drop]

theorem parseIPv6_plain {c : Char} {cs : List Char} (hc : c ≠ ':') :
    parseIPv6 strict (c :: cs) = (parseGroups strict 8 [] none (c :: cs) >>= expandEllipsis) := by
  unfold parseIPv6
  split
  · rename_i heq
    rw [List.cons.injEq] at heq
    exact absurd heq.1 hc
  · rename_i heq
    rw [List.cons.injEq] at heq
    exact absurd heq.1 hc
  · rfl

theorem expandEllipsis_at {a b : List UInt8} (h : (a ++ b).length < 16) :
    expandEllipsis (a ++ b, some a.length, [])
      = some (a ++ List.replicate (16 - (a ++ b).length) 0 ++ b) := by
  simp only [expandEllipsis, ne_eq, not_true_eq_false, if_false, if_pos h,
    List.take_left, List.drop_left]

theorem parseIPv6_ellipsis {pre post : List Nat} {l : Nat}
    (hlen : pre.length + (l + post.length) = 8) (hl : 2 ≤ l) (hpre : ∀ g ∈ pre, g < 65536)
    (hpost : ∀ g ∈ post, g < 65536) : parseIPv6 strict (hexJoin pre ++ ':' :: ':' :: hexJoin post)
      = some (bytesOf pre ++ List.replicate (2 * l) 0 ++ bytesOf post) := by
  have hfill : ∀ a, a = bytesOf pre →
      expandEllipsis (a ++ bytesOf post, some a.length, [])
        = some (bytesOf pre ++ List.replicate (2 * l) 0 ++ bytesOf post) := by
    intro a ha
    subst ha
    have hb : (bytesOf pre ++ bytesOf post).length = 16 - 2 * l := by
      rw [List.length_append, bytesOf_length, bytesOf_length]
      omega
    rw [expandEllipsis_at (by omega), hb, show 16 - (16 - 2 * l) = 2 * l by omega]
  cases pre with
  | nil =>
    cases post with
    | nil =>
      have : 2 * l = 16 := by
        simp only [List.length_nil] at hlen
        omega
      simp [hexJoin, joinWith, parseIPv6, bytesOf, this]
    | cons g gs =>
      obtain ⟨c, cs, hc, -⟩ := hexJoin_cons g gs
      have hp := parseGroups_join strict (e := some 0) (k := 8) [] (by simp) hpost
        (by omega)
      rw [hc] at hp ⊢
      show (parseGroups strict 8 [] (some 0) (c :: cs) >>= expandEllipsis) = _
      rw [hp]
      exact hfill [] rfl
  | cons g gs =>
    obtain ⟨c, cs, hc, hcol, -⟩ := hexJoin_cons g gs
    have hp := parseGroups_join_ellipsis strict (u := hexJoin post) (k := 8) []
      (by simp) hpre (by omega)
    rw [hc, List.cons_append] at hp ⊢
    rw [parseIPv6_plain strict hcol, hp]
    cases post with
    | nil =>
      have := hfill (bytesOf (g :: gs)) rfl
      rw [show bytesOf [] = [] from rfl, List.append_nil, List.append_nil] at this
      rw [if_pos (show hexJoin [] = [] from rfl), List.nil_append,
        show bytesOf [] = [] from rfl, List.append_nil]
      exact this
    | cons h hs =>
      obtain ⟨d, ds, hd, -⟩ := hexJoin_cons h hs
      rw [if_neg (by rw [hd]; simp), parseGroups_join strict _ (by simp) hpost (by omega)]
      exact hfill (bytesOf (g :: gs)) rfl

theorem parseIPv6_ipv6Text (hlen : ip.length = 16) :
    parseIPv6 strict (ipv6Text (groups ip)) = some ip := by
  have hgl : (groups ip).length = 8 := by rw [groups_length, hlen]
  have hlt : ∀ g ∈ groups ip, g < 65536 := groups_lt
  have hbytes : bytesOf (groups ip) = ip := bytesOf_groups (by rw [hlen])
  unfold ipv6Text
  generalize groups ip = gs at hgl hlt hbytes
  dsimp only
  split
  · -- no ellipsis: eight groups, sixteen bytes
    obtain ⟨g, gs', rfl⟩ : ∃ g gs', gs = g :: gs' := by
      cases gs with
      | nil => cases hgl
      | cons g gs' => exact ⟨g, gs', rfl⟩
    obtain ⟨c, cs, hc, hcol, -⟩ := hexJoin_cons g gs'
    have hp := parseGroups_join strict (e := none) (k := 8) [] (by simp) hlt (by omega)
    rw [hc] at hp ⊢
    rw [parseIPv6_plain strict hcol, hp]
    simp [expandEllipsis, hbytes, hlen]
  next hrun =>
    have hsplit := longestRun_split gs
    have hlens : (gs.take (longestRun gs).1).length + ((longestRun gs).2
        + (gs.drop ((longestRun gs).1 + (longestRun gs).2)).length) = 8 := by
      have := congrArg List.length hsplit
      rw [hgl, List.length_append, List.length_append, List.length_replicate] at this
      exact this.symm
    rw [parseIPv6_ellipsis strict hlens (by omega)
      (fun g hg => hlt g (List.mem_of_mem_take hg))
      (fun g hg => hlt g (List.mem_of_mem_drop hg))]
    rw [← bytesOf_replicate, List.append_assoc, ← bytesOf_append, ← bytesOf_append, ← hsplit,
      hbytes]

theorem cutSlash_append : ∀ {a : List Char} (m : List Char), '/' ∉ a →
    cutSlash (a ++ '/' :: m) = some (a, m)
  | [], m, _ => rfl
  | c :: a, m, h => by
    rw [List.mem_cons, not_or] at h
    rw [List.cons_append, cutSlash, if_neg (fun he => h.1 he.symm), cutSlash_append m h.2]
    rfl

theorem not_mem_joinWith {x sep : Char} (hsep : x ≠ sep) :
    ∀ {l : List (List Char)}, (∀ s ∈ l, x ∉ s) → x ∉ joinWith sep l
  | [], _ => by simp [joinWith]
  | [s], h => h s (List.mem_cons_self ..)
  | s :: s' :: l, h => by
    rw [joinWith, List.mem_append, List.mem_cons, not_or, not_or]
    exact ⟨h s (List.mem_cons_self ..), hsep,
      not_mem_joinWith hsep fun u hu => h u (List.mem_cons_of_mem _ hu)⟩

/-- A character that is neither a digit nor a separator is in no address. -/
structure Foreign (x : Char) : Prop where
  dec : decVal x = none
  hex : hexDigitVal x = none
  dot : x ≠ '.'
  colon : x ≠ ':'

section Foreign

variable {x : Char} (hx : Foreign x)

include hx

theorem Foreign.not_mem_dotted (p : List UInt8) : x ∉ dotted p := by
  refine not_mem_joinWith hx.dot fun s hs hmem => ?_
  obtain ⟨b, -, rfl⟩ := List.mem_map.mp hs
  have hsome := toDigits_isSome (by decide) decVal_digitChar _ _ hmem
  rw [hx.dec] at hsome
  cases hsome

theorem Foreign.not_mem_hexJoin : x ∉ hexJoin gs := by
  refine not_mem_joinWith hx.colon fun s hs hmem => ?_
  obtain ⟨g, -, rfl⟩ := List.mem_map.mp hs
  have hsome := toDigits_isSome (by decide) hexDigitVal_digitChar _ _ hmem
  rw [hx.hex] at hsome
  cases hsome

theorem Foreign.not_mem_ipv6Text : x ∉ ipv6Text gs := by
  unfold ipv6Text
  dsimp only
  split
  · exact hx.not_mem_hexJoin gs
  · simp [hx.not_mem_hexJoin, hx.colon]

end Foreign

theorem foreign_slash : Foreign '/' := ⟨by decide, by decide, by decide, by decide⟩

theorem parseCIDR_of_parseAddr {a : List Char} {k n : Nat}
    (ha : parseAddr strict a = some (ip, k)) (hslash : '/' ∉ a) (hk : k ≤ 16) (hn : n ≤ 8 * k) :
    parseCIDR strict (String.ofList (a ++ '/' :: Nat.toDigits 10 n))
      = .ok (ip, ⟨maskIP ip (cidrMask n k), cidrMask n k⟩) := by
  have hd := dtoi_toDigits (n := n) (by unfold big; omega) (ends_nil decVal)
  rw [List.append_nil] at hd
  unfold parseCIDR
  rw [String.toList_ofList, cutSlash_append _ hslash]
  dsimp only
  rw [ha, hd]
  dsimp only
  rw [if_neg (by omega)]

theorem parseAddr_dotted {p : List UInt8} (hp : p.length = 4) :
    parseAddr strict (dotted p) = some (ipv4 p, 4) := by
  rw [parseAddr, parseIPv4_dotted strict hp]

theorem parseAddr_ipv6Text (hlen : ip.length = 16) :
    parseAddr strict (ipv6Text (groups ip)) = some (ip, 16) := by
  have h6 := parseIPv6_ipv6Text strict hlen
  unfold parseAddr
  split
  next ip4 h4 =>
    have h1 := (parseIPv4_shape h4).1
    rw [(parseIPv6_shape h6).1] at h1
    cases h1
  · rw [h6]; rfl

theorem netText_eq {n : IPNet} {ones k : Nat} (hfit : ones ≤ 8 * k)
    (h : networkNumberAndMask n = some (ip, cidrMask ones k)) :
    netText n = String.ofList (ipChars ip ++ '/' :: Nat.toDigits 10 ones) := by
  rw [netText, h]
  dsimp only
  rw [simpleMaskLength_cidrMask ones k hfit]

theorem ipChars_four (h : ip.length = 4) : ipChars ip = dotted ip := by
  have hne : ip ≠ [] := fun hnil => by rw [hnil] at h; cases h
  simp [ipChars, hne, to4, h]

theorem ipChars_sixteen (h : ip.length = 16) (hp : ip.take 12 ≠ v4InV6Prefix) :
    ipChars ip = ipv6Text (groups ip) := by
  have hne : ip ≠ [] := fun hnil => by rw [hnil] at h; cases h
  simp [ipChars, hne, to4, h, hp]

theorem parseAddr_ipChars {r : IP} (hlen : r.length = 4 ∨ r.length = 16) :
    ∃ w, parseAddr true (ipChars r) = some (to16 r, w) := by
  rcases hlen with hlen | hlen
  · exact ⟨4, by rw [ipChars_four hlen, parseAddr_dotted true hlen, to16, if_pos hlen]⟩
  · have h16 : to16 r = r := by rw [to16, if_neg (by rw [hlen]; decide)]
    by_cases hmapped : Mapped r
    · have hr : ipv4 (r.drop 12) = r := by rw [ipv4, ← hmapped.2, List.take_append_drop]
      have hdrop : (r.drop 12).length = 4 := by rw [List.length_drop, hlen]
      have hchars : ipChars r = dotted (r.drop 12) := by
        have hne : r ≠ [] := fun h => by simp [h] at hlen
        rw [ipChars, if_neg hne, ← hr, to4_ipv4 hdrop, ipv4_drop]
      exact ⟨4, by rw [hchars, parseAddr_dotted true hdrop, hr, h16]⟩
    · rw [ipChars_sixteen hlen fun h => hmapped ⟨hlen, h⟩, parseAddr_ipv6Text true hlen, h16]
      exact ⟨16, rfl⟩

theorem ipText_injective {r r' : IP} (hlen : r.length = 4 ∨ r.length = 16)
    (hsame : r.length = r'.length) (h : ipText r = ipText r') : r = r' := by
  obtain ⟨w, hw⟩ := parseAddr_ipChars hlen
  obtain ⟨w', hw'⟩ := parseAddr_ipChars (hsame ▸ hlen)
  rw [ipText, ipText, String.ofList_inj] at h
  rw [h, hw'] at hw
  exact to16_injective hsame (Prod.mk.inj (Option.some.inj hw)).1.symm

section Printed

variable {n : IPNet} {ones k : Nat}

theorem parseCIDR_netText_of_not_mapped (hk : k = 4 ∨ k = 16) (hfit : ones ≤ 8 * k)
    (hmask : n.mask = cidrMask ones k) (hip : n.ip.length = k) (hn : ¬ Mapped n.ip) :
    parseCIDR strict (netText n) = .ok (to16 n.ip, ⟨andBytes n.ip n.mask, n.mask⟩) := by
  have hnn := networkNumberAndMask_of_not_mapped hk hmask hip hn
  rcases hk with rfl | rfl
  · rw [netText_eq hfit hnn, ipChars_four hip, parseCIDR_of_parseAddr strict
      (parseAddr_dotted strict hip) (foreign_slash.not_mem_dotted _) (by omega) hfit,
      maskIP_ipv4 hip, to16, if_pos hip, hmask]
  · rw [netText_eq hfit hnn, ipChars_sixteen hip fun hp => hn ⟨hip, hp⟩,
      parseCIDR_of_parseAddr strict (parseAddr_ipv6Text strict hip)
        (foreign_slash.not_mem_ipv6Text _) (by omega) hfit, maskIP_sixteen hip, to16,
      if_neg (by rw [hip]; decide), hmask]

theorem parseCIDR_netText_of_mapped (hfit : ones ≤ 8 * 16) (hmask : n.mask = cidrMask ones 16)
    (hn : Mapped n.ip) : parseCIDR strict (netText n) = .ok (to16 n.ip,
      ⟨andBytes (n.ip.drop 12) (cidrMask (ones - 96) 4), cidrMask (ones - 96) 4⟩) := by
  have hl : (n.ip.drop 12).length = 4 := by rw [List.length_drop, hn.1]
  have hback : ipv4 (n.ip.drop 12) = to16 n.ip := by
    rw [ipv4, ← hn.2, List.take_append_drop, to16, if_neg (by rw [hn.1]; decide)]
  rw [netText_eq (by omega) (networkNumberAndMask_of_mapped hmask hn), ipChars_four hl,
    parseCIDR_of_parseAddr strict (parseAddr_dotted strict hl)
      (foreign_slash.not_mem_dotted _) (by omega) (by omega), maskIP_ipv4 hl, hback]

theorem parseCIDR_netText (hk : k = 4 ∨ k = 16) (hfit : ones ≤ 8 * k)
    (hmask : n.mask = cidrMask ones k) (hip : n.ip.length = k) :
    ∃ net, parseCIDR strict (netText n) = .ok (to16 n.ip, net) := by
  by_cases hn : Mapped n.ip
  · obtain rfl : k = 16 := hip.symm.trans hn.1
    exact ⟨_, parseCIDR_netText_of_mapped strict hfit hmask hn⟩
  · exact ⟨_, parseCIDR_netText_of_not_mapped strict hk hfit hmask hip hn⟩

end Printed

theorem Foreign.not_mem_netText {x : Char} (hx : Foreign x) (hslash : x ≠ '/') {n : IPNet}
    {ones k : Nat} (h : n.Canonical ones k) : x ∉ (netText n).toList := by
  have hprinted : ∀ (ip : IP) (o w : Nat), o ≤ 8 * w → x ∉ ipChars ip →
      networkNumberAndMask n = some (ip, cidrMask o w) → x ∉ (netText n).toList := by
    intro ip o w ho hip hnn
    rw [netText_eq ho hnn, String.toList_ofList, List.mem_append, List.mem_cons, not_or, not_or]
    refine ⟨hip, hslash, fun hmem => ?_⟩
    have hsome := toDigits_isSome (by decide) decVal_digitChar _ _ hmem
    rw [hx.dec] at hsome
    cases hsome
  by_cases hmapped : Mapped n.ip
  · have hk : k = 16 := h.ip_length.symm.trans hmapped.1
    subst hk
    have hlen : (n.ip.drop 12).length = 4 := by rw [List.length_drop, hmapped.1]
    have hfits := h.fits
    refine hprinted _ _ _ (by omega) ?_ (networkNumberAndMask_of_mapped h.mask_eq hmapped)
    rw [ipChars_four hlen]
    exact hx.not_mem_dotted _
  · refine hprinted _ _ _ h.fits ?_
      (networkNumberAndMask_of_not_mapped h.width h.mask_eq h.ip_length hmapped)
    rcases h.width with rfl | rfl
    · rw [ipChars_four h.ip_length]
      exact hx.not_mem_dotted _
    · rw [ipChars_sixteen h.ip_length fun hp => hmapped ⟨h.ip_length, hp⟩]
      exact hx.not_mem_ipv6Text _

end Kosmos.Go.Net
