import Kosmos.Go.Net.Addr

/-!
# `net.ParseIP` and `net.ParseCIDR`

`strict` for package `net`; the fork under `k8s.io/utils` allows leading zeros.
-/

namespace Kosmos.Go.Net

def big : Nat := 0xFFFFFF

def decVal (c : Char) : Option Nat :=
  if '0' ≤ c ∧ c ≤ '9' then some (c.toNat - '0'.toNat) else none

def hexDigitVal (c : Char) : Option Nat :=
  if '0' ≤ c ∧ c ≤ '9' then some (c.toNat - '0'.toNat)
  else if 'a' ≤ c ∧ c ≤ 'f' then some (c.toNat - 'a'.toNat + 10)
  else if 'A' ≤ c ∧ c ≤ 'F' then some (c.toNat - 'A'.toNat + 10)
  else none

def scanLoop (base : Nat) (val : Char → Option Nat) : Nat → List Char → Option (Nat × List Char)
  | n, [] => some (n, [])
  | n, c :: cs =>
    match val c with
    | none => some (n, c :: cs)
    | some v => if n * base + v ≥ big then none else scanLoop base val (n * base + v) cs

def scan (base : Nat) (val : Char → Option Nat) : List Char → Option (Nat × List Char)
  | [] => none
  | c :: cs => if (val c).isSome then scanLoop base val 0 (c :: cs) else none

def dtoi : List Char → Option (Nat × List Char) := scan 10 decVal

def xtoi : List Char → Option (Nat × List Char) := scan 16 hexDigitVal

inductive Sep where
  | dot
  | colon
  deriving DecidableEq, Repr

def firstSep : List Char → Option Sep
  | [] => none
  | c :: cs => if c = '.' then some .dot else if c = ':' then some .colon else firstSep cs

def parseOctet (strict : Bool) (s : List Char) : Option (UInt8 × List Char) := do
  let (n, rest) ← dtoi s
  if n > 0xFF then none
  else if strict ∧ s.length - rest.length > 1 ∧ s.head? = some '0' then none
  else some (UInt8.ofNat n, rest)

def parseOctets (strict : Bool) : Nat → List Char → Option (List UInt8 × List Char)
  | 0, s => some ([], s)
  | k + 1, s => do
    let (b, rest) ← parseOctet strict s
    if k = 0 then some ([b], rest)
    else
      match rest with
      | '.' :: rest => do
        let (bs, rest) ← parseOctets strict k rest
        some (b :: bs, rest)
      | _ => none

def parseIPv4 (strict : Bool) (s : List Char) : Option IP := do
  let (p, rest) ← parseOctets strict 4 s
  if rest = [] then some (ipv4 p) else none

def groupBytes (n : Nat) : List UInt8 := [UInt8.ofNat (n / 256), UInt8.ofNat (n % 256)]

def parseGroups (strict : Bool) :
    Nat → List UInt8 → Option Nat → List Char → Option (List UInt8 × Option Nat × List Char)
  | 0, ip, e, s => some (ip, e, s)
  | k + 1, ip, e, s => do
    let (n, rest) ← xtoi s
    if n > 0xFFFF then none
    else
      match rest with
      | '.' :: _ =>
        if e = none ∧ ip.length ≠ 12 then none
        else if ip.length + 4 > 16 then none
        else do
          let ip4 ← parseIPv4 strict s
          some (ip ++ ip4.drop 12, e, [])
      | [] => some (ip ++ groupBytes n, e, [])
      | ':' :: ':' :: rest =>
        if e.isSome then none
        else if rest = [] then some (ip ++ groupBytes n, some (ip.length + 2), [])
        else parseGroups strict k (ip ++ groupBytes n) (some (ip.length + 2)) rest
      | ':' :: c :: rest => parseGroups strict k (ip ++ groupBytes n) e (c :: rest)
      | _ => none

def expandEllipsis : List UInt8 × Option Nat × List Char → Option IP
  | (ip, e, s) =>
    if s ≠ [] then none
    else if ip.length < 16 then
      match e with
      | none => none
      | some j => some (ip.take j ++ List.replicate (16 - ip.length) 0 ++ ip.drop j)
    else if e.isSome then none
    else some ip

def parseIPv6 (strict : Bool) : List Char → Option IP
  | ':' :: ':' :: [] => some (List.replicate 16 0)
  | ':' :: ':' :: s => parseGroups strict 8 [] (some 0) s >>= expandEllipsis
  | s => parseGroups strict 8 [] none s >>= expandEllipsis

def parseIP (strict : Bool) (s : String) : Option IP :=
  match firstSep s.toList with
  | some .dot => parseIPv4 strict s.toList
  | some .colon => parseIPv6 strict s.toList
  | none => none

def cutSlash : List Char → Option (List Char × List Char)
  | [] => none
  | c :: cs => if c = '/' then some ([], cs) else (cutSlash cs).map fun p => (c :: p.1, p.2)

def parseError (s : String) : String := "invalid CIDR address: " ++ s

def parseAddr (strict : Bool) (addr : List Char) : Option (IP × Nat) :=
  match parseIPv4 strict addr with
  | some ip => some (ip, 4)
  | none => (parseIPv6 strict addr).map fun ip => (ip, 16)

def parseCIDR (strict : Bool) (s : String) : Except String (IP × IPNet) :=
  match cutSlash s.toList with
  | none => .error (parseError s)
  | some (addr, mask) =>
    match parseAddr strict addr, dtoi mask with
    | some (ip, iplen), some (n, []) =>
      if n > 8 * iplen then .error (parseError s)
      else
        let m := cidrMask n iplen
        .ok (ip, ⟨maskIP ip m, m⟩)
    | _, _ => .error (parseError s)

example : (parseCIDR true "10.233.1.7/18").toOption
    = some (ipv4 [10, 233, 1, 7], ⟨[10, 233, 0, 0], [255, 255, 192, 0]⟩) := by decide

variable {val : Char → Option Nat} {s : List Char} {strict : Bool} {ip : IP} {p : List UInt8}

theorem scanLoop_split {base : Nat} : ∀ {s : List Char} {n m : Nat} {rest : List Char},
      scanLoop base val n s = some (m, rest) →
      ∃ ds, s = ds ++ rest ∧ ∀ c ∈ ds, (val c).isSome
  | [], n, m, rest, h => by
    simp only [scanLoop, Option.some.injEq, Prod.mk.injEq] at h
    exact ⟨[], by simp [← h.2], by simp⟩
  | c :: s, n, m, rest, h => by
    unfold scanLoop at h
    cases hv : val c with
    | none =>
      rw [hv] at h
      simp only [Option.some.injEq, Prod.mk.injEq] at h
      exact ⟨[], by simp [← h.2], by simp⟩
    | some v =>
      rw [hv] at h
      dsimp only at h
      split at h
      · cases h
      · obtain ⟨ds, hs, hd⟩ := scanLoop_split h
        refine ⟨c :: ds, by rw [hs, List.cons_append], ?_⟩
        intro d hd'
        rcases List.mem_cons.mp hd' with rfl | hd''
        · rw [hv]; rfl
        · exact hd d hd''

theorem scan_split {base : Nat} {rest : List Char} {m : Nat}
    (h : scan base val s = some (m, rest)) : ∃ ds, s = ds ++ rest ∧ ∀ c ∈ ds, (val c).isSome := by
  unfold scan at h
  split at h
  · cases h
  · split at h
    · exact scanLoop_split h
    · cases h

theorem firstSep_digits (hdot : val '.' = none) (hcol : val ':' = none) :
    ∀ {ds : List Char} (rest : List Char),
      (∀ c ∈ ds, (val c).isSome) → firstSep (ds ++ rest) = firstSep rest
  | [], _, _ => rfl
  | c :: ds, rest, h => by
    have hc := h c (List.mem_cons_self ..)
    have h1 : c ≠ '.' := fun he => by rw [he, hdot] at hc; cases hc
    have h2 : c ≠ ':' := fun he => by rw [he, hcol] at hc; cases hc
    rw [List.cons_append, firstSep, if_neg h1, if_neg h2]
    exact firstSep_digits hdot hcol rest fun d hd => h d (List.mem_cons_of_mem _ hd)

theorem firstSep_append {x : Sep} (rest : List Char) (h : firstSep s = some x) :
    firstSep (s ++ rest) = some x := by
  induction s with
  | nil => cases h
  | cons c s ih =>
    rw [List.cons_append]
    unfold firstSep at h ⊢
    split
    next hc => rw [if_pos hc] at h; exact h
    next hc =>
      rw [if_neg hc] at h
      split
      next hc' => rw [if_pos hc'] at h; exact h
      next hc' => rw [if_neg hc'] at h; exact ih h

theorem parseOctet_split {rest : List Char} {b : UInt8} (h : parseOctet strict s = some (b, rest)) :
    firstSep s = firstSep rest := by
  unfold parseOctet at h
  cases hd : dtoi s with
  | none => rw [hd] at h; cases h
  | some p =>
    obtain ⟨n, r⟩ := p
    rw [hd] at h
    simp only [Option.bind_eq_bind, Option.bind_some] at h
    split at h
    · cases h
    · split at h
      · cases h
      · simp only [Option.some.injEq, Prod.mk.injEq] at h
        obtain ⟨ds, hs, hds⟩ := scan_split hd
        rw [hs, firstSep_digits (by decide) (by decide) r hds, h.2]

theorem parseOctets_shape : ∀ {k : Nat} {s rest : List Char} {p : List UInt8},
      parseOctets strict k s = some (p, rest) →
      p.length = k ∧ (2 ≤ k → firstSep s = some .dot)
  | 0, s, rest, p, h => by
    simp only [parseOctets, Option.some.injEq, Prod.mk.injEq] at h
    exact ⟨by simp [← h.1], by omega⟩
  | k + 1, s, rest, p, h => by
    unfold parseOctets at h
    cases ho : parseOctet strict s with
    | none => rw [ho] at h; cases h
    | some q =>
      obtain ⟨b, r⟩ := q
      rw [ho] at h
      simp only [Option.bind_eq_bind, Option.bind_some] at h
      split at h
      next hk =>
        simp only [Option.some.injEq, Prod.mk.injEq] at h
        exact ⟨by simp [← h.1, hk], by omega⟩
      next hk =>
        split at h
        next r' =>
          cases hr : parseOctets strict k r' with
          | none => rw [hr] at h; cases h
          | some q =>
            obtain ⟨bs, r''⟩ := q
            rw [hr] at h
            simp only [Option.bind_some, Option.some.injEq, Prod.mk.injEq] at h
            refine ⟨by simp [← h.1, (parseOctets_shape hr).1], fun _ => ?_⟩
            rw [parseOctet_split ho, firstSep, if_pos rfl]
        · cases h

theorem parseIPv4_shape (h : parseIPv4 strict s = some ip) :
    firstSep s = some .dot ∧ ∃ p, p.length = 4 ∧ ip = ipv4 p := by
  unfold parseIPv4 at h
  cases ho : parseOctets strict 4 s with
  | none => rw [ho] at h; cases h
  | some q =>
    obtain ⟨p, rest⟩ := q
    rw [ho] at h
    simp only [Option.bind_eq_bind, Option.bind_some] at h
    obtain ⟨hlen, hsep⟩ := parseOctets_shape ho
    split at h
    · simp only [Option.some.injEq] at h
      exact ⟨hsep (by omega), p, hlen, h.symm⟩
    · cases h

@[simp] theorem ipv4_drop : (ipv4 p).drop 12 = p := rfl

@[simp] theorem ipv4_length : (ipv4 p).length = 12 + p.length := by
  simp [ipv4, v4InV6Prefix]
  omega

theorem to4_ipv4 (hp : p.length = 4) : to4 (ipv4 p) = some p := by
  simp [to4, hp, show (ipv4 p).take 12 = v4InV6Prefix from rfl]

theorem parseGroups_succ {k : Nat} {ip : List UInt8} {e : Option Nat}
    {r : List UInt8 × Option Nat × List Char} (h : parseGroups strict (k + 1) ip e s = some r) :
    ∃ n rest, xtoi s = some (n, rest) ∧
      ((∃ cs p, rest = '.' :: cs ∧ p.length = 4 ∧ ip.length + 4 ≤ 16 ∧
          (e = none → ip.length = 12) ∧ r = (ip ++ p, e, [])) ∨
        (rest = [] ∧ r = (ip ++ groupBytes n, e, [])) ∨
        (∃ cs, rest = ':' :: cs ∧ r = (ip ++ groupBytes n, some (ip.length + 2), [])) ∨
        ∃ cs e' t, rest = ':' :: cs ∧ (e' = e ∨ e' = some (ip.length + 2)) ∧
          parseGroups strict k (ip ++ groupBytes n) e' t = some r) := by
  unfold parseGroups at h
  obtain ⟨⟨n, rest⟩, hx, h⟩ := Option.bind_eq_some_iff.mp h
  refine ⟨n, rest, hx, ?_⟩
  dsimp only at h
  split at h
  · cases h
  · split at h
    next cs =>
      split at h
      · cases h
      next hlast =>
        split at h
        · cases h
        next hroom =>
          obtain ⟨ip4, h4, h⟩ := Option.bind_eq_some_iff.mp h
          obtain ⟨-, p, hp, rfl⟩ := parseIPv4_shape h4
          rw [ipv4_drop, Option.some.injEq] at h
          refine Or.inl ⟨cs, p, rfl, hp, by omega, fun he => ?_, h.symm⟩
          exact Classical.not_not.mp fun hne => hlast ⟨he, hne⟩
    · exact Or.inr (Or.inl ⟨rfl, (Option.some.inj h).symm⟩)
    next cs =>
      split at h
      · cases h
      · split at h
        · exact Or.inr (Or.inr (Or.inl ⟨_, rfl, (Option.some.inj h).symm⟩))
        · exact Or.inr (Or.inr (Or.inr ⟨_, _, cs, rfl, Or.inr rfl, h⟩))
    · exact Or.inr (Or.inr (Or.inr ⟨_, e, _, rfl, Or.inl rfl, h⟩))
    · cases h

theorem parseGroups_bound :
    ∀ {k : Nat} {ip ip' : List UInt8} {e e' : Option Nat} {s s' : List Char},
      parseGroups strict k ip e s = some (ip', e', s') → ip.length + 2 * k = 16 →
      (∀ j, e = some j → j ≤ ip.length) →
      ip'.length ≤ 16 ∧ ∀ j, e' = some j → j ≤ ip'.length
  | 0, ip, ip', e, e', s, s', h, hk, he => by
    cases h
    exact ⟨by omega, he⟩
  | k + 1, ip, ip', e, e', s, s', h, hk, he => by
    obtain ⟨n, rest, -, hcase⟩ := parseGroups_succ h
    have hg : (ip ++ groupBytes n).length = ip.length + 2 := by simp [groupBytes]
    rcases hcase with ⟨cs, p, -, hp, hroom, -, hr⟩ | ⟨-, hr⟩ | ⟨cs, -, hr⟩ | ⟨cs, e₁, t, -, he₁, h⟩
    · cases hr
      rw [List.length_append, hp]
      exact ⟨by omega, fun j hj => Nat.le_add_right_of_le (he j hj)⟩
    · cases hr
      rw [hg]
      exact ⟨by omega, fun j hj => Nat.le_add_right_of_le (he j hj)⟩
    · cases hr
      rw [hg]
      refine ⟨by omega, fun j hj => ?_⟩
      cases hj
      exact Nat.le_refl _
    · refine parseGroups_bound h (by omega) fun j hj => ?_
      rw [hg]
      rcases he₁ with rfl | rfl
      · exact Nat.le_add_right_of_le (he j hj)
      · cases hj
        exact Nat.le_refl _

theorem expandEllipsis_length {ip : List UInt8} {e : Option Nat} {ip' : IP}
    (h : expandEllipsis (ip, e, s) = some ip') (hlen : ip.length ≤ 16)
    (he : ∀ j, e = some j → j ≤ ip.length) : ip'.length = 16 := by
  simp only [expandEllipsis] at h
  split at h
  · cases h
  · split at h
    · split at h
      · cases h
      · next j =>
        have hj := he j rfl
        simp only [Option.some.injEq] at h
        subst h
        simp
        omega
    · split at h
      · cases h
      · simp only [Option.some.injEq] at h
        subst h
        omega

theorem parseGroups_firstSep (h : (parseGroups strict 8 [] none s >>= expandEllipsis) = some ip) :
    firstSep s = some .colon := by
  obtain ⟨r, hr, h⟩ := Option.bind_eq_some_iff.mp h
  obtain ⟨n, rest, hx, hcase⟩ := parseGroups_succ hr
  obtain ⟨ds, hs, hds⟩ := scan_split hx
  rw [hs, firstSep_digits (by decide) (by decide) rest hds]
  rcases hcase with ⟨cs, p, -, -, -, hlast, -⟩ | ⟨-, rfl⟩ | ⟨cs, rfl, -⟩ | ⟨cs, e', t, rfl, -⟩
  · -- an IPv4 address cannot come first
    cases hlast rfl
  · -- one group does not fill an address
    simp [expandEllipsis, groupBytes] at h
  · rfl
  · rfl

theorem parseIPv6_shape (h : parseIPv6 strict s = some ip) :
    firstSep s = some .colon ∧ ip.length = 16 := by
  have hloop : ∀ (e : Option Nat) (t : List Char), (∀ j, e = some j → j = 0) →
      (parseGroups strict 8 [] e t >>= expandEllipsis) = some ip → ip.length = 16 := by
    intro e t he ht
    cases hg : parseGroups strict 8 [] e t with
    | none => rw [hg] at ht; cases ht
    | some q =>
      obtain ⟨ip', e', s'⟩ := q
      rw [hg] at ht
      obtain ⟨hl, hj⟩ := parseGroups_bound hg rfl fun j hj => by simp [he j hj]
      exact expandEllipsis_length ht hl hj
  unfold parseIPv6 at h
  split at h
  · simp only [Option.some.injEq] at h
    exact ⟨rfl, by simp [← h]⟩
  · exact ⟨rfl, hloop (some 0) _ (by simp) h⟩
  · exact ⟨parseGroups_firstSep h, hloop none _ (by simp) h⟩

theorem parseIP_dot {s : String} (hs : firstSep s.toList = some .dot)
    (h : parseIP strict s = some ip) : ∃ p, p.length = 4 ∧ ip = ipv4 p := by
  unfold parseIP at h
  rw [hs] at h
  exact (parseIPv4_shape h).2

theorem parseIP_colon {s : String} (hs : firstSep s.toList = some .colon)
    (h : parseIP strict s = some ip) : ip.length = 16 := by
  unfold parseIP at h
  rw [hs] at h
  exact (parseIPv6_shape h).2

theorem cutSlash_split : ∀ {s addr mask : List Char},
    cutSlash s = some (addr, mask) → s = addr ++ '/' :: mask
  | [], _, _, h => by cases h
  | c :: s, addr, mask, h => by
    unfold cutSlash at h
    split at h
    next hc =>
      simp only [Option.some.injEq, Prod.mk.injEq] at h
      obtain ⟨rfl, rfl⟩ := h
      rw [hc, List.nil_append]
    · cases hr : cutSlash s with
      | none => rw [hr] at h; cases h
      | some q =>
        rw [hr] at h
        simp only [Option.map_some, Option.some.injEq, Prod.mk.injEq] at h
        obtain ⟨rfl, rfl⟩ := h
        rw [cutSlash_split hr, List.cons_append]

theorem maskIP_ipv4 {n : Nat} (hp : p.length = 4) :
    maskIP (ipv4 p) (cidrMask n 4) = andBytes p (cidrMask n 4) := by
  simp [maskIP, hp, show (ipv4 p).take 12 = v4InV6Prefix from rfl]

theorem maskIP_sixteen {n : Nat} (h : ip.length = 16) :
    maskIP ip (cidrMask n 16) = andBytes ip (cidrMask n 16) := by
  simp [maskIP, h]

theorem canonical_andBytes {n k : Nat} (hk : k = 4 ∨ k = 16) (hn : n ≤ 8 * k)
    (hlen : ip.length = k) :
    (IPNet.mk (andBytes ip (cidrMask n k)) (cidrMask n k)).Canonical n k where
  width := hk
  fits := hn
  mask_eq := rfl
  ip_length := by rw [andBytes_length, hlen, cidrMask_length, Nat.min_self]
  masked := by
    show andBytes (andBytes ip (cidrMask n k)) (cidrMask n k) = _
    rw [andBytes_assoc, cidrMask_and n n k (Nat.le_refl n)]

theorem parseCIDR_shape {s : String} {net : IPNet} (h : parseCIDR strict s = .ok (ip, net)) :
    (firstSep s.toList = some .dot ∧ (∃ p, p.length = 4 ∧ ip = ipv4 p) ∧
      ∃ n, net.Canonical n 4) ∨
    (firstSep s.toList = some .colon ∧ ip.length = 16 ∧ ∃ n, net.Canonical n 16) := by
  unfold parseCIDR at h
  split at h
  · cases h
  next addr mask hcut =>
    have hs := cutSlash_split hcut
    split at h
    next ip' iplen n ha hd =>
      split at h
      · cases h
      next hn =>
        simp only [Except.ok.injEq, Prod.mk.injEq] at h
        obtain ⟨rfl, rfl⟩ := h
        unfold parseAddr at ha
        split at ha
        next ip4 h4 =>
          simp only [Option.some.injEq, Prod.mk.injEq] at ha
          obtain ⟨rfl, rfl⟩ := ha
          obtain ⟨hsep, p, hp, rfl⟩ := parseIPv4_shape h4
          refine Or.inl ⟨by rw [hs]; exact firstSep_append _ hsep, ⟨p, hp, rfl⟩, n, ?_⟩
          rw [maskIP_ipv4 hp]
          exact canonical_andBytes (Or.inl rfl) (by omega) hp
        · cases h6 : parseIPv6 strict addr with
          | none => rw [h6] at ha; cases ha
          | some ip6 =>
            rw [h6] at ha
            simp only [Option.map_some, Option.some.injEq, Prod.mk.injEq] at ha
            obtain ⟨rfl, rfl⟩ := ha
            obtain ⟨hsep, hlen⟩ := parseIPv6_shape h6
            refine Or.inr ⟨by rw [hs]; exact firstSep_append _ hsep, hlen, n, ?_⟩
            rw [maskIP_sixteen hlen]
            exact canonical_andBytes (Or.inr rfl) (by omega) hlen
    · cases h

end Kosmos.Go.Net
