import Mathlib.Data.List.Basic
import Mathlib.Data.UInt

/-!
# `net.IP`, `net.IPMask` and `net.IPNet`

Every method normalises with `To4` first, so a mapped address *is* the IPv4 address.
-/

namespace Kosmos.Go.Net

abbrev IP := List UInt8

abbrev IPMask := List UInt8

structure IPNet where
  ip : IP
  mask : IPMask
  deriving DecidableEq, Repr

def v4InV6Prefix : List UInt8 := [0, 0, 0, 0, 0, 0, 0, 0, 0, 0, 0xff, 0xff]

def ipv4 (p : List UInt8) : IP := v4InV6Prefix ++ p

def to4 (ip : IP) : Option IP :=
  if ip.length = 4 then some ip
  else if ip.length = 16 ∧ ip.take 12 = v4InV6Prefix then some (ip.drop 12)
  else none

def to16 (ip : IP) : IP :=
  if ip.length = 4 then ipv4 ip else ip

def normal (ip : IP) : IP := (to4 ip).getD ip

def cidrMask : Nat → Nat → IPMask
  | _, 0 => []
  | ones, k + 1 =>
    if 8 ≤ ones then 0xff :: cidrMask (ones - 8) k
    else ~~~ ((0xff : UInt8) >>> UInt8.ofNat ones) :: cidrMask 0 k

def leadingOnes (v : UInt8) : Option Nat :=
  if v = 0x00 then some 0 else if v = 0x80 then some 1 else if v = 0xc0 then some 2
  else if v = 0xe0 then some 3 else if v = 0xf0 then some 4 else if v = 0xf8 then some 5
  else if v = 0xfc then some 6 else if v = 0xfe then some 7 else none

def simpleMaskLength : IPMask → Option Nat
  | [] => some 0
  | v :: m =>
    if v = 0xff then (simpleMaskLength m).map (· + 8)
    else if m.all (· = 0) then leadingOnes v else none

def andBytes (a b : List UInt8) : List UInt8 := a.zipWith (· &&& ·) b

def maskIP (ip : IP) (mask : IPMask) : IP :=
  let mask :=
    if mask.length = 16 ∧ ip.length = 4 ∧ (mask.take 12).all (· = 0xff) then mask.drop 12
    else mask
  let ip :=
    if mask.length = 4 ∧ ip.length = 16 ∧ ip.take 12 = v4InV6Prefix then ip.drop 12 else ip
  if ip.length = mask.length then andBytes ip mask else []

def networkNumberAndMask (n : IPNet) : Option (IP × IPMask) :=
  let ip := normal n.ip
  if ip.length = 4 ∨ ip.length = 16 then
    if n.mask.length = 4 then (if ip.length = 4 then some (ip, n.mask) else none)
    else if n.mask.length = 16 then
      (if ip.length = 4 then some (ip, n.mask.drop 12) else some (ip, n.mask))
    else none
  else none

def contains (n : IPNet) (ip : IP) : Bool :=
  match networkNumberAndMask n with
  | none => false
  | some (nn, m) =>
    let ip := normal ip
    ip.length = nn.length ∧ andBytes nn m = andBytes ip m

theorem to16_injective {r r' : IP} (hlen : r.length = r'.length) (h : to16 r = to16 r') :
    r = r' := by
  unfold to16 at h
  rw [hlen] at h
  split at h
  · exact List.append_cancel_left h
  · exact h

@[simp] theorem cidrMask_length (ones k : Nat) : (cidrMask ones k).length = k := by
  induction k generalizing ones with
  | zero => rfl
  | succ k ih =>
    unfold cidrMask
    split <;> simp [ih]

theorem cidrMask_zero (k : Nat) : cidrMask 0 k = List.replicate k 0 := by
  induction k with
  | zero => rfl
  | succ k ih =>
    rw [cidrMask, if_neg (by omega), ih, List.replicate_succ]
    rfl

theorem leadingOnes_partial : ∀ n < 8,
    ~~~ ((0xff : UInt8) >>> UInt8.ofNat n) ≠ 0xff ∧
    leadingOnes (~~~ ((0xff : UInt8) >>> UInt8.ofNat n)) = some n := by
  decide

theorem simpleMaskLength_cidrMask (ones k : Nat) (h : ones ≤ 8 * k) :
    simpleMaskLength (cidrMask ones k) = some ones := by
  induction k generalizing ones with
  | zero =>
    have : ones = 0 := by omega
    subst this
    rfl
  | succ k ih =>
    unfold cidrMask
    by_cases h8 : 8 ≤ ones
    · rw [if_pos h8, simpleMaskLength, if_pos rfl, ih (ones - 8) (by omega)]
      simp only [Option.map_some, Option.some.injEq]
      omega
    · rw [if_neg h8, simpleMaskLength]
      obtain ⟨hne, hlead⟩ := leadingOnes_partial ones (by omega)
      rw [if_neg hne, cidrMask_zero, if_pos (by simp), hlead]

theorem cidrMask_drop (ones a b : Nat) :
    (cidrMask ones (a + b)).drop a = cidrMask (ones - 8 * a) b := by
  induction a generalizing ones with
  | zero => simp
  | succ a ih =>
    rw [show a + 1 + b = (a + b) + 1 by omega, cidrMask]
    split
    next h =>
      rw [List.drop_succ_cons, ih]
      congr 1
      omega
    next h =>
      rw [List.drop_succ_cons, ih]
      congr 1
      omega

theorem cidrMask_take (ones a b : Nat) : (cidrMask ones (a + b)).take a = cidrMask ones a := by
  induction a generalizing ones with
  | zero => rfl
  | succ a ih =>
    rw [show a + 1 + b = (a + b) + 1 by omega, cidrMask, cidrMask]
    split <;> rw [List.take_succ_cons, ih]

theorem cidrMask_full {ones k : Nat} (h : 8 * k ≤ ones) :
    cidrMask ones k = List.replicate k 0xff := by
  induction k generalizing ones with
  | zero => rfl
  | succ k ih => rw [cidrMask, if_pos (by omega), ih (by omega), List.replicate_succ]

theorem partial_and : ∀ m < 8, ∀ n ≤ m,
    (~~~ ((0xff : UInt8) >>> UInt8.ofNat n)) &&& (~~~ ((0xff : UInt8) >>> UInt8.ofNat m))
      = ~~~ ((0xff : UInt8) >>> UInt8.ofNat n) := by
  decide

theorem cidrMask_and (n m k : Nat) (h : n ≤ m) :
    andBytes (cidrMask n k) (cidrMask m k) = cidrMask n k := by
  induction k generalizing n m with
  | zero => rfl
  | succ k ih =>
    unfold andBytes at ih ⊢
    unfold cidrMask
    by_cases hn : 8 ≤ n
    · rw [if_pos hn, if_pos (by omega), List.zipWith_cons_cons, ih _ _ (by omega)]
      rfl
    · rw [if_neg hn]
      by_cases hm : 8 ≤ m
      · rw [if_pos hm, List.zipWith_cons_cons, ih _ _ (by omega)]
        congr 1
        exact UInt8.and_neg_one
      · rw [if_neg hm, List.zipWith_cons_cons, ih _ _ (by omega), partial_and m (by omega) n h]

theorem andBytes_length (a b : List UInt8) :
    (andBytes a b).length = min a.length b.length := by
  simp [andBytes]

theorem andBytes_assoc (a b c : List UInt8) :
    andBytes (andBytes a b) c = andBytes a (andBytes b c) := by
  induction a generalizing b c with
  | nil => rfl
  | cons x a ih =>
    cases b with
    | nil => rfl
    | cons y b =>
      cases c with
      | nil => rfl
      | cons z c =>
        have := ih b c
        unfold andBytes at this ⊢
        rw [List.zipWith_cons_cons, List.zipWith_cons_cons, List.zipWith_cons_cons,
          List.zipWith_cons_cons, this, UInt8.and_assoc]

theorem andBytes_comm (a b : List UInt8) : andBytes a b = andBytes b a := by
  unfold andBytes
  rw [List.zipWith_comm]
  congr 1
  funext x y
  exact UInt8.and_comm y x

theorem andBytes_ones (a b m : List UInt8) :
    andBytes (a ++ b) (List.replicate a.length 0xff ++ m) = a ++ andBytes b m := by
  induction a with
  | nil => rfl
  | cons x a ih =>
    unfold andBytes at ih ⊢
    rw [List.length_cons, List.replicate_succ, List.cons_append, List.cons_append,
      List.zipWith_cons_cons, ih, List.cons_append]
    congr 1
    exact UInt8.and_neg_one

/-- A network of `k` bytes with a mask of `ones` leading ones and no host bits. -/
structure IPNet.Canonical (n : IPNet) (ones k : Nat) : Prop where
  width : k = 4 ∨ k = 16
  fits : ones ≤ 8 * k
  mask_eq : n.mask = cidrMask ones k
  ip_length : n.ip.length = k
  masked : andBytes n.ip n.mask = n.ip

/-- The IPv4-mapped addresses, in 16 bytes. -/
def Mapped (ip : IP) : Prop := ip.length = 16 ∧ ip.take 12 = v4InV6Prefix

instance (ip : IP) : Decidable (Mapped ip) := inferInstanceAs (Decidable (_ ∧ _))

section Shape

variable {n : IPNet} {ip : IP} {ones k : Nat}

theorem normal_of_not_mapped (h : ¬ Mapped ip) : normal ip = ip := by
  have hnot : ¬ (ip.length = 16 ∧ ip.take 12 = v4InV6Prefix) := h
  unfold normal to4
  rw [if_neg hnot]
  split <;> rfl

theorem normal_of_mapped (h : Mapped ip) : normal ip = ip.drop 12 := by
  have hne : ip.length ≠ 4 := by rw [h.1]; decide
  have hmapped : ip.length = 16 ∧ ip.take 12 = v4InV6Prefix := h
  unfold normal to4
  rw [if_neg hne, if_pos hmapped]
  rfl

theorem networkNumberAndMask_of_not_mapped (hk : k = 4 ∨ k = 16) (hmask : n.mask = cidrMask ones k)
    (hip : n.ip.length = k) (h : ¬ Mapped n.ip) :
    networkNumberAndMask n = some (n.ip, cidrMask ones k) := by
  rcases hk with rfl | rfl <;> simp [networkNumberAndMask, normal_of_not_mapped h, hip, hmask]

theorem networkNumberAndMask_of_mapped (hmask : n.mask = cidrMask ones 16) (h : Mapped n.ip) :
    networkNumberAndMask n = some (n.ip.drop 12, cidrMask (ones - 96) 4) := by
  have hdrop : n.mask.drop 12 = cidrMask (ones - 96) 4 := by
    rw [hmask]
    exact cidrMask_drop ones 12 4
  have hmlen : n.mask.length = 16 := by rw [hmask, cidrMask_length]
  simp [networkNumberAndMask, normal_of_mapped h, h.1, hmlen, hdrop]

end Shape

/-- The address lies in the network, as long as it; nothing is normalised. -/
def IPNet.Holds (n : IPNet) (ip : IP) : Prop :=
  ip.length = n.mask.length ∧ andBytes ip n.mask = n.ip

def IPNet.normal (n : IPNet) : IPNet :=
  match networkNumberAndMask n with
  | some (ip, mask) => ⟨ip, mask⟩
  | none => n

section Networks

variable {n n₁ n₂ : IPNet} {ones o₁ o₂ k k₁ k₂ : Nat} {ip : IP}

theorem IPNet.Canonical.mask_length (h : n.Canonical ones k) : n.mask.length = k := by
  rw [h.mask_eq, cidrMask_length]

theorem IPNet.Canonical.holds_base (h : n.Canonical ones k) : n.Holds n.ip :=
  ⟨by rw [h.ip_length, h.mask_length], h.masked⟩

theorem holds_base_of_le (c₁ : n₁.Canonical o₁ k) (c₂ : n₂.Canonical o₂ k) (ho : o₁ ≤ o₂)
    (h₁ : n₁.Holds ip) (h₂ : n₂.Holds ip) : n₁.Holds n₂.ip := by
  refine ⟨by rw [c₂.ip_length, c₁.mask_length], ?_⟩
  calc andBytes n₂.ip n₁.mask
      = andBytes (andBytes ip n₂.mask) n₁.mask := by rw [h₂.2]
    _ = andBytes ip (andBytes n₁.mask n₂.mask) := by
        rw [andBytes_assoc, andBytes_comm n₂.mask]
    _ = andBytes ip n₁.mask := by rw [c₁.mask_eq, c₂.mask_eq, cidrMask_and o₁ o₂ k ho]
    _ = n₁.ip := h₁.2

theorem exists_holds_iff (c₁ : n₁.Canonical o₁ k₁) (c₂ : n₂.Canonical o₂ k₂) :
    (∃ ip, n₁.Holds ip ∧ n₂.Holds ip) ↔ n₁.Holds n₂.ip ∨ n₂.Holds n₁.ip := by
  constructor
  · rintro ⟨ip, h₁, h₂⟩
    have hk : k₁ = k₂ := by rw [← c₁.mask_length, ← h₁.1, h₂.1, c₂.mask_length]
    subst hk
    rcases Nat.le_total o₁ o₂ with ho | ho
    · exact Or.inl (holds_base_of_le c₁ c₂ ho h₁ h₂)
    · exact Or.inr (holds_base_of_le c₂ c₁ ho h₂ h₁)
  · rintro (h | h)
    · exact ⟨n₂.ip, h, c₂.holds_base⟩
    · exact ⟨n₁.ip, c₁.holds_base, h⟩

theorem IPNet.Canonical.normal_of_not_mapped (h : n.Canonical ones k) (hn : ¬ Mapped n.ip) :
    n.normal = n := by
  rw [IPNet.normal, networkNumberAndMask_of_not_mapped h.width h.mask_eq h.ip_length hn,
    ← h.mask_eq]

theorem IPNet.Canonical.normal_of_mapped (h : n.Canonical ones 16) (hn : Mapped n.ip) :
    n.normal = ⟨n.ip.drop 12, cidrMask (ones - 96) 4⟩ := by
  rw [IPNet.normal, networkNumberAndMask_of_mapped h.mask_eq hn]

theorem IPNet.Canonical.le_of_mapped (h : n.Canonical ones 16) (hn : Mapped n.ip) : 96 ≤ ones := by
  have hcut : andBytes v4InV6Prefix (cidrMask ones 12) = v4InV6Prefix := by
    have htake := congrArg (List.take 12) h.masked
    rw [andBytes, List.take_zipWith, h.mask_eq, hn.2, cidrMask_take ones 12 4] at htake
    exact htake
  have hshort : ∀ o < 96, andBytes v4InV6Prefix (cidrMask o 12) ≠ v4InV6Prefix := by
    decide +kernel
  by_contra hlt
  exact hshort ones (by omega) hcut

theorem IPNet.Canonical.canonical_normal (h : n.Canonical ones k) :
    ∃ o w, n.normal.Canonical o w := by
  by_cases hn : Mapped n.ip
  · have hk : k = 16 := h.ip_length.symm.trans hn.1
    subst hk
    have hdrop : n.mask.drop 12 = cidrMask (ones - 96) 4 := by
      rw [h.mask_eq]
      exact cidrMask_drop ones 12 4
    have hfits := h.fits
    rw [h.normal_of_mapped hn]
    refine ⟨ones - 96, 4, Or.inl rfl, by omega, rfl, ?_, ?_⟩
    · rw [List.length_drop, hn.1]
    · rw [← hdrop, andBytes, ← List.drop_zipWith]
      exact congrArg (List.drop 12) h.masked
  · exact ⟨ones, k, by rw [h.normal_of_not_mapped hn]; exact h⟩

theorem IPNet.Canonical.normal_ip (h : n.Canonical ones k) : n.normal.ip = Net.normal n.ip := by
  by_cases hn : Mapped n.ip
  · have hk : k = 16 := h.ip_length.symm.trans hn.1
    subst hk
    rw [h.normal_of_mapped hn, Net.normal_of_mapped hn]
  · rw [h.normal_of_not_mapped hn, Net.normal_of_not_mapped hn]

theorem IPNet.Canonical.holds_iff_of_mapped (h : n.Canonical ones 16) (hn : Mapped n.ip) :
    n.Holds ip ↔ ∃ p, ip = ipv4 p ∧ n.normal.Holds p := by
  have hmask : n.mask = List.replicate 12 0xff ++ cidrMask (ones - 96) 4 := by
    have hle := h.le_of_mapped hn
    rw [h.mask_eq, ← List.take_append_drop 12 (cidrMask ones 16), cidrMask_take ones 12 4,
      cidrMask_full (by omega), cidrMask_drop ones 12 4]
  have hbase : n.ip = v4InV6Prefix ++ n.ip.drop 12 := by rw [← hn.2, List.take_append_drop]
  have hones : ∀ a p : List UInt8, a.length = 12 →
      andBytes (a ++ p) n.mask = a ++ andBytes p (cidrMask (ones - 96) 4) := by
    intro a p ha
    rw [hmask, ← ha]
    exact andBytes_ones a p _
  rw [h.normal_of_mapped hn]
  constructor
  · rintro ⟨hlen, hip⟩
    rw [h.mask_length] at hlen
    have htake : (ip.take 12).length = 12 := by rw [List.length_take, hlen]; rfl
    rw [← List.take_append_drop 12 ip, hones _ _ htake, hbase] at hip
    obtain ⟨hpre, hpost⟩ := List.append_inj hip htake
    refine ⟨ip.drop 12, ?_, ?_, hpost⟩
    · rw [ipv4, ← hpre, List.take_append_drop]
    · rw [List.length_drop, hlen, cidrMask_length]
  · rintro ⟨p, rfl, hlen, hp⟩
    rw [cidrMask_length] at hlen
    refine ⟨?_, ?_⟩
    · rw [h.mask_length, ipv4, List.length_append, hlen]
      rfl
    · rw [ipv4, hones _ _ rfl, hp, ← hbase]

theorem contains_iff_holds (h : n.Canonical ones k) :
    contains n ip = true ↔ n.normal.Holds (Net.normal ip) := by
  obtain ⟨o, w, hc⟩ := h.canonical_normal
  have hnn : networkNumberAndMask n = some (n.normal.ip, n.normal.mask) := by
    by_cases hn : Mapped n.ip
    · have hk : k = 16 := h.ip_length.symm.trans hn.1
      subst hk
      rw [h.normal_of_mapped hn, networkNumberAndMask_of_mapped h.mask_eq hn]
    · rw [h.normal_of_not_mapped hn, h.mask_eq,
        networkNumberAndMask_of_not_mapped h.width h.mask_eq h.ip_length hn]
  rw [contains, hnn]
  dsimp only
  rw [decide_eq_true_eq, hc.masked, hc.ip_length, IPNet.Holds, hc.mask_length]
  exact and_congr_right fun _ => eq_comm

theorem contains_iff_of_length (h : n.Canonical ones k) (hip : ip.length = k) :
    contains n ip = true ↔ n.Holds ip ∧ (Mapped ip ↔ Mapped n.ip) := by
  rw [contains_iff_holds h]
  by_cases hn : Mapped n.ip
  · obtain rfl : k = 16 := h.ip_length.symm.trans hn.1
    by_cases hi : Mapped ip
    · rw [h.holds_iff_of_mapped hn, Net.normal_of_mapped hi]
      constructor
      · intro hin
        exact ⟨⟨_, by rw [ipv4, ← hi.2, List.take_append_drop], hin⟩, iff_of_true hi hn⟩
      · rintro ⟨⟨p, rfl, hp⟩, -⟩
        exact hp
    · refine iff_of_false (fun hin => ?_) (fun hboth => hi (hboth.2.mpr hn))
      have hlen := hin.1
      rw [h.normal_of_mapped hn, cidrMask_length, Net.normal_of_not_mapped hi, hip] at hlen
      cases hlen
  · rw [h.normal_of_not_mapped hn]
    by_cases hi : Mapped ip
    · refine iff_of_false (fun hin => ?_) (fun hboth => hn (hboth.2.mp hi))
      have hlen := hin.1
      rw [Net.normal_of_mapped hi, List.length_drop, h.mask_length, ← hip, hi.1] at hlen
      cases hlen
    · rw [Net.normal_of_not_mapped hi]
      exact ⟨fun hin => ⟨hin, iff_of_false hi hn⟩, And.left⟩

theorem contains_base_iff (c₁ : n₁.Canonical o₁ k₁) (c₂ : n₂.Canonical o₂ k₂) :
    contains n₁ n₂.ip = true ∨ contains n₂ n₁.ip = true ↔
      ∃ ip, n₁.normal.Holds ip ∧ n₂.normal.Holds ip := by
  obtain ⟨p₁, w₁, hc₁⟩ := c₁.canonical_normal
  obtain ⟨p₂, w₂, hc₂⟩ := c₂.canonical_normal
  rw [contains_iff_holds c₁, contains_iff_holds c₂, ← c₁.normal_ip, ← c₂.normal_ip,
    exists_holds_iff hc₁ hc₂]

end Networks

end Kosmos.Go.Net
