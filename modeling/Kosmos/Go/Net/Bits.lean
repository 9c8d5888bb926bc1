import Kosmos.Go.Net.Addr
import Mathlib.Tactic.Ring

/-!
# Addresses as numbers

The bytes of an address are a number (`value`), whose low bits a mask clears (`value_andBytes`).
-/

namespace Kosmos.Go.Net

def value : List UInt8 → Nat
  | [] => 0
  | b :: bs => b.toNat * 2 ^ (8 * bs.length) + value bs

def graft (h net addr : Nat) : Nat := net / 2 ^ h * 2 ^ h + addr % 2 ^ h

section Value

variable {a b : List UInt8}

theorem two_pow_succ_byte (k : Nat) : 2 ^ (8 * (k + 1)) = 256 * 2 ^ (8 * k) := by
  rw [Nat.mul_succ, Nat.pow_add, Nat.mul_comm]

theorem value_lt (bs : List UInt8) : value bs < 2 ^ (8 * bs.length) := by
  induction bs with
  | nil => exact Nat.one_pos
  | cons b bs ih =>
    have hb : b.toNat + 1 ≤ 256 := b.toNat_lt
    have hmul := Nat.mul_le_mul_right (2 ^ (8 * bs.length)) hb
    rw [value, List.length_cons, two_pow_succ_byte]
    rw [Nat.succ_mul] at hmul
    omega

theorem value_append : value (a ++ b) = value a * 2 ^ (8 * b.length) + value b := by
  induction a with
  | nil => rw [List.nil_append, value, Nat.zero_mul, Nat.zero_add]
  | cons x a ih =>
    rw [List.cons_append, value, ih, value, List.length_append, Nat.mul_add 8, Nat.pow_add,
      Nat.add_mul, Nat.mul_assoc, Nat.add_assoc]

theorem value_injective (hlen : a.length = b.length) (h : value a = value b) : a = b := by
  induction a generalizing b with
  | nil => exact (List.eq_nil_of_length_eq_zero hlen.symm).symm
  | cons x a ih =>
    cases b with
    | nil => cases hlen
    | cons y b =>
      rw [List.length_cons, List.length_cons, Nat.add_right_cancel_iff] at hlen
      rw [value, value, hlen] at h
      have ha : value a < 2 ^ (8 * b.length) := hlen ▸ value_lt a
      have hb := value_lt b
      have hdiv := congrArg (· / 2 ^ (8 * b.length)) h
      have hmod := congrArg (· % 2 ^ (8 * b.length)) h
      have hpos : 0 < 2 ^ (8 * b.length) := Nat.two_pow_pos _
      simp only [Nat.mul_comm _ (2 ^ (8 * b.length)), Nat.mul_add_div hpos, Nat.div_eq_of_lt ha,
        Nat.div_eq_of_lt hb, Nat.add_zero] at hdiv
      simp only [Nat.mul_comm _ (2 ^ (8 * b.length)), Nat.mul_add_mod, Nat.mod_eq_of_lt ha,
        Nat.mod_eq_of_lt hb] at hmod
      rw [UInt8.toNat_inj.mp hdiv, ih hlen hmod]

end Value

section Graft

variable {h s w net addr net' addr' : Nat}

theorem graft_mod : graft h net addr % 2 ^ h = addr % 2 ^ h := by
  rw [graft, Nat.mul_comm, Nat.mul_add_mod, Nat.mod_mod]

theorem graft_div : graft h net addr / 2 ^ h = net / 2 ^ h := by
  have hpos := Nat.two_pow_pos h
  rw [graft, Nat.mul_comm, Nat.mul_add_div hpos, Nat.div_eq_of_lt (Nat.mod_lt _ hpos), Nat.add_zero]

theorem graft_low (hw : h ≤ w) :
    graft h (net * 2 ^ w + net') (addr * 2 ^ w + addr') = net * 2 ^ w + graft h net' addr' := by
  obtain ⟨c, rfl⟩ := Nat.exists_eq_add_of_le hw
  have hpos := Nat.two_pow_pos h
  have hnet : net * 2 ^ (h + c) + net' = 2 ^ h * (net * 2 ^ c) + net' := by rw [Nat.pow_add]; ring
  have haddr : addr * 2 ^ (h + c) + addr' = 2 ^ h * (addr * 2 ^ c) + addr' := by
    rw [Nat.pow_add]; ring
  rw [graft, graft, hnet, haddr, Nat.mul_add_div hpos, Nat.mul_add_mod, Nat.pow_add]
  ring

theorem graft_high (hnet : net' < 2 ^ w) (haddr : addr' < 2 ^ w) :
    graft (w + s) (net * 2 ^ w + net') (addr * 2 ^ w + addr')
      = graft s net addr * 2 ^ w + addr' := by
  have hpos := Nat.two_pow_pos w
  have hdiv : (net * 2 ^ w + net') / 2 ^ (w + s) = net / 2 ^ s := by
    rw [Nat.pow_add, ← Nat.div_div_eq_div_mul, Nat.mul_comm, Nat.mul_add_div hpos,
      Nat.div_eq_of_lt hnet, Nat.add_zero]
  have hmod : (addr * 2 ^ w + addr') % 2 ^ (w + s) = addr % 2 ^ s * 2 ^ w + addr' := by
    rw [Nat.pow_add, Nat.mod_mul, Nat.mul_comm, Nat.mul_add_mod, Nat.mod_eq_of_lt haddr,
      Nat.mul_add_div hpos, Nat.div_eq_of_lt haddr, Nat.add_zero]
    ring
  rw [graft, graft, hdiv, hmod, Nat.pow_add]
  ring

end Graft

theorem byte_and_mask : ∀ o < 8, ∀ b < 256,
    (UInt8.ofNat b &&& ~~~ ((0xff : UInt8) >>> UInt8.ofNat o)).toNat = graft (8 - o) b 0 ∧
    ((~~~ ((0xff : UInt8) >>> UInt8.ofNat o) ^^^ 0xff) &&& UInt8.ofNat b).toNat =
      graft (8 - o) 0 b := by
  decide +kernel

theorem toNat_and_mask {o : Nat} (ho : o < 8) (b : UInt8) :
    (b &&& ~~~ ((0xff : UInt8) >>> UInt8.ofNat o)).toNat = graft (8 - o) b.toNat 0 := by
  have h := (byte_and_mask o ho b.toNat b.toNat_lt).1
  rwa [UInt8.ofNat_toNat] at h

theorem toNat_and_hosts {o : Nat} (ho : o < 8) (b : UInt8) :
    ((~~~ ((0xff : UInt8) >>> UInt8.ofNat o) ^^^ 0xff) &&& b).toNat = graft (8 - o) 0 b.toNat := by
  have h := (byte_and_mask o ho b.toNat b.toNat_lt).2
  rwa [UInt8.ofNat_toNat] at h

theorem graft_or (h net addr : Nat) : graft h 0 addr ||| graft h net 0 = graft h net addr := by
  simp only [graft, Nat.zero_div, Nat.zero_mul, Nat.zero_add, Nat.zero_mod, Nat.add_zero]
  rw [Nat.or_comm, Nat.mul_comm,
    Nat.two_pow_add_eq_or_of_lt (Nat.mod_lt addr (Nat.two_pow_pos h))]

theorem graft_all {h net addr : Nat} (hnet : net < 2 ^ h) (haddr : addr < 2 ^ h) :
    graft h net addr = addr := by
  rw [graft, Nat.div_eq_of_lt hnet, Nat.zero_mul, Nat.zero_add, Nat.mod_eq_of_lt haddr]

theorem graft_cons {ones k net' addr' : Nat} (net addr : Nat) (h : ones ≤ 8 * (k + 1))
    (hnet : net' < 2 ^ (8 * k)) (haddr : addr' < 2 ^ (8 * k)) :
    graft (8 * (k + 1) - ones) (net * 2 ^ (8 * k) + net') (addr * 2 ^ (8 * k) + addr') =
      if 8 ≤ ones then net * 2 ^ (8 * k) + graft (8 * k - (ones - 8)) net' addr'
      else graft (8 - ones) net addr * 2 ^ (8 * k) + graft (8 * k) net' addr' := by
  split
  next h8 =>
    rw [show 8 * (k + 1) - ones = 8 * k - (ones - 8) by omega]
    exact graft_low (by omega)
  next h8 =>
    rw [show 8 * (k + 1) - ones = 8 * k + (8 - ones) by omega, graft_all hnet haddr]
    exact graft_high hnet haddr

theorem value_andBytes {a : List UInt8} {ones k : Nat} (hlen : a.length = k) (h : ones ≤ 8 * k) :
    value (andBytes a (cidrMask ones k)) = graft (8 * k - ones) (value a) 0 := by
  induction a generalizing ones k with
  | nil =>
    subst hlen
    simp [andBytes, value, graft]
  | cons x a ih =>
    subst hlen
    have hlength : ∀ o, (andBytes a (cidrMask o a.length)).length = a.length := fun o => by
      rw [andBytes_length, cidrMask_length, Nat.min_self]
    rw [List.length_cons] at h ⊢
    have hcons := graft_cons x.toNat 0 h (value_lt a) (Nat.two_pow_pos _)
    rw [Nat.zero_mul, Nat.zero_add] at hcons
    rw [cidrMask, value, hcons]
    split
    next h8 =>
      have hand : x &&& 0xff = x := UInt8.and_neg_one
      rw [andBytes, List.zipWith_cons_cons, value, hand, ← andBytes, hlength, ih rfl (by omega)]
    next h8 =>
      rw [andBytes, List.zipWith_cons_cons, value, ← andBytes, hlength, ih rfl (by omega),
        toNat_and_mask (by omega)]
      rfl

theorem mapped_iff_value {ip : IP} (h : ip.length = 16) :
    Mapped ip ↔ value ip / 2 ^ 32 = 0xffff := by
  have hdrop : (ip.drop 12).length = 4 := by rw [List.length_drop, h]
  have hlt := value_lt (ip.drop 12)
  have hvalue : value ip / 2 ^ 32 = value (ip.take 12) := by
    rw [← List.take_append_drop 12 ip, value_append]
    rw [hdrop] at hlt ⊢
    rw [List.take_append_drop, Nat.mul_comm, Nat.mul_add_div (Nat.two_pow_pos _),
      Nat.div_eq_of_lt hlt, Nat.add_zero]
  have hfull : value v4InV6Prefix = 0xffff := by decide
  rw [hvalue]
  constructor
  · intro hmapped
    rw [hmapped.2, hfull]
  · intro heq
    exact ⟨h, value_injective (by rw [List.length_take, h]; rfl) (heq.trans hfull.symm)⟩

theorem value_to16_mod {ip : IP} {k : Nat} (ones : Nat) (hk : k = 4 ∨ k = 16)
    (hlen : ip.length = k) :
    value (to16 ip) % 2 ^ (8 * k - ones) = value ip % 2 ^ (8 * k - ones) := by
  rcases hk with rfl | rfl
  · have hdvd : 2 ^ (8 * 4 - ones) ∣ 2 ^ (8 * 4) := Nat.pow_dvd_pow 2 (Nat.sub_le ..)
    rw [to16, if_pos hlen, ipv4, value_append, hlen, Nat.add_mod,
      Nat.mod_eq_zero_of_dvd (Dvd.dvd.mul_left hdvd _), Nat.zero_add, Nat.mod_mod]
  · rw [to16, if_neg (by rw [hlen]; decide)]

theorem holds_injective {net : IPNet} {n k : Nat} {q q' : IP} (hcan : net.Canonical n k)
    (hq : net.Holds q) (hq' : net.Holds q')
    (h : value q % 2 ^ (8 * k - n) = value q' % 2 ^ (8 * k - n)) : q = q' := by
  have hlen := hq.1.trans hcan.mask_length
  have hlen' := hq'.1.trans hcan.mask_length
  have hnet := congrArg value (hq.2.trans hq'.2.symm)
  rw [hcan.mask_eq, value_andBytes hlen hcan.fits, value_andBytes hlen' hcan.fits, graft, graft,
    Nat.zero_mod, Nat.add_zero, Nat.add_zero] at hnet
  refine value_injective (hlen.trans hlen'.symm) ?_
  rw [← Nat.div_add_mod (value q) (2 ^ (8 * k - n)), ← Nat.div_add_mod (value q'), h, Nat.mul_comm,
    hnet, Nat.mul_comm]

end Kosmos.Go.Net
