import Kosmos.Go.Net.Bits
import Kosmos.Go.Net.Text
import Kosmos.Api.Types

/-!
# `helpers/network.go`: overlay addresses and vxlan devices

`generateVxlanIP` grafts the host bits of the underlay IP onto the overlay CIDR, and does not panic.
-/

namespace Kosmos.Manager

open Kosmos.Go Kosmos.Go.Net Kosmos.Api

inductive IPType where
  | unknown
  | ipv4
  | ipv6
  deriving DecidableEq, Repr

def getIPType (s : String) : IPType :=
  match firstSep s.toList with
  | some .dot => .ipv4
  | some .colon => .ipv6
  | none => .unknown

theorem firstSep_of_ipv4 {s : String} (h : getIPType s = .ipv4) :
    firstSep s.toList = some .dot := by
  unfold getIPType at h
  split at h <;> simp_all

theorem firstSep_of_ipv6 {s : String} (h : getIPType s = .ipv6) :
    firstSep s.toList = some .colon := by
  unfold getIPType at h
  split at h <;> simp_all

abbrev HardwareAddr := List UInt8

def generateMac : Option (Vector UInt8 6) → HardwareAddr
  | none => []
  | some buf => ((buf[0] ||| 2) &&& 0xfe) :: buf.toList.drop 1

def macText (mac : HardwareAddr) : String :=
  String.ofList (joinWith ':' (mac.map fun b => hexString [b]))

def uint32 : List UInt8 → Outcome (BitVec 32)
  | a :: b :: c :: d :: _ =>
    .ok (a.toBitVec ++ b.toBitVec ++ c.toBitVec ++ d.toBitVec)
  | _ => .error (.panic .indexOutOfRange)

def putUint32 (v : BitVec 32) : List UInt8 :=
  [UInt8.ofBitVec (v.extractLsb' 24 8), UInt8.ofBitVec (v.extractLsb' 16 8),
    UInt8.ofBitVec (v.extractLsb' 8 8), UInt8.ofBitVec (v.extractLsb' 0 8)]

def changeIPNetIPV4 (ip : IP) (destNet : IPNet) : Outcome IPNet := do
  let maskSize := (simpleMaskLength destNet.mask).getD 0
  let ipBits ← uint32 ((to4 ip).getD [])
  let destNetBits ← uint32 ((to4 destNet.ip).getD [])
  let v := ((destNetBits >>> (32 - maskSize)) <<< (32 - maskSize))
    ||| ((ipBits <<< maskSize) >>> maskSize)
  pure ⟨putUint32 v, destNet.mask⟩

def graftBytes : List UInt8 → List UInt8 → List UInt8 → Outcome (List UInt8)
  | [], _, _ => pure []
  | i :: ip, m :: mask, d :: dest => do
    let rest ← graftBytes ip mask dest
    pure ((((m ^^^ 0xff) &&& i) ||| (d &&& m)) :: rest)
  | _ :: _, _, _ => .error (.panic .indexOutOfRange)

def changeIPNetIPV6 (ip : IP) (destNet : IPNet) : Outcome IPNet := do
  let targetIP ← graftBytes ip destNet.mask destNet.ip
  pure ⟨targetIP, destNet.mask⟩

def generateVxlanIP (underlayIP destNetString : String) : Outcome String :=
  if getIPType underlayIP ≠ getIPType destNetString then
    .error (.err ("GenerateVxLocalIP, different ip types: " ++ underlayIP ++ ", "
      ++ destNetString))
  else
    match parseIP true underlayIP with
    | none => .error (.err ("GenerateVxLocalIP, parse underlay ip: " ++ underlayIP ++ " error"))
    | some ip =>
      match parseCIDR true destNetString with
      | .error e =>
        .error (.err ("GenerateVxLocalIP, parse destNetString: " ++ destNetString
          ++ " with error " ++ e))
      | .ok (_, destNet) => do
        let newIP ←
          if getIPType underlayIP = .ipv4 then changeIPNetIPV4 ip destNet
          else changeIPNetIPV6 ip destNet
        pure (netText newIP)

example : generateVxlanIP "100.10.10.1" "210.0.0.0/8" = .ok "210.10.10.1/8" := by decide

/-- The inputs on which an overlay address exists: one family, both well formed. -/
def Graftable (underlayIP destNetString : String) : Prop :=
  getIPType underlayIP = getIPType destNetString ∧ (parseIP true underlayIP).isSome ∧
    (parseCIDR true destNetString).isOk

instance (u d : String) : Decidable (Graftable u d) :=
  inferInstanceAs (Decidable (_ ∧ _ ∧ _))

theorem uint32_value {b : List UInt8} (h : b.length = 4) :
    ∃ v, uint32 b = .ok v ∧ v.toNat = value b := by
  obtain ⟨x, y, z, w, rfl⟩ := List.length_eq_four.mp h
  refine ⟨_, rfl, ?_⟩
  rw [BitVec.toNat_append, BitVec.toNat_append, BitVec.toNat_append,
    ← Nat.shiftLeft_add_eq_or_of_lt y.toBitVec.isLt,
    ← Nat.shiftLeft_add_eq_or_of_lt z.toBitVec.isLt,
    ← Nat.shiftLeft_add_eq_or_of_lt w.toBitVec.isLt]
  simp only [Nat.shiftLeft_eq, value, List.length_cons, List.length_nil, UInt8.toNat_toBitVec]
  omega

theorem value_putUint32 (v : BitVec 32) : value (putUint32 v) = v.toNat := by
  have hlt := v.isLt
  simp only [putUint32, value, List.length_cons, List.length_nil, UInt8.toNat_ofBitVec,
    BitVec.extractLsb'_toNat, Nat.shiftRight_eq_div_pow]
  omega

theorem toNat_shifts (dest ip : BitVec 32) {p : Nat} (hp : p ≤ 32) :
    (((dest >>> (32 - p)) <<< (32 - p)) ||| ((ip <<< p) >>> p)).toNat =
      graft (32 - p) dest.toNat ip.toNat := by
  have hdest : dest.toNat / 2 ^ (32 - p) * 2 ^ (32 - p) < 2 ^ 32 :=
    Nat.lt_of_le_of_lt (Nat.div_mul_le_self ..) dest.isLt
  have hip : ip.toNat * 2 ^ p % 2 ^ 32 / 2 ^ p = ip.toNat % 2 ^ (32 - p) := by
    rw [show 2 ^ 32 = 2 ^ (32 - p) * 2 ^ p by rw [← Nat.pow_add, Nat.sub_add_cancel hp],
      Nat.mul_mod_mul_right, Nat.mul_div_cancel _ (Nat.two_pow_pos p)]
  rw [BitVec.toNat_or, BitVec.toNat_shiftLeft, BitVec.toNat_ushiftRight, BitVec.toNat_ushiftRight,
    BitVec.toNat_shiftLeft, Nat.shiftLeft_eq, Nat.shiftRight_eq_div_pow, Nat.shiftLeft_eq,
    Nat.shiftRight_eq_div_pow, Nat.mod_eq_of_lt hdest, hip, ← graft_or, Nat.or_comm]
  simp [graft]

theorem changeIPNetIPV4_ok {p dest : List UInt8} {n : Nat} (hp : p.length = 4)
    (hdest : dest.length = 4) (hn : n ≤ 32) :
    ∃ ip, ip.length = 4 ∧ value ip = graft (32 - n) (value dest) (value p) ∧
      changeIPNetIPV4 (ipv4 p) ⟨dest, cidrMask n 4⟩ = .ok ⟨ip, cidrMask n 4⟩ := by
  have hto4' : to4 dest = some dest := by simp [to4, hdest]
  obtain ⟨v, hv, hvalue⟩ := uint32_value hp
  obtain ⟨w, hw, hvalue'⟩ := uint32_value hdest
  refine ⟨_, ?_, ?_, by
    simp only [changeIPNetIPV4, to4_ipv4 hp, hto4', Option.getD_some, hv, hw, ok_bind,
      simpleMaskLength_cidrMask n 4 hn]
    rfl⟩
  · rfl
  · rw [value_putUint32, toNat_shifts w v hn, hvalue, hvalue']

theorem graftBytes_ok {ip dest : List UInt8} {n : Nat} (hdest : dest.length = ip.length)
    (hn : n ≤ 8 * ip.length) :
    ∃ r, r.length = ip.length ∧ value r = graft (8 * ip.length - n) (value dest) (value ip) ∧
      graftBytes ip (cidrMask n ip.length) dest = .ok r := by
  induction ip generalizing dest n with
  | nil =>
    obtain rfl : dest = [] := List.eq_nil_of_length_eq_zero hdest
    exact ⟨[], rfl, by simp [value, graft], rfl⟩
  | cons i ip ih =>
    obtain ⟨d, dest, rfl⟩ := List.exists_cons_of_length_eq_add_one hdest
    rw [List.length_cons, List.length_cons, Nat.add_right_cancel_iff] at hdest
    rw [List.length_cons] at hn
    have hvd : value dest < 2 ^ (8 * ip.length) := hdest ▸ value_lt dest
    have hcons := graft_cons d.toNat i.toNat hn hvd (value_lt ip)
    by_cases h8 : 8 ≤ n
    · -- a byte of ones: the network's
      obtain ⟨r, hr, hvalue, hok⟩ := ih (n := n - 8) hdest (by omega)
      have hbyte : ((0xff ^^^ 0xff : UInt8) &&& i) ||| (d &&& 0xff) = d := by
        have hnot : (0xff ^^^ 0xff : UInt8) = 0 := rfl
        have hand : d &&& 0xff = d := UInt8.and_neg_one
        rw [hnot, UInt8.zero_and, UInt8.zero_or, hand]
      refine ⟨d :: r, congrArg (· + 1) hr, ?_, ?_⟩
      · rw [value, value, value, List.length_cons, hdest, hcons, if_pos h8, hr, hvalue]
      · rw [List.length_cons, cidrMask, if_pos h8, graftBytes, hok, ok_bind, hbyte]
        rfl
    · -- the partial byte, and zeros behind it
      obtain ⟨r, hr, hvalue, hok⟩ := ih (n := 0) hdest (by omega)
      let m := ~~~ ((0xff : UInt8) >>> UInt8.ofNat n)
      refine ⟨(((m ^^^ 0xff) &&& i) ||| (d &&& m)) :: r, congrArg (· + 1) hr, ?_, ?_⟩
      · rw [value, value, value, List.length_cons, hdest, hcons, if_neg h8, hr, hvalue,
          UInt8.toNat_or, toNat_and_hosts (by omega), toNat_and_mask (by omega), graft_or,
          Nat.sub_zero]
      · rw [List.length_cons, cidrMask, if_neg h8, graftBytes, hok, ok_bind]
        rfl

theorem changeIPNetIPV6_ok {ip dest : IP} {n : Nat} (hip : ip.length = 16)
    (hdest : dest.length = 16) (hn : n ≤ 128) :
    ∃ ip', ip'.length = 16 ∧ value ip' = graft (128 - n) (value dest) (value ip) ∧
      changeIPNetIPV6 ip ⟨dest, cidrMask n 16⟩ = .ok ⟨ip', cidrMask n 16⟩ := by
  obtain ⟨r, hr, hvalue, hok⟩ := graftBytes_ok (hdest.trans hip.symm) (n := n) (by omega)
  rw [hip] at hr hvalue hok
  exact ⟨r, hr, hvalue, by rw [changeIPNetIPV6, hok]; rfl⟩

structure Grafts (ip : IP) (net : IPNet) (p k : Nat) (r : IP) : Prop where
  canonical : net.Canonical p k
  length : r.length = k
  value_eq : value r = graft (8 * k - p) (value net.ip) (value ip)

theorem changeIPNet_grafts {u d : String} {ip dip : IP} {net : IPNet}
    (ht : getIPType u = getIPType d) (hip : parseIP true u = some ip)
    (hnet : parseCIDR true d = .ok (dip, net)) :
    ∃ p k r, Grafts ip net p k r ∧
      (if getIPType u = .ipv4 then changeIPNetIPV4 ip net else changeIPNetIPV6 ip net) =
        .ok ⟨r, net.mask⟩ := by
  rcases parseCIDR_shape hnet with ⟨hsep, -, n, hcan⟩ | ⟨hsep, -, n, hcan⟩
  · -- both texts are dotted
    have hd4 : getIPType d = .ipv4 := by rw [getIPType, hsep]
    rw [if_pos (ht.trans hd4)]
    obtain ⟨q, hq, rfl⟩ := parseIP_dot (firstSep_of_ipv4 (ht.trans hd4)) hip
    obtain ⟨r, hr, hvalue, hok⟩ := changeIPNetIPV4_ok hq hcan.ip_length hcan.fits
    have hlow := value_to16_mod n (Or.inl rfl) hq
    rw [to16, if_pos hq] at hlow
    refine ⟨n, 4, r, ⟨hcan, hr, ?_⟩, ?_⟩
    · rw [hvalue, graft, graft, hlow]
    · rw [← hcan.mask_eq] at hok
      exact hok
  · -- both texts have colons
    have hd6 : getIPType d = .ipv6 := by rw [getIPType, hsep]
    rw [if_neg (by rw [ht, hd6]; decide)]
    have hl := parseIP_colon (firstSep_of_ipv6 (ht.trans hd6)) hip
    obtain ⟨r, hr, hvalue, hok⟩ := changeIPNetIPV6_ok hl hcan.ip_length hcan.fits
    refine ⟨n, 16, r, ⟨hcan, hr, hvalue⟩, ?_⟩
    rw [← hcan.mask_eq] at hok
    exact hok

theorem generateVxlanIP_grafts {u d : String} {ip dip : IP} {net : IPNet}
    (ht : getIPType u = getIPType d) (hip : parseIP true u = some ip)
    (hnet : parseCIDR true d = .ok (dip, net)) :
    ∃ p k r, Grafts ip net p k r ∧ generateVxlanIP u d = .ok (netText ⟨r, net.mask⟩) := by
  obtain ⟨p, k, r, hr, hok⟩ := changeIPNet_grafts ht hip hnet
  refine ⟨p, k, r, hr, ?_⟩
  simp only [generateVxlanIP, if_neg (not_not_intro ht), hip, hnet]
  split at hok
  next h4 =>
    rw [if_pos h4, hok]
    rfl
  next h4 =>
    rw [if_neg h4, hok]
    rfl

theorem generateVxlanIP_cases (u d : String) :
    (¬ Graftable u d ∧ ∃ msg, generateVxlanIP u d = .error (.err msg)) ∨
    (Graftable u d ∧ ∃ addr ip net, generateVxlanIP u d = .ok addr ∧
      parseCIDR true addr = .ok (ip, net)) := by
  by_cases ht : getIPType u = getIPType d
  · cases hip : parseIP true u with
    | none =>
      refine Or.inl ⟨?_, _, by rw [generateVxlanIP, if_neg (not_not_intro ht), hip]⟩
      rintro ⟨-, h, -⟩
      rw [hip] at h
      cases h
    | some ip =>
      cases hnet : parseCIDR true d with
      | error e =>
        refine Or.inl ⟨?_, _, by rw [generateVxlanIP, if_neg (not_not_intro ht), hip, hnet]⟩
        rintro ⟨-, -, h⟩
        rw [hnet] at h
        cases h
      | ok q =>
        obtain ⟨dip, net⟩ := q
        obtain ⟨p, k, r, hr, hok⟩ := generateVxlanIP_grafts ht hip hnet
        have hread : ∃ net', parseCIDR true (netText ⟨r, net.mask⟩) = .ok (to16 r, net') :=
          parseCIDR_netText true hr.canonical.width hr.canonical.fits hr.canonical.mask_eq hr.length
        obtain ⟨net', hread⟩ := hread
        exact Or.inr ⟨⟨ht, by rw [hip]; rfl, by rw [hnet]; rfl⟩, _, _, net', hok, hread⟩
  · exact Or.inl ⟨fun h => ht h.1, _, by rw [generateVxlanIP, if_pos ht]⟩

def vxlanIDPort (devName : String) : Option (Int32 × Int32) :=
  if devName = vxlanBridgeName then some (vxlanBridgeID, vxlanBridgePort)
  else if devName = vxlanBridgeName6 then some (vxlanBridgeID6, vxlanBridgePort6)
  else if devName = vxlanLocalName then some (vxlanLocalID, vxlanLocalPort)
  else if devName = vxlanLocalName6 then some (vxlanLocalID6, vxlanLocalPort6)
  else none

def buildVxlanDevice (buf : Option (Vector UInt8 6))
    (devName underlayIP destNetString bindDev : String) : Outcome (Option Device) :=
  match vxlanIDPort devName with
  | none => pure none
  | some (id, port) =>
    match generateVxlanIP underlayIP destNetString with
    | .error (.panic p) => .error (.panic p)
    | .error (.err _) => pure none
    | .ok addr =>
      pure (some { type := vxlanDevice, name := devName, addr := addr,
                   mac := macText (generateMac buf), bindDev := bindDev, id := id, port := port })

def intersect (net1 net2 : String) : Bool :=
  match parseCIDR true net1, parseCIDR true net2 with
  | .ok (_, ipNet1), .ok (_, ipNet2) =>
    contains ipNet1 ipNet2.ip || contains ipNet2 ipNet1.ip
  | _, _ => true

theorem parseCIDR_canonical {s : String} {ip : IP} {net : IPNet}
    (h : parseCIDR true s = .ok (ip, net)) : ∃ n k, net.Canonical n k := by
  rcases parseCIDR_shape h with ⟨-, -, n, hn⟩ | ⟨-, -, n, hn⟩
  · exact ⟨n, 4, hn⟩
  · exact ⟨n, 16, hn⟩

theorem intersect_iff {net1 net2 : String} {ip1 ip2 : IP} {ipNet1 ipNet2 : IPNet}
    (h1 : parseCIDR true net1 = .ok (ip1, ipNet1)) (h2 : parseCIDR true net2 = .ok (ip2, ipNet2)) :
    intersect net1 net2 = true ↔ ∃ ip, ipNet1.normal.Holds ip ∧ ipNet2.normal.Holds ip := by
  obtain ⟨n1, k1, hc1⟩ := parseCIDR_canonical h1
  obtain ⟨n2, k2, hc2⟩ := parseCIDR_canonical h2
  rw [intersect, h1, h2]
  dsimp only
  rw [Bool.or_eq_true, contains_base_iff hc1 hc2]

end Kosmos.Manager
