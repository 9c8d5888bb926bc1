import Kosmos.Manager.Network

/-!
# `Intersect`: which networks share an address?

The base addresses are tested, each against the other network. That is enough for CIDR blocks
(`exists_holds_iff`), but not when just one network is of mapped addresses (`intersectSpec_iff`).
-/

namespace Kosmos.Manager

open Kosmos.Go.Net

/-- `Intersect` tells whether the networks share an address, and yes if one does not parse. -/
structure IntersectSpec (net1 net2 : String) : Prop where
  exact : ∀ ip1 ipNet1 ip2 ipNet2, parseCIDR true net1 = .ok (ip1, ipNet1) →
    parseCIDR true net2 = .ok (ip2, ipNet2) →
    (intersect net1 net2 = true ↔ ∃ ip, ipNet1.Holds ip ∧ ipNet2.Holds ip)
  symm : intersect net1 net2 = intersect net2 net1
  invalid : (∃ e, parseCIDR true net1 = .error e) ∨ (∃ e, parseCIDR true net2 = .error e) →
    intersect net1 net2 = true

/-- The networks share an address, a mapped one counting as the IPv4 address. -/
def Meets (n1 n2 : IPNet) : Prop := ∃ x y, n1.Holds x ∧ n2.Holds y ∧ to16 x = to16 y

/-- Both networks are of mapped addresses or neither, unless they are apart. -/
def OneWriting (net1 net2 : String) : Prop :=
  ∀ ip1 ipNet1 ip2 ipNet2, parseCIDR true net1 = .ok (ip1, ipNet1) →
    parseCIDR true net2 = .ok (ip2, ipNet2) →
    (Mapped ipNet1.ip ↔ Mapped ipNet2.ip) ∨ ¬ Meets ipNet1 ipNet2

def Common (n1 n2 : IPNet) : Prop := ∃ ip, n1.Holds ip ∧ n2.Holds ip

/-- Two CIDRs with no address in common. -/
def ShareNoAddress (net1 net2 : String) : Prop :=
  ∃ ip1 ipNet1 ip2 ipNet2, parseCIDR true net1 = .ok (ip1, ipNet1) ∧
    parseCIDR true net2 = .ok (ip2, ipNet2) ∧ ¬ Common ipNet1 ipNet2

theorem Common.symm {n1 n2 : IPNet} (h : Common n1 n2) : Common n2 n1 := by
  obtain ⟨ip, h1, h2⟩ := h
  exact ⟨ip, h2, h1⟩

theorem ShareNoAddress.symm {net1 net2 : String} (h : ShareNoAddress net1 net2) :
    ShareNoAddress net2 net1 := by
  obtain ⟨ip1, ipNet1, ip2, ipNet2, h1, h2, hnone⟩ := h
  exact ⟨ip2, ipNet2, ip1, ipNet1, h2, h1, fun hcommon => hnone hcommon.symm⟩

theorem Meets.symm {n1 n2 : IPNet} (h : Meets n1 n2) : Meets n2 n1 := by
  obtain ⟨x, y, hx, hy, hxy⟩ := h
  exact ⟨y, x, hy, hx, hxy.symm⟩

section Mapped

variable {n1 n2 : IPNet} {o1 o2 k1 k2 : Nat}

theorem common_normal_iff (c1 : n1.Canonical o1 k1) (c2 : n2.Canonical o2 k2)
    (h : Mapped n1.ip ↔ Mapped n2.ip) : Common n1.normal n2.normal ↔ Common n1 n2 := by
  by_cases h1 : Mapped n1.ip
  · have h2 := h.mp h1
    obtain rfl : k1 = 16 := c1.ip_length.symm.trans h1.1
    obtain rfl : k2 = 16 := c2.ip_length.symm.trans h2.1
    constructor
    · rintro ⟨p, hp1, hp2⟩
      exact ⟨ipv4 p, (c1.holds_iff_of_mapped h1).mpr ⟨p, rfl, hp1⟩,
        (c2.holds_iff_of_mapped h2).mpr ⟨p, rfl, hp2⟩⟩
    · rintro ⟨ip, hip1, hip2⟩
      obtain ⟨p, rfl, hp1⟩ := (c1.holds_iff_of_mapped h1).mp hip1
      obtain ⟨q, hq, hp2⟩ := (c2.holds_iff_of_mapped h2).mp hip2
      obtain rfl : p = q := List.append_cancel_left hq
      exact ⟨p, hp1, hp2⟩
  · rw [c1.normal_of_not_mapped h1, c2.normal_of_not_mapped fun h2 => h1 (h.mpr h2)]

theorem meets_iff_of_mapped (c1 : n1.Canonical o1 16) (c2 : n2.Canonical o2 k2)
    (h1 : Mapped n1.ip) (h2 : ¬ Mapped n2.ip) :
    (Meets n1 n2 ↔ Common n1.normal n2.normal ∨ Common n1 n2) ∧
      ¬ (Common n1.normal n2.normal ∧ Common n1 n2) := by
  rw [c2.normal_of_not_mapped h2]
  have hlen : ∀ p, n1.normal.Holds p → p.length = 4 := by
    intro p hp
    rw [c1.normal_of_mapped h1] at hp
    exact hp.1.trans (cidrMask_length _ _)
  have hlong : ∀ ip, n1.Holds ip → ip.length = 16 := fun ip hip => hip.1.trans c1.mask_length
  have hto16 : ∀ ip, ip.length = 16 → to16 ip = ip := fun ip hip =>
    if_neg (by rw [hip]; decide)
  refine ⟨⟨?_, ?_⟩, ?_⟩
  · rintro ⟨x, y, hx, hy, hxy⟩
    rw [hto16 x (hlong x hx)] at hxy
    obtain ⟨p, rfl, hp⟩ := (c1.holds_iff_of_mapped h1).mp hx
    by_cases hy4 : y.length = 4
    · rw [to16, if_pos hy4] at hxy
      obtain rfl : p = y := List.append_cancel_left hxy
      exact Or.inl ⟨p, hp, hy⟩
    · rw [to16, if_neg hy4] at hxy
      exact Or.inr ⟨y, hxy ▸ hx, hy⟩
  · rintro (⟨p, hp1, hp2⟩ | ⟨ip, hip1, hip2⟩)
    · have hx := (c1.holds_iff_of_mapped h1).mpr ⟨p, rfl, hp1⟩
      refine ⟨ipv4 p, p, hx, hp2, ?_⟩
      rw [hto16 _ (hlong _ hx), to16, if_pos (hlen p hp1)]
    · exact ⟨ip, ip, hip1, hip2, rfl⟩
  · rintro ⟨⟨p, hp1, hp2⟩, ip, hip1, hip2⟩
    -- the other network would be of both widths
    have hfour := (hlen p hp1).symm.trans hp2.1
    have hsixteen := (hlong ip hip1).symm.trans hip2.1
    exact absurd (hfour.trans hsixteen.symm) (by decide)

theorem common_normal_iff_common (c1 : n1.Canonical o1 k1) (c2 : n2.Canonical o2 k2) :
    (Common n1.normal n2.normal ↔ Common n1 n2) ↔
      (Mapped n1.ip ↔ Mapped n2.ip) ∨ ¬ Meets n1 n2 := by
  have hone : ∀ {n1 n2 : IPNet} {o1 o2 k1 k2 : Nat}, n1.Canonical o1 k1 → n2.Canonical o2 k2 →
      Mapped n1.ip → ¬ Mapped n2.ip →
      ((Common n1.normal n2.normal ↔ Common n1 n2) ↔ ¬ Meets n1 n2) := by
    intro n1 n2 o1 o2 k1 k2 c1 c2 h1 h2
    obtain rfl : k1 = 16 := c1.ip_length.symm.trans h1.1
    obtain ⟨hmeets, hboth⟩ := meets_iff_of_mapped c1 c2 h1 h2
    rw [hmeets]
    tauto
  by_cases h1 : Mapped n1.ip <;> by_cases h2 : Mapped n2.ip
  · exact iff_of_true (common_normal_iff c1 c2 (iff_of_true h1 h2)) (Or.inl (iff_of_true h1 h2))
  · rw [hone c1 c2 h1 h2]
    tauto
  · have hcommon : ∀ m1 m2 : IPNet, Common m1 m2 ↔ Common m2 m1 := fun m1 m2 =>
      ⟨Common.symm, Common.symm⟩
    have hmeets : Meets n1 n2 ↔ Meets n2 n1 := ⟨Meets.symm, Meets.symm⟩
    rw [hcommon n1.normal, hcommon n1, hone c2 c1 h2 h1, hmeets]
    tauto
  · exact iff_of_true (common_normal_iff c1 c2 (iff_of_false h1 h2)) (Or.inl (iff_of_false h1 h2))

end Mapped

theorem intersect_symm (net1 net2 : String) : intersect net1 net2 = intersect net2 net1 := by
  unfold intersect
  cases parseCIDR true net1 with
  | error e => cases parseCIDR true net2 <;> rfl
  | ok q1 =>
    cases parseCIDR true net2 with
    | error e => rfl
    | ok q2 => exact Bool.or_comm ..

theorem intersect_invalid {net1 net2 : String}
    (h : (∃ e, parseCIDR true net1 = .error e) ∨ (∃ e, parseCIDR true net2 = .error e)) :
    intersect net1 net2 = true := by
  rcases h with ⟨e, he⟩ | ⟨e, he⟩
  · rw [intersect, he]
  · rw [intersect_symm, intersect, he]

theorem intersect_exact_iff {net1 net2 : String} {ip1 ip2 : IP} {ipNet1 ipNet2 : IPNet}
    (h1 : parseCIDR true net1 = .ok (ip1, ipNet1)) (h2 : parseCIDR true net2 = .ok (ip2, ipNet2)) :
    (intersect net1 net2 = true ↔ Common ipNet1 ipNet2) ↔
      (Mapped ipNet1.ip ↔ Mapped ipNet2.ip) ∨ ¬ Meets ipNet1 ipNet2 := by
  obtain ⟨n1, k1, hc1⟩ := parseCIDR_canonical h1
  obtain ⟨n2, k2, hc2⟩ := parseCIDR_canonical h2
  rw [intersect_iff h1 h2]
  exact common_normal_iff_common hc1 hc2

theorem intersect_eq_false_iff {net1 net2 : String} (h : OneWriting net1 net2) :
    intersect net1 net2 = false ↔ ShareNoAddress net1 net2 := by
  have hexact : ∀ {ip1 ipNet1 ip2 ipNet2}, parseCIDR true net1 = .ok (ip1, ipNet1) →
      parseCIDR true net2 = .ok (ip2, ipNet2) →
      (intersect net1 net2 = true ↔ Common ipNet1 ipNet2) := fun h1 h2 =>
    (intersect_exact_iff h1 h2).mpr (h _ _ _ _ h1 h2)
  constructor
  · intro hno
    have hvalid : ¬ ((∃ e, parseCIDR true net1 = .error e) ∨
        ∃ e, parseCIDR true net2 = .error e) := by
      intro hinvalid
      rw [intersect_invalid hinvalid] at hno
      cases hno
    cases h1 : parseCIDR true net1 with
    | error e => exact absurd (Or.inl ⟨e, h1⟩) hvalid
    | ok q1 =>
      cases h2 : parseCIDR true net2 with
      | error e => exact absurd (Or.inr ⟨e, h2⟩) hvalid
      | ok q2 =>
        refine ⟨q1.1, q1.2, q2.1, q2.2, h1, h2, fun hcommon => ?_⟩
        rw [(hexact h1 h2).mpr hcommon] at hno
        cases hno
  · rintro ⟨ip1, ipNet1, ip2, ipNet2, h1, h2, hnone⟩
    exact Bool.eq_false_iff.mpr fun hyes => hnone ((hexact h1 h2).mp hyes)

def Unmapped (net : String) : Prop :=
  ∀ q ∈ (parseCIDR true net).toOption, ¬ Mapped q.2.ip

instance (net : String) : Decidable (Unmapped net) :=
  inferInstanceAs (Decidable (∀ q ∈ (parseCIDR true net).toOption, _))

theorem oneWriting_of_unmapped {net1 net2 : String} (h1 : Unmapped net1) (h2 : Unmapped net2) :
    OneWriting net1 net2 := by
  intro ip1 ipNet1 ip2 ipNet2 hp1 hp2
  refine Or.inl (iff_of_false (h1 (ip1, ipNet1) ?_) (h2 (ip2, ipNet2) ?_))
  · rw [hp1]
    rfl
  · rw [hp2]
    rfl

/-- `Intersect` is exact if and only if both networks are of mapped addresses, or neither, or they
are apart. -/
theorem intersectSpec_iff (net1 net2 : String) :
    IntersectSpec net1 net2 ↔ OneWriting net1 net2 := by
  constructor
  · intro h ip1 ipNet1 ip2 ipNet2 h1 h2
    exact (intersect_exact_iff h1 h2).mp (h.exact ip1 ipNet1 ip2 ipNet2 h1 h2)
  · intro h
    refine ⟨?_, intersect_symm net1 net2, intersect_invalid⟩
    intro ip1 ipNet1 ip2 ipNet2 h1 h2
    exact (intersect_exact_iff h1 h2).mpr (h ip1 ipNet1 ip2 ipNet2 h1 h2)

theorem mapped_not_shareNoAddress : ¬ ShareNoAddress "::/0" "::ffff:10.0.0.0/104" := by
  rintro ⟨ip1, ipNet1, ip2, ipNet2, h1, h2, hnone⟩
  cases h1
  cases h2
  exact hnone ⟨ipv4 [10, 0, 0, 0], ⟨by decide, by decide⟩, ⟨by decide, by decide⟩⟩

theorem intersect_mapped :
    intersect "::/0" "::ffff:10.0.0.0/104" = false ∧
    ∃ ip1 ipNet1 ip2 ipNet2, parseCIDR true "::/0" = .ok (ip1, ipNet1) ∧
      parseCIDR true "::ffff:10.0.0.0/104" = .ok (ip2, ipNet2) ∧
      ipNet1.Holds ipNet2.ip ∧ ipNet2.Holds ipNet2.ip :=
  ⟨by decide, _, _, _, _, rfl, rfl, ⟨by decide, by decide⟩, ⟨by decide, by decide⟩⟩

end Kosmos.Manager
