import Kosmos.Manager.Network

/-!
# What the overlay addresses are

Shifts for IPv4 and masked bytes for IPv6 are both `graft` on numbers (`routinesGraft`).
-/

namespace Kosmos.Manager

open Kosmos.Go Kosmos.Go.Net

/-- Both routines compute `graft`, at every prefix length of their width. -/
structure RoutinesGraft : Prop where
  ipv4 : ∀ addr dest : IP, addr.length = 4 → dest.length = 4 → ∀ p ≤ 32, ∃ r : IP,
    r.length = 4 ∧ changeIPNetIPV4 (ipv4 addr) ⟨dest, cidrMask p 4⟩ = .ok ⟨r, cidrMask p 4⟩ ∧
      value r = graft (32 - p) (value dest) (value addr)
  ipv6 : ∀ addr dest : IP, addr.length = 16 → dest.length = 16 → ∀ p ≤ 128, ∃ r : IP,
    r.length = 16 ∧ changeIPNetIPV6 addr ⟨dest, cidrMask p 16⟩ = .ok ⟨r, cidrMask p 16⟩ ∧
      value r = graft (128 - p) (value dest) (value addr)

theorem routinesGraft : RoutinesGraft where
  ipv4 addr dest haddr hdest p hp := by
    obtain ⟨r, hr, hvalue, hok⟩ := changeIPNetIPV4_ok haddr hdest hp
    exact ⟨r, hr, hok, hvalue⟩
  ipv6 addr dest haddr hdest p hp := by
    obtain ⟨r, hr, hvalue, hok⟩ := changeIPNetIPV6_ok haddr hdest hp
    exact ⟨r, hr, hok, hvalue⟩

/-- What is expected of `GenerateVxlanIP` on two texts. -/
structure VxlanRight (u d : String) : Prop where
  total : (Graftable u d ∧ ∃ addr, generateVxlanIP u d = .ok addr) ∨
    (¬ Graftable u d ∧ ∃ msg, generateVxlanIP u d = .error (.err msg))
  grafted : ∀ addr ip dip net p k, generateVxlanIP u d = .ok addr → parseIP true u = some ip →
    parseCIDR true d = .ok (dip, net) → net.Canonical p k →
    ∃ ip', parseCIDR true addr = .ok (ip', net) ∧
      value ip' % 2 ^ (8 * k - p) = value ip % 2 ^ (8 * k - p)
  separates : ∀ u' addr addr' ip ip' dip net p k, generateVxlanIP u d = .ok addr →
    generateVxlanIP u' d = .ok addr' → parseIP true u = some ip → parseIP true u' = some ip' →
    parseCIDR true d = .ok (dip, net) → net.Canonical p k →
    (addr = addr' ↔ value ip % 2 ^ (8 * k - p) = value ip' % 2 ^ (8 * k - p))
  routines : RoutinesGraft

/-- The address made of the two is a mapped one. -/
def GraftsMapped (u d : String) : Prop :=
  Graftable u d ∧ ∃ ip dip net p, parseIP true u = some ip ∧ parseCIDR true d = .ok (dip, net) ∧
    net.Canonical p 16 ∧ graft (128 - p) (value net.ip) (value ip) / 2 ^ 32 = 0xffff

section Printed

variable {u d : String} {ip dip : IP} {net : IPNet} {p k p' k' : Nat} {r r' : IP}

theorem Grafts.mod (h : Grafts ip net p k r) :
    value (to16 r) % 2 ^ (8 * k - p) = value ip % 2 ^ (8 * k - p) := by
  rw [value_to16_mod p h.canonical.width h.length, h.value_eq, graft_mod]

theorem Grafts.masked (h : Grafts ip net p k r) : andBytes r net.mask = net.ip := by
  have hc := h.canonical
  have hbase : value net.ip = graft (8 * k - p) (value net.ip) 0 := by
    rw [← value_andBytes hc.ip_length hc.fits, ← hc.mask_eq, hc.masked]
  have hbits : graft (8 * k - p) (value r) 0 = graft (8 * k - p) (value net.ip) 0 := by
    rw [graft, graft, h.value_eq, graft_div]
  apply value_injective
  · rw [andBytes_length, h.length, hc.mask_length, hc.ip_length, Nat.min_self]
  · rw [hc.mask_eq, value_andBytes h.length hc.fits, hbits, ← hbase]

theorem canonical_unique (h : net.Canonical p k) (h' : net.Canonical p' k') : p = p' ∧ k = k' := by
  have hk : k = k' := h.mask_length.symm.trans h'.mask_length
  subst hk
  have hp := simpleMaskLength_cidrMask p k h.fits
  rw [← h.mask_eq, h'.mask_eq, simpleMaskLength_cidrMask p' k h'.fits] at hp
  exact ⟨(Option.some.inj hp).symm, rfl⟩

theorem Grafts.read (h : Grafts ip net p k r) :
    ∃ net', parseCIDR true (netText ⟨r, net.mask⟩) = .ok (to16 r, net') :=
  parseCIDR_netText true h.canonical.width h.canonical.fits h.canonical.mask_eq h.length

theorem Grafts.read_iff (h : Grafts ip net p k r) :
    (∃ ip', parseCIDR true (netText ⟨r, net.mask⟩) = .ok (ip', net)) ↔ ¬ Mapped r := by
  have hc := h.canonical
  constructor
  · rintro ⟨ip', hread⟩ hmapped
    obtain rfl : k = 16 := h.length.symm.trans hmapped.1
    rw [parseCIDR_netText_of_mapped (n := ⟨r, net.mask⟩) true hc.fits hc.mask_eq hmapped,
      Except.ok.injEq, Prod.mk.injEq] at hread
    -- the printed mask has four bytes
    have hmask := congrArg (fun n : IPNet => n.mask.length) hread.2
    simp only [cidrMask_length, hc.mask_length] at hmask
    exact absurd hmask (by decide)
  · intro hmapped
    refine ⟨to16 r, ?_⟩
    rw [parseCIDR_netText_of_not_mapped (n := ⟨r, net.mask⟩) true hc.width hc.fits hc.mask_eq
      h.length hmapped, h.masked]

theorem Grafts.eq_iff {ip' : IP} (h : Grafts ip net p k r) (h' : Grafts ip' net p k r') :
    netText ⟨r, net.mask⟩ = netText ⟨r', net.mask⟩ ↔
      value ip % 2 ^ (8 * k - p) = value ip' % 2 ^ (8 * k - p) := by
  constructor
  · intro htext
    obtain ⟨n, hn⟩ := h.read
    obtain ⟨n', hn'⟩ := h'.read
    rw [htext, hn', Except.ok.injEq, Prod.mk.injEq] at hn
    rw [← h.mod, ← h'.mod, hn.1]
  · intro hmod
    have hvalue : value r = value r' := by rw [h.value_eq, h'.value_eq, graft, graft, hmod]
    rw [value_injective (h.length.trans h'.length.symm) hvalue]

end Printed

theorem graftable_of_ok {u d addr : String} (h : generateVxlanIP u d = .ok addr) :
    Graftable u d := by
  rcases generateVxlanIP_cases u d with ⟨-, msg, herr⟩ | ⟨hg, -⟩
  · rw [h] at herr
    cases herr
  · exact hg

theorem grafts_of_ok {u d addr : String} {ip dip : IP} {net : IPNet} {p k : Nat}
    (h : generateVxlanIP u d = .ok addr) (hip : parseIP true u = some ip)
    (hnet : parseCIDR true d = .ok (dip, net)) (hc : net.Canonical p k) :
    ∃ r, Grafts ip net p k r ∧ addr = netText ⟨r, net.mask⟩ := by
  obtain ⟨p', k', r, hr, hok⟩ := generateVxlanIP_grafts (graftable_of_ok h).1 hip hnet
  obtain ⟨rfl, rfl⟩ := canonical_unique hc hr.canonical
  rw [h, Except.ok.injEq] at hok
  exact ⟨r, hr, hok⟩

/-- Overlay addresses are right if and only if the grafted one is not IPv4-mapped. -/
theorem vxlanRight_iff (u d : String) : VxlanRight u d ↔ ¬ GraftsMapped u d := by
  constructor
  · rintro h ⟨⟨ht, -, -⟩, ip, dip, net, p, hip, hnet, hc, hmapped⟩
    obtain ⟨p', k', r, hr, hok⟩ := generateVxlanIP_grafts ht hip hnet
    obtain ⟨rfl, rfl⟩ := canonical_unique hc hr.canonical
    obtain ⟨ip', hread, -⟩ := h.grafted _ ip dip net p 16 hok hip hnet hc
    refine hr.read_iff.mp ⟨ip', hread⟩ ?_
    rw [mapped_iff_value hr.length, hr.value_eq]
    exact hmapped
  · intro h
    refine ⟨?_, ?_, ?_, routinesGraft⟩
    · rcases generateVxlanIP_cases u d with hbad | ⟨hg, addr, -, -, hok, -⟩
      · exact Or.inr hbad
      · exact Or.inl ⟨hg, addr, hok⟩
    · intro addr ip dip net p k hok hip hnet hc
      obtain ⟨r, hr, rfl⟩ := grafts_of_ok hok hip hnet hc
      have hmapped : ¬ Mapped r := by
        intro hmapped
        obtain rfl : k = 16 := hr.length.symm.trans hmapped.1
        rw [mapped_iff_value hr.length, hr.value_eq] at hmapped
        exact h ⟨graftable_of_ok hok, ip, dip, net, p, hip, hnet, hc, hmapped⟩
      obtain ⟨ip', hread⟩ := hr.read_iff.mpr hmapped
      refine ⟨ip', hread, ?_⟩
      obtain ⟨net', hread'⟩ := hr.read
      rw [hread, Except.ok.injEq, Prod.mk.injEq] at hread'
      rw [hread'.1, hr.mod]
    · intro u' addr addr' ip ip' dip net p k hok hok' hip hip' hnet hc
      obtain ⟨r, hr, rfl⟩ := grafts_of_ok hok hip hnet hc
      obtain ⟨r', hr', rfl⟩ := grafts_of_ok hok' hip' hnet hc
      exact hr.eq_iff hr'

theorem generateVxlanIP_mapped :
    generateVxlanIP "::ffff:1.2.3.4" "::/8" = .ok "1.2.3.4/0" := by
  decide

end Kosmos.Manager
