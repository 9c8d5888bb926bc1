import Kosmos.Manager.Network

/-!
# Mapped addresses: `NetMap`

The host bits of an address go into the network that its source CIDR is mapped to.
-/

namespace Kosmos.NetMap

open Go Go.Net Manager

def size (mask : IPMask) : Nat := (simpleMaskLength mask).getD 0

def masksDiffer : String :=
  "the subnet masks of srcCIDR and destCIDR of CIDRsMap need to be the same"

def changeNet (ipStr : String) (ip : IP) (srcNet : IPNet) (dest : String) : Outcome String :=
  match parseCIDR true dest with
  | .error e => .error (.err e)
  | .ok (_, destNet) =>
    if size srcNet.mask ≠ size destNet.mask then
      .error (.err masksDiffer)
    else do
      let newIP ← if getIPType ipStr = .ipv4 then changeIPNetIPV4 ip destNet
        else changeIPNetIPV6 ip destNet
      pure (ipText newIP.ip)

def netMapLoop (ipStr : String) (ip : IP) : List (String × String) → Outcome String
  | [] => pure (ipText ip)
  | (src, dest) :: cidrs =>
    match parseCIDR true src with
    | .error e => .error (.err e)
    | .ok (_, srcNet) =>
      if getIPType ipStr ≠ getIPType src then netMapLoop ipStr ip cidrs
      else if contains srcNet ip = false then netMapLoop ipStr ip cidrs
      else changeNet ipStr ip srcNet dest

def netMap (ipStr : String) (cidrsMap : GoMap String String)
    (order : RangeOrder (String × String)) : Outcome String :=
  match parseIP true ipStr with
  | none => pure ipStr
  | some ip => netMapLoop ipStr ip (order.visit cidrsMap.entries)

example : netMap "10.0.1.7" (GoMap.empty.set "10.0.0.0/16" "172.16.0.0/16") .asWritten =
    .ok "172.16.1.7" := by decide +kernel

structure Input where
  ipStr : String
  cidrsMap : GoMap String String
  ip : IP
  parsed : parseIP true ipStr = some ip
  src : ∀ e ∈ cidrsMap.entries, (parseCIDR true e.1).isOk = true
  dest : ∀ e ∈ cidrsMap.entries, (parseCIDR true e.2).isOk = true

def cidr (s : String) : IPNet :=
  match parseCIDR true s with
  | .ok (_, net) => net
  | .error _ => ⟨[], []⟩

def ownBytes (ipStr : String) (ip : IP) : IP :=
  if getIPType ipStr = .ipv4 then ip.drop 12 else ip

/-- The address of the text is in the network, both as they are written. -/
def LiesIn (ipStr : String) (ip : IP) (s : String) : Prop :=
  parseIP true ipStr = some ip ∧ (cidr s).Holds (ownBytes ipStr ip)

instance (ipStr : String) (ip : IP) (s : String) : Decidable (LiesIn ipStr ip s) :=
  inferInstanceAs (Decidable (_ ∧ _ ∧ _))

/-- The address and the network are both of mapped addresses, or neither is. -/
def OneWriting (ipStr : String) (ip : IP) (s : String) : Prop :=
  Mapped (ownBytes ipStr ip) ↔ Mapped (cidr s).ip

def SamePrefix (e : String × String) : Prop := size (cidr e.1).mask = size (cidr e.2).mask

def SameFamily (e : String × String) : Prop := getIPType e.1 = getIPType e.2

/-- The address of the network that has the host bits of the given one. -/
def Image (s : String) (ip r : IP) : Prop :=
  let hostBits := 8 * (cidr s).mask.length - size (cidr s).mask
  (cidr s).Holds r ∧ value r % 2 ^ hostBits = value ip % 2 ^ hostBits

/-- The address lies in the source of the entry, and in no other. -/
def OnlyIn (i : Input) (e : String × String) : Prop :=
  LiesIn i.ipStr i.ip e.1 ∧ ∀ e' ∈ i.cidrsMap.entries, LiesIn i.ipStr i.ip e'.1 → e' = e

/-- No panic, and in the three cases one result for all orders. -/
structure Right (i : Input) : Prop where
  noPanic : ∀ order p, netMap i.ipStr i.cidrsMap order ≠ .error (.panic p)
  outside : (∀ e ∈ i.cidrsMap.entries, ¬ LiesIn i.ipStr i.ip e.1) →
    ∀ order, netMap i.ipStr i.cidrsMap order = .ok (ipText i.ip)
  unlike : ∀ e ∈ i.cidrsMap.entries, OnlyIn i e → ¬ (SameFamily e ∧ SamePrefix e) →
    ∃ msg, ∀ order, netMap i.ipStr i.cidrsMap order = .error (.err msg)
  alike : ∀ e ∈ i.cidrsMap.entries, OnlyIn i e → SameFamily e → SamePrefix e →
    ∃ r, Image e.2 i.ip r ∧ ∀ order, netMap i.ipStr i.cidrsMap order = .ok (ipText r)
  apart : ∀ e ∈ i.cidrsMap.entries, SameFamily e → SamePrefix e → ∀ t₁ t₂ ip₁ ip₂ r₁ r₂,
    LiesIn t₁ ip₁ e.1 → LiesIn t₂ ip₂ e.1 → Image e.2 ip₁ r₁ → Image e.2 ip₂ r₂ →
    ipText r₁ = ipText r₂ → ip₁ = ip₂

section Entries

variable {ipStr s : String} {ip r : IP} {e : String × String}

theorem parseCIDR_cidr (h : (parseCIDR true s).isOk = true) :
    ∃ a, parseCIDR true s = .ok (a, cidr s) := by
  unfold cidr
  cases hs : parseCIDR true s with
  | error e =>
    rw [hs] at h
    cases h
  | ok x => exact ⟨x.1, rfl⟩

def Matches (ipStr : String) (ip : IP) (s : String) : Prop :=
  parseIP true ipStr = some ip ∧ getIPType ipStr = getIPType s ∧ contains (cidr s) ip = true

instance (ipStr : String) (ip : IP) (s : String) : Decidable (Matches ipStr ip s) :=
  inferInstanceAs (Decidable (_ ∧ _ ∧ _))

theorem parseIP_family (hip : parseIP true ipStr = some ip) :
    (getIPType ipStr = .ipv4 ∧ (ownBytes ipStr ip).length = 4 ∧ ip = ipv4 (ownBytes ipStr ip)) ∨
    (getIPType ipStr = .ipv6 ∧ ip.length = 16 ∧ ownBytes ipStr ip = ip) := by
  cases htype : getIPType ipStr with
  | ipv4 =>
    obtain ⟨q, hq, rfl⟩ := parseIP_dot (firstSep_of_ipv4 htype) hip
    have hown : ownBytes ipStr (ipv4 q) = q := if_pos htype
    exact Or.inl ⟨rfl, by rw [hown, hq], by rw [hown]⟩
  | ipv6 =>
    exact Or.inr ⟨rfl, parseIP_colon (firstSep_of_ipv6 htype) hip,
      if_neg (by rw [htype]; decide)⟩
  | unknown =>
    have hsep : firstSep ipStr.toList = none := by
      unfold getIPType at htype
      cases hsep : firstSep ipStr.toList with
      | none => rfl
      | some sep =>
        rw [hsep] at htype
        cases sep <;> cases htype
    rw [parseIP, hsep] at hip
    cases hip

theorem matches_iff (hs : (parseCIDR true s).isOk = true) :
    Matches ipStr ip s ↔ LiesIn ipStr ip s ∧ OneWriting ipStr ip s := by
  unfold Matches LiesIn OneWriting
  rw [and_assoc]
  refine and_congr_right fun hip => ?_
  obtain ⟨a, ha⟩ := parseCIDR_cidr hs
  rcases parseIP_family hip with ⟨h4, hlen, heq⟩ | ⟨h6, hlen, heq⟩ <;>
    rcases parseCIDR_shape ha with ⟨hsep, -, n, hcan⟩ | ⟨hsep, -, n, hcan⟩
  · -- `Contains` sees the four bytes of the address
    have hnormal : Net.normal ip = Net.normal (ownBytes ipStr ip) := by
      rw [heq, Net.normal, to4_ipv4 hlen, ← heq,
        normal_of_not_mapped fun h => absurd (hlen.symm.trans h.1) (by decide)]
      rfl
    rw [← contains_iff_of_length hcan hlen, contains_iff_holds hcan, contains_iff_holds hcan,
      hnormal]
    exact and_iff_right (by rw [h4, getIPType, hsep])
  · refine iff_of_false (fun h => ?_) (fun h => ?_)
    · rw [h4, getIPType, hsep] at h
      cases h.1
    · exact absurd (hlen.symm.trans (h.1.1.trans hcan.mask_length)) (by decide)
  · refine iff_of_false (fun h => ?_) (fun h => ?_)
    · rw [h6, getIPType, hsep] at h
      cases h.1
    · rw [heq] at h
      exact absurd (hlen.symm.trans (h.1.1.trans hcan.mask_length)) (by decide)
  · rw [heq, ← contains_iff_of_length hcan hlen]
    exact and_iff_right (by rw [h6, getIPType, hsep])

theorem size_of_canonical {net : IPNet} {n k : Nat} (h : net.Canonical n k) :
    size net.mask = n := by
  rw [size, h.mask_eq, simpleMaskLength_cidrMask n k h.fits]
  rfl

theorem netMapLoop_cons (hip : parseIP true ipStr = some ip) {l : List (String × String)}
    (hsrc : (parseCIDR true e.1).isOk = true) :
    netMapLoop ipStr ip (e :: l) =
      if Matches ipStr ip e.1 then changeNet ipStr ip (cidr e.1) e.2
      else netMapLoop ipStr ip l := by
  obtain ⟨a, ha⟩ := parseCIDR_cidr hsrc
  obtain ⟨src, dest⟩ := e
  simp only [netMapLoop, ha, Matches, hip, true_and]
  by_cases hfamily : getIPType ipStr = getIPType src
  · by_cases hin : contains (cidr src) ip = true
    · simp [hfamily, hin]
    · simp [hfamily, hin]
  · simp [hfamily]

theorem netMapLoop_cases (hip : parseIP true ipStr = some ip) {l : List (String × String)}
    (hsrc : ∀ e ∈ l, (parseCIDR true e.1).isOk = true) :
    ((∀ e ∈ l, ¬ Matches ipStr ip e.1) ∧ netMapLoop ipStr ip l = .ok (ipText ip)) ∨
    ∃ e ∈ l, Matches ipStr ip e.1 ∧ netMapLoop ipStr ip l = changeNet ipStr ip (cidr e.1) e.2 := by
  induction l with
  | nil => exact Or.inl ⟨List.forall_mem_nil _, rfl⟩
  | cons e l ih =>
    obtain ⟨hparse, hrest⟩ := List.forall_mem_cons.mp hsrc
    rw [netMapLoop_cons hip hparse]
    split
    next hlies => exact Or.inr ⟨e, List.mem_cons_self, hlies, rfl⟩
    next hlies =>
      rcases ih hrest with ⟨hnone, hok⟩ | ⟨e', he', hfirst⟩
      · exact Or.inl ⟨List.forall_mem_cons.mpr ⟨hlies, hnone⟩, hok⟩
      · exact Or.inr ⟨e', List.mem_cons_of_mem _ he', hfirst⟩

theorem image_of_grafts {n k : Nat} (h : Grafts ip (cidr s) n k r) : Image s ip r := by
  have hcan := h.canonical
  have hmask : value (andBytes r (cidr s).mask) = value (cidr s).ip := by
    rw [← hcan.masked, hcan.mask_eq, value_andBytes h.length hcan.fits,
      value_andBytes hcan.ip_length hcan.fits, h.value_eq, graft, graft_div, graft]
  unfold Image
  simp only [hcan.mask_length, size_of_canonical hcan]
  refine ⟨⟨by rw [h.length, hcan.mask_length], value_injective ?_ hmask⟩,
    by rw [h.value_eq, graft_mod]⟩
  rw [andBytes_length, h.length, hcan.mask_length, hcan.ip_length, Nat.min_self]

theorem graftBytes_short : ∀ {ip mask dest : List UInt8}, mask.length < ip.length →
    graftBytes ip mask dest = .error (.panic .indexOutOfRange)
  | i :: ip, [], dest, _ => by cases dest <;> rfl
  | i :: ip, m :: mask, [], _ => rfl
  | i :: ip, m :: mask, d :: dest, h => by
    rw [graftBytes, graftBytes_short (Nat.lt_of_succ_lt_succ h)]
    rfl

theorem changeNet_panics (hmatch : Matches ipStr ip e.1) (hsrc : (parseCIDR true e.1).isOk = true)
    (hdest : (parseCIDR true e.2).isOk = true) (hlen : SamePrefix e) (hfamily : ¬ SameFamily e) :
    changeNet ipStr ip (cidr e.1) e.2 = .error (.panic .indexOutOfRange) := by
  obtain ⟨a, ha⟩ := parseCIDR_cidr hsrc
  obtain ⟨b, hb⟩ := parseCIDR_cidr hdest
  obtain ⟨hip, hof, -⟩ := hmatch
  have hsep : firstSep e.1.toList ≠ firstSep e.2.toList := fun h =>
    hfamily (by rw [SameFamily, getIPType, getIPType, h])
  unfold SamePrefix at hlen
  simp only [changeNet, hb, hlen, ne_eq, not_true_eq_false, if_false]
  rcases parseCIDR_shape ha with ⟨hdot, -, n, hcan⟩ | ⟨hcolon, -, n, hcan⟩
  · -- the number of an IPv6 network with a short prefix is no IPv4 address
    have h4 : getIPType ipStr = .ipv4 := by rw [hof, getIPType, hdot]
    obtain ⟨q, hq, rfl⟩ := parseIP_dot (firstSep_of_ipv4 h4) hip
    obtain ⟨hdot', -⟩ | ⟨-, -, m, hcan'⟩ := parseCIDR_shape hb
    · exact absurd (hdot.trans hdot'.symm) hsep
    · rw [size_of_canonical hcan, size_of_canonical hcan'] at hlen
      have hnot : ¬ Mapped (cidr e.2).ip := fun h => by
        have hle := hcan'.le_of_mapped h
        have hfits := hcan.fits
        omega
      have hnone : to4 (cidr e.2).ip = none := by
        rw [to4, if_neg (by rw [hcan'.ip_length]; decide)]
        exact if_neg hnot
      obtain ⟨v, hv, -⟩ := uint32_value hq
      simp only [h4, if_true, changeIPNetIPV4, to4_ipv4 hq, hnone, Option.getD_some, hv, ok_bind]
      rfl
  · -- the mask of an IPv4 network is shorter than the address
    have h6 : getIPType ipStr = .ipv6 := by rw [hof, getIPType, hcolon]
    obtain ⟨-, -, m, hcan'⟩ | ⟨hcolon', -⟩ := parseCIDR_shape hb
    · have hshort : (cidr e.2).mask.length < ip.length := by
        rw [hcan'.mask_length, parseIP_colon (firstSep_of_ipv6 h6) hip]
        decide
      simp only [h6, reduceCtorEq, if_false, changeIPNetIPV6, graftBytes_short hshort]
      rfl
    · exact absurd (hcolon.trans hcolon'.symm) hsep

theorem changeNet_image (hmatch : Matches ipStr ip e.1) (hdest : (parseCIDR true e.2).isOk = true)
    (hlen : SamePrefix e) (hfamily : SameFamily e) :
    ∃ r, Image e.2 ip r ∧ changeNet ipStr ip (cidr e.1) e.2 = .ok (ipText r) := by
  obtain ⟨b, hb⟩ := parseCIDR_cidr hdest
  obtain ⟨n, k, r, hr, hok⟩ := changeIPNet_grafts (hmatch.2.1.trans hfamily) hmatch.1 hb
  refine ⟨r, image_of_grafts hr, ?_⟩
  unfold SamePrefix at hlen
  simp only [changeNet, hb, hlen, ne_eq, not_true_eq_false, if_false]
  split at hok
  next h4 =>
    rw [if_pos h4, hok]
    rfl
  next h4 =>
    rw [if_neg h4, hok]
    rfl

theorem to16_ownBytes (hip : parseIP true ipStr = some ip) : to16 (ownBytes ipStr ip) = ip := by
  rcases parseIP_family hip with ⟨-, hlen, heq⟩ | ⟨-, hlen, heq⟩
  · rw [to16, if_pos hlen, ← heq]
  · rw [heq, to16, if_neg (by rw [hlen]; decide)]

end Entries

theorem canonical_alike {e : String × String} (hsrc : (parseCIDR true e.1).isOk = true)
    (hdest : (parseCIDR true e.2).isOk = true) (hfamily : SameFamily e) (hlen : SamePrefix e) :
    ∃ n k, (cidr e.1).Canonical n k ∧ (cidr e.2).Canonical n k := by
  obtain ⟨a, ha⟩ := parseCIDR_cidr hsrc
  obtain ⟨b, hb⟩ := parseCIDR_cidr hdest
  have hsize : ∀ {n m k : Nat}, (cidr e.1).Canonical n k → (cidr e.2).Canonical m k →
      ∃ n k, (cidr e.1).Canonical n k ∧ (cidr e.2).Canonical n k := fun {n m k} h h' => by
    unfold SamePrefix at hlen
    rw [size_of_canonical h, size_of_canonical h'] at hlen
    exact ⟨n, k, h, hlen ▸ h'⟩
  unfold SameFamily getIPType at hfamily
  rcases parseCIDR_shape ha with ⟨hsep, -, n, hcan⟩ | ⟨hsep, -, n, hcan⟩ <;>
    rcases parseCIDR_shape hb with ⟨hsep', -, m, hcan'⟩ | ⟨hsep', -, m, hcan'⟩
  · exact hsize hcan hcan'
  · simp [hsep, hsep'] at hfamily
  · simp [hsep, hsep'] at hfamily
  · exact hsize hcan hcan'

theorem image_apart {e : String × String} (hsrc : (parseCIDR true e.1).isOk = true)
    (hdest : (parseCIDR true e.2).isOk = true) (hfamily : SameFamily e) (hlen : SamePrefix e)
    {t₁ t₂ : String} {ip₁ ip₂ r₁ r₂ : IP} (h₁ : LiesIn t₁ ip₁ e.1) (h₂ : LiesIn t₂ ip₂ e.1)
    (hr₁ : Image e.2 ip₁ r₁) (hr₂ : Image e.2 ip₂ r₂) (htext : ipText r₁ = ipText r₂) :
    ip₁ = ip₂ := by
  obtain ⟨n, k, hcan, hcan'⟩ := canonical_alike hsrc hdest hfamily hlen
  unfold Image at hr₁ hr₂
  simp only [hcan'.mask_length, size_of_canonical hcan'] at hr₁ hr₂
  have hlen₁ := hr₁.1.1.trans hcan'.mask_length
  have hlen₂ := hr₂.1.1.trans hcan'.mask_length
  obtain rfl : r₁ = r₂ := ipText_injective (hlen₁ ▸ hcan'.width) (hlen₁.trans hlen₂.symm) htext
  have hbits := hr₁.2.symm.trans hr₂.2
  rw [← to16_ownBytes h₁.1, ← to16_ownBytes h₂.1,
    value_to16_mod n hcan.width (h₁.2.1.trans hcan.mask_length),
    value_to16_mod n hcan.width (h₂.2.1.trans hcan.mask_length)] at hbits
  rw [← to16_ownBytes h₁.1, ← to16_ownBytes h₂.1, holds_injective hcan h₁.2 h₂.2 hbits]

theorem netMap_cases (i : Input) (order : RangeOrder (String × String)) :
    ((∀ e ∈ i.cidrsMap.entries, ¬ Matches i.ipStr i.ip e.1) ∧
      netMap i.ipStr i.cidrsMap order = .ok (ipText i.ip)) ∨
    ∃ e ∈ i.cidrsMap.entries, Matches i.ipStr i.ip e.1 ∧
      netMap i.ipStr i.cidrsMap order = changeNet i.ipStr i.ip (cidr e.1) e.2 := by
  have hmem : ∀ {e}, e ∈ order.visit i.cidrsMap.entries ↔ e ∈ i.cidrsMap.entries :=
    (order.perm _).mem_iff
  have hcases := netMapLoop_cases i.parsed fun e he => i.src e (hmem.mp he)
  simp only [hmem] at hcases
  simpa only [netMap, i.parsed] using hcases

theorem changeNet_unlike {ipStr : String} {ip : IP} {e : String × String}
    (hdest : (parseCIDR true e.2).isOk = true) (hlen : ¬ SamePrefix e) :
    changeNet ipStr ip (cidr e.1) e.2 =
      .error (.err masksDiffer) := by
  obtain ⟨b, hb⟩ := parseCIDR_cidr hdest
  simp only [changeNet, hb]
  exact if_pos hlen

theorem netMap_of_not_matches {i : Input}
    (h : ∀ e ∈ i.cidrsMap.entries, ¬ Matches i.ipStr i.ip e.1) (order) :
    netMap i.ipStr i.cidrsMap order = .ok (ipText i.ip) := by
  rcases netMap_cases i order with ⟨-, hok⟩ | ⟨e, he, hmatch, -⟩
  · exact hok
  · exact absurd hmatch (h e he)

theorem netMap_of_only {i : Input} {e : String × String} (he : e ∈ i.cidrsMap.entries)
    (honly : OnlyIn i e) (hone : OneWriting i.ipStr i.ip e.1) (order) :
    netMap i.ipStr i.cidrsMap order = changeNet i.ipStr i.ip (cidr e.1) e.2 := by
  rcases netMap_cases i order with ⟨hnone, -⟩ | ⟨e', he', hmatch, heq⟩
  · exact absurd ((matches_iff (i.src e he)).mpr ⟨honly.1, hone⟩) (hnone e he)
  · rw [heq, honly.2 e' he' ((matches_iff (i.src e' he')).mp hmatch).1]

theorem image_self_iff {i : Input} {e : String × String} (he : e ∈ i.cidrsMap.entries)
    (hlies : LiesIn i.ipStr i.ip e.1) (hmapped : ¬ OneWriting i.ipStr i.ip e.1)
    (hfamily : SameFamily e) (hlen : SamePrefix e) :
    (∃ r, Image e.2 i.ip r ∧ ipText r = ipText i.ip) ↔ cidr e.1 = cidr e.2 := by
  obtain ⟨n, k, hcan, hcan'⟩ := canonical_alike (i.src e he) (i.dest e he) hfamily hlen
  -- the address is an IPv6 one
  obtain ⟨hlong, hown⟩ : i.ip.length = 16 ∧ ownBytes i.ipStr i.ip = i.ip := by
    rcases parseIP_family i.parsed with ⟨-, hshort, -⟩ | ⟨-, hlong, hown⟩
    · refine absurd (iff_of_false (fun h => ?_) fun h => ?_) hmapped
      · exact absurd (hshort.symm.trans h.1) (by decide)
      · have hwidth := hcan.ip_length.symm.trans h.1
        rw [← hcan.mask_length, ← hlies.2.1, hshort] at hwidth
        cases hwidth
    · exact ⟨hlong, hown⟩
  have hholds := hlies.2
  rw [hown] at hholds
  have hwidth : k = 16 := by rw [← hcan.mask_length, ← hholds.1, hlong]
  constructor
  · rintro ⟨r, hr, htext⟩
    have hrlen : r.length = 16 := by rw [hr.1.1, hcan'.mask_length, hwidth]
    obtain rfl : r = i.ip := ipText_injective (Or.inr hrlen) (hrlen.trans hlong.symm) htext
    have hmask : (cidr e.1).mask = (cidr e.2).mask := hcan.mask_eq.trans hcan'.mask_eq.symm
    have hip : (cidr e.1).ip = (cidr e.2).ip := by
      rw [← hholds.2, hmask, hr.1.2]
    cases h1 : cidr e.1
    cases h2 : cidr e.2
    rw [h1, h2] at hmask hip
    exact congr (congrArg IPNet.mk hip) hmask
  · intro heq
    exact ⟨i.ip, ⟨heq ▸ hholds, rfl⟩, rfl⟩

/-- `NetMap` is right exactly if it finds the address in no network mapped across families, and
misses none. -/
theorem netMap_right_iff (i : Input) :
    Right i ↔ ∀ e ∈ i.cidrsMap.entries, LiesIn i.ipStr i.ip e.1 →
      (OneWriting i.ipStr i.ip e.1 → SamePrefix e → SameFamily e) ∧
      (¬ OneWriting i.ipStr i.ip e.1 → OnlyIn i e →
        SamePrefix e ∧ SameFamily e ∧ cidr e.1 = cidr e.2) := by
  have hfound : ∀ e ∈ i.cidrsMap.entries, Matches i.ipStr i.ip e.1 ↔
      LiesIn i.ipStr i.ip e.1 ∧ OneWriting i.ipStr i.ip e.1 := fun e he => matches_iff (i.src e he)
  have hlost : ∀ e, OnlyIn i e → ¬ OneWriting i.ipStr i.ip e.1 → ∀ order,
      netMap i.ipStr i.cidrsMap order = .ok (ipText i.ip) := by
    intro e honly hmapped order
    refine netMap_of_not_matches (fun e' he' hmatch => ?_) order
    obtain ⟨hlies, hone⟩ := (hfound e' he').mp hmatch
    rw [honly.2 e' he' hlies] at hone
    exact hmapped hone
  constructor
  · intro h e he hlies
    refine ⟨fun hone hlen => ?_, fun hmapped honly => ?_⟩
    · -- the entry may be visited first
      by_contra hfamily
      have hmatch := (hfound e he).mpr ⟨hlies, hone⟩
      obtain ⟨order, horder⟩ := RangeOrder.exists_visit (List.perm_cons_erase he).symm
      refine h.noPanic order .indexOutOfRange ?_
      rw [netMap, i.parsed]
      dsimp only
      rw [horder, netMapLoop_cons i.parsed (i.src e he), if_pos hmatch]
      exact changeNet_panics hmatch (i.src e he) (i.dest e he) hlen hfamily
    · have hself := hlost e honly hmapped .asWritten
      by_cases halike : SameFamily e ∧ SamePrefix e
      · obtain ⟨r, hr, hok⟩ := h.alike e he honly halike.1 halike.2
        have htext := (hok .asWritten).symm.trans hself
        exact ⟨halike.2, halike.1, (image_self_iff he hlies hmapped halike.1 halike.2).mp
          ⟨r, hr, Except.ok.inj htext⟩⟩
      · obtain ⟨msg, herr⟩ := h.unlike e he honly halike
        cases (herr .asWritten).symm.trans hself
  · intro h
    refine ⟨fun order p => ?_, fun hnone => ?_, fun e he honly hunlike => ?_,
      fun e he honly hfamily hlen => ?_, fun e he hfamily hlen _ _ _ _ _ _ h₁ h₂ hr₁ hr₂ =>
        image_apart (i.src e he) (i.dest e he) hfamily hlen h₁ h₂ hr₁ hr₂⟩
    · rcases netMap_cases i order with ⟨-, hok⟩ | ⟨e, he, hmatch, heq⟩
      · rw [hok]
        exact nofun
      · obtain ⟨hlies, hone⟩ := (hfound e he).mp hmatch
        rw [heq]
        by_cases hlen : SamePrefix e
        · obtain ⟨r, -, hok⟩ := changeNet_image hmatch (i.dest e he) hlen
            ((h e he hlies).1 hone hlen)
          rw [hok]
          exact nofun
        · rw [changeNet_unlike (i.dest e he) hlen]
          exact nofun
    · exact netMap_of_not_matches fun e he hmatch => hnone e he ((hfound e he).mp hmatch).1
    · by_cases hone : OneWriting i.ipStr i.ip e.1
      · refine ⟨masksDiffer, fun order => ?_⟩
        rw [netMap_of_only he honly hone]
        exact changeNet_unlike (i.dest e he) fun hlen =>
          hunlike ⟨(h e he honly.1).1 hone hlen, hlen⟩
      · obtain ⟨hlen, hfamily, -⟩ := (h e he honly.1).2 hone honly
        exact absurd ⟨hfamily, hlen⟩ hunlike
    · by_cases hone : OneWriting i.ipStr i.ip e.1
      · obtain ⟨r, hr, hok⟩ := changeNet_image ((hfound e he).mpr ⟨honly.1, hone⟩) (i.dest e he)
          hlen hfamily
        exact ⟨r, hr, fun order => (netMap_of_only he honly hone order).trans hok⟩
      · obtain ⟨r, hr, htext⟩ := (image_self_iff he honly.1 hone hfamily hlen).mpr
          ((h e he honly.1).2 hone honly).2.2
        exact ⟨r, hr, fun order => (hlost e honly hone order).trans (by rw [htext])⟩

def acrossFamilies : Input where
  ipStr := "10.0.0.1"
  cidrsMap := GoMap.empty.set "10.0.0.0/8" "fd00::/8"
  ip := ipv4 [10, 0, 0, 1]
  parsed := by decide
  src := by decide
  dest := by decide

def mappedAddress : Input where
  ipStr := "::ffff:10.0.0.1"
  cidrsMap := GoMap.empty.set "::/8" "fd00::/8"
  ip := ipv4 [10, 0, 0, 1]
  parsed := by decide
  src := by decide
  dest := by decide

theorem acrossFamilies_mappedAddress_wrong :
    (¬ Right acrossFamilies ∧ netMap acrossFamilies.ipStr acrossFamilies.cidrsMap .asWritten =
      .error (.panic .indexOutOfRange)) ∧
    ¬ Right mappedAddress ∧ netMap mappedAddress.ipStr mappedAddress.cidrsMap .asWritten =
      .ok "10.0.0.1" := by
  have hpanics : netMap acrossFamilies.ipStr acrossFamilies.cidrsMap .asWritten =
      .error (.panic .indexOutOfRange) := by decide +kernel
  have hstays : netMap mappedAddress.ipStr mappedAddress.cidrsMap .asWritten = .ok "10.0.0.1" := by
    decide +kernel
  refine ⟨⟨fun h => h.noPanic _ _ hpanics, hpanics⟩, fun h => ?_, hstays⟩
  have hentry : ("::/8", "fd00::/8") ∈ mappedAddress.cidrsMap.entries := by decide
  have honly : OnlyIn mappedAddress ("::/8", "fd00::/8") :=
    ⟨by decide +kernel, by decide +kernel⟩
  obtain ⟨r, hr, hok⟩ := h.alike _ hentry honly rfl rfl
  have hmapped : ¬ OneWriting mappedAddress.ipStr mappedAddress.ip "::/8" := by
    unfold OneWriting
    decide +kernel
  have heq := (image_self_iff hentry honly.1 hmapped rfl rfl).mp
    ⟨r, hr, Except.ok.inj ((hok .asWritten).symm.trans hstays)⟩
  exact absurd (congrArg IPNet.ip heq) (by decide +kernel)

end Kosmos.NetMap
