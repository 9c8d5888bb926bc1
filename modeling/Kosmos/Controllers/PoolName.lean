import Kosmos.Controllers.CalicoIPPool

/-!
# Names of external pools

A name joins prefix, cluster, type and CIDR by dashes; type and cluster are read back by looking for
the type's word.
-/

namespace Kosmos.Controllers

open Kosmos.Go Kosmos.Go.Net

/-- A CIDR as `IPNet.String` prints it. -/
def CanonicalCIDR (c : String) : Prop :=
  ∃ ip net, parseCIDR true c = .ok (ip, net) ∧ netText net = c

def nameSuffix (ip : String) : String :=
  replaceAll (replaceAll (replaceAll ip '.' '-') ':' '-') '/' '-'

theorem CanonicalCIDR.not_mem_nameSuffix {c : String} {x : Char} (h : CanonicalCIDR c)
    (hx : Foreign x) (hslash : x ≠ '/') (hdash : x ≠ '-') : x ∉ (nameSuffix c).toList := by
  obtain ⟨ip, net, hparse, htext⟩ := h
  have hcanonical : ∃ n k, net.Canonical n k := by
    rcases parseCIDR_shape hparse with ⟨-, -, n, hn⟩ | ⟨-, -, n, hn⟩
    · exact ⟨n, 4, hn⟩
    · exact ⟨n, 16, hn⟩
  obtain ⟨n, k, hn⟩ := hcanonical
  have hmem : x ∉ c.toList := htext ▸ hx.not_mem_netText hslash hn
  exact not_mem_replaceAll hdash (not_mem_replaceAll hdash (not_mem_replaceAll hdash hmem))

section Name

variable {cluster ipType word c : String} {x : Char} {rest : List Char}

theorem poolName_toList : (ExternalClusterIPPool.mk cluster ipType c).poolName.toList =
    externalIPPoolNamePrefix.toList ++ '-' :: (cluster.toList ++ '-' :: (ipType.toList ++
      '-' :: (nameSuffix c).toList)) := by
  simp [ExternalClusterIPPool.poolName, genCalicoIPPoolName, nameSuffix]

theorem getClusterName_poolName (hword : word.toList = x :: rest) (hrest : x ∉ rest)
    (hdash : x ≠ '-') (hsuffix : x ∉ (nameSuffix c).toList) :
    getClusterName (ExternalClusterIPPool.mk cluster word c).poolName word = .ok cluster := by
  let pre := externalIPPoolNamePrefix.toList ++ '-' :: (cluster.toList ++ ['-'])
  have hlen : pre.length = cluster.toList.length + 13 := by
    simp [pre, externalIPPoolNamePrefix]
  have hname : (ExternalClusterIPPool.mk cluster word c).poolName.toList =
      pre ++ (x :: rest ++ '-' :: (nameSuffix c).toList) := by
    rw [poolName_toList, hword]
    simp [pre]
  have hbehind : x ∉ rest ++ '-' :: (nameSuffix c).toList := by
    simp [hrest, hdash, hsuffix]
  have hindex : lastIndex (ExternalClusterIPPool.mk cluster word c).poolName word
      = (cluster.toList.length + 13 : Nat) := by
    rw [lastIndex, hword, hname, lastIndexFrom_append hbehind, Nat.zero_add, hlen]
  have hcut : ((pre ++ (x :: rest ++ '-' :: (nameSuffix c).toList)).take
      (cluster.toList.length + 12)).drop 12 = cluster.toList := by
    have hpre : pre = (externalIPPoolNamePrefix.toList ++ ['-']) ++ cluster.toList ++ ['-'] := by
      simp [pre]
    rw [hpre, List.append_assoc, List.take_left' (by simp [externalIPPoolNamePrefix])]
    exact List.drop_left' rfl
  rw [getClusterName, hindex, if_neg (by omega)]
  have hstop : ((cluster.toList.length + 13 : Nat) - 1 : Int).toNat =
      cluster.toList.length + 12 := by
    omega
  have hstart : externalIPPoolNamePrefix.toList.length + 1 = 12 := rfl
  rw [hstop, hstart, slice, hname, if_pos (by simp only [List.length_append, hlen]; omega), hcut,
    String.ofList_toList]

end Name

theorem contains_poolName_pod {cluster c : String} (h : 's' ∉ (nameSuffix c).toList) :
    contains (ExternalClusterIPPool.mk cluster podIPType c).poolName "service" =
      contains cluster "service" := by
  have hdash : '-' ∉ "service".toList := by decide
  have hword : ¬ "service".toList <:+: podIPType.toList := by decide
  have hstart : ¬ "service".toList <:+: externalIPPoolNamePrefix.toList := by decide
  have hsuffix : ¬ "service".toList <:+: (nameSuffix c).toList := fun hin =>
    h (hin.subset (by decide))
  rw [Bool.eq_iff_iff, contains_iff, contains_iff, poolName_toList, infix_append_cons_iff hdash,
    infix_append_cons_iff hdash, infix_append_cons_iff hdash]
  simp only [hword, hstart, hsuffix, false_or, or_false]

theorem contains_poolName_service {cluster c : String} :
    contains (ExternalClusterIPPool.mk cluster serviceIPType c).poolName "service" = true := by
  have hdash : '-' ∉ "service".toList := by decide
  rw [contains_iff, poolName_toList, infix_append_cons_iff hdash, infix_append_cons_iff hdash,
    infix_append_cons_iff hdash]
  exact Or.inr (Or.inr (Or.inl List.infix_rfl))

theorem foreign_s : Foreign 's' := ⟨by decide, by decide, by decide, by decide⟩
theorem foreign_p : Foreign 'p' := ⟨by decide, by decide, by decide, by decide⟩

theorem decodes_iff {cluster ipType c : String} (hc : CanonicalCIDR c)
    (ht : ipType = podIPType ∨ ipType = serviceIPType) :
    (ExternalClusterIPPool.mk cluster ipType c).Decodes ↔
      ipType = serviceIPType ∨ contains cluster "service" = false := by
  have hs : 's' ∉ (nameSuffix c).toList :=
    hc.not_mem_nameSuffix foreign_s (by decide) (by decide)
  have hp : 'p' ∉ (nameSuffix c).toList :=
    hc.not_mem_nameSuffix foreign_p (by decide) (by decide)
  rcases ht with rfl | rfl
  · have htype : getIPType (ExternalClusterIPPool.mk cluster podIPType c).poolName =
        if contains cluster "service" then serviceIPType else podIPType := by
      rw [getIPType, contains_poolName_pod hs]
    constructor
    · intro h
      cases hservice : contains cluster "service" with
      | false => exact Or.inr rfl
      | true =>
        have hread := h.ipType
        rw [htype, hservice, if_pos rfl] at hread
        exact Or.inl hread.symm
    · rintro (hword | hservice)
      · exact absurd hword (by decide)
      · rw [hservice, if_neg Bool.false_ne_true] at htype
        refine ⟨htype, ?_⟩
        rw [htype]
        exact getClusterName_poolName rfl (by decide) (by decide) hp
  · have htype : getIPType (ExternalClusterIPPool.mk cluster serviceIPType c).poolName =
        serviceIPType := by
      rw [getIPType, contains_poolName_service, if_pos rfl]
    refine iff_of_true ⟨htype, ?_⟩ (Or.inl rfl)
    rw [htype]
    exact getClusterName_poolName rfl (by decide) (by decide) hs

theorem lastIndexFrom_external {t word : String} (hword : word = podIPType ∨ word = serviceIPType) :
    lastIndexFrom word.toList 0 (externalIPPoolNamePrefix ++ t).toList =
      lastIndexFrom word.toList 11 t.toList := by
  have hlist : (externalIPPoolNamePrefix ++ t).toList =
      'c' :: 'l' :: 'u' :: 's' :: 't' :: 'e' :: 'r' :: 'l' :: 'i' :: 'n' :: 'k' :: t.toList := by
    rw [String.toList_append]
    rfl
  rw [hlist]
  rcases hword with rfl | rfl
  · repeat rw [lastIndexFrom_cons_of_not (by rfl)]
  · repeat rw [lastIndexFrom_cons_of_not (by rfl)]

theorem getClusterName_ok_iff {name word : String} (hext : External name)
    (hword : word = podIPType ∨ word = serviceIPType) :
    (∃ cluster, getClusterName name word = .ok cluster) ↔
      lastIndex name word ≠ 11 ∧ lastIndex name word ≠ 12 := by
  obtain ⟨t, rfl⟩ := hasPrefix_iff.mp hext
  have hstart : externalIPPoolNamePrefix.toList.length + 1 = 12 := rfl
  have hlen : (externalIPPoolNamePrefix ++ t).toList.length = 11 + t.toList.length := by
    rw [String.toList_append, List.length_append]
    rfl
  rw [getClusterName, lastIndex, lastIndexFrom_external hword, hstart]
  cases hfound : lastIndexFrom word.toList 11 t.toList with
  | none => simp
  | some j =>
    obtain ⟨hlow, hhigh⟩ := lastIndexFrom_bounds hfound
    have hstop : ((j : Int) - 1).toNat = j - 1 := by omega
    dsimp only
    rw [if_neg (by omega), hstop, slice, hlen]
    by_cases hback : 12 ≤ j - 1
    · rw [if_pos ⟨hback, by omega⟩]
      exact iff_of_true ⟨_, rfl⟩ ⟨by omega, by omega⟩
    · rw [if_neg fun h => hback h.1]
      refine iff_of_false ?_ ?_
      · rintro ⟨cluster, hpanic⟩
        cases hpanic
      · omega

theorem getIPType_cases (name : String) :
    getIPType name = podIPType ∨ getIPType name = serviceIPType := by
  unfold getIPType
  split
  · exact Or.inr rfl
  · exact Or.inl rfl

/-- The codec of pool names: when a name gives its type and cluster back, and when decoding one does
not panic. -/
theorem poolName_decodes_iff_and_decoded_iff (cluster name : String) {ipType c : String}
    (hc : CanonicalCIDR c) (ht : ipType = podIPType ∨ ipType = serviceIPType)
    (hext : External name) :
    ((ExternalClusterIPPool.mk cluster ipType c).Decodes ↔
      ipType = serviceIPType ∨ contains cluster "service" = false) ∧
    ((∃ cn, getClusterName name (getIPType name) = .ok cn) ↔
      lastIndex name (getIPType name) ≠ 11 ∧ lastIndex name (getIPType name) ≠ 12) :=
  ⟨decodes_iff hc ht, getClusterName_ok_iff hext (getIPType_cases name)⟩

theorem canonicalCIDR_ten : CanonicalCIDR "10.0.0.0/16" := ⟨_, _, rfl, by decide⟩

theorem poolName_service_a :
    CanonicalCIDR "10.0.0.0/16" ∧
    getIPType (genCalicoIPPoolName "service-a" podIPType "10.0.0.0/16") = serviceIPType ∧
    getClusterName (genCalicoIPPoolName "service-a" podIPType "10.0.0.0/16") serviceIPType =
      .error (.panic .indexOutOfRange) :=
  ⟨canonicalCIDR_ten, by decide, by decide⟩

theorem poolName_c1 :
    (ExternalClusterIPPool.mk "c1" podIPType "10.0.0.0/16").Decodes ∧
    ∃ cn, getClusterName "clusterlink-c1-pod-x" (getIPType "clusterlink-c1-pod-x") = .ok cn := by
  have h := poolName_decodes_iff_and_decoded_iff "c1" "clusterlink-c1-pod-x"
    canonicalCIDR_ten (Or.inl rfl) (by decide)
  exact ⟨h.1.mpr (Or.inr (by decide)), h.2.mpr (by decide)⟩

end Kosmos.Controllers
