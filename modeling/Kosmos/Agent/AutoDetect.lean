import Kosmos.Go.Store
import Kosmos.Go.Strings

/-!
# The interface of a node: `GetInterfaceName`

The first policy that lists the node decides, but `ContainsString` also finds a node whose name is a
*part* of a listed one; `lookupExact_iff` says when that does not show.
-/

namespace Kosmos.Agent

open Kosmos.Go

structure NICNodeNames where
  interfaceName : String
  nodeName : List String
  deriving DecidableEq

def containsString (arr : List String) (s : String) : Bool := arr.any fun str => contains str s

def getInterfaceName : List NICNodeNames → String → String → String
  | [], _, defaultInterfaceName => defaultInterfaceName
  | policy :: policies, nodeName, defaultInterfaceName =>
    if policy.nodeName.length > 0 ∧ containsString policy.nodeName nodeName = true then
      policy.interfaceName
    else getInterfaceName policies nodeName defaultInterfaceName

def exactInterfaceName (policies : List NICNodeNames) (nodeName defaultInterfaceName : String) :
    String :=
  ((policies.find? fun p => nodeName ∈ p.nodeName).map NICNodeNames.interfaceName).getD
    defaultInterfaceName

def DisjointNodes (policies : List NICNodeNames) : Prop :=
  policies.Pairwise fun p q => ∀ n ∈ p.nodeName, n ∉ q.nodeName

/-- The policy that names the node decides, in any order, and else the default. -/
structure LookupExact (policies : List NICNodeNames) (nodeName defaultInterfaceName : String) :
    Prop where
  exact : getInterfaceName policies nodeName defaultInterfaceName =
    exactInterfaceName policies nodeName defaultInterfaceName
  order : DisjointNodes policies → ∀ policies', policies'.Perm policies →
    getInterfaceName policies' nodeName defaultInterfaceName =
      getInterfaceName policies nodeName defaultInterfaceName

def NICNodeNames.mentions (p : NICNodeNames) (nodeName : String) : Bool :=
  containsString p.nodeName nodeName

variable {policies policies' : List NICNodeNames} {p q : NICNodeNames}
  {nodeName defaultInterfaceName : String}

theorem mentions_iff : p.mentions nodeName = true ↔
    ∃ n ∈ p.nodeName, nodeName.toList <:+: n.toList := by
  simp [NICNodeNames.mentions, containsString, contains_iff]

theorem mentions_of_mem (h : nodeName ∈ p.nodeName) : p.mentions nodeName = true :=
  mentions_iff.mpr ⟨nodeName, h, List.infix_refl _⟩

theorem getInterfaceName_eq : getInterfaceName policies nodeName defaultInterfaceName =
    ((policies.find? fun p => p.mentions nodeName).map NICNodeNames.interfaceName).getD
      defaultInterfaceName := by
  induction policies with
  | nil => rfl
  | cons p policies ih =>
    rw [getInterfaceName, List.find?_cons]
    cases h : p.mentions nodeName with
    | true =>
      obtain ⟨n, hn, -⟩ := mentions_iff.mp h
      rw [if_pos ⟨List.length_pos_of_mem hn, h⟩]
      rfl
    | false =>
      have hnot : ¬ (p.nodeName.length > 0 ∧ containsString p.nodeName nodeName = true) := by
        intro hlisted
        rw [NICNodeNames.mentions, hlisted.2] at h
        cases h
      rw [if_neg hnot, ih]

theorem exactInterfaceName_of_mem
    (hfind : policies.find? (fun p => p.mentions nodeName) = some p)
    (hmem : nodeName ∈ p.nodeName) :
    exactInterfaceName policies nodeName defaultInterfaceName = p.interfaceName := by
  obtain ⟨-, pre, post, rfl, hpre⟩ := List.find?_eq_some_iff_append.mp hfind
  have hfirst : (pre ++ p :: post).find? (fun p => decide (nodeName ∈ p.nodeName)) = some p := by
    refine List.find?_eq_some_iff_append.mpr ⟨decide_eq_true hmem, pre, post, rfl, ?_⟩
    intro q hq
    have hnot := hpre q hq
    rw [Bool.not_eq_true'] at hnot ⊢
    refine decide_eq_false fun hin => ?_
    rw [mentions_of_mem hin] at hnot
    cases hnot
  rw [exactInterfaceName, hfirst]
  rfl

theorem exact_iff :
    getInterfaceName policies nodeName defaultInterfaceName =
        exactInterfaceName policies nodeName defaultInterfaceName ↔
      ∀ p, policies.find? (fun p => p.mentions nodeName) = some p →
        nodeName ∈ p.nodeName ∨
          p.interfaceName = exactInterfaceName policies nodeName defaultInterfaceName := by
  rw [getInterfaceName_eq]
  cases hfind : policies.find? fun p => p.mentions nodeName with
  | none =>
    refine iff_of_true ?_ fun p hp => nomatch hp
    have hnone : policies.find? (fun p => decide (nodeName ∈ p.nodeName)) = none := by
      rw [List.find?_eq_none] at hfind ⊢
      intro q hq hin
      exact hfind q hq (mentions_of_mem (of_decide_eq_true hin))
    rw [exactInterfaceName, hnone]
  | some p =>
    simp only [Option.map_some, Option.getD_some, Option.some.injEq, forall_eq']
    constructor
    · exact Or.inr
    · rintro (hmem | hsame)
      · exact (exactInterfaceName_of_mem hfind hmem).symm
      · exact hsame

theorem order_iff :
    (∀ policies', policies'.Perm policies →
        getInterfaceName policies' nodeName defaultInterfaceName =
          getInterfaceName policies nodeName defaultInterfaceName) ↔
      ∀ p ∈ policies, ∀ q ∈ policies, p.mentions nodeName = true → q.mentions nodeName = true →
        p.interfaceName = q.interfaceName := by
  constructor
  · intro h
    have hfirst : ∀ p ∈ policies, p.mentions nodeName = true →
        getInterfaceName policies nodeName defaultInterfaceName = p.interfaceName := by
      intro p hp hmentions
      rw [← h _ (List.perm_cons_erase hp).symm, getInterfaceName_eq, List.find?_cons, hmentions]
      rfl
    intro p hp q hq hmp hmq
    rw [← hfirst p hp hmp, hfirst q hq hmq]
  · intro h policies' hperm
    rw [getInterfaceName_eq, getInterfaceName_eq, map_find?_perm hperm.symm h]

/-- The lookup is exact if and only if the policies in which the name of the node occurs list the
node or agree. -/
theorem lookupExact_iff (policies : List NICNodeNames) (nodeName defaultInterfaceName : String) :
    LookupExact policies nodeName defaultInterfaceName ↔
      (∀ p, policies.find? (fun p => p.mentions nodeName) = some p →
        nodeName ∈ p.nodeName ∨
          p.interfaceName = exactInterfaceName policies nodeName defaultInterfaceName) ∧
      (DisjointNodes policies → ∀ p ∈ policies, ∀ q ∈ policies, p.mentions nodeName = true →
        q.mentions nodeName = true → p.interfaceName = q.interfaceName) := by
  constructor
  · exact fun h => ⟨exact_iff.mp h.exact, fun hdisjoint => order_iff.mp (h.order hdisjoint)⟩
  · exact fun h => ⟨exact_iff.mpr h.1, fun hdisjoint => order_iff.mpr (h.2 hdisjoint)⟩

def partNames : List NICNodeNames := [⟨"eth0", ["node10"]⟩, ⟨"eth1", ["node1"]⟩]

theorem partNames_lookup :
    DisjointNodes partNames ∧ getInterfaceName partNames "node1" "eth2" = "eth0" ∧
      exactInterfaceName partNames "node1" "eth2" = "eth1" ∧
      getInterfaceName partNames.reverse "node1" "eth2" = "eth1" := by
  refine ⟨?_, by decide, by decide, by decide⟩
  unfold DisjointNodes partNames
  decide

end Kosmos.Agent
