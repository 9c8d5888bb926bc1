import Kosmos.Scheduler.Distribution
import Kosmos.Tree.Capacity

/-!
# What resource selectors mean

A name goes before a label selector, which selects what meets all its parts.
-/

namespace Kosmos.Distribution

open Go Kosmos.Tree

structure Selector extends ResourceSelector where
  matchExpressions : List LabelSelectorRequirement := []
  absent : labelSelector = none → matchExpressions = [] := by simp

def Selector.selects (s : Selector) (labels : GoMap String String) : Bool :=
  s.labelSelector.any fun matchLabels =>
    selectorMatches matchLabels labels &&
      s.matchExpressions.all fun r => r.valid && r.matches labels

structure Policy where
  resourceSelectors : List Selector
  policyTerms : List PolicyTerm

def Policy.spec (policy : Policy) : DistributionSpec :=
  ⟨policy.resourceSelectors.map Selector.toResourceSelector, policy.policyTerms⟩

section Meaning

variable (pod : Pod) (s : Selector)

def LabelMatch : Prop := s.name = "" ∧ s.selects pod.labels = true

def NamePrefixMatch : Prop := s.namePrefix ≠ "" ∧ s.namePrefix.toList <+: pod.name.toList

def NameMatch : Prop := s.name ≠ "" ∧ s.name = pod.name

instance : Decidable (LabelMatch pod s) :=
  inferInstanceAs (Decidable (s.name = "" ∧ s.selects pod.labels = true))

instance : Decidable (NamePrefixMatch pod s) :=
  inferInstanceAs (Decidable (s.namePrefix ≠ "" ∧ s.namePrefix.toList <+: pod.name.toList))

instance : Decidable (NameMatch pod s) :=
  inferInstanceAs (Decidable (s.name ≠ "" ∧ s.name = pod.name))

def meantScope (scopes : Scopes) : Nat :=
  if NameMatch pod s then scopes.name
  else if NamePrefixMatch pod s then scopes.namePrefix
  else if LabelMatch pod s then scopes.label
  else noneScope

/-- The selector is counted in the three ways as it should. -/
structure CountedRight : Prop where
  label : meetsLabel pod s.toResourceSelector = true ↔ LabelMatch pod s
  namePrefix : meetsNamePrefix pod s.toResourceSelector = true ↔ NamePrefixMatch pod s
  name : meetsName pod s.toResourceSelector = true ↔ NameMatch pod s

end Meaning

/-- The match has the highest scope, and the policy of the last one with it. -/
structure HighestLast (scope : Selector → Nat) (selectors : List Selector) (m : Match) :
    Prop where
  highest : ∀ s ∈ selectors, scope s ≤ m.priority
  none : m.priority = noneScope → m.policyName = ""
  last : m.priority ≠ noneScope → ∃ before s after, selectors = before ++ s :: after ∧
    scope s = m.priority ∧ s.policyName = m.policyName ∧ ∀ s' ∈ after, scope s' ≠ m.priority

/-- Both matchers are right for a pod and a policy. -/
structure SelectorsRight (pod : Pod) (policy : Policy) : Prop where
  counted : ∀ s ∈ policy.resourceSelectors, CountedRight pod s
  namespaced : HighestLast (meantScope pod · nsScopes) policy.resourceSelectors
    (matchDistributionPolicy pod ⟨pod.ns, policy.spec⟩)
  clusterWide : HighestLast (meantScope pod · clusterScopes) policy.resourceSelectors
    (matchClusterDistributionPolicy pod ⟨policy.spec⟩)

variable {pod : Pod} {s : Selector}

theorem meetsNamePrefix_iff :
    meetsNamePrefix pod s.toResourceSelector = true ↔ NamePrefixMatch pod s := by
  unfold meetsNamePrefix NamePrefixMatch hasPrefix
  simp

theorem meetsName_iff : meetsName pod s.toResourceSelector = true ↔ NameMatch pod s := by
  unfold meetsName NameMatch
  rw [Bool.and_eq_true, decide_eq_true_eq, decide_eq_true_eq, eq_comm (a := pod.name)]

theorem countedRight_iff :
    CountedRight pod s ↔ (meetsLabel pod s.toResourceSelector = true ↔ LabelMatch pod s) :=
  ⟨CountedRight.label, fun h => ⟨h, meetsNamePrefix_iff, meetsName_iff⟩⟩

theorem CountedRight.scopeOf_eq (h : CountedRight pod s) (scopes : Scopes) :
    scopeOf scopes pod s.toResourceSelector = meantScope pod s scopes := by
  unfold scopeOf meantScope
  simp only [h.label, h.namePrefix, h.name]

theorem highestLast_foldl (scopes : Scopes) (pod : Pod) (policies : List PolicyTerm)
    (selectors : List Selector) :
    HighestLast (fun s => scopeOf scopes pod s.toResourceSelector) selectors
      ((selectors.map Selector.toResourceSelector).foldl
        (matchSelector scopes pod policies) {}) := by
  induction selectors using List.reverseRecOn with
  | nil => exact ⟨List.forall_mem_nil _, fun _ => rfl, fun h => absurd rfl h⟩
  | append_singleton selectors s ih =>
    rw [List.map_append, List.foldl_append, List.map_singleton, List.foldl_cons, List.foldl_nil,
      matchSelector_eq]
    generalize (selectors.map Selector.toResourceSelector).foldl
      (matchSelector scopes pod policies) {} = best at ih
    split
    next htake =>
      refine ⟨?_, fun h => absurd h htake.1, fun _ => ?_⟩
      · rw [List.forall_mem_append, List.forall_mem_singleton]
        exact ⟨fun s' hs' => (ih.highest s' hs').trans htake.2, le_refl _⟩
      · exact ⟨selectors, s, [], rfl, rfl, rfl, List.forall_mem_nil _⟩
    next hleave =>
      have hlower : scopeOf scopes pod s.toResourceSelector = noneScope ∨
          scopeOf scopes pod s.toResourceSelector < best.priority := by
        rw [not_and_or, not_not, not_le] at hleave
        exact hleave
      have hle : scopeOf scopes pod s.toResourceSelector ≤ best.priority := by
        unfold noneScope at hlower
        omega
      refine ⟨?_, ih.none, fun hsome => ?_⟩
      · rw [List.forall_mem_append, List.forall_mem_singleton]
        exact ⟨ih.highest, hle⟩
      · obtain ⟨before, s', after, hsplit, hscope, hname, hafter⟩ := ih.last hsome
        refine ⟨before, s', after ++ [s], by rw [hsplit]; simp, hscope, hname, ?_⟩
        rw [List.forall_mem_append, List.forall_mem_singleton]
        refine ⟨hafter, ?_⟩
        rcases hlower with hnone | hlt
        · exact fun heq => hsome (heq.symm.trans hnone)
        · exact Nat.ne_of_lt hlt

theorem HighestLast.congr {scope scope' : Selector → Nat} {selectors : List Selector} {m : Match}
    (h : HighestLast scope selectors m) (heq : ∀ s ∈ selectors, scope s = scope' s) :
    HighestLast scope' selectors m where
  highest s hs := heq s hs ▸ h.highest s hs
  none := h.none
  last hsome := by
    obtain ⟨before, s, after, hsplit, hscope, hname, hafter⟩ := h.last hsome
    have hmem : ∀ s' ∈ s :: after, s' ∈ selectors := fun s' hs' =>
      hsplit ▸ List.mem_append_right before hs'
    refine ⟨before, s, after, hsplit, ?_, hname, fun s' hs' => ?_⟩
    · rw [← heq s (hmem s List.mem_cons_self)]
      exact hscope
    · rw [← heq s' (hmem s' (List.mem_cons_of_mem s hs'))]
      exact hafter s' hs'

/-- The matchers mean what the API says exactly if one shared label tells what the selector tells.
-/
theorem selectorsRight_iff (pod : Pod) (policy : Policy) :
    SelectorsRight pod policy ↔
      ∀ s ∈ policy.resourceSelectors,
        (∃ matchLabels, s.labelSelector = some matchLabels ∧
          ∃ e ∈ matchLabels.entries, pod.labels.get? e.1 = some e.2) ↔
        s.name = "" ∧ s.selects pod.labels = true := by
  have hmeets : ∀ s : Selector, (meetsLabel pod s.toResourceSelector = true ↔
      ∃ matchLabels, s.labelSelector = some matchLabels ∧
        ∃ e ∈ matchLabels.entries, pod.labels.get? e.1 = some e.2) := by
    intro s
    unfold meetsLabel mapContains
    cases s.labelSelector with
    | none => simp
    | some matchLabels => simp
  constructor
  · intro h s hs
    rw [← hmeets]
    exact (h.counted s hs).label
  · intro h
    have hcounted : ∀ s ∈ policy.resourceSelectors, CountedRight pod s := fun s hs =>
      countedRight_iff.mpr ((hmeets s).trans (h s hs))
    have hspec : ∀ scopes, HighestLast (meantScope pod · scopes) policy.resourceSelectors
        (matchSpec scopes pod policy.spec) := fun scopes =>
      (highestLast_foldl scopes pod policy.policyTerms policy.resourceSelectors).congr
        fun s hs => (hcounted s hs).scopeOf_eq scopes
    refine ⟨hcounted, ?_, hspec clusterScopes⟩
    rw [matchDistributionPolicy, if_neg (not_not.mpr rfl)]
    exact hspec nsScopes

def frontPod : Pod := { name := "web-0", ns := "default", labels := GoMap.empty.set "app" "web" }

def webDatabases : Selector where
  policyName := "databases"
  labelSelector := some ((GoMap.empty.set "app" "web").set "tier" "db")

theorem webDatabases_taken :
    meetsLabel frontPod webDatabases.toResourceSelector = true ∧
      ¬ LabelMatch frontPod webDatabases ∧
      (matchDistributionPolicy frontPod
        ⟨frontPod.ns, Policy.spec ⟨[webDatabases], []⟩⟩).policyName = "databases" ∧
      ¬ SelectorsRight frontPod ⟨[webDatabases], []⟩ := by
  refine ⟨by decide, by decide, by decide, fun h => ?_⟩
  have hlabel := (h.counted webDatabases (List.mem_singleton_self _)).label.mp (by decide)
  revert hlabel
  decide

end Kosmos.Distribution
