import Kosmos.Api.Types
import Kosmos.Go.Strings

/-!
# Distribution policies: the filter of `LeafNodeDistribution`

Selectors meet a pod by name, by prefix or by label; the one of the highest scope should decide.

`mapContains` asks for one of the `matchLabels` and reads no expressions.
-/

namespace Kosmos.Distribution

open Kosmos.Go
open Kosmos.Api (kosmosNodeLabel)

/-! ## Policies -/

inductive NodeType where
  | host
  | leaf
  | mix
  | adv
  deriving DecidableEq

structure Toleration where
  key : String
  value : String
  effect : String
  deriving DecidableEq

structure Taint where
  key : String
  value : String
  effect : String
  deriving DecidableEq

structure AdvancedTerm where
  nodeName : String := ""
  nodeSelector : Option (GoMap String String) := none
  tolerations : List Toleration := []

structure PolicyTerm where
  name : String
  nodeType : NodeType := .mix
  advancedTerm : AdvancedTerm := {}

structure ResourceSelector where
  policyName : String
  name : String := ""
  namePrefix : String := ""
  labelSelector : Option (GoMap String String) := none

structure DistributionSpec where
  resourceSelectors : List ResourceSelector
  policyTerms : List PolicyTerm

structure DistributionPolicy where
  ns : String
  distributionSpec : DistributionSpec

structure ClusterDistributionPolicy where
  distributionSpec : DistributionSpec

structure Pod where
  name : String
  ns : String
  labels : GoMap String String := .empty
  ownerKinds : List String := []

structure Node where
  name : String
  labels : GoMap String String := .empty
  taints : List Taint := []

/-! ## Matching -/

def noneScope : Nat := 0

structure Scopes where
  label : Nat
  namePrefix : Nat
  name : Nat
  label_pos : noneScope < label
  label_lt : label < namePrefix
  namePrefix_lt : namePrefix < name

def clusterScopes : Scopes := ⟨1, 2, 3, by decide, by decide, by decide⟩

def nsScopes : Scopes := ⟨4, 5, 6, by decide, by decide, by decide⟩

structure Match where
  policyName : String := ""
  priority : Nat := noneScope
  policies : List PolicyTerm := []

def mapContains (m out : GoMap String String) : Bool :=
  m.entries.any fun e => decide (out.get? e.1 = some e.2)

def isDaemonSetPod (pod : Pod) : Bool := pod.ownerKinds.any fun kind => decide (kind = "DaemonSet")

section Matching

variable (scopes : Scopes) (pod : Pod)

def meetsLabel (selector : ResourceSelector) : Bool :=
  selector.labelSelector.any fun matchLabels => mapContains matchLabels pod.labels

def meetsNamePrefix (selector : ResourceSelector) : Bool :=
  decide (selector.namePrefix ≠ "") && hasPrefix pod.name selector.namePrefix

def meetsName (selector : ResourceSelector) : Bool :=
  decide (selector.name ≠ "") && decide (pod.name = selector.name)

def matchAt (scope : Nat) (meets : Bool) (policyName : String) (policies : List PolicyTerm)
    (best : Match) : Match :=
  if best.priority ≤ scope ∧ meets = true then ⟨policyName, scope, policies⟩ else best

def matchSelector (policies : List PolicyTerm) (best : Match) (selector : ResourceSelector) :
    Match :=
  let best := matchAt scopes.label (meetsLabel pod selector) selector.policyName policies best
  let best := matchAt scopes.namePrefix (meetsNamePrefix pod selector) selector.policyName
    policies best
  matchAt scopes.name (meetsName pod selector) selector.policyName policies best

def matchSpec (spec : DistributionSpec) : Match :=
  spec.resourceSelectors.foldl (matchSelector scopes pod spec.policyTerms) {}

end Matching

def matchDistributionPolicy (pod : Pod) (dp : DistributionPolicy) : Match :=
  if pod.ns ≠ dp.ns then {} else matchSpec nsScopes pod dp.distributionSpec

def matchClusterDistributionPolicy (pod : Pod) (cdp : ClusterDistributionPolicy) : Match :=
  matchSpec clusterScopes pod cdp.distributionSpec

/-! ## The filter -/

inductive Status where
  | success
  | unschedulableAndUnresolvable (msg : String)
  deriving DecidableEq

def isTolerationTaints (taints : List Taint) (toleration : Toleration) : Bool :=
  taints.any fun taint => decide (taint.key = toleration.key) &&
    decide (taint.value = toleration.value) && decide (taint.effect = toleration.effect)

def isToleration (node : Node) (tolerations : List Toleration) : Bool :=
  let _rs := tolerations.any fun toleration => isTolerationTaints node.taints toleration
  false

def selectorMatches (nodeSelector labels : GoMap String String) : Bool :=
  nodeSelector.entries.all fun e => decide (labels.get? e.1 = some e.2)

def choosePolicy (pod : Pod) (dps : List DistributionPolicy)
    (cdps : List ClusterDistributionPolicy) : Match :=
  let found := dps.foldl (fun _ dp => matchDistributionPolicy pod dp) {}
  if found.priority = noneScope then
    cdps.foldl (fun _ cdp => matchClusterDistributionPolicy pod cdp) found
  else found

def termOf (policyName : String) (policies : List PolicyTerm) : Option PolicyTerm :=
  policies.find? fun policy => decide (policyName = policy.name)

def judge (node : Node) (policyName : String) (nodeType : NodeType) (advTerm : AdvancedTerm) :
    Status :=
  let isLeaf := (node.labels.get? kosmosNodeLabel).isSome
  match nodeType with
  | .host =>
    if isLeaf then .unschedulableAndUnresolvable ("This is a leaf node (" ++ node.name ++
      ") that does not match the distribution policy (" ++ policyName ++ ") (host node)")
    else .success
  | .leaf =>
    if isLeaf then .success
    else .unschedulableAndUnresolvable ("This is a host node (" ++ node.name ++
      ") that does not match the distribution policy (" ++ policyName ++ ") (leaf node)")
  | .adv =>
    if decide (advTerm.nodeName = node.name) ||
        advTerm.nodeSelector.any (fun s => selectorMatches s node.labels) ||
        isToleration node advTerm.tolerations then .success
    else .unschedulableAndUnresolvable ("This is node (" ++ node.name ++
      ") that does not match the distribution policy (" ++ policyName ++ ")  AdvancedTerm ")
  | .mix => .success

def getDistribution (ns : String) (dps : List DistributionPolicy) : List DistributionPolicy :=
  dps.filter fun dp => decide (dp.ns = ns)

def chosen (pod : Pod) (dps : List DistributionPolicy)
    (cdps : List ClusterDistributionPolicy) : Match :=
  choosePolicy pod (getDistribution pod.ns dps) cdps

def filter (pod : Pod) (node : Node) (dps : List DistributionPolicy)
    (cdps : List ClusterDistributionPolicy) : Status :=
  if isDaemonSetPod pod then .success
  else
    let found := chosen pod dps cdps
    let term := if found.priority ≠ noneScope then termOf found.policyName found.policies else none
    judge node found.policyName ((term.map PolicyTerm.nodeType).getD .mix)
      ((term.map PolicyTerm.advancedTerm).getD {})

/-! ## What is right -/

def scopeOf (scopes : Scopes) (pod : Pod) (selector : ResourceSelector) : Nat :=
  if meetsName pod selector then scopes.name
  else if meetsNamePrefix pod selector then scopes.namePrefix
  else if meetsLabel pod selector then scopes.label
  else noneScope

structure Candidate where
  selector : ResourceSelector
  policies : List PolicyTerm
  scope : Nat

def candidatesIn (scopes : Scopes) (pod : Pod) (spec : DistributionSpec) : List Candidate :=
  (spec.resourceSelectors.map fun selector =>
    ⟨selector, spec.policyTerms, scopeOf scopes pod selector⟩).filter fun c =>
      decide (c.scope ≠ noneScope)

section Right

variable (pod : Pod) (node : Node) (dps : List DistributionPolicy)
  (cdps : List ClusterDistributionPolicy)

def candidates : List Candidate :=
  ((getDistribution pod.ns dps).flatMap fun dp =>
    candidatesIn nsScopes pod dp.distributionSpec) ++
  cdps.flatMap fun cdp => candidatesIn clusterScopes pod cdp.distributionSpec

/-- The candidate meets the pod at the highest scope. -/
def Highest (c : Candidate) : Prop :=
  c ∈ candidates pod dps cdps ∧ ∀ c' ∈ candidates pod dps cdps, c'.scope ≤ c.scope

/-- A taint of the node is one of the tolerations. -/
def Tolerated (tolerations : List Toleration) : Prop :=
  ∃ taint ∈ node.taints, ∃ t ∈ tolerations,
    taint.key = t.key ∧ taint.value = t.value ∧ taint.effect = t.effect

instance (tolerations : List Toleration) : Decidable (Tolerated node tolerations) :=
  inferInstanceAs (Decidable (∃ taint ∈ node.taints, ∃ t ∈ tolerations,
    taint.key = t.key ∧ taint.value = t.value ∧ taint.effect = t.effect))

def Accepts : Option PolicyTerm → Prop
  | none => True
  | some term =>
    match term.nodeType with
    | .host => (node.labels.get? kosmosNodeLabel).isSome = false
    | .leaf => (node.labels.get? kosmosNodeLabel).isSome = true
    | .adv => term.advancedTerm.nodeName = node.name ∨
        term.advancedTerm.nodeSelector.any (fun s => selectorMatches s node.labels) = true ∨
        Tolerated node term.advancedTerm.tolerations
    | .mix => True

def Candidate.term (c : Candidate) : Option PolicyTerm := termOf c.selector.policyName c.policies

def Candidate.asMatch (c : Candidate) : Match := ⟨c.selector.policyName, c.scope, c.policies⟩

/-- The term of a selector of the highest scope decides, or the node is accepted. -/
def Follows : Prop :=
  (candidates pod dps cdps = [] → filter pod node dps cdps = .success) ∧
  (candidates pod dps cdps ≠ [] → ∃ c, Highest pod dps cdps c ∧
    chosen pod dps cdps = c.asMatch ∧
    (filter pod node dps cdps = .success ↔ Accepts node c.term))

/-- In every order a highest selector decides; a single highest one, always alike. -/
def FilterRight : Prop :=
  ∀ dps' cdps', dps'.Perm dps → cdps'.Perm cdps →
    Follows pod node dps' cdps' ∧
      ((∀ c c', Highest pod dps cdps c → Highest pod dps cdps c' → c = c') →
        filter pod node dps' cdps' = filter pod node dps cdps)

def OnlyTolerated : Option PolicyTerm → Prop
  | none => False
  | some term => term.nodeType = .adv ∧ term.advancedTerm.nodeName ≠ node.name ∧
      term.advancedTerm.nodeSelector.any (fun s => selectorMatches s node.labels) = false ∧
      Tolerated node term.advancedTerm.tolerations

instance : ∀ term, Decidable (OnlyTolerated node term)
  | none => inferInstanceAs (Decidable False)
  | some term => inferInstanceAs (Decidable (term.nodeType = .adv ∧
      term.advancedTerm.nodeName ≠ node.name ∧
      term.advancedTerm.nodeSelector.any (fun s => selectorMatches s node.labels) = false ∧
      Tolerated node term.advancedTerm.tolerations))

def nsMatches : List Match :=
  (getDistribution pod.ns dps).map (matchDistributionPolicy pod)

def clusterMatches : List Match := cdps.map (matchClusterDistributionPolicy pod)

def decisive : List Match :=
  if ∀ m ∈ nsMatches pod dps, m.priority = noneScope then clusterMatches pod cdps
  else nsMatches pod dps

end Right

/-! ## Within a policy -/

section Within

variable {scopes : Scopes} {pod : Pod}

theorem matchAt_of_not (scope : Nat) (name : String) (policies : List PolicyTerm)
    (best : Match) : matchAt scope false name policies best = best :=
  if_neg fun hm => nomatch hm.2

theorem matchAt_of_meets {scope : Nat} (hpos : noneScope < scope) (name : String)
    (policies : List PolicyTerm) (best : Match) :
    matchAt scope true name policies best =
      if scope ≠ noneScope ∧ best.priority ≤ scope then ⟨name, scope, policies⟩ else best := by
  unfold matchAt
  simp [Nat.ne_of_gt hpos]

theorem matchAt_matchAt {scope lower : Nat} (hlt : lower < scope) (meets : Bool)
    (name : String) (policies : List PolicyTerm) (best : Match) :
    matchAt scope true name policies (matchAt lower meets name policies best) =
      matchAt scope true name policies best := by
  by_cases hm : best.priority ≤ lower ∧ meets = true
  · have hle : best.priority ≤ scope := Nat.le_trans hm.1 (Nat.le_of_lt hlt)
    unfold matchAt
    rw [if_pos hm, if_pos ⟨Nat.le_of_lt hlt, rfl⟩, if_pos ⟨hle, rfl⟩]
  · rw [show matchAt lower meets name policies best = best from if_neg hm]

theorem matchSelector_eq (policies : List PolicyTerm) (best : Match)
    (selector : ResourceSelector) :
    matchSelector scopes pod policies best selector =
      if scopeOf scopes pod selector ≠ noneScope ∧
          best.priority ≤ scopeOf scopes pod selector then
        ⟨selector.policyName, scopeOf scopes pod selector, policies⟩
      else best := by
  have hlabel := scopes.label_pos
  have hprefix := hlabel.trans scopes.label_lt
  have hname := hprefix.trans scopes.namePrefix_lt
  unfold matchSelector scopeOf
  simp only
  cases meetsName pod selector with
  | true =>
    rw [if_pos rfl, matchAt_matchAt scopes.namePrefix_lt,
      matchAt_matchAt (scopes.label_lt.trans scopes.namePrefix_lt), matchAt_of_meets hname]
  | false =>
    rw [if_neg Bool.false_ne_true, matchAt_of_not]
    cases meetsNamePrefix pod selector with
    | true => rw [if_pos rfl, matchAt_matchAt scopes.label_lt, matchAt_of_meets hprefix]
    | false =>
      rw [if_neg Bool.false_ne_true, matchAt_of_not]
      cases meetsLabel pod selector with
      | true => rw [if_pos rfl, matchAt_of_meets hlabel]
      | false => rw [if_neg Bool.false_ne_true, matchAt_of_not, if_neg fun h => h.1 rfl]

theorem matchSpec_spec (spec : DistributionSpec) :
    (∀ c ∈ candidatesIn scopes pod spec, c.scope ≤ (matchSpec scopes pod spec).priority) ∧
      (matchSpec scopes pod spec = {} ∨
        ∃ c ∈ candidatesIn scopes pod spec, matchSpec scopes pod spec = c.asMatch) := by
  have hloop : ∀ (l : List ResourceSelector) (best : Match),
      best.priority ≤ (l.foldl (matchSelector scopes pod spec.policyTerms) best).priority ∧
      (∀ selector ∈ l, scopeOf scopes pod selector ≤
        (l.foldl (matchSelector scopes pod spec.policyTerms) best).priority) ∧
      (l.foldl (matchSelector scopes pod spec.policyTerms) best = best ∨
        ∃ selector ∈ l, scopeOf scopes pod selector ≠ noneScope ∧
          l.foldl (matchSelector scopes pod spec.policyTerms) best =
            ⟨selector.policyName, scopeOf scopes pod selector, spec.policyTerms⟩) := by
    intro l
    induction l with
    | nil => exact fun best => ⟨Nat.le_refl _, List.forall_mem_nil _, Or.inl rfl⟩
    | cons selector l ih =>
      intro best
      obtain ⟨hge, hall, hfrom⟩ := ih (matchSelector scopes pod spec.policyTerms best selector)
      rw [List.foldl_cons, List.forall_mem_cons]
      rw [matchSelector_eq] at hge hall hfrom ⊢
      by_cases htake : scopeOf scopes pod selector ≠ noneScope ∧
          best.priority ≤ scopeOf scopes pod selector
      · rw [if_pos htake] at hge hall hfrom ⊢
        refine ⟨Nat.le_trans htake.2 hge, ⟨hge, hall⟩, Or.inr ?_⟩
        rcases hfrom with heq | ⟨s, hs, hne, heq⟩
        · exact ⟨selector, List.mem_cons_self, htake.1, heq⟩
        · exact ⟨s, List.mem_cons_of_mem _ hs, hne, heq⟩
      · rw [if_neg htake] at hge hall hfrom ⊢
        refine ⟨hge, ⟨?_, hall⟩, ?_⟩
        · unfold noneScope at htake
          omega
        · rcases hfrom with heq | ⟨s, hs, hne, heq⟩
          · exact Or.inl heq
          · exact Or.inr ⟨s, List.mem_cons_of_mem _ hs, hne, heq⟩
  obtain ⟨_, hall, hfrom⟩ := hloop spec.resourceSelectors {}
  refine ⟨fun c hc => ?_, hfrom.imp_right fun ⟨s, hs, hne, heq⟩ => ?_⟩
  · obtain ⟨s, hs, hc⟩ := List.mem_map.mp (List.mem_filter.mp hc).1
    rw [← hc]
    exact hall s hs
  · refine ⟨⟨s, spec.policyTerms, scopeOf scopes pod s⟩, ?_, heq⟩
    exact List.mem_filter.mpr ⟨List.mem_map.mpr ⟨s, hs, rfl⟩, decide_eq_true hne⟩

theorem candidate_scope {spec : DistributionSpec} {c : Candidate}
    (hc : c ∈ candidatesIn scopes pod spec) : scopes.label ≤ c.scope ∧ c.scope ≤ scopes.name := by
  have hlabel_lt := scopes.label_lt
  have hprefix_lt := scopes.namePrefix_lt
  obtain ⟨hmem, hne⟩ := List.mem_filter.mp hc
  obtain ⟨s, _, hc⟩ := List.mem_map.mp hmem
  rw [← hc] at hne ⊢
  have hne : scopeOf scopes pod s ≠ noneScope := of_decide_eq_true hne
  show scopes.label ≤ scopeOf scopes pod s ∧ scopeOf scopes pod s ≤ scopes.name
  unfold scopeOf at hne ⊢
  split at hne
  next h => rw [if_pos h]; omega
  next h =>
    rw [if_neg h]
    split at hne
    next h => rw [if_pos h]; omega
    next h =>
      rw [if_neg h]
      split at hne
      next h => rw [if_pos h]; omega
      next h => exact absurd rfl hne

end Within

/-! ## Across policies -/

section Across

variable {pod : Pod} {node : Node} {dps dps' : List DistributionPolicy}
  {cdps cdps' : List ClusterDistributionPolicy} {m : Match} {c : Candidate}

theorem foldl_replace {α β : Type} (f : α → β) (l : List α) (init : β) :
    l.foldl (fun _ a => f a) init = (l.map f).getLastD init := by
  induction l generalizing init with
  | nil => rfl
  | cons a l ih =>
    rw [List.foldl_cons, ih, List.map_cons, List.getLastD_cons]

theorem chosen_eq :
    chosen pod dps cdps =
      if ((nsMatches pod dps).getLastD {}).priority = noneScope then
        (clusterMatches pod cdps).getLastD ((nsMatches pod dps).getLastD {})
      else (nsMatches pod dps).getLastD {} := by
  unfold chosen choosePolicy
  simp only [foldl_replace]
  rfl

theorem mem_nsMatches : m ∈ nsMatches pod dps ↔
    ∃ dp ∈ getDistribution pod.ns dps, matchSpec nsScopes pod dp.distributionSpec = m := by
  rw [nsMatches, List.mem_map]
  refine exists_congr fun dp => and_congr_right fun hdp => ?_
  have hns : dp.ns = pod.ns := of_decide_eq_true (List.mem_filter.mp hdp).2
  rw [matchDistributionPolicy, if_neg (not_not.mpr hns.symm)]

theorem mem_clusterMatches : m ∈ clusterMatches pod cdps ↔
    ∃ cdp ∈ cdps, matchSpec clusterScopes pod cdp.distributionSpec = m :=
  List.mem_map

theorem mem_candidates : c ∈ candidates pod dps cdps ↔
    (∃ dp ∈ getDistribution pod.ns dps, c ∈ candidatesIn nsScopes pod dp.distributionSpec) ∨
      ∃ cdp ∈ cdps, c ∈ candidatesIn clusterScopes pod cdp.distributionSpec := by
  rw [candidates, List.mem_append, List.mem_flatMap, List.mem_flatMap]

theorem nsMatch_from (cdps : List ClusterDistributionPolicy) (h : m ∈ nsMatches pod dps) :
    m = {} ∨ ∃ c ∈ candidates pod dps cdps, nsScopes.label ≤ c.scope ∧ m = c.asMatch := by
  obtain ⟨dp, hdp, rfl⟩ := mem_nsMatches.mp h
  refine (matchSpec_spec dp.distributionSpec).2.imp_right fun ⟨c, hc, heq⟩ => ?_
  exact ⟨c, mem_candidates.mpr (Or.inl ⟨dp, hdp, hc⟩), (candidate_scope hc).1, heq⟩

theorem clusterMatch_from (dps : List DistributionPolicy) (h : m ∈ clusterMatches pod cdps) :
    m = {} ∨ ∃ c ∈ candidates pod dps cdps,
      clusterScopes.label ≤ c.scope ∧ c.scope ≤ clusterScopes.name ∧ m = c.asMatch := by
  obtain ⟨cdp, hcdp, rfl⟩ := mem_clusterMatches.mp h
  refine (matchSpec_spec cdp.distributionSpec).2.imp_right fun ⟨c, hc, heq⟩ => ?_
  have hscope := candidate_scope hc
  exact ⟨c, mem_candidates.mpr (Or.inr ⟨cdp, hcdp, hc⟩), hscope.1, hscope.2, heq⟩

theorem candidate_le (h : c ∈ candidates pod dps cdps) :
    (∃ m ∈ nsMatches pod dps, c.scope ≤ m.priority ∧ nsScopes.label ≤ c.scope) ∨
      ∃ m ∈ clusterMatches pod cdps, c.scope ≤ m.priority ∧ c.scope ≤ clusterScopes.name ∧
        noneScope < c.scope := by
  rcases mem_candidates.mp h with ⟨dp, hdp, hc⟩ | ⟨cdp, hcdp, hc⟩
  · exact Or.inl ⟨_, mem_nsMatches.mpr ⟨dp, hdp, rfl⟩,
      (matchSpec_spec dp.distributionSpec).1 c hc, (candidate_scope hc).1⟩
  · exact Or.inr ⟨_, mem_clusterMatches.mpr ⟨cdp, hcdp, rfl⟩,
      (matchSpec_spec cdp.distributionSpec).1 c hc, (candidate_scope hc).2,
      Nat.lt_of_lt_of_le clusterScopes.label_pos (candidate_scope hc).1⟩

theorem candidate_pos (h : c ∈ candidates pod dps cdps) : noneScope < c.scope := by
  rcases candidate_le h with ⟨_, _, _, hns⟩ | ⟨_, _, _, _, hpos⟩
  · exact Nat.lt_of_lt_of_le nsScopes.label_pos hns
  · exact hpos

theorem getLastD_mem {α : Type} {l : List α} (h : l ≠ []) (d : α) : l.getLastD d ∈ l := by
  rw [List.getLastD_eq_getLast?, List.getLast?_eq_getLast_of_ne_nil h]
  exact List.getLast_mem h

theorem getLastD_mem_or {α : Type} (l : List α) (d : α) : l.getLastD d = d ∨ l.getLastD d ∈ l := by
  by_cases h : l = []
  · rw [h]
    exact Or.inl rfl
  · exact Or.inr (getLastD_mem h d)

theorem eq_empty_of_noneScope {m : Match} (h : m = {} ∨ ∃ c ∈ candidates pod dps cdps,
    nsScopes.label ≤ c.scope ∧ m = c.asMatch) (hnone : m.priority = noneScope) : m = {} := by
  rcases h with h | ⟨c, _, hscope, heq⟩
  · exact h
  · rw [heq] at hnone
    exact absurd (hscope.trans (Nat.le_of_eq hnone)) (by decide)

theorem chosen_from (pod : Pod) (dps : List DistributionPolicy)
    (cdps : List ClusterDistributionPolicy) :
    chosen pod dps cdps = {} ∨
      ∃ c ∈ candidates pod dps cdps, noneScope < c.scope ∧
        chosen pod dps cdps = c.asMatch := by
  have hlast : (nsMatches pod dps).getLastD {} = {} ∨ ∃ c ∈ candidates pod dps cdps,
      nsScopes.label ≤ c.scope ∧ (nsMatches pod dps).getLastD {} = c.asMatch := by
    rcases getLastD_mem_or (nsMatches pod dps) {} with h | h
    · exact Or.inl h
    · exact nsMatch_from cdps h
  rw [chosen_eq]
  split
  next hnone =>
    rw [eq_empty_of_noneScope hlast hnone]
    rcases getLastD_mem_or (clusterMatches pod cdps) {} with h | h
    · exact Or.inl h
    · refine (clusterMatch_from dps h).imp_right fun ⟨c, hc, hscope, _, heq⟩ => ?_
      exact ⟨c, hc, Nat.lt_of_lt_of_le clusterScopes.label_pos hscope, heq⟩
  · refine hlast.imp_right fun ⟨c, hc, hscope, heq⟩ => ?_
    exact ⟨c, hc, Nat.lt_of_lt_of_le nsScopes.label_pos hscope, heq⟩

theorem isToleration_eq (tolerations : List Toleration) :
    isToleration node tolerations = false := rfl

theorem filter_eq (hpod : isDaemonSetPod pod = false) :
    filter pod node dps cdps =
      (let found := chosen pod dps cdps
       let term := if found.priority ≠ noneScope then termOf found.policyName found.policies
         else none
       judge node found.policyName ((term.map PolicyTerm.nodeType).getD .mix)
         ((term.map PolicyTerm.advancedTerm).getD {})) := by
  unfold filter
  rw [hpod]
  rfl

theorem filter_of_none (hpod : isDaemonSetPod pod = false)
    (hnone : (chosen pod dps cdps).priority = noneScope) :
    filter pod node dps cdps = .success := by
  rw [filter_eq hpod]
  simp only [hnone, ne_eq, not_true_eq_false, if_false]
  rfl

theorem judge_iff (name : String) (term : Option PolicyTerm) :
    (judge node name ((term.map PolicyTerm.nodeType).getD .mix)
        ((term.map PolicyTerm.advancedTerm).getD {}) = .success ↔ Accepts node term) ↔
      ¬ OnlyTolerated node term := by
  cases term with
  | none => exact iff_of_true (iff_of_true rfl trivial) not_false
  | some term =>
    obtain ⟨termName, nodeType, advTerm⟩ := term
    show (judge node name nodeType advTerm = .success ↔ _) ↔ _
    unfold judge Accepts OnlyTolerated
    cases nodeType with
    | host => cases (node.labels.get? kosmosNodeLabel).isSome <;> simp
    | leaf => cases (node.labels.get? kosmosNodeLabel).isSome <;> simp
    | mix => simp
    | adv =>
      simp only [isToleration_eq]
      by_cases hname : advTerm.nodeName = node.name
      · simp [hname]
      · cases advTerm.nodeSelector.any fun s => selectorMatches s node.labels with
        | true => simp
        | false => simp [hname]

theorem filter_iff (hpod : isDaemonSetPod pod = false)
    (hfound : (chosen pod dps cdps).priority ≠ noneScope)
    (hc : chosen pod dps cdps = c.asMatch) :
    (filter pod node dps cdps = .success ↔ Accepts node c.term) ↔
      ¬ OnlyTolerated node c.term := by
  rw [filter_eq hpod]
  simp only [if_pos hfound]
  rw [hc]
  exact judge_iff _ _

theorem follows_iff (hpod : isDaemonSetPod pod = false) :
    Follows pod node dps cdps ↔
      (∀ c ∈ candidates pod dps cdps, c.scope ≤ (chosen pod dps cdps).priority) ∧
      ((chosen pod dps cdps).priority ≠ noneScope →
        ¬ OnlyTolerated node
          (termOf (chosen pod dps cdps).policyName (chosen pod dps cdps).policies)) := by
  constructor
  · intro ⟨_, hsome⟩
    by_cases hnil : candidates pod dps cdps = []
    · rcases chosen_from pod dps cdps with hnone | ⟨c, hc, _⟩
      · rw [hnone, hnil]
        exact ⟨List.forall_mem_nil _, fun h => absurd rfl h⟩
      · rw [hnil] at hc
        cases hc
    · obtain ⟨c, ⟨_, hbest⟩, heq, hfilter⟩ := hsome hnil
      rw [heq]
      refine ⟨hbest, fun hfound => ?_⟩
      rw [← heq] at hfound
      exact (filter_iff hpod hfound heq).mp hfilter
  · intro ⟨hbest, htaint⟩
    rcases chosen_from pod dps cdps with hnone | ⟨c, hc, hpos, heq⟩
    · refine ⟨fun _ => filter_of_none hpod (by rw [hnone]), fun hne => ?_⟩
      obtain ⟨c, hc⟩ := List.exists_mem_of_ne_nil _ hne
      have hle := hbest c hc
      rw [hnone] at hle
      exact absurd (candidate_pos hc) (Nat.not_lt_of_le hle)
    · have hfound : (chosen pod dps cdps).priority ≠ noneScope := by
        rw [heq]
        exact Nat.ne_of_gt hpos
      refine ⟨fun hnil => ?_, fun _ => ⟨c, ⟨hc, ?_⟩, heq, ?_⟩⟩
      · rw [hnil] at hc
        cases hc
      · rw [heq] at hbest
        exact hbest
      · have htaint := htaint hfound
        rw [heq] at htaint
        exact (filter_iff hpod hfound heq).mpr htaint

theorem mem_getDistribution_perm (hdps : dps'.Perm dps) (dp : DistributionPolicy) :
    dp ∈ getDistribution pod.ns dps' ↔ dp ∈ getDistribution pod.ns dps :=
  (hdps.filter _).mem_iff

theorem mem_candidates_perm (hdps : dps'.Perm dps) (hcdps : cdps'.Perm cdps) (c : Candidate) :
    c ∈ candidates pod dps' cdps' ↔ c ∈ candidates pod dps cdps := by
  simp only [mem_candidates, mem_getDistribution_perm hdps, hcdps.mem_iff]

theorem highest_perm (hdps : dps'.Perm dps) (hcdps : cdps'.Perm cdps) :
    Highest pod dps' cdps' c ↔ Highest pod dps cdps c := by
  simp only [Highest, mem_candidates_perm hdps hcdps]

theorem mem_nsMatches_perm (hdps : dps'.Perm dps) (m : Match) :
    m ∈ nsMatches pod dps' ↔ m ∈ nsMatches pod dps :=
  ((hdps.filter _).map _).mem_iff

theorem mem_clusterMatches_perm (hcdps : cdps'.Perm cdps) (m : Match) :
    m ∈ clusterMatches pod cdps' ↔ m ∈ clusterMatches pod cdps :=
  (hcdps.map _).mem_iff

theorem exists_perm_last {α : Type} {a : α} {l : List α} (h : a ∈ l) :
    ∃ l', (l' ++ [a]).Perm l := by
  obtain ⟨front, back, rfl⟩ := List.append_of_mem h
  exact ⟨front ++ back, (List.perm_append_singleton a _).trans List.perm_middle.symm⟩

theorem exists_order_ns (hm : m ∈ nsMatches pod dps) :
    ∃ dps', dps'.Perm dps ∧ (nsMatches pod dps').getLastD {} = m := by
  obtain ⟨dp, hdp, rfl⟩ := List.mem_map.mp hm
  obtain ⟨hmem, hns⟩ := List.mem_filter.mp hdp
  obtain ⟨front, hperm⟩ := exists_perm_last hmem
  refine ⟨front ++ [dp], hperm, ?_⟩
  rw [nsMatches, getDistribution, List.filter_append,
    List.filter_cons_of_pos (p := fun dp : DistributionPolicy => decide (dp.ns = pod.ns)) hns,
    List.filter_nil, List.map_append, List.map_singleton, List.getLastD_eq_getLast?,
    List.getLast?_concat]
  rfl

theorem exists_order_cluster (hm : m ∈ clusterMatches pod cdps) :
    ∃ cdps', cdps'.Perm cdps ∧ ∀ d, (clusterMatches pod cdps').getLastD d = m := by
  obtain ⟨cdp, hcdp, rfl⟩ := List.mem_map.mp hm
  obtain ⟨front, hperm⟩ := exists_perm_last hcdp
  refine ⟨front ++ [cdp], hperm, fun d => ?_⟩
  rw [clusterMatches, List.map_append, List.map_singleton, List.getLastD_eq_getLast?,
    List.getLast?_concat]
  rfl

def Agree (ms : List Match) : Prop := ∀ m ∈ ms, ∀ m' ∈ ms, m'.priority ≤ m.priority

instance (ms : List Match) : Decidable (Agree ms) :=
  inferInstanceAs (Decidable (∀ m ∈ ms, ∀ m' ∈ ms, m'.priority ≤ m.priority))

/-- What the policies have to be like, for the pod and the node. -/
structure Settled (pod : Pod) (node : Node) (dps : List DistributionPolicy)
    (cdps : List ClusterDistributionPolicy) : Prop where
  ns : Agree (nsMatches pod dps)
  cluster : (∀ m ∈ nsMatches pod dps, m.priority = noneScope) → Agree (clusterMatches pod cdps)
  taints : ∀ m ∈ decisive pod dps cdps, m.priority ≠ noneScope →
    ¬ OnlyTolerated node (termOf m.policyName m.policies)

theorem Settled.perm (h : Settled pod node dps cdps) (hdps : dps'.Perm dps)
    (hcdps : cdps'.Perm cdps) : Settled pod node dps' cdps' := by
  obtain ⟨hns, hcluster, htaints⟩ := h
  unfold decisive at htaints
  refine ⟨?_, ?_, ?_⟩
  · simpa only [Agree, mem_nsMatches_perm hdps] using hns
  · simpa only [Agree, mem_nsMatches_perm hdps, mem_clusterMatches_perm hcdps] using hcluster
  · unfold decisive
    intro m hm
    refine htaints m ?_
    simp only [mem_nsMatches_perm hdps] at hm
    split at hm
    next hall => rwa [if_pos hall, ← mem_clusterMatches_perm hcdps]
    next hall => rwa [if_neg hall, ← mem_nsMatches_perm hdps]

theorem Settled.follows (hpod : isDaemonSetPod pod = false) (h : Settled pod node dps cdps) :
    Follows pod node dps cdps := by
  obtain ⟨hns, hcluster, htaints⟩ := h
  rw [follows_iff hpod]
  unfold decisive at htaints
  by_cases hall : ∀ m ∈ nsMatches pod dps, m.priority = noneScope
  · -- no policy of the namespace matches: the last one of the cluster is chosen
    rw [if_pos hall] at htaints
    have hempty : (nsMatches pod dps).getLastD {} = {} := by
      rcases getLastD_mem_or (nsMatches pod dps) {} with heq | hmem
      · exact heq
      · exact eq_empty_of_noneScope (nsMatch_from cdps hmem) (hall _ hmem)
    have hchosen : chosen pod dps cdps = (clusterMatches pod cdps).getLastD {} := by
      rw [chosen_eq, hempty, if_pos rfl]
    rw [hchosen]
    constructor
    · intro c hc
      rcases candidate_le hc with ⟨m, hm, hle, _⟩ | ⟨m, hm, hle, _⟩
      · rw [hall m hm] at hle
        exact absurd (candidate_pos hc) (Nat.not_lt_of_le hle)
      · exact hle.trans (hcluster hall _ (getLastD_mem (List.ne_nil_of_mem hm) {}) m hm)
    · intro hfound
      rcases getLastD_mem_or (clusterMatches pod cdps) {} with heq | hmem
      · rw [heq] at hfound
        exact absurd rfl hfound
      · exact htaints _ hmem hfound
  · -- the policies of the namespace match equally well: the last one is chosen
    rw [if_neg hall] at htaints
    obtain ⟨m₀, hm₀, hsome⟩ : ∃ m ∈ nsMatches pod dps, m.priority ≠ noneScope := by
      by_contra hno
      exact hall fun m hm => not_not.mp fun hne => hno ⟨m, hm, hne⟩
    have hlast := getLastD_mem (List.ne_nil_of_mem hm₀) ({} : Match)
    have hfound : ((nsMatches pod dps).getLastD {}).priority ≠ noneScope := by
      intro hnone
      have hle := hns _ hlast m₀ hm₀
      rw [hnone] at hle
      exact hsome (Nat.le_zero.mp hle)
    have hchosen : chosen pod dps cdps = (nsMatches pod dps).getLastD {} := by
      rw [chosen_eq, if_neg hfound]
    rw [hchosen]
    refine ⟨fun c hc => ?_, htaints _ hlast⟩
    rcases candidate_le hc with ⟨m, hm, hle, _⟩ | ⟨_, _, _, hle, _⟩
    · exact hle.trans (hns _ hlast m hm)
    · rcases nsMatch_from cdps hlast with heq | ⟨c₀, _, hscope, heq⟩
      · rw [heq] at hfound
        exact absurd rfl hfound
      · rw [heq]
        exact hle.trans (Nat.le_trans (by decide) hscope)

theorem match_le_of_follows (hpod : isDaemonSetPod pod = false)
    (hdps : dps'.Perm dps) (hcdps : cdps'.Perm cdps) (h : Follows pod node dps' cdps')
    (hm : m = {} ∨ ∃ c ∈ candidates pod dps cdps, m = c.asMatch) :
    m.priority ≤ (chosen pod dps' cdps').priority := by
  rcases hm with rfl | ⟨c, hc, rfl⟩
  · exact Nat.zero_le _
  · exact ((follows_iff hpod).mp h).1 c ((mem_candidates_perm hdps hcdps c).mpr hc)

theorem exists_chosen_ns (hm : m ∈ nsMatches pod dps) (hfound : m.priority ≠ noneScope) :
    ∃ dps', dps'.Perm dps ∧ chosen pod dps' cdps = m := by
  obtain ⟨dps', hdps, hlast⟩ := exists_order_ns hm
  refine ⟨dps', hdps, ?_⟩
  rw [chosen_eq, hlast, if_neg hfound]

theorem exists_chosen_cluster (hall : ∀ m ∈ nsMatches pod dps, m.priority = noneScope)
    (hm : m ∈ clusterMatches pod cdps) : ∃ cdps', cdps'.Perm cdps ∧ chosen pod dps cdps' = m := by
  obtain ⟨cdps', hcdps, hlast⟩ := exists_order_cluster hm
  refine ⟨cdps', hcdps, ?_⟩
  rw [chosen_eq, if_pos, hlast]
  rcases getLastD_mem_or (nsMatches pod dps) {} with heq | hmem
  · rw [heq]
  · exact hall _ hmem

theorem exists_chosen_le (hm : m ∈ nsMatches pod dps) (hnone : m.priority = noneScope) :
    ∃ dps', dps'.Perm dps ∧ (chosen pod dps' cdps).priority ≤ clusterScopes.name := by
  obtain ⟨dps', hdps, hlast⟩ := exists_order_ns hm
  refine ⟨dps', hdps, ?_⟩
  rw [chosen_eq, hlast, if_pos hnone]
  rcases getLastD_mem_or (clusterMatches pod cdps) m with heq | hmem
  · rw [heq, hnone]
    exact Nat.zero_le _
  · rcases clusterMatch_from dps hmem with heq | ⟨c, _, _, hle, heq⟩
    · rw [heq]
      exact Nat.zero_le _
    · rw [heq]
      exact hle

section Orders

variable (hpod : isDaemonSetPod pod = false)
  (h : ∀ dps' cdps', dps'.Perm dps → cdps'.Perm cdps → Follows pod node dps' cdps')

include hpod h

theorem ns_agree_of_follows : Agree (nsMatches pod dps) := by
  intro m hm m' hm'
  have hle : ∀ dps', dps'.Perm dps → m'.priority ≤ (chosen pod dps' cdps).priority := by
    intro dps' hdps
    refine match_le_of_follows hpod hdps (List.Perm.refl cdps) (h _ _ hdps (List.Perm.refl _)) ?_
    exact (nsMatch_from cdps hm').imp_right fun ⟨c, hc, _, heq⟩ => ⟨c, hc, heq⟩
  by_cases hfound : m.priority = noneScope
  · obtain ⟨dps', hdps, hchosen⟩ := exists_chosen_le hm hfound
    have hle := (hle dps' hdps).trans hchosen
    rcases nsMatch_from cdps hm' with heq | ⟨c, _, hscope, heq⟩
    · rw [heq]
      exact Nat.zero_le _
    · rw [heq] at hle
      exact absurd (hscope.trans hle) (by decide)
  · obtain ⟨dps', hdps, hchosen⟩ := exists_chosen_ns hm hfound
    exact hchosen ▸ hle dps' hdps

theorem cluster_agree_of_follows (hall : ∀ m ∈ nsMatches pod dps, m.priority = noneScope) :
    Agree (clusterMatches pod cdps) := by
  intro m hm m' hm'
  obtain ⟨cdps', hcdps, hchosen⟩ := exists_chosen_cluster hall hm
  rw [← hchosen]
  refine match_le_of_follows hpod (List.Perm.refl dps) hcdps (h _ _ (List.Perm.refl _) hcdps) ?_
  exact (clusterMatch_from dps hm').imp_right fun ⟨c, hc, _, _, heq⟩ => ⟨c, hc, heq⟩

theorem settled_of_follows : Settled pod node dps cdps := by
  refine ⟨ns_agree_of_follows hpod h, cluster_agree_of_follows hpod h, ?_⟩
  intro m hm hfound
  obtain ⟨dps', cdps', hdps, hcdps, hchosen⟩ : ∃ dps' cdps', dps'.Perm dps ∧
      cdps'.Perm cdps ∧ chosen pod dps' cdps' = m := by
    unfold decisive at hm
    split at hm
    next hall =>
      obtain ⟨cdps', hcdps, hchosen⟩ := exists_chosen_cluster hall hm
      exact ⟨dps, cdps', List.Perm.refl dps, hcdps, hchosen⟩
    · obtain ⟨dps', hdps, hchosen⟩ := exists_chosen_ns hm hfound
      exact ⟨dps', cdps, hdps, List.Perm.refl cdps, hchosen⟩
  have htaint := ((follows_iff hpod).mp (h dps' cdps' hdps hcdps)).2
  rw [hchosen] at htaint
  exact htaint hfound

end Orders

end Across

/-- The distribution filter is right in every order exactly if the policies are settled. -/
theorem filterRight_iff (pod : Pod) (node : Node) (dps : List DistributionPolicy)
    (cdps : List ClusterDistributionPolicy) (hpod : isDaemonSetPod pod = false) :
    FilterRight pod node dps cdps ↔ Settled pod node dps cdps := by
  constructor
  · intro h
    exact settled_of_follows hpod fun dps' cdps' hdps hcdps => (h dps' cdps' hdps hcdps).1
  · intro h dps' cdps' hdps hcdps
    have hfollows' := (h.perm hdps hcdps).follows hpod
    refine ⟨hfollows', fun hunique => ?_⟩
    have hfollows := h.follows hpod
    by_cases hnil : candidates pod dps cdps = []
    · have hnil' : candidates pod dps' cdps' = [] := by
        refine List.eq_nil_iff_forall_not_mem.mpr fun c hc => ?_
        rw [mem_candidates_perm hdps hcdps, hnil] at hc
        cases hc
      rw [hfollows.1 hnil, hfollows'.1 hnil']
    · have hne' : candidates pod dps' cdps' ≠ [] := by
        obtain ⟨c, hc⟩ := List.exists_mem_of_ne_nil _ hnil
        exact List.ne_nil_of_mem ((mem_candidates_perm hdps hcdps c).mpr hc)
      obtain ⟨c, hc, heq, _⟩ := hfollows.2 hnil
      obtain ⟨c', hc', heq', _⟩ := hfollows'.2 hne'
      rw [hunique c' c ((highest_perm hdps hcdps).mp hc') hc, ← heq] at heq'
      rw [filter_eq hpod, filter_eq hpod]
      simp only
      rw [heq']

def webPod : Pod where
  name := "web-1"
  ns := "default"

def hostNode : Node where
  name := "worker"
  taints := [⟨"gpu", "yes", "NoSchedule"⟩]

def policyFor (name : String) (term : PolicyTerm) : DistributionPolicy where
  ns := "default"
  distributionSpec := ⟨[{ policyName := term.name, name := name }], [term]⟩

def leafOnly : PolicyTerm where
  name := "leaf-only"
  nodeType := .leaf

def forGpu : PolicyTerm where
  name := "gpu"
  nodeType := .adv
  advancedTerm := { tolerations := [⟨"gpu", "yes", "NoSchedule"⟩] }

theorem onePolicy_right : isDaemonSetPod webPod = false ∧
    FilterRight webPod hostNode [policyFor "web-1" leafOnly] [] ∧
    filter webPod hostNode [policyFor "web-1" leafOnly] [] ≠ .success := by
  refine ⟨by decide, ?_, by decide⟩
  exact (filterRight_iff webPod hostNode [policyFor "web-1" leafOnly] [] (by decide)).mpr
    ⟨by decide +kernel, by decide +kernel, by decide +kernel⟩

theorem lastPolicy_decides :
    ¬ FilterRight webPod hostNode [policyFor "web-1" leafOnly, policyFor "db-1" leafOnly] [] ∧
    filter webPod hostNode [policyFor "web-1" leafOnly, policyFor "db-1" leafOnly] [] =
      .success ∧
    filter webPod hostNode [policyFor "db-1" leafOnly, policyFor "web-1" leafOnly] [] ≠
      .success ∧
    filter webPod hostNode [policyFor "web-1" forGpu] [] ≠ .success ∧
    Accepts hostNode (some forGpu) := by
  refine ⟨fun h => ?_, by decide, by decide, by decide, Or.inr (Or.inr (by decide))⟩
  have hfollows := (h _ _ (List.Perm.refl _) (List.Perm.refl _)).1
  obtain ⟨c, ⟨hc, _⟩, heq, _⟩ := hfollows.2 (List.ne_nil_of_length_pos (by decide))
  have hnone : (chosen webPod [policyFor "web-1" leafOnly, policyFor "db-1" leafOnly]
    []).priority = noneScope := by decide
  rw [heq] at hnone
  exact Nat.ne_of_gt (candidate_pos hc) hnone

end Kosmos.Distribution
