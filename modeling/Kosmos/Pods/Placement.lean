import Kosmos.Pods.Fit
import Kosmos.Tree.Capacity

/-!
# Where a leaf pod may run, and what its root node offers

One selector makes a node affinity and the text of a `List` call.
-/

namespace Kosmos.Pods

open Kosmos.Go Kosmos.Tree

def NodeSelectorRequirement.valid (r : NodeSelectorRequirement) : Bool :=
  match r.operator with
  | "In" => !r.values.isEmpty
  | "NotIn" => !r.values.isEmpty
  | "Exists" => r.values.isEmpty
  | "DoesNotExist" => r.values.isEmpty
  | "Gt" => r.values.length == 1 && r.values.all fun v => (parseInt v).isSome
  | "Lt" => r.values.length == 1 && r.values.all fun v => (parseInt v).isSome
  | _ => false

def compareWith (less : Int → Int → Bool) (r : NodeSelectorRequirement) (labels : Labels) : Bool :=
  match (labels.get? r.key).bind parseInt, r.values.head?.bind parseInt with
  | some n, some m => less m n
  | _, _ => false

def NodeSelectorRequirement.matches (r : NodeSelectorRequirement) (labels : Labels) : Bool :=
  match r.operator with
  | "In" => (labels.get? r.key).any fun v => decide (v ∈ r.values)
  | "NotIn" => (labels.get? r.key).all fun v => decide (v ∉ r.values)
  | "Exists" => (labels.get? r.key).isSome
  | "DoesNotExist" => (labels.get? r.key).isNone
  | "Gt" => compareWith (fun m n => decide (m < n)) r labels
  | "Lt" => compareWith (fun m n => decide (n < m)) r labels
  | _ => false

def NodeSelectorTerm.matches (t : NodeSelectorTerm) (labels : Labels) : Bool :=
  !t.matchExpressions.isEmpty && t.matchExpressions.all fun r => r.valid && r.matches labels

def Affinity.admits (affinity : Affinity) (labels : Labels) : Bool :=
  match affinity.nodeAffinity.bind NodeAffinity.required with
  | none => true
  | some terms => terms.elems.any fun t => t.matches labels

section Agree

variable (leaf : LeafCluster) (rootNode : String) (rootAffinity : Option Affinity)
  (selector : NodeSelector)

def listedNodes : List LeafNode := (getLeafNodes .party leaf rootNode selector).toOption.getD []

def advertisedNodes : List LeafNode :=
  (listedNodes leaf rootNode selector).filter fun n =>
    ((getNotReadyAndUnschedulableLeafNodes (listedNodes leaf rootNode selector)).get?
      n.name).isNone

/-- Of the nodes that take pods, the affinity picks those whose resources are offered. -/
structure PlacementAgrees : Prop where
  listed : ∀ o affinity, fitNodeAffinity o rootAffinity selector = .ok affinity →
    ∀ n ∈ leaf.nodes.objects, (affinity.admits n.labels = true ↔
      n ∈ listedNodes leaf rootNode selector)
  advertised : ∀ o affinity, fitNodeAffinity o rootAffinity selector = .ok affinity →
    ∀ n ∈ leaf.nodes.objects, Available n → (affinity.admits n.labels = true ↔
      n ∈ advertisedNodes leaf rootNode selector)
  ordered : ∀ o o', fitNodeAffinity o rootAffinity selector =
    fitNodeAffinity o' rootAffinity selector

end Agree

def Compares (r : LabelSelectorRequirement) : Prop :=
  r.operator = "Gt" ∨ r.operator = "Lt"

/-- One order of the match labels, and a comparison leaves no node. -/
structure Plain (leaf : LeafCluster) (s : LabelSelector) : Prop where
  ordered : ∀ a ∈ s.matchLabels, ∀ b ∈ s.matchLabels, a = b
  compares : ∀ r ∈ s.matchExpressions, Compares r →
    ∀ n ∈ leaf.nodes.objects, (nodeSelectorTerm RangeOrder.asWritten s).matches n.labels = false

def ofRequirement (item : LabelSelectorRequirement) : NodeSelectorRequirement :=
  ⟨item.key, item.operator, item.values⟩

section Term

variable {s : LabelSelector} {labels : Labels} {r : LabelSelectorRequirement}

theorem valid_ofRequirement (h : ¬ Compares r) :
    (ofRequirement r).valid = r.valid := by
  unfold NodeSelectorRequirement.valid LabelSelectorRequirement.valid ofRequirement
  unfold Compares at h
  dsimp only
  split <;> simp_all

theorem matches_ofRequirement (h : ¬ Compares r) :
    (ofRequirement r).matches labels = r.matches labels := by
  unfold NodeSelectorRequirement.matches LabelSelectorRequirement.matches ofRequirement
  unfold Compares at h
  dsimp only
  split <;> simp_all

theorem term_matches_iff (o : LabelOrder) :
    (nodeSelectorTerm o s).matches labels = true ↔
      (s.matchLabels ≠ [] ∨ s.matchExpressions ≠ []) ∧
      (∀ e ∈ s.matchLabels, labels.get? e.1 = some e.2) ∧
      ∀ r ∈ s.matchExpressions, (ofRequirement r).valid = true ∧
        (ofRequirement r).matches labels = true := by
  have hempty : (nodeSelectorTerm o s).matchExpressions.isEmpty = false ↔
      s.matchLabels ≠ [] ∨ s.matchExpressions ≠ [] := by
    have hnil : o.visit s.matchLabels = [] ↔ s.matchLabels = [] :=
      ⟨fun h => ((o.perm _).symm.trans (List.Perm.of_eq h)).eq_nil,
        fun h => ((o.perm _).trans (List.Perm.of_eq h)).eq_nil⟩
    rw [← Bool.not_eq_true, List.isEmpty_iff, nodeSelectorTerm, List.append_eq_nil_iff,
      List.map_eq_nil_iff, List.map_eq_nil_iff, hnil, not_and_or]
  -- a match label is a requirement of one value
  have hlabel : ∀ e : String × String,
      ((NodeSelectorRequirement.mk e.1 "In" [e.2]).valid &&
        (NodeSelectorRequirement.mk e.1 "In" [e.2]).matches labels) = true ↔
      labels.get? e.1 = some e.2 := by
    intro e
    cases hget : labels.get? e.1 <;>
      simp [NodeSelectorRequirement.valid, NodeSelectorRequirement.matches, hget]
  rw [NodeSelectorTerm.matches, Bool.and_eq_true, Bool.not_eq_true', hempty, List.all_eq_true]
  refine and_congr_right fun _ => ?_
  simp only [nodeSelectorTerm, List.mem_append, List.mem_map, or_imp, forall_and,
    forall_exists_index, and_imp, forall_apply_eq_imp_iff₂, (o.perm _).mem_iff, hlabel]
  refine and_congr_right fun _ => ?_
  simp [ofRequirement, forall_and]

/-- The API server takes the selector. -/
def Accepted (s : LabelSelector) : Prop :=
  (s.matchLabels ≠ [] ∨ s.matchExpressions ≠ []) ∧ ∀ r ∈ s.matchExpressions, r.valid = true

theorem formatLabelSelector_ok_iff {t : LabelSelector} :
    formatLabelSelector (some s) = .ok t ↔ Accepted s ∧ t = s := by
  rw [formatLabelSelector, Accepted]
  split
  next hvalid =>
    refine iff_of_false (fun h => by cases h) fun h => hvalid (List.all_eq_true.mpr h.1.2)
  next hvalid =>
    rw [not_not, List.all_eq_true] at hvalid
    split
    next hempty =>
      refine iff_of_false (fun h => by cases h) fun h => ?_
      exact h.1.1.elim (fun hne => hne hempty.1) fun hne => hne hempty.2
    next hempty =>
      rw [not_and_or] at hempty
      rw [Except.ok.injEq, @eq_comm _ s t]
      exact ⟨fun h => ⟨⟨hempty, hvalid⟩, h⟩, fun h => h.2⟩

theorem mem_listedNodes {leaf : LeafCluster} {rootNode name : String} {n : LeafNode} :
    n ∈ listedNodes leaf rootNode { nodeName := name, labelSelector := some s } ↔
      n ∈ leaf.nodes.objects ∧ Accepted s ∧ s.matches n.labels = true := by
  unfold listedNodes getLeafNodes
  dsimp only
  cases hformat : formatLabelSelector (some s) with
  | error stop =>
    have hnot : ¬ Accepted s := fun h => by
      rw [formatLabelSelector_ok_iff.mpr ⟨h, rfl⟩] at hformat
      cases hformat
    refine iff_of_false (fun h => ?_) fun h => hnot h.2.1
    cases h
  | ok t =>
    obtain ⟨haccepted, rfl⟩ := formatLabelSelector_ok_iff.mp hformat
    show n ∈ leaf.nodes.objects.filter _ ↔ _
    rw [List.mem_filter]
    exact and_congr_right fun _ => ⟨fun h => ⟨haccepted, h⟩, fun h => h.2⟩

theorem matches_iff : s.matches labels = true ↔
    (∀ e ∈ s.matchLabels, labels.get? e.1 = some e.2) ∧
      ∀ r ∈ s.matchExpressions, r.matches labels = true := by
  simp [LabelSelector.matches, List.all_eq_true]

theorem term_matches_iff_of_plain (h : ∀ r ∈ s.matchExpressions, ¬ Compares r) (o : LabelOrder) :
    (nodeSelectorTerm o s).matches labels = true ↔ Accepted s ∧ s.matches labels = true := by
  have hreq : (∀ r ∈ s.matchExpressions, (ofRequirement r).valid = true ∧
      (ofRequirement r).matches labels = true) ↔
      (∀ r ∈ s.matchExpressions, r.valid = true) ∧
        ∀ r ∈ s.matchExpressions, r.matches labels = true := by
    rw [← forall₂_and]
    refine forall₂_congr fun r hr => ?_
    rw [valid_ofRequirement (h r hr), matches_ofRequirement (h r hr)]
  rw [term_matches_iff, hreq, Accepted, matches_iff]
  tauto

theorem not_accepted_of_compares (hr : r ∈ s.matchExpressions) (h : Compares r) : ¬ Accepted s := by
  intro haccepted
  have hvalid := haccepted.2 r hr
  unfold LabelSelectorRequirement.valid at hvalid
  rcases h with h | h <;> simp [h] at hvalid

end Term

section Result

variable {leaf : LeafCluster} {rootNode name : String} {rootAffinity : Option Affinity}
  {s : LabelSelector}

theorem admits_withTerms (affinity : Option Affinity) (t : NodeSelectorTerm) (labels : Labels) :
    (withTerms affinity [t]).admits labels = t.matches labels := by
  unfold withTerms
  split
  · simp [Affinity.admits]
  · split
    · simp [Affinity.admits]
    · simp [Affinity.admits]

theorem fitNodeAffinity_ok {o : LabelOrder} :
    fitNodeAffinity o rootAffinity { nodeName := name, labelSelector := some s } =
      .ok (withTerms rootAffinity [nodeSelectorTerm o s]) :=
  rfl

theorem mem_advertisedNodes {selector : NodeSelector} {n : LeafNode}
    (hn : n ∈ leaf.nodes.objects) (hav : Available n) :
    n ∈ advertisedNodes leaf rootNode selector ↔ n ∈ listedNodes leaf rootNode selector := by
  have hsub : ∀ n', n' ∈ listedNodes leaf rootNode selector → n' ∈ leaf.nodes.objects := by
    unfold listedNodes getLeafNodes
    dsimp only
    cases formatLabelSelector selector.labelSelector with
    | error stop => intro n' hn'; cases hn'
    | ok t => exact fun n' hn' => List.mem_of_mem_filter hn'
  rw [advertisedNodes, List.mem_filter, isNone_notReady]
  refine and_iff_left_of_imp fun _ ⟨n', hn', hname, hnot⟩ => hnot ?_
  -- names are the keys of the store
  rw [List.inj_on_of_nodup_map leaf.nodes.nodup (hsub n' hn') hn hname]
  exact hav

/-- Placement and capacity agree if and only if the selector is plain. -/
theorem placementAgrees_iff (leaf : LeafCluster) (rootNode name : String)
    (rootAffinity : Option Affinity) (s : LabelSelector) :
    PlacementAgrees leaf rootNode rootAffinity { nodeName := name, labelSelector := some s } ↔
      Plain leaf s := by
  constructor
  · intro h
    refine ⟨?_, ?_⟩
    · refine nodeSelectorTerm_orders fun o o' => ?_
      have hsame := h.ordered o o'
      rw [fitNodeAffinity_ok, fitNodeAffinity_ok, Except.ok.injEq] at hsame
      exact List.head_eq_of_cons_eq (withTerms_injective hsame)
    · intro r hr hcompares n hn
      have hlisted := h.listed RangeOrder.asWritten _ fitNodeAffinity_ok n hn
      rw [admits_withTerms, mem_listedNodes] at hlisted
      rw [← Bool.not_eq_true, hlisted]
      exact fun hmem => not_accepted_of_compares hr hcompares hmem.2.1
  · intro h
    have hlisted : ∀ o affinity, fitNodeAffinity o rootAffinity
        { nodeName := name, labelSelector := some s } = .ok affinity →
        ∀ n ∈ leaf.nodes.objects, (affinity.admits n.labels = true ↔
          n ∈ listedNodes leaf rootNode { nodeName := name, labelSelector := some s }) := by
      intro o affinity hfit n hn
      rw [fitNodeAffinity_ok, Except.ok.injEq] at hfit
      rw [← hfit, admits_withTerms, mem_listedNodes, and_iff_right hn]
      by_cases hcompares : ∃ r ∈ s.matchExpressions, Compares r
      · obtain ⟨r, hr, hc⟩ := hcompares
        refine iff_of_false ?_ fun hmem => not_accepted_of_compares hr hc hmem.1
        rw [term_matches_iff, ← term_matches_iff RangeOrder.asWritten, h.compares r hr hc n hn]
        exact Bool.false_ne_true
      · exact term_matches_iff_of_plain (fun r hr hc => hcompares ⟨r, hr, hc⟩) o
    refine ⟨hlisted, ?_, ?_⟩
    · intro o affinity hfit n hn hav
      rw [mem_advertisedNodes hn hav]
      exact hlisted o affinity hfit n hn
    · intro o o'
      rw [fitNodeAffinity_ok, fitNodeAffinity_ok, nodeSelectorTerm, nodeSelectorTerm,
        eq_of_perm_of_forall_eq h.ordered (o.perm s.matchLabels) (o'.perm s.matchLabels)]

def oneNodeLeaf : LeafCluster where
  nodes := ⟨[{ name := "n1", labels := GoMap.empty.set "cores" "8" }], by decide⟩
  pods := []

theorem placement_differs :
    (∃ o o', fitNodeAffinity o none
        { labelSelector := some { matchLabels := [("zone", "a"), ("disk", "ssd")] } } ≠
      fitNodeAffinity o' none
        { labelSelector := some { matchLabels := [("zone", "a"), ("disk", "ssd")] } }) ∧
    ∃ affinity, fitNodeAffinity RangeOrder.asWritten none
        { labelSelector := some { matchExpressions := [⟨"cores", "Gt", ["4"]⟩] } } = .ok affinity ∧
      affinity.admits (GoMap.empty.set "cores" "8") = true ∧
      listedNodes oneNodeLeaf "r1"
        { labelSelector := some { matchExpressions := [⟨"cores", "Gt", ["4"]⟩] } } = [] := by
  refine ⟨⟨RangeOrder.asWritten, RangeOrder.first [("zone", "a"), ("disk", "ssd")]
    ("disk", "ssd") (by decide), by decide⟩, _, rfl, by decide, rfl⟩

end Result

end Kosmos.Pods
