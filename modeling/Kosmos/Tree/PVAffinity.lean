import Kosmos.Tree.Capacity
import Kosmos.Tree.LeafPV
import Kosmos.Tree.Ownership

/-!
# The node affinity of volumes in the root

`NodeAffinity4RootPV` picks one name for every hostname requirement of the leaf.
-/

namespace Kosmos.PVAffinity

open Go Kosmos.Tree LeafPV

def isOne2OneMode (cluster : Cluster) : Outcome Bool := do
  let options ← deref cluster.clusterTreeOptions
  pure options.leafModels.isSome

def hostnames (pv : PersistentVolume) : List NodeSelectorRequirement :=
  ((pv.nodeAffinity.bind id).getD []).flatMap fun v =>
    (v.matchFields ++ v.matchExpressions).filter fun val => isHostname val.key

/-- The leaf node belongs to one of the leaf models, if there are any. -/
def Owns (cluster : Cluster) (n : LeafNode) : Prop :=
  (cluster.clusterTreeOptions.bind ClusterTreeOptions.leafModels = none) ∨
    ∃ m ∈ cluster.leafModels, selects m.leafMode m.nodeSelector.nodeName m.nodeSelector n = true

/-- The volume names leaf nodes that belong to the leaf models. -/
def NamesLeafNodes (cluster : Cluster) (leaf : LeafCluster) (pv : PersistentVolume) : Prop :=
  ∀ val ∈ hostnames pv, ∀ name ∈ val.values,
    ∃ n, leaf.nodes.get? name = some n ∧ Owns cluster n

/-- The leaf node is reachable through the root node. -/
def Reaches (leafMode : LeafMode) (leaf : LeafCluster)
    (leafNodeSelectors : GoMap String NodeSelector) (rootNode : String) (n : LeafNode) :
    Prop :=
  ∃ selector nodesInLeaf, leafNodeSelectors.get? rootNode = some selector ∧
    getLeafNodes leafMode leaf rootNode selector = .ok nodesInLeaf ∧ n ∈ nodesInLeaf

/-- The names are of root nodes through which each leaf node is reachable. -/
def Translated (leafMode : LeafMode) (leaf : LeafCluster) (rootNodes : List RootNode)
    (leafNodeSelectors : GoMap String NodeSelector) (val val' : NodeSelectorRequirement) :
    Prop :=
  ∀ rootNode ∈ val'.values, rootNode ∈ rootNodes.map RootNode.name ∧
    ∀ name ∈ val.values, ∃ n, leaf.nodes.get? name = some n ∧
      Reaches leafMode leaf leafNodeSelectors rootNode n

/-- Each hostname requirement of the leaf's volume is translated, where it stands. -/
def AffinityRight (leafMode : LeafMode) (leaf : LeafCluster) (rootNodes : List RootNode)
    (leafNodeSelectors : GoMap String NodeSelector) (pv rootPV : PersistentVolume) : Prop :=
  List.Forall₂ (Translated leafMode leaf rootNodes leafNodeSelectors) (hostnames pv)
    (hostnames rootPV)

def lastHostname (pv : PersistentVolume) : Option String :=
  (hostnames pv).getLast?.bind fun val => val.values.head?

def selectorsFrom (leafMode : LeafMode) :
    Nat → List LeafModel → GoMap String NodeSelector → GoMap String NodeSelector
  | _, [], leafNodeSelectors => leafNodeSelectors
  | i, leafModel :: rest, leafNodeSelectors =>
    selectorsFrom leafMode (i + 1) rest
      (leafNodeSelectors.set (rootNodeName leafMode i leafModel) leafModel.nodeSelector)

/-- The hostname taken is that of a root node for all the volume names. -/
def Apt (h : ClassificationHandler) (leaf : LeafCluster) (pv : PersistentVolume) : Prop :=
  ∀ node, lastHostname pv = some node →
    match h.leafMode with
    | .all => node = kosmosNodePrefix ++ h.cluster.name
    | .node => node ∈ h.rootNodeNames ∧
        ∀ val ∈ hostnames pv, ∀ name ∈ val.values, name = node
    | .party => ∃ selector labelSelector,
        (selectorsFrom .party 0 h.cluster.leafModels .empty).get? node = some selector ∧
        formatLabelSelector selector.labelSelector = .ok labelSelector ∧
        ∀ val ∈ hostnames pv, ∀ name ∈ val.values, ∀ n, leaf.nodes.get? name = some n →
          labelSelector.matches n.labels = true

theorem hostnames_filterPV (pv : PersistentVolume) (nodeName : String) :
    hostnames (filterPV pv nodeName) =
      (hostnames pv).map fun val => { val with values := [nodeName] } := by
  have hlist : ∀ vals : List NodeSelectorRequirement,
      (vals.map (withNode nodeName)).filter (fun val => isHostname val.key) =
        (vals.filter fun val => isHostname val.key).map fun val =>
          { val with values := [nodeName] } := by
    intro vals
    induction vals with
    | nil => rfl
    | cons val rest ih =>
      cases hkey : isHostname val.key with
      | true => simp [withNode, hkey, ih]
      | false => simp [withNode, hkey, ih]
  unfold hostnames filterPV
  rcases pv.nodeAffinity with - | - | terms
  · rfl
  · rfl
  · simp only [Option.map_some, Option.bind_some, id, Option.getD_some, List.map_flatMap,
      List.flatMap_map]
    refine List.flatMap_congr fun v _ => ?_
    rw [filterTerm, ← List.map_append, hlist]

theorem nodeAffinity4RootPV_fold {pv : PersistentVolume} {clusterName node : String}
    (h : nodeAffinity4RootPV pv true clusterName = .ok node) :
    (hostnames pv).foldlM (fun _ val => index val.values 0) (kosmosNodePrefix ++ clusterName) =
      .ok node := by
  have hlist : ∀ (vals : List NodeSelectorRequirement) (start : String),
      vals.foldlM nodeOfRequirement start =
        (vals.filter fun val => isHostname val.key).foldlM
          (fun _ val => index val.values 0) start := by
    intro vals
    induction vals with
    | nil => exact fun _ => rfl
    | cons val rest ih =>
      intro start
      cases hkey : isHostname val.key with
      | true => simp [nodeOfRequirement, hkey, ih]
      | false => simp [nodeOfRequirement, hkey, ih]
  have hterms : ∀ (terms : List NodeSelectorTerm) (start : String),
      terms.foldlM (fun node v => do
          let node ← v.matchFields.foldlM nodeOfRequirement node
          v.matchExpressions.foldlM nodeOfRequirement node) start =
        (terms.flatMap fun v => (v.matchFields ++ v.matchExpressions).filter
          fun val => isHostname val.key).foldlM (fun _ val => index val.values 0) start := by
    intro terms
    induction terms with
    | nil => exact fun _ => rfl
    | cons v rest ih =>
      intro start
      rw [List.foldlM_cons, List.flatMap_cons, List.foldlM_append, ← hlist, List.foldlM_append]
      simp only [ih]
  unfold nodeAffinity4RootPV at h
  simp only [if_true] at h
  obtain ⟨nodeAffinity, hsome, h⟩ := bind_eq_ok h
  obtain ⟨terms, hsome', h⟩ := bind_eq_ok h
  rw [hterms] at h
  rw [hostnames, deref_eq_ok hsome, Option.bind_some, id, deref_eq_ok hsome']
  exact h

theorem lastHostname_of_fold {pv : PersistentVolume} {start node : String}
    (h : (hostnames pv).foldlM (fun _ val => index val.values 0) start = .ok node)
    (hne : hostnames pv ≠ []) : lastHostname pv = some node := by
  unfold lastHostname
  revert h hne
  induction hostnames pv using List.reverseRecOn with
  | nil => exact fun _ hne => absurd rfl hne
  | append_singleton rest val _ =>
    intro h _
    rw [List.foldlM_append] at h
    obtain ⟨node', -, h⟩ := bind_eq_ok h
    rw [List.getLast?_concat, Option.bind_some]
    have hindex : index val.values 0 = .ok node := by
      simpa only [List.foldlM_cons, List.foldlM_nil, bind_pure] using h
    rw [List.head?_eq_getElem?]
    exact index_eq_ok.mp hindex

theorem volumeToCreate_affinity {l : LeafPVController} {a : Answers} {w : World}
    {pv rootPV : PersistentVolume} (h : volumeToCreate l a w pv = .ok (.inr rootPV)) :
    ∃ node, nodeAffinity4RootPV pv l.isOne2OneMode l.clusterName.val = .ok node ∧
      hostnames rootPV = (hostnames pv).map fun val => { val with values := [node] } := by
  obtain ⟨node, claimRef, hnode, rfl⟩ := volumeToCreate_inr h
  exact ⟨node, hnode, hostnames_filterPV pv node⟩

theorem createRootNodes_selectors (h : ClassificationHandler) (calls : RootCalls)
    (listenPort : Int) (gitVersion : String) :
    ∀ (leafModels : List LeafModel) (i : Nat) (leafNodeSelectors : GoMap String NodeSelector)
      (root : List RootNode) {nodes : List RootNode} {selectors : GoMap String NodeSelector},
      (h.createRootNodes calls listenPort gitVersion i leafModels leafNodeSelectors root).1 =
        .ok (nodes, selectors) →
      selectors = selectorsFrom h.leafMode i leafModels leafNodeSelectors := by
  intro leafModels
  induction leafModels with
  | nil =>
    intro i leafNodeSelectors root nodes selectors hok
    cases hok
    rfl
  | cons leafModel rest ih =>
    intro i leafNodeSelectors root nodes selectors hok
    unfold ClassificationHandler.createRootNodes at hok
    simp only at hok
    split at hok
    · cases hok
    next nodeInRoot root₁ _ =>
      split at hok
      · cases hok
      · split at hok
        · cases hok
        next heq =>
          cases hok
          exact ih (i + 1) _ root₁ (congrArg Prod.fst heq)

theorem mem_names_iff (leafMode : LeafMode) (node : String) :
    ∀ (leafModels : List LeafModel) (i : Nat) (leafNodeSelectors : GoMap String NodeSelector),
      ((selectorsFrom leafMode i leafModels leafNodeSelectors).get? node).isSome ↔
        node ∈ rootNodeNames leafMode i leafModels ∨ (leafNodeSelectors.get? node).isSome := by
  intro leafModels
  induction leafModels with
  | nil => simp [selectorsFrom, rootNodeNames]
  | cons leafModel rest ih =>
    intro i leafNodeSelectors
    rw [selectorsFrom, ih, rootNodeNames, List.mem_cons]
    by_cases hname : node = rootNodeName leafMode i leafModel
    · simp [hname]
    · simp [hname, GoMap.get?_set_of_ne]

section Nodes

variable {h : ClassificationHandler} {calls : RootCalls} {listenPort : Int} {gitVersion : String}
  {root rootNodes : List RootNode} {selectors : GoMap String NodeSelector} {leaf : LeafCluster}
  {node : String} {n : LeafNode}
  (hok : (h.createRootNode calls listenPort gitVersion root).1 = .ok (rootNodes, selectors))
include hok

theorem createRootNode_names : rootNodes.map RootNode.name = h.rootNodeNames := by
  have hreturns := (createRootNode_effect h calls listenPort gitVersion root).2 _ _ hok
  refine List.Forall₂.recOn hreturns rfl ?_
  intro name node names nodes hnode _ ih
  rw [List.map_cons, ih, hnode.1]

theorem createRootNode_selectors :
    selectors = if h.leafMode = .all then GoMap.empty.set (kosmosNodePrefix ++ h.cluster.name) {}
      else selectorsFrom h.leafMode 0 h.cluster.leafModels .empty := by
  unfold ClassificationHandler.createRootNode at hok
  split at hok
  next hall =>
    rw [if_pos hall]
    simp only at hok
    split at hok
    · cases hok
    · cases hok
      rfl
  next hall =>
    rw [if_neg hall]
    split at hok
    · cases hok
    next options hoptions =>
      have hmodels : h.cluster.leafModels = options.leafModels.elems := by
        rw [Cluster.leafModels, deref_eq_ok hoptions, Option.bind_some]
        rfl
      rw [hmodels]
      exact createRootNodes_selectors h calls listenPort gitVersion _ 0 _ root hok

theorem reaches_all (hmode : h.leafMode = .all) :
    Reaches .all leaf selectors node n ↔
      node = kosmosNodePrefix ++ h.cluster.name ∧ n ∈ leaf.nodes.objects := by
  rw [createRootNode_selectors hok, if_pos hmode]
  constructor
  · rintro ⟨selector, nodesInLeaf, hsel, hnodes, hn⟩
    cases hnodes
    refine ⟨?_, hn⟩
    by_contra hne
    rw [GoMap.get?_set_of_ne _ _ hne] at hsel
    cases hsel
  · rintro ⟨rfl, hn⟩
    exact ⟨{}, _, GoMap.get?_set_self .., rfl, hn⟩

theorem reaches_node (hmode : h.leafMode = .node) :
    Reaches .node leaf selectors node n ↔
      node ∈ h.rootNodeNames ∧ n ∈ leaf.nodes.objects ∧ n.name = node := by
  have hnames : node ∈ h.rootNodeNames ↔ (selectors.get? node).isSome := by
    rw [createRootNode_selectors hok, hmode, if_neg (by decide), mem_names_iff,
      ClassificationHandler.rootNodeNames, hmode, if_neg (by decide)]
    exact (or_iff_left (Bool.false_ne_true)).symm
  rw [hnames]
  constructor
  · rintro ⟨selector, nodesInLeaf, hsel, hnodes, hn⟩
    cases hnodes
    rw [List.mem_filter, decide_eq_true_iff] at hn
    exact ⟨Option.isSome_of_eq_some hsel, hn⟩
  · rintro ⟨hsome, hn⟩
    obtain ⟨selector, hsel⟩ := Option.isSome_iff_exists.mp hsome
    refine ⟨selector, _, hsel, rfl, ?_⟩
    rw [List.mem_filter, decide_eq_true_iff]
    exact hn

theorem reaches_party (hmode : h.leafMode = .party) :
    Reaches .party leaf selectors node n ↔ ∃ selector labelSelector,
      (selectorsFrom .party 0 h.cluster.leafModels .empty).get? node = some selector ∧
      formatLabelSelector selector.labelSelector = .ok labelSelector ∧
      n ∈ leaf.nodes.objects ∧ labelSelector.matches n.labels = true := by
  rw [createRootNode_selectors hok, hmode, if_neg (by decide)]
  constructor
  · rintro ⟨selector, nodesInLeaf, hsel, hnodes, hn⟩
    obtain ⟨labelSelector, hformat, hnodes⟩ := bind_eq_ok hnodes
    cases hnodes
    rw [List.mem_filter] at hn
    exact ⟨selector, labelSelector, hsel, hformat, hn⟩
  · rintro ⟨selector, labelSelector, hsel, hformat, hn⟩
    refine ⟨selector, _, hsel, by rw [getLeafNodes, hformat, ok_bind, pure_eq_ok], ?_⟩
    rw [List.mem_filter]
    exact hn

end Nodes

theorem affinityRight_of_node {leafMode : LeafMode} {leaf : LeafCluster}
    {rootNodes : List RootNode} {selectors : GoMap String NodeSelector}
    {pv rootPV : PersistentVolume} {node : String}
    (hroot : hostnames rootPV = (hostnames pv).map fun val => { val with values := [node] }) :
    AffinityRight leafMode leaf rootNodes selectors pv rootPV ↔
      ∀ val ∈ hostnames pv, node ∈ rootNodes.map RootNode.name ∧
        ∀ name ∈ val.values, ∃ n, leaf.nodes.get? name = some n ∧
          Reaches leafMode leaf selectors node n := by
  unfold AffinityRight
  rw [hroot, List.forall₂_map_right_iff, List.forall₂_same]
  refine forall₂_congr fun val _ => ?_
  simp [Translated]

theorem isOne2OneMode_eq {cluster : Cluster} {one2one : Bool}
    (h : isOne2OneMode cluster = .ok one2one) :
    (one2one = false ↔ cluster.clusterTreeOptions.bind ClusterTreeOptions.leafModels = none) := by
  obtain ⟨options, hoptions, h⟩ := bind_eq_ok h
  cases h
  rw [deref_eq_ok hoptions, Option.bind_some, Option.isSome_eq_false_iff, Option.isNone_iff_eq_none]

theorem newLeafModelHandler_none {cluster : Cluster} {h : ClassificationHandler}
    (hnone : cluster.clusterTreeOptions.bind ClusterTreeOptions.leafModels = none)
    (hhandler : newLeafModelHandler cluster = .ok h) : h.leafMode = .all := by
  obtain ⟨options, hoptions, hh⟩ := bind_eq_ok hhandler
  rw [deref_eq_ok hoptions, Option.bind_some] at hnone
  rw [hnone] at hh
  cases hh
  rfl

theorem exists_of_lastHostname {pv : PersistentVolume} {node : String}
    (h : lastHostname pv = some node) : ∃ val ∈ hostnames pv, node ∈ val.values := by
  obtain ⟨val, hlast, hhead⟩ := Option.bind_eq_some_iff.mp h
  exact ⟨val, List.mem_of_getLast? hlast, List.mem_of_head? hhead⟩

section One2One

variable {cluster : Cluster} {leaf : LeafCluster} {pv : PersistentVolume}
  {h : ClassificationHandler} {calls : RootCalls} {listenPort : Int} {gitVersion : String}
  {root rootNodes : List RootNode} {selectors : GoMap String NodeSelector} {node : String}

theorem translated_iff_apt
    (hok : (h.createRootNode calls listenPort gitVersion root).1 = .ok (rootNodes, selectors))
    (hnamed : NamesLeafNodes cluster leaf pv) (hlast : lastHostname pv = some node) :
    (∀ val ∈ hostnames pv, node ∈ h.rootNodeNames ∧
        ∀ name ∈ val.values, ∃ n, leaf.nodes.get? name = some n ∧
          Reaches h.leafMode leaf selectors node n) ↔ Apt h leaf pv := by
  obtain ⟨last, hmem, hnode⟩ := exists_of_lastHostname hlast
  have hat : ∀ P : String → Prop, (∀ node', lastHostname pv = some node' → P node') ↔ P node := by
    intro P
    rw [hlast]
    simp
  unfold Apt
  rw [hat]
  cases hmode : h.leafMode with
  | all =>
    simp only [reaches_all hok hmode]
    constructor
    · intro hall
      obtain ⟨n, -, heq, -⟩ := (hall last hmem).2 node hnode
      exact heq
    · intro heq val hval
      refine ⟨?_, fun name hin => ?_⟩
      · rw [ClassificationHandler.rootNodeNames, if_pos hmode, heq]
        exact List.mem_singleton_self _
      · obtain ⟨n, hn, -⟩ := hnamed val hval name hin
        exact ⟨n, hn, heq, (Store.get?_eq_some.mp hn).1⟩
  | node =>
    simp only [reaches_node hok hmode]
    constructor
    · intro hall
      refine ⟨(hall last hmem).1, fun val hval name hin => ?_⟩
      obtain ⟨n, hn, -, -, hname⟩ := (hall val hval).2 name hin
      exact (Store.get?_eq_some.mp hn).2.symm.trans hname
    · rintro ⟨hroot, hsame⟩ val hval
      refine ⟨hroot, fun name hin => ?_⟩
      obtain ⟨n, hn, -⟩ := hnamed val hval name hin
      obtain ⟨hobject, hname⟩ := Store.get?_eq_some.mp hn
      exact ⟨n, hn, hroot, hobject, hname.trans (hsame val hval name hin)⟩
  | party =>
    simp only [reaches_party hok hmode]
    constructor
    · intro hall
      obtain ⟨-, -, selector, labelSelector, hsel, hformat, -⟩ := (hall last hmem).2 node hnode
      refine ⟨selector, labelSelector, hsel, hformat, fun val hval name hin n hn => ?_⟩
      obtain ⟨n', hn', selector', labelSelector', hsel', hformat', -, hmatches⟩ :=
        (hall val hval).2 name hin
      cases hn.symm.trans hn'
      cases hsel.symm.trans hsel'
      cases hformat.symm.trans hformat'
      exact hmatches
    · rintro ⟨selector, labelSelector, hsel, hformat, hmatches⟩ val hval
      refine ⟨?_, fun name hin => ?_⟩
      · rw [ClassificationHandler.rootNodeNames, hmode, if_neg (by decide)]
        have hsome := (mem_names_iff .party node h.cluster.leafModels 0 .empty).mp
          (Option.isSome_of_eq_some hsel)
        exact hsome.resolve_right Bool.false_ne_true
      · obtain ⟨n, hn, -⟩ := hnamed val hval name hin
        exact ⟨n, hn, selector, labelSelector, hsel, hformat, (Store.get?_eq_some.mp hn).1,
          hmatches val hval name hin n hn⟩

end One2One

/-- The affinity is right exactly if there are no leaf models, or the hostname taken goes with their
mode. -/
theorem affinityRight_iff (cluster : Cluster) (leaf : LeafCluster) (pv rootPV : PersistentVolume)
    (h : ClassificationHandler) (calls : RootCalls) (listenPort : Int) (gitVersion : String)
    (root rootNodes : List RootNode) (selectors : GoMap String NodeSelector)
    (l : LeafPVController) (a : Answers) (w : World)
    (hhandler : newLeafModelHandler cluster = .ok h)
    (hok : (h.createRootNode calls listenPort gitVersion root).1 = .ok (rootNodes, selectors))
    (hname : l.clusterName.val = cluster.name)
    (hone : isOne2OneMode cluster = .ok l.isOne2OneMode)
    (hnamed : NamesLeafNodes cluster leaf pv)
    (hcreate : volumeToCreate l a w pv = .ok (.inr rootPV)) :
    AffinityRight h.leafMode leaf rootNodes selectors pv rootPV ↔
      cluster.clusterTreeOptions.bind ClusterTreeOptions.leafModels = none ∨ Apt h leaf pv := by
  obtain ⟨node, hnode, hroot⟩ := volumeToCreate_affinity hcreate
  have hcluster : h.cluster = cluster := newLeafModelHandler_cluster hhandler
  rw [affinityRight_of_node hroot, createRootNode_names hok]
  by_cases hnone : cluster.clusterTreeOptions.bind ClusterTreeOptions.leafModels = none
  · -- the name is that of the root node that stands for the whole leaf
    have hmode := newLeafModelHandler_none hnone hhandler
    rw [(isOne2OneMode_eq hone).mpr hnone] at hnode
    have hnode : node = kosmosNodePrefix ++ h.cluster.name := by
      rw [hcluster, ← hname]
      exact (Except.ok.inj hnode).symm
    refine iff_of_true (fun val hval => ⟨?_, fun name hin => ?_⟩) (Or.inl hnone)
    · rw [ClassificationHandler.rootNodeNames, if_pos hmode, hnode]
      exact List.mem_singleton_self _
    · obtain ⟨n, hn, -⟩ := hnamed val hval name hin
      rw [hmode]
      exact ⟨n, hn, (reaches_all hok hmode).mpr ⟨hnode, (Store.get?_eq_some.mp hn).1⟩⟩
  · have hone' : l.isOne2OneMode = true := by
      rw [← Bool.not_eq_false, isOne2OneMode_eq hone]
      exact hnone
    rw [hone'] at hnode
    have hfold := nodeAffinity4RootPV_fold hnode
    rw [or_iff_right hnone]
    by_cases hne : hostnames pv = []
    · refine iff_of_true (fun val hval => ?_) fun node' hlast => ?_
      · rw [hne] at hval
        cases hval
      · obtain ⟨val, hval, -⟩ := exists_of_lastHostname hlast
        rw [hne] at hval
        cases hval
    · exact translated_iff_apt hok hnamed (lastHostname_of_fold hfold hne)

def oneNode : LeafCluster where
  nodes := ⟨[{ name := "n1", labels := GoMap.empty.set "zone" "east" }],
    List.pairwise_singleton _ _⟩
  pods := []

def oneModel (leafModel : LeafModel) : Cluster where
  name := "c1"
  clusterTreeOptions := some { leafModels := some [leafModel] }

def localVolume : PersistentVolume :=
  { bareVolume with nodeAffinity := some (some
      [{ matchExpressions := [{ key := nodeHostnameValue, values := ["n1"] }] }]) }

def localWorld : World := World.start .empty (claims "root") fun _ => bareLeaf

theorem affinityRight_named : ∃ rootNodes selectors rootPV,
    ((⟨.node, oneModel { nodeSelector := { nodeName := "n1" } }⟩ :
      ClassificationHandler).createRootNode {} 10250 "v1.21.0" []).1 =
        .ok (rootNodes, selectors) ∧
    volumeToCreate one2one {} localWorld localVolume = .ok (.inr rootPV) ∧
    AffinityRight .node oneNode rootNodes selectors localVolume rootPV := by
  refine ⟨_, _, _, rfl, rfl, ?_⟩
  refine (affinityRight_iff (oneModel { nodeSelector := { nodeName := "n1" } }) oneNode localVolume
    _ ⟨.node, _⟩ {} 10250 "v1.21.0" [] _ _ one2one {} localWorld rfl rfl rfl rfl ?_ rfl).mpr
    (Or.inr ?_)
  · intro val hval name hin
    cases List.mem_singleton.mp hval
    cases List.mem_singleton.mp hin
    exact ⟨_, rfl, Or.inr ⟨_, List.mem_singleton_self _, rfl⟩⟩
  · intro node hlast
    cases hlast
    refine ⟨List.mem_singleton_self _, fun val hval name hin => ?_⟩
    cases List.mem_singleton.mp hval
    exact List.mem_singleton.mp hin

def zoneModel : Cluster :=
  oneModel ⟨"edge", { labelSelector := some { matchLabels := [("zone", "east")] } }⟩

theorem zoneModel_keeps_leaf_name : ∃ rootNodes selectors rootPV,
    newLeafModelHandler zoneModel = .ok ⟨.party, zoneModel⟩ ∧
    ((⟨.party, zoneModel⟩ : ClassificationHandler).createRootNode {} 10250 "v1.21.0" []).1 =
        .ok (rootNodes, selectors) ∧
    isOne2OneMode zoneModel = .ok one2one.isOne2OneMode ∧
    NamesLeafNodes zoneModel oneNode localVolume ∧
    (∀ n ∈ oneNode.nodes.objects, Reaches .party oneNode selectors "kosmos-edge-0" n) ∧
    volumeToCreate one2one {} localWorld localVolume = .ok (.inr rootPV) ∧
    (hostnames rootPV).map NodeSelectorRequirement.values = [["n1"]] ∧
    ¬ AffinityRight .party oneNode rootNodes selectors localVolume rootPV := by
  refine ⟨_, _, _, rfl, rfl, rfl, ?_, ?_, rfl, rfl, ?_⟩
  · intro val hval name hin
    cases List.mem_singleton.mp hval
    cases List.mem_singleton.mp hin
    exact ⟨_, rfl, Or.inr ⟨_, List.mem_singleton_self _, rfl⟩⟩
  · intro n hn
    cases List.mem_singleton.mp hn
    exact ⟨_, _, rfl, rfl, List.mem_singleton_self _⟩
  · intro hright
    obtain ⟨htranslated, -⟩ := List.forall₂_cons.mp hright
    have hname := (htranslated "n1" (List.mem_singleton_self _)).1
    exact absurd (List.mem_singleton.mp hname) (by decide)

end Kosmos.PVAffinity
