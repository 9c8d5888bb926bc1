import Kosmos.Manager.Stable

/-!
# When a changed cluster is noticed

`newClusterMapFunc` asks for a round only when the cluster has a node of the gateway role.
-/

namespace Kosmos.Manager

open Kosmos.Go Kosmos.Api

def newClusterMapFunc (listed : Except String (List ClusterNode)) (cluster : Cluster) :
    List String :=
  match listed with
  | .error _ => []
  | .ok clusterNodes =>
    -- the loop breaks at its first match
    match clusterNodes.find? fun node => node.clusterName == cluster.name && node.isGateway with
    | none => []
    | some node => [node.name]

theorem newClusterMapFunc_ne_nil_iff (clusterNodes : List ClusterNode) (cluster : Cluster) :
    newClusterMapFunc (.ok clusterNodes) cluster ≠ [] ↔
      ∃ n ∈ clusterNodes, n.clusterName = cluster.name ∧ n.isGateway = true := by
  have hfind := @List.find?_isSome _ clusterNodes
    fun node => node.clusterName == cluster.name && node.isGateway
  simp only [Bool.and_eq_true, beq_iff_eq] at hfind
  rw [← hfind, newClusterMapFunc]
  split <;> simp_all

/-- A node `ExcludeInvalidItems` drops whatever its cluster is. -/
def Unusable (n : ClusterNode) : Prop := n.clusterName = "" ∨ n.interfaceName = ""

variable {n : ClusterNode}

theorem validNode_of_unusable (h : Unusable n) (clusters : List Cluster) :
    validNode clusters n = false := by
  rcases h with h | h <;> simp [validNode, keepClusterNode, h]

theorem validNode_congr {clusters clusters' : List Cluster}
    (h : buildClustersMap (validClusters clusters) n.clusterName = buildClustersMap (validClusters
      clusters') n.clusterName) : validNode clusters n = validNode clusters' n := by
  rw [validClusters, validClusters] at h
  simp only [validNode, keepClusterNode, h]

theorem buildClustersMap_leave_out (pre post : List Cluster) (c : Cluster) {name : String}
    (h : name ≠ c.name) :
    buildClustersMap (pre ++ c :: post) name = buildClustersMap (pre ++ post) name := by
  induction post using List.reverseRecOn with
  | nil => rw [buildClustersMap_append, if_neg h, List.append_nil]
  | append_singleton post d ih =>
    rw [← List.cons_append, ← List.append_assoc, ← List.append_assoc, buildClustersMap_append,
      buildClustersMap_append, ih]

section LeaveOut

variable {clusterNodes : List ClusterNode} {c : Cluster} (pre post : List Cluster)
  (hc : ∀ n ∈ clusterNodes, n.clusterName = c.name → Unusable n)

theorem clustersMap_leave_out {name : String} (h : name ≠ c.name) :
    buildClustersMap (validClusters (pre ++ c :: post)) name
      = buildClustersMap (validClusters (pre ++ post)) name := by
  simp only [validClusters, List.filter_append, List.filter_cons]
  split
  · exact buildClustersMap_leave_out _ _ c h
  · rfl

theorem flatMap_leave_out {α : Type} {f : Cluster → List α} (h : f c = []) :
    (validClusters (pre ++ c :: post)).flatMap f = (validClusters (pre ++ post)).flatMap f := by
  simp only [validClusters, List.filter_append, List.filter_cons, List.flatMap_append]
  split
  · rw [List.flatMap_cons, h, List.nil_append]
  · rfl

include hc

theorem name_ne_of_valid {clusters : List Cluster} (hn : n ∈ validNodes clusters clusterNodes) :
    n.clusterName ≠ c.name := by
  intro he
  obtain ⟨hmem, hvalid⟩ := List.mem_filter.mp hn
  rw [validNode_of_unusable (hc n hmem he)] at hvalid
  cases hvalid

theorem validNodes_leave_out :
    validNodes (pre ++ c :: post) clusterNodes = validNodes (pre ++ post) clusterNodes := by
  refine List.filter_congr fun n hn => ?_
  by_cases he : n.clusterName = c.name
  · rw [validNode_of_unusable (hc n hn he), validNode_of_unusable (hc n hn he)]
  · exact validNode_congr (clustersMap_leave_out pre post he)

theorem fleetOf_leave_out (nodeConfigs : List Api.NodeConfig) :
    (fleetOf (pre ++ c :: post) clusterNodes nodeConfigs).SeenAlike
      (fleetOf (pre ++ post) clusterNodes nodeConfigs) := by
  have hnodes := validNodes_leave_out pre post hc
  have hgateway : ∀ name,
      (fleetOf (pre ++ c :: post) clusterNodes nodeConfigs).getGatewayNodeByClusterName name
        = (fleetOf (pre ++ post) clusterNodes nodeConfigs).getGatewayNodeByClusterName name := by
    intro name
    simp only [Filter.getGatewayNodeByClusterName, fleetOf, newFilter, hnodes]
  have hnone : (fleetOf (pre ++ post) clusterNodes nodeConfigs).getGatewayNodeByClusterName c.name
      = none := by
    rw [Option.eq_none_iff_forall_ne_some]
    intro g hg
    obtain ⟨hmem, hname, -⟩ := Fleet.gateway_some hg
    exact name_ne_of_valid hc hmem hname
  have hnil : (fleetOf (pre ++ post) clusterNodes nodeConfigs).getAllNodesByClusterName c.name
      = [] := by
    rw [Filter.getAllNodesByClusterName, List.filter_eq_nil_iff]
    intro n hn he
    exact name_ne_of_valid hc hn (beq_iff_eq.mp he)
  have hall : ∀ name,
      (fleetOf (pre ++ c :: post) clusterNodes nodeConfigs).getAllNodesByClusterName name
        = (fleetOf (pre ++ post) clusterNodes nodeConfigs).getAllNodesByClusterName name := by
    intro name
    simp only [Filter.getAllNodesByClusterName, fleetOf, newFilter, hnodes]
  refine ⟨List.Perm.of_eq hnodes, fun n hn => clustersMap_leave_out pre post
    (name_ne_of_valid hc hn), hgateway, List.Perm.of_eq ?_, List.Perm.of_eq ?_⟩
  · simp only [Filter.getGatewayNodes, hgateway, List.filterMap_eq_flatMap_toList]
    exact flatMap_leave_out pre post (by rw [hnone]; rfl)
  · simp only [Filter.getGatewayClusterNodes, hall]
    exact flatMap_leave_out pre post (by rw [hnil, ite_self])

theorem calculateNetworkConfigs_leave_out (env : Env) (nodeConfigs : List Api.NodeConfig)
    (hnames : DistinctNames (pre ++ c :: post) clusterNodes) :
    calculateNetworkConfigs env (pre ++ c :: post) clusterNodes nodeConfigs
      = calculateNetworkConfigs env (pre ++ post) clusterNodes nodeConfigs := by
  have hsub : (pre ++ post).Sublist (pre ++ c :: post) :=
    (List.sublist_cons_self c post).append_left pre
  exact calculateNetworkConfigs_congr hnames ⟨hnames.clusters.sublist (hsub.map _), hnames.nodes⟩
    (fleetOf_leave_out pre post hc nodeConfigs) fun _ _ => ⟨rfl, rfl⟩

end LeaveOut

/-- A change of the cluster that shows in the result brings a request. -/
def NoMissed (clusterNodes : List ClusterNode) (name : String) : Prop :=
  ∀ (env : Env) (nodeConfigs : List Api.NodeConfig) (pre post : List Cluster)
    (before after : Cluster), before.name = name → after.name = name →
    DistinctNames (pre ++ before :: post) clusterNodes →
    calculateNetworkConfigs env (pre ++ before :: post) clusterNodes nodeConfigs
      ≠ calculateNetworkConfigs env (pre ++ after :: post) clusterNodes nodeConfigs →
    newClusterMapFunc (.ok clusterNodes) after ≠ []

def unlinked (name : String) : Cluster where
  name := name
  clusterLinkOptions := none
  podCIDRs := []
  serviceCIDRs := []

def familylessOptions : ClusterLinkOptions :=
  { sampleOptions with networkType := networkTypeP2P, ipFamily := "" }

def linked (name : String) : Cluster :=
  { unlinked name with clusterLinkOptions := some familylessOptions }

theorem validNodes_unlinked (name : String) (clusterNodes : List ClusterNode) :
    validNodes [unlinked name] clusterNodes = [] := by
  rw [validNodes, List.filter_eq_nil_iff]
  intro n _ hvalid
  obtain ⟨c, o, hmap, -⟩ := validNode_served hvalid
  cases (buildClustersMap_some hmap).1

theorem validNode_linked (h : ¬ Unusable n) : validNode [linked n.clusterName] n = true := by
  rw [Unusable, not_or] at h
  have hmap : buildClustersMap ([linked n.clusterName].filter keepCluster) n.clusterName
      = some (linked n.clusterName) :=
    @buildClustersMap_of_mem [linked n.clusterName] _ (List.nodup_singleton _)
      (List.mem_singleton_self _)
  have hlinked : (linked n.clusterName).clusterLinkOptions = some familylessOptions := rfl
  have hfamily : familylessOptions.ipFamily ∉
      [ipFamilyTypeALL, ipFamilyTypeIPV4, ipFamilyTypeIPV6] := by decide
  simp only [List.mem_cons, not_or] at hfamily
  simp [validNode, keepClusterNode, h, hmap, hlinked, hfamily]

theorem calculateNetworkConfigs_linked_ne (env : Env) {clusterNodes : List ClusterNode}
    (hnodes : (clusterNodes.map (·.name)).Nodup) (hn : n ∈ clusterNodes) (husable : ¬ Unusable n) :
    calculateNetworkConfigs env [unlinked n.clusterName] clusterNodes []
      ≠ calculateNetworkConfigs env [linked n.clusterName] clusterNodes [] := by
  intro he
  have hnames : ∀ c : Cluster, DistinctNames [c] clusterNodes :=
    fun c => ⟨List.nodup_singleton c.name, hnodes⟩
  rw [calculateNetworkConfigs_eq (hnames _) (not_someDoomed_nil _ _),
    calculateNetworkConfigs_eq (hnames _) (not_someDoomed_nil _ _), Except.ok.injEq] at he
  have hmem : n ∈ (fleetOf [linked n.clusterName] clusterNodes []).clusterNodes :=
    List.mem_filter.mpr ⟨hn, validNode_linked husable⟩
  obtain ⟨cfg, hcfg⟩ := Fleet.plan_of_mem env hmem
  have hnone : (fleetOf [unlinked n.clusterName] clusterNodes []).plan env n.name = none := by
    rw [Fleet.plan, if_neg]
    change n.name ∉ (validNodes [unlinked n.clusterName] clusterNodes).map (·.name)
    rw [validNodes_unlinked]
    exact List.not_mem_nil
  rw [← he, hnone] at hcfg
  cases hcfg

/-- No change is missed exactly when the cluster has a gateway node, or no node of use. -/
theorem noMissed_iff {clusterNodes : List ClusterNode}
    (hnodes : (clusterNodes.map (·.name)).Nodup) (name : String) :
    NoMissed clusterNodes name ↔
      (∃ n ∈ clusterNodes, n.clusterName = name ∧ n.isGateway = true) ∨
        ∀ n ∈ clusterNodes, n.clusterName = name → Unusable n := by
  constructor
  · intro h
    by_contra hnot
    rw [not_or] at hnot
    obtain ⟨hgateway, husable⟩ := hnot
    push Not at husable
    obtain ⟨n, hn, rfl, hn'⟩ := husable
    have hreq := h sampleEnv [] [] [] (unlinked n.clusterName) (linked n.clusterName) rfl rfl
      ⟨List.nodup_singleton _, hnodes⟩ (calculateNetworkConfigs_linked_ne _ hnodes hn hn')
    exact hgateway ((newClusterMapFunc_ne_nil_iff _ _).mp hreq)
  · rintro (hgateway | hunusable) env nodeConfigs pre post before after hbefore hafter hnames hne
    · rw [newClusterMapFunc_ne_nil_iff, hafter]
      exact hgateway
    · -- without usable nodes both sides are the result without the cluster
      have hnames' : DistinctNames (pre ++ after :: post) clusterNodes := by
        refine ⟨?_, hnames.nodes⟩
        have hc := hnames.clusters
        rw [List.map_append, List.map_cons, hbefore] at hc
        rw [List.map_append, List.map_cons, hafter]
        exact hc
      refine absurd ?_ hne
      rw [calculateNetworkConfigs_leave_out pre post (by rwa [hbefore]) env nodeConfigs hnames,
        calculateNetworkConfigs_leave_out pre post (by rwa [hafter]) env nodeConfigs hnames']

theorem noMissed_c1 : NoMissed sampleNodes "c1" :=
  (noMissed_iff (by decide) "c1").mpr (Or.inl ⟨sampleGateway, by decide, rfl, by decide⟩)

def movedC2 : Cluster where
  name := "c2"
  clusterLinkOptions := some
    { sampleOptions with
      networkType := networkTypeP2P
      bridgeCIDRs := { ip := "221.0.0.0/8", ip6 := "" } }
  podCIDRs := ["10.2.0.0/16"]
  serviceCIDRs := []

theorem movedC2_missed :
    DistinctNames [sampleC1, sampleC2] sampleNodes ∧ movedC2.name = sampleC2.name ∧
    (∃ R cfg, calculateNetworkConfigs sampleEnv [sampleC1, sampleC2] sampleNodes [] = .ok R ∧
      R "c1-gw" = some cfg ∧ cfg.routes.map (·.gw) = ["220.168.2.1"]) ∧
    (∃ R cfg, calculateNetworkConfigs sampleEnv [sampleC1, movedC2] sampleNodes [] = .ok R ∧
      R "c1-gw" = some cfg ∧ cfg.routes.map (·.gw) = ["221.168.2.1"]) ∧
    newClusterMapFunc (.ok sampleNodes) movedC2 = [] := by
  have hbefore : (((fleetOf [sampleC1, sampleC2] sampleNodes []).plan sampleEnv "c1-gw").getD
      {}).routes.map (·.gw) = ["220.168.2.1"] := by decide +kernel
  have hafter : (((fleetOf [sampleC1, movedC2] sampleNodes []).plan sampleEnv "c1-gw").getD
      {}).routes.map (·.gw) = ["221.168.2.1"] := by decide +kernel
  exact ⟨sample_distinctNames, rfl,
    ⟨_, _, calculateNetworkConfigs_eq sample_distinctNames (not_someDoomed_nil _ _), rfl, hbefore⟩,
    ⟨_, _, calculateNetworkConfigs_eq ⟨by decide, by decide⟩ (not_someDoomed_nil _ _), rfl, hafter⟩,
    by decide⟩

end Kosmos.Manager
