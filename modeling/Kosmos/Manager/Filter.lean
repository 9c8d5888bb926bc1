import Kosmos.Manager.Network

/-!
# `helpers/filter.go` and `ExcludeInvalidItems`

`Fleet` is a filter that cannot panic: every node's cluster is there and has options.
-/

namespace Kosmos.Manager

open Kosmos.Go Kosmos.Go.Net Kosmos.Api

structure Filter where
  clusterNodes : List ClusterNode
  clusters : List Cluster
  nodeConfigs : List Api.NodeConfig
  clustersMap : String → Option Cluster

def buildClustersMap (clusters : List Cluster) : String → Option Cluster :=
  clusters.foldl (fun m c => Function.update m c.name (some c)) fun _ => none

def newFilter (clusters : List Cluster) (clusterNodes : List ClusterNode)
    (nodeConfigs : List Api.NodeConfig) : Filter where
  clusterNodes := clusterNodes
  clusters := clusters
  nodeConfigs := nodeConfigs
  clustersMap := buildClustersMap clusters

namespace Filter

variable (f : Filter)

def getClusterByName (name : String) : Option Cluster := f.clustersMap name

def getGatewayNodeByClusterName (clusterName : String) : Option ClusterNode :=
  f.clusterNodes.find? fun node => node.clusterName == clusterName && node.isGateway

def getGatewayNodes : List ClusterNode :=
  f.clusters.filterMap fun cluster => f.getGatewayNodeByClusterName cluster.name

def getInternalNodes : Outcome (List ClusterNode) :=
  rangeFilter (fun node => do
    let cluster ← deref (f.getClusterByName node.clusterName)
    pure (cluster.isGateway && !node.isGateway)) f.clusterNodes

def getEndpointNodes : Outcome (List ClusterNode) :=
  rangeFilter (fun node => do
    let cluster ← deref (f.getClusterByName node.clusterName)
    pure (cluster.isP2P && !node.isGateway)) f.clusterNodes

def getClusterNodes : List ClusterNode := f.clusterNodes

def getInternalNodesByClusterName (clusterName : String) : Outcome (List ClusterNode) :=
  rangeFilter (fun node => do
    let cluster ← deref (f.getClusterByName node.clusterName)
    if cluster.isP2P then pure false
    else pure (node.clusterName == clusterName && !node.isGateway)) f.clusterNodes

def getAllNodesByClusterName (name : String) : List ClusterNode :=
  f.clusterNodes.filter fun node => node.clusterName == name

def getAllNodesExceptCluster (name : String) : List ClusterNode :=
  f.clusterNodes.filter fun node => node.clusterName != name

def getGatewayClusterNodes : List ClusterNode :=
  f.clusters.flatMap fun cluster =>
    if cluster.isGateway then f.getAllNodesByClusterName cluster.name else []

def supportFamily (family : String) (node : ClusterNode) : Outcome Bool := do
  let cluster ← deref (f.getClusterByName node.clusterName)
  let options ← deref cluster.clusterLinkOptions
  pure (options.ipFamily == ipFamilyTypeALL || options.ipFamily == family)

def supportIPv4 (node : ClusterNode) : Outcome Bool := f.supportFamily ipFamilyTypeIPV4 node

def supportIPv6 (node : ClusterNode) : Outcome Bool := f.supportFamily ipFamilyTypeIPV6 node

def getDeviceFromNodeConfig (nodeName devName : String) : Option Device :=
  (f.nodeConfigs.find? fun config => config.name == nodeName).bind fun config =>
    config.spec.devices.elems.find? fun dev => dev.name == devName

end Filter

def keepCluster (c : Cluster) : Bool :=
  match c.clusterLinkOptions with
  | none => false
  | some o => o.enable

def keepClusterNode (clustersMap : String → Option Cluster) (cn : ClusterNode) : Outcome Bool :=
  if cn.clusterName == "" then pure false
  else if cn.interfaceName == "" then pure false
  else
    match clustersMap cn.clusterName with
    | none => pure false
    | some c => do
      let o ← deref c.clusterLinkOptions
      let supportIPv4 := o.ipFamily == ipFamilyTypeALL || o.ipFamily == ipFamilyTypeIPV4
      let supportIPv6 := o.ipFamily == ipFamilyTypeALL || o.ipFamily == ipFamilyTypeIPV6
      if supportIPv4 && cn.ip == "" then pure false
      else if supportIPv6 && cn.ip6 == "" then pure false
      else pure true

def excludeInvalidItems (clusters : List Cluster) (clusterNodes : List ClusterNode) :
    Outcome (List Cluster × List ClusterNode) := do
  let cs := clusters.filter keepCluster
  let cns ← rangeFilter (keepClusterNode (buildClustersMap cs)) clusterNodes
  pure (cs, cns)

theorem buildClustersMap_append (cs : List Cluster) (c : Cluster) (name : String) :
    buildClustersMap (cs ++ [c]) name
      = if name = c.name then some c else buildClustersMap cs name := by
  rw [buildClustersMap, List.foldl_append, List.foldl_cons, List.foldl_nil, Function.update_apply]
  rfl

theorem buildClustersMap_some {cs : List Cluster} {name : String} {c : Cluster} :
    buildClustersMap cs name = some c → c ∈ cs ∧ c.name = name := by
  induction cs using List.reverseRecOn with
  | nil => intro h; cases h
  | append_singleton cs d ih =>
    intro h
    rw [buildClustersMap_append] at h
    split at h
    next hn =>
      rw [Option.some.injEq] at h
      subst h
      exact ⟨by simp, hn.symm⟩
    · obtain ⟨hmem, hname⟩ := ih h
      exact ⟨List.mem_append_left _ hmem, hname⟩

theorem buildClustersMap_of_mem {cs : List Cluster} {c : Cluster}
    (hnd : (cs.map (·.name)).Nodup) (hc : c ∈ cs) : buildClustersMap cs c.name = some c := by
  induction cs using List.reverseRecOn with
  | nil => cases hc
  | append_singleton cs d ih =>
    rw [List.map_append, List.nodup_append] at hnd
    rw [buildClustersMap_append]
    rcases List.mem_append.mp hc with hc' | hc'
    · have hne : c.name ≠ d.name :=
        hnd.2.2 c.name (List.mem_map_of_mem hc') d.name (by simp)
      rw [if_neg hne]
      exact ih hnd.1 hc'
    · rw [List.mem_singleton] at hc'
      subst hc'
      rw [if_pos rfl]

theorem options_of_kept {clusters : List Cluster} {name : String} {c : Cluster}
    (h : buildClustersMap (clusters.filter keepCluster) name = some c) :
    ∃ o, c.clusterLinkOptions = some o ∧ o.enable = true := by
  have hk := List.of_mem_filter (buildClustersMap_some h).1
  unfold keepCluster at hk
  split at hk
  · cases hk
  next o ho => exact ⟨o, ho, hk⟩

def validNode (clusters : List Cluster) (cn : ClusterNode) : Bool :=
  match keepClusterNode (buildClustersMap (clusters.filter keepCluster)) cn with
  | .ok b => b
  | .error _ => false

def validNodes (clusters : List Cluster) (clusterNodes : List ClusterNode) : List ClusterNode :=
  clusterNodes.filter (validNode clusters)

def validClusters (clusters : List Cluster) : List Cluster := clusters.filter keepCluster

theorem keepClusterNode_ok (clusters : List Cluster) (cn : ClusterNode) :
    keepClusterNode (buildClustersMap (clusters.filter keepCluster)) cn
      = .ok (validNode clusters cn) := by
  have hex : ∃ b, keepClusterNode (buildClustersMap (clusters.filter keepCluster)) cn = .ok b := by
    unfold keepClusterNode
    split
    · exact ⟨_, rfl⟩
    split
    · exact ⟨_, rfl⟩
    split
    · exact ⟨_, rfl⟩
    next c hc =>
      obtain ⟨o, ho, -⟩ := options_of_kept hc
      rw [ho]
      simp only [deref_some, ok_bind]
      split
      · exact ⟨_, rfl⟩
      · split <;> exact ⟨_, rfl⟩
  obtain ⟨b, hb⟩ := hex
  rw [validNode, hb]

theorem excludeInvalidItems_eq (clusters : List Cluster) (clusterNodes : List ClusterNode) :
    excludeInvalidItems clusters clusterNodes
      = .ok (validClusters clusters, validNodes clusters clusterNodes) := by
  simp [excludeInvalidItems, validClusters, validNodes, rangeFilter_eq fun cn _ =>
    keepClusterNode_ok clusters cn]

theorem validNode_served {clusters : List Cluster} {cn : ClusterNode}
    (h : validNode clusters cn = true) :
    ∃ c o, buildClustersMap (validClusters clusters) cn.clusterName = some c ∧
      c.clusterLinkOptions = some o := by
  unfold validNode keepClusterNode at h
  split at h
  next b hb =>
    subst h
    split at hb
    · cases hb
    split at hb
    · cases hb
    split at hb
    · cases hb
    next c hc =>
      obtain ⟨o, ho, -⟩ := options_of_kept hc
      exact ⟨c, o, hc, ho⟩
  · cases h

structure Fleet extends Filter where
  map_eq : clustersMap = buildClustersMap clusters
  served : ∀ n ∈ clusterNodes, ∃ c o, clustersMap n.clusterName = some c ∧
    c.clusterLinkOptions = some o

def fleetOf (clusters : List Cluster) (clusterNodes : List ClusterNode)
    (nodeConfigs : List Api.NodeConfig) : Fleet where
  toFilter := newFilter (validClusters clusters) (validNodes clusters clusterNodes) nodeConfigs
  map_eq := rfl
  served := fun _ hn => validNode_served (List.of_mem_filter hn)

inductive Family where
  | v4
  | v6
  deriving DecidableEq, Repr

def Family.name : Family → String
  | .v4 => ipFamilyTypeIPV4
  | .v6 => ipFamilyTypeIPV6

def Family.ipType : Family → IPType
  | .v4 => .ipv4
  | .v6 => .ipv6

variable {n m : ClusterNode}

namespace Fleet

variable (F : Fleet)

def options (n : ClusterNode) : ClusterLinkOptions :=
  ((F.clustersMap n.clusterName).bind (·.clusterLinkOptions)).getD
    ⟨false, "", "", ⟨"", ""⟩, ⟨"", ""⟩, GoMap.empty⟩

def cluster (n : ClusterNode) : Cluster :=
  (F.clustersMap n.clusterName).getD ⟨"", none, [], []⟩

def supports (t : Family) (n : ClusterNode) : Bool :=
  (F.options n).ipFamily == ipFamilyTypeALL || (F.options n).ipFamily == t.name

def internalNodes : List ClusterNode :=
  F.clusterNodes.filter fun n => (F.cluster n).isGateway && !n.isGateway

def endpointNodes : List ClusterNode :=
  F.clusterNodes.filter fun n => (F.cluster n).isP2P && !n.isGateway

def internalNodesOf (clusterName : String) : List ClusterNode :=
  F.clusterNodes.filter fun n =>
    !(F.cluster n).isP2P && (n.clusterName == clusterName && !n.isGateway)

def bridgeNodes : List ClusterNode := F.getGatewayNodes ++ F.endpointNodes

variable {F}

theorem getCluster (hn : n ∈ F.clusterNodes) :
    F.getClusterByName n.clusterName = some (F.cluster n) := by
  obtain ⟨c, o, hc, -⟩ := F.served n hn
  simp [Filter.getClusterByName, cluster, hc]

theorem getOptions (hn : n ∈ F.clusterNodes) :
    (F.cluster n).clusterLinkOptions = some (F.options n) := by
  obtain ⟨c, o, hc, ho⟩ := F.served n hn
  simp [cluster, options, hc, ho]

theorem getInternalNodes_eq : F.getInternalNodes = .ok F.internalNodes :=
  rangeFilter_eq fun n hn => by simp [getCluster hn]

theorem getEndpointNodes_eq : F.getEndpointNodes = .ok F.endpointNodes :=
  rangeFilter_eq fun n hn => by simp [getCluster hn]

theorem getInternalNodesByClusterName_eq (name : String) :
    F.getInternalNodesByClusterName name = .ok (F.internalNodesOf name) :=
  rangeFilter_eq fun n hn => by
    rw [getCluster hn]
    cases h : (F.cluster n).isP2P <;> simp [h]

theorem supportFamily_eq (t : Family) (hn : n ∈ F.clusterNodes) :
    F.supportFamily t.name n = .ok (F.supports t n) := by
  simp [Filter.supportFamily, getCluster hn, getOptions hn, supports]

theorem supportIPv4_eq (hn : n ∈ F.clusterNodes) :
    F.supportIPv4 n = .ok (F.supports .v4 n) := supportFamily_eq .v4 hn

theorem supportIPv6_eq (hn : n ∈ F.clusterNodes) :
    F.supportIPv6 n = .ok (F.supports .v6 n) := supportFamily_eq .v6 hn

theorem gateway_some {name : String} {g : ClusterNode}
    (h : F.getGatewayNodeByClusterName name = some g) :
    g ∈ F.clusterNodes ∧ g.clusterName = name ∧ g.isGateway = true := by
  have hp := List.find?_some h
  simp only [Bool.and_eq_true, beq_iff_eq] at hp
  exact ⟨List.mem_of_find?_eq_some h, hp⟩

theorem cluster_mem (hn : n ∈ F.clusterNodes) :
    F.cluster n ∈ F.clusters ∧ (F.cluster n).name = n.clusterName := by
  have h := getCluster hn
  rw [Filter.getClusterByName, F.map_eq] at h
  exact buildClustersMap_some h

theorem cluster_congr (h : n.clusterName = m.clusterName) : F.cluster n = F.cluster m := by
  rw [cluster, cluster, h]

theorem options_congr (h : n.clusterName = m.clusterName) : F.options n = F.options m := by
  rw [options, options, h]

theorem supports_congr (t : Family) (h : n.clusterName = m.clusterName) :
    F.supports t n = F.supports t m := by
  rw [supports, supports, options_congr h]

theorem mem_getGatewayNodes {g : ClusterNode} :
    g ∈ F.getGatewayNodes ↔ F.getGatewayNodeByClusterName g.clusterName = some g := by
  simp only [Filter.getGatewayNodes, List.mem_filterMap]
  constructor
  · rintro ⟨c, -, hg⟩
    rw [(gateway_some hg).2.1]
    exact hg
  · intro hg
    have hn := (gateway_some hg).1
    exact ⟨F.cluster g, (cluster_mem hn).1, by rw [(cluster_mem hn).2]; exact hg⟩

theorem mem_endpointNodes : n ∈ F.endpointNodes ↔
      n ∈ F.clusterNodes ∧ (F.cluster n).isP2P = true ∧ n.isGateway = false := by
  simp [endpointNodes]

theorem mem_internalNodes : n ∈ F.internalNodes ↔
      n ∈ F.clusterNodes ∧ (F.cluster n).isGateway = true ∧ n.isGateway = false := by
  simp [internalNodes]

theorem mem_internalNodesOf {name : String} :
    n ∈ F.internalNodesOf name ↔ n ∈ F.clusterNodes ∧ (F.cluster n).isP2P = false ∧
      n.clusterName = name ∧ n.isGateway = false := by
  simp [internalNodesOf]

theorem mem_bridgeNodes : n ∈ F.bridgeNodes ↔ F.getGatewayNodeByClusterName n.clusterName = some n ∨
      (n ∈ F.clusterNodes ∧ (F.cluster n).isP2P = true ∧ n.isGateway = false) := by
  rw [bridgeNodes, List.mem_append, mem_getGatewayNodes, mem_endpointNodes]

theorem bridgeNodes_subset (h : n ∈ F.bridgeNodes) : n ∈ F.clusterNodes := by
  rcases mem_bridgeNodes.mp h with h | h
  · exact (gateway_some h).1
  · exact h.1

theorem getGatewayClusterNodes_subset (h : n ∈ F.getGatewayClusterNodes) : n ∈ F.clusterNodes := by
  simp only [Filter.getGatewayClusterNodes, List.mem_flatMap] at h
  obtain ⟨c, -, h⟩ := h
  split at h
  · exact (List.mem_filter.mp h).1
  · cases h

end Fleet

end Kosmos.Manager
