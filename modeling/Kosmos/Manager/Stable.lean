import Kosmos.Manager.Routes

/-!
# What the result does not depend on

Records are sorted by a text that determines them, so fleets that are seen alike have one plan.
-/

namespace Kosmos.Manager

open Kosmos.Go Kosmos.Go.Net Kosmos.Api

structure Fleet.Alike (F F' : Fleet) : Prop where
  clusters : F.clusters.Perm F'.clusters
  nodes : F.clusterNodes.Perm F'.clusterNodes
  map : F.clustersMap = F'.clustersMap
  gateway : ∀ name, F.getGatewayNodeByClusterName name = F'.getGatewayNodeByClusterName name

structure Fleet.SeenAlike (F F' : Fleet) : Prop where
  nodes : F.clusterNodes.Perm F'.clusterNodes
  map : ∀ n ∈ F.clusterNodes, F.clustersMap n.clusterName = F'.clustersMap n.clusterName
  gateway : ∀ name, F.getGatewayNodeByClusterName name = F'.getGatewayNodeByClusterName name
  gateways : F.getGatewayNodes.Perm F'.getGatewayNodes
  inner : F.getGatewayClusterNodes.Perm F'.getGatewayClusterNodes

theorem Fleet.Alike.seenAlike {F F' : Fleet} (h : F.Alike F') : F.SeenAlike F' where
  nodes := h.nodes
  map _ _ := by rw [h.map]
  gateway := h.gateway
  gateways := by
    simp only [Filter.getGatewayNodes, h.gateway]
    exact h.clusters.filterMap _
  inner := by
    refine h.clusters.flatMap fun c _ => ?_
    split
    · exact h.nodes.filter _
    · exact List.Perm.refl _

variable (ends : Ends) {env env' : Env} {nodeConfigs : List Api.NodeConfig}

namespace Fleet.SeenAlike

variable {F F' : Fleet} {n : ClusterNode} (h : F.SeenAlike F')

include h

theorem cluster (hn : n ∈ F.clusterNodes) : F.cluster n = F'.cluster n := by
  rw [Fleet.cluster, Fleet.cluster, h.map n hn]

theorem options (hn : n ∈ F.clusterNodes) : F.options n = F'.options n := by
  rw [Fleet.options, Fleet.options, h.map n hn]

theorem supports (t : Family) (hn : n ∈ F.clusterNodes) : F.supports t n = F'.supports t n := by
  rw [Fleet.supports, Fleet.supports, h.options hn]

theorem admits (t : Family) (hn : n ∈ F.clusterNodes) : F.admits t n = F'.admits t n := by
  rw [Fleet.admits, Fleet.admits, h.options hn]

theorem conflicts (cidr : String) (hn : n ∈ F.clusterNodes) :
    F.conflicts n cidr = F'.conflicts n cidr := by
  rw [Fleet.conflicts, Fleet.conflicts, h.cluster hn]

theorem filter {p : Cluster → ClusterNode → Bool} :
    (F.clusterNodes.filter fun n => p (F.cluster n) n).Perm
      (F'.clusterNodes.filter fun n => p (F'.cluster n) n) := by
  rw [List.filter_congr fun n hn => congrArg (p · n) (h.cluster hn)]
  exact h.nodes.filter _

theorem internalNodes : F.internalNodes.Perm F'.internalNodes :=
  h.filter (p := fun c n => c.isGateway && !n.isGateway)

theorem internalNodesOf (name : String) :
    (F.internalNodesOf name).Perm (F'.internalNodesOf name) :=
  h.filter (p := fun c n => !c.isP2P && (n.clusterName == name && !n.isGateway))

theorem bridgeNodes : F.bridgeNodes.Perm F'.bridgeNodes :=
  h.gateways.append (h.filter (p := fun c n => c.isP2P && !n.isGateway))

theorem overlayNodes (o : Overlay) : (o.nodes F).Perm (o.nodes F') := by
  cases o with
  | vxBridge => exact h.bridgeNodes
  | vxLocal => exact h.inner

theorem routeOn (t : Family) (cidr targetIP : String) (hn : n ∈ F.clusterNodes) :
    F.routeOn ends t cidr targetIP n = F'.routeOn ends t cidr targetIP n := by
  simp only [Fleet.routeOn, h.admits t hn, h.conflicts cidr hn, h.cluster hn, h.gateway]

theorem routeLog (source : Cluster → ClusterNode → List String)
    {targets targets' : List ClusterNode} (hsub : ∀ n ∈ targets, n ∈ F.clusterNodes)
    (ht : targets.Perm targets') :
    (F.routeLog ends source targets).Perm (F'.routeLog ends source targets') := by
  refine ht.flatMap fun target htarget => ?_
  have hn := hsub target htarget
  have hadv : F.advertised source target = F'.advertised source target := by
    rw [Fleet.advertised, Fleet.advertised, h.cluster hn, h.options hn]
  rw [hadv]
  refine List.Perm.flatMap_left _ fun cidr _ => ?_
  rw [Fleet.routesTo, Fleet.routesTo]
  split
  · exact List.Perm.refl _
  · split
    · exact List.Perm.refl _
    · refine (h.nodes.filter _).flatMap fun n hn => ?_
      rw [h.routeOn ends _ _ _ (List.mem_of_mem_filter hn)]

theorem familiesOf (hn : n ∈ F.clusterNodes) : F.familiesOf n = F'.familiesOf n := by
  rw [Fleet.familiesOf, Fleet.familiesOf, h.supports .v4 hn, h.supports .v6 hn]

omit h in
theorem mem_of_internal (hn : n ∈ F.internalNodes) : n ∈ F.clusterNodes :=
  List.mem_of_mem_filter hn

omit h in
theorem mem_of_gateway (hn : n ∈ F.getGatewayNodes) : n ∈ F.clusterNodes :=
  (gateway_some (mem_getGatewayNodes.mp hn)).1

theorem toGatewayLog : (F.toGatewayLog ends).Perm (F'.toGatewayLog ends) := by
  refine h.internalNodes.flatMap fun n hn => ?_
  rw [h.gateway, h.familiesOf (mem_of_internal hn)]

theorem fromGatewayLog : (F.fromGatewayLog ends).Perm (F'.fromGatewayLog ends) := by
  refine h.gateways.flatMap fun n hn => ?_
  rw [h.familiesOf (mem_of_gateway hn)]
  exact ((h.internalNodesOf _).flatMap fun _ _ => List.Perm.refl _).map _

theorem bridgeLog : (F.bridgeLog ends).Perm (F'.bridgeLog ends) := by
  refine h.bridgeNodes.flatMap fun src hsrc => ?_
  refine (h.bridgeNodes.flatMap fun tar htar => ?_).map _
  have hs := fun t => h.supports t (bridgeNodes_subset hsrc)
  have ht := fun t => h.supports t (bridgeNodes_subset htar)
  rw [Fleet.reach, Fleet.reach, Fleet.sharedFamilies, Fleet.sharedFamilies, hs, hs, ht, ht]

theorem hostLog : F.hostLog.Perm F'.hostLog := by
  refine h.gateways.flatMap fun n hn => ?_
  have hmem := mem_of_gateway hn
  simp only [Fleet.masqueradeOf, h.cluster hmem, h.options hmem, h.supports _ hmem]
  exact List.Perm.refl _

omit h in
theorem globalLog_perm (F : Fleet) (env : Env) : (F.globalLog env).Perm
    (F.bridgeNodes.flatMap fun n =>
      post n.name ((F.options n).globalCIDRsMap.entries.flatMap fun entry =>
        (netmapRules entry).map .iptables)) := by
  have hfst : F.bridgeNodes = F.bridgeNodes.zipIdx.map Prod.fst := by simp
  rw [Fleet.globalLog]
  conv => rhs; rw [hfst, List.flatMap_map]
  exact List.Perm.flatMap_left _ fun ni _ => ((env.order_perm _ _).flatMap_right _).map _

theorem globalLog (env env' : Env) : (F.globalLog env).Perm (F'.globalLog env') := by
  refine (globalLog_perm F env).trans (List.Perm.trans ?_ (globalLog_perm F' env').symm)
  refine h.bridgeNodes.flatMap fun n hn => ?_
  rw [h.options (bridgeNodes_subset hn)]

theorem deviceLog (hends : F.ends env = F'.ends env') (o : Overlay) :
    (F.deviceLog env o).Perm (F'.deviceLog env' o) := by
  refine (h.overlayNodes o).flatMap fun n hn => ?_
  have hn' : n ∈ o.nodes F' := (h.overlayNodes o).mem_iff.mp hn
  have hdev : ∀ t, F.devices (env.rand n.name (o.devName t) 0) o t n
      = F'.devices (env'.rand n.name (o.devName t) 0) o t n := by
    intro t
    have he := congrFun (congrFun (congrFun hends o) t) n
    rw [Fleet.ends, Fleet.ends, if_pos hn, if_pos hn'] at he
    rw [Fleet.devices, Fleet.devices, he]
  simp only [hdev]
  exact List.Perm.refl _

theorem journal (hends : F.ends env = F'.ends env') : (F.journal env).Perm (F'.journal env') := by
  have hgateways := h.routeLog (F'.ends env') serviceSource (fun _ => mem_of_gateway) h.gateways
  have hbridge := h.routeLog (F'.ends env') podSource (fun _ => bridgeNodes_subset) h.bridgeNodes
  simp only [Fleet.journal, Fleet.tunnelLog, hends]
  exact ((h.deviceLog hends _).append (h.deviceLog hends _)).append
    (((((hgateways.append hbridge).append ((h.toGatewayLog _).append (h.fromGatewayLog _))).append
      (h.bridgeLog _)).append h.hostLog).append (h.globalLog env env'))

omit h in
theorem sort_foldl_perm {es es' : List Entry} (hp : es.Perm es') :
    (es.foldl NodeConfig.add {}).sort = (es'.foldl NodeConfig.add {}).sort := by
  simp only [foldl_add, NodeConfig.sort, List.nil_append, NodeConfig.mk.injEq]
  exact ⟨sortBy_perm Device.text_injective (hp.filterMap _),
    sortBy_perm Route.text_injective (hp.filterMap _),
    sortBy_perm Iptables.text_injective (hp.filterMap _),
    sortBy_perm Fdb.text_injective (hp.filterMap _),
    sortBy_perm Arp.text_injective (hp.filterMap _)⟩

theorem plan_eq (hends : F.ends env = F'.ends env') : F.plan env = F'.plan env' := by
  funext name
  have hmem : name ∈ F.clusterNodes.map (·.name) ↔ name ∈ F'.clusterNodes.map (·.name) :=
    (h.nodes.map _).mem_iff
  have hsort := sort_foldl_perm (entriesFor_perm (k := name) (h.journal hends))
  simp only [Fleet.plan, hmem, hsort]

end Fleet.SeenAlike

theorem Endpoint.ext {e e' : Endpoint} (h : e.dev = e'.dev) : e = e' := by
  cases e
  cases e'
  cases h
  rfl

theorem Fleet.endpoint_congr {F F' : Fleet} (buf buf' : Option (Vector UInt8 6)) {o : Overlay}
    {t : Family} {n : ClusterNode} (hopt : F.options n = F'.options n)
    (hmac : F.Wants o t n → F.Addressable o t n → F.macOf buf o t n = F'.macOf buf' o t n) :
    F.endpoint buf o t n = F'.endpoint buf' o t n := by
  have hwants : F.Wants o t n ↔ F'.Wants o t n := by
    simp only [Fleet.Wants, Fleet.supports, hopt]
  have haddr : F.Addressable o t n ↔ F'.Addressable o t n := by
    simp only [Fleet.Addressable, hopt]
  by_cases hw : F.Wants o t n
  · rcases generateVxlanIP_cases (t.underlayIP n) (o.cidr t (F.options n)) with
      ⟨hg, -⟩ | ⟨hg, addr, -, -, he, -⟩
    · rw [endpoint_of_not_addressable hg, endpoint_of_not_addressable fun h => hg (haddr.mpr h)]
    · obtain ⟨e, hes, hdev⟩ := endpoint_of_addressable buf hw he
      rw [hopt] at he
      obtain ⟨e', hes', hdev'⟩ := endpoint_of_addressable buf' (hwants.mp hw) he
      have hsame : e.dev = e'.dev := by
        rw [hdev, hdev', deviceAt, deviceAt, hmac hw hg]
      rw [hes, hes', Endpoint.ext hsame]
  · rw [endpoint_of_not_wants hw, endpoint_of_not_wants fun h => hw (hwants.mpr h)]

def macIn (nodeConfigs : List Api.NodeConfig) (nodeName devName : String) : String :=
  ((newFilter [] [] nodeConfigs).getDeviceFromNodeConfig nodeName devName).elim "" (·.mac)

/-- Every device has the same MAC in both runs: the stored one, or the bytes read. -/
def SameMacs (env env' : Env) (nodeConfigs nodeConfigs' : List Api.NodeConfig) : Prop :=
  ∀ nodeName devName, macIn nodeConfigs nodeName devName = macIn nodeConfigs' nodeName devName ∧
    macText (generateMac (env.rand nodeName devName 0))
      = macText (generateMac (env'.rand nodeName devName 0))

theorem find?_perm {α : Type} {p : α → Bool} {l l' : List α} (hp : l.Perm l')
    (huniq : ∀ a ∈ l, ∀ b ∈ l, p a = true → p b = true → a = b) : l.find? p = l'.find? p := by
  have hmap : (l.find? p).map id = (l'.find? p).map id := map_find?_perm hp huniq
  rwa [Option.map_id, id, id] at hmap

theorem sameMacs_of_perm {env env' : Env} {nodeConfigs nodeConfigs' : List Api.NodeConfig}
    (hrand : env.rand = env'.rand) (hnd : (nodeConfigs.map (·.name)).Nodup)
    (hp : nodeConfigs.Perm nodeConfigs') : SameMacs env env' nodeConfigs nodeConfigs' := by
  intro nodeName devName
  have hfind : (nodeConfigs.find? fun config => config.name == nodeName)
      = nodeConfigs'.find? fun config => config.name == nodeName :=
    find?_perm hp fun a ha b hb h h' => List.inj_on_of_nodup_map hnd ha hb
      ((beq_iff_eq.mp h).trans (beq_iff_eq.mp h').symm)
  rw [macIn, macIn, Filter.getDeviceFromNodeConfig, Filter.getDeviceFromNodeConfig, newFilter,
    newFilter, hfind, hrand]
  exact ⟨rfl, rfl⟩

theorem buildClustersMap_perm {cs cs' : List Cluster} (hnd : (cs.map (·.name)).Nodup)
    (hp : cs.Perm cs') : buildClustersMap cs = buildClustersMap cs' := by
  have hsome : ∀ {cs cs' : List Cluster} {name c}, (cs'.map (·.name)).Nodup → cs.Perm cs' →
      buildClustersMap cs name = some c → buildClustersMap cs' name = some c := by
    intro cs cs' name c hnd hp h
    obtain ⟨hmem, rfl⟩ := buildClustersMap_some h
    exact buildClustersMap_of_mem hnd (hp.mem_iff.mp hmem)
  have hnd' : (cs'.map (·.name)).Nodup := (hp.map _).nodup_iff.mp hnd
  funext name
  cases h : buildClustersMap cs name with
  | some c => exact (hsome hnd' hp h).symm
  | none =>
    cases h' : buildClustersMap cs' name with
    | none => rfl
    | some c => rw [hsome hnd hp.symm h'] at h; cases h

section Order

variable {clusters clusters' : List Cluster} {clusterNodes clusterNodes' : List ClusterNode}

theorem fleetOf_alike (hnames : DistinctNames clusters clusterNodes)
    (hgw : AtMostOneGateway clusterNodes) (hc : clusters.Perm clusters')
    (hn : clusterNodes.Perm clusterNodes') (nodeConfigs nodeConfigs' : List Api.NodeConfig) :
    (fleetOf clusters clusterNodes nodeConfigs).Alike
      (fleetOf clusters' clusterNodes' nodeConfigs') := by
  have hcs : (validClusters clusters).Perm (validClusters clusters') := hc.filter _
  have hmap : buildClustersMap (clusters.filter keepCluster)
      = buildClustersMap (clusters'.filter keepCluster) :=
    buildClustersMap_perm (hnames.fleetOf nodeConfigs).clusters hcs
  have hvalid : validNode clusters = validNode clusters' := by
    funext n
    rw [validNode, validNode, hmap]
  have hns : (validNodes clusters clusterNodes).Perm (validNodes clusters' clusterNodes') := by
    rw [validNodes, validNodes, hvalid]
    exact hn.filter _
  refine ⟨hcs, hns, hmap, fun name => find?_perm hns fun a ha b hb h h' => ?_⟩
  simp only [Bool.and_eq_true, beq_iff_eq] at h h'
  exact hgw a (List.mem_filter.mp ha).1 b (List.mem_filter.mp hb).1 h.2 h'.2 (h.1.trans h'.1.symm)

theorem calculateNetworkConfigs_congr {nodeConfigs' : List Api.NodeConfig}
    (hnames : DistinctNames clusters clusterNodes)
    (hnames' : DistinctNames clusters' clusterNodes')
    (hseen : (fleetOf clusters clusterNodes nodeConfigs).SeenAlike (fleetOf clusters'
      clusterNodes' nodeConfigs')) (hmacs : SameMacs env env' nodeConfigs nodeConfigs') :
    calculateNetworkConfigs env clusters clusterNodes nodeConfigs
      = calculateNetworkConfigs env' clusters' clusterNodes' nodeConfigs' := by
  have hmem : ∀ o n, n ∈ Overlay.nodes (fleetOf clusters clusterNodes nodeConfigs) o ↔
      n ∈ Overlay.nodes (fleetOf clusters' clusterNodes' nodeConfigs') o :=
    fun o n => (hseen.overlayNodes o).mem_iff
  have hstored : ∀ n d, (fleetOf clusters clusterNodes nodeConfigs).storedMac n d
      = (fleetOf clusters' clusterNodes' nodeConfigs').storedMac n d := fun n d => (hmacs n d).1
  have hends : (fleetOf clusters clusterNodes nodeConfigs).ends env
      = (fleetOf clusters' clusterNodes' nodeConfigs').ends env' := by
    funext o t n
    by_cases hn : n ∈ Overlay.nodes (fleetOf clusters clusterNodes nodeConfigs) o
    · rw [Fleet.ends, Fleet.ends, if_pos hn, if_pos ((hmem o n).mp hn)]
      refine Fleet.endpoint_congr _ _ (hseen.options (Overlay.nodes_subset hn)) fun _ _ => ?_
      rw [Fleet.macOf, Fleet.macOf, hstored, (hmacs n.name (o.devName t)).2]
    · rw [Fleet.ends, Fleet.ends, if_neg hn, if_neg fun hn' => hn ((hmem o n).mpr hn')]
  have hdoomed : SomeDoomed clusters clusterNodes nodeConfigs ↔
      SomeDoomed clusters' clusterNodes' nodeConfigs' := by
    refine exists_congr fun o => exists_congr fun n => ?_
    rw [hmem o n]
    refine and_congr_right fun hn => exists_congr fun t => ?_
    have hnode := Overlay.nodes_subset ((hmem o n).mpr hn)
    simp [Fleet.Doomed, Fleet.Wants, Fleet.Addressable, hseen.supports t hnode, hseen.options
      hnode, hstored]
  by_cases hd : SomeDoomed clusters clusterNodes nodeConfigs
  · rcases calculateNetworkConfigs_cases env clusters clusterNodes nodeConfigs with
      ⟨-, he⟩ | ⟨hsafe, -⟩
    · rcases calculateNetworkConfigs_cases env' clusters' clusterNodes' nodeConfigs' with
        ⟨-, he'⟩ | ⟨hsafe', -⟩
      · rw [he, he']
      · exact absurd (hdoomed.mp hd) hsafe'
    · exact absurd hd hsafe
  · rw [calculateNetworkConfigs_eq hnames hd,
      calculateNetworkConfigs_eq hnames' fun h => hd (hdoomed.mpr h), hseen.plan_eq hends]

/-- The order of the inputs and maps does not matter, as long as the MACs are the same. -/
theorem calculateNetworkConfigs_perm {env env' : Env}
    {nodeConfigs nodeConfigs' : List Api.NodeConfig}
    (hnames : DistinctNames clusters clusterNodes) (hgw : AtMostOneGateway clusterNodes)
    (hc : clusters.Perm clusters') (hn : clusterNodes.Perm clusterNodes')
    (hmacs : SameMacs env env' nodeConfigs nodeConfigs') :
    calculateNetworkConfigs env clusters clusterNodes nodeConfigs
      = calculateNetworkConfigs env' clusters' clusterNodes' nodeConfigs' := by
  have hnames' : DistinctNames clusters' clusterNodes' :=
    ⟨(hc.map _).nodup_iff.mp hnames.clusters, (hn.map _).nodup_iff.mp hnames.nodes⟩
  exact calculateNetworkConfigs_congr hnames hnames'
    (fleetOf_alike hnames hgw hc hn nodeConfigs nodeConfigs').seenAlike hmacs

theorem sample_calculate_reverse :
    calculateNetworkConfigs sampleEnv sampleClusters sampleNodes [storedInternal]
      = calculateNetworkConfigs { sampleEnv with order := fun _ l => l.reverse
                                                 order_perm := fun _ _ => List.reverse_perm _ }
          sampleClusters.reverse sampleNodes.reverse [storedInternal].reverse :=
  calculateNetworkConfigs_perm sample_distinctNames (by decide) (List.reverse_perm _).symm
    (List.reverse_perm _).symm
    (sameMacs_of_perm rfl (List.nodup_singleton _) (List.reverse_perm _).symm)

end Order

/-- One stored config for each node of the result, with its spec. -/
structure Stores (nodeConfigs : List Api.NodeConfig) (R : String → Option NodeConfig) :
    Prop where
  distinct : (nodeConfigs.map (·.name)).Nodup
  mem_iff : ∀ cfg, cfg ∈ nodeConfigs ↔ ∃ c, R cfg.name = some c ∧
    cfg.spec = c.convertToNodeConfigSpec

def Fleet.store (F : Fleet) (R : String → Option NodeConfig) : List Api.NodeConfig :=
  F.clusterNodes.filterMap fun n => (R n.name).map fun c => ⟨n.name, c.convertToNodeConfigSpec⟩

theorem Fleet.stores {F : Fleet} (hF : F.Distinct) (env : Env) :
    Stores (F.store (F.plan env)) (F.plan env) where
  distinct := by
    have hnodes := hF.nodes
    rw [List.Nodup, List.pairwise_map] at hnodes
    rw [Fleet.store, List.Nodup, List.pairwise_map, List.pairwise_filterMap]
    refine hnodes.imp fun hne a ha b hb => ?_
    obtain ⟨c, -, rfl⟩ := Option.map_eq_some_iff.mp ha
    obtain ⟨c', -, rfl⟩ := Option.map_eq_some_iff.mp hb
    exact hne
  mem_iff := by
    intro cfg
    simp only [Fleet.store, List.mem_filterMap, Option.map_eq_some_iff]
    constructor
    · rintro ⟨n, -, c, hc, rfl⟩
      exact ⟨c, hc, rfl⟩
    · rintro ⟨c, hc, hspec⟩
      have hmem : cfg.name ∈ F.clusterNodes.map (·.name) := by
        by_contra hno
        rw [Fleet.plan, if_neg hno] at hc
        cases hc
      obtain ⟨n, hn, hname⟩ := List.mem_map.mp hmem
      exact ⟨n, hn, c, by rw [hname]; exact hc, by rw [hname, ← hspec]⟩

theorem Stores.lookup {R : String → Option NodeConfig} (h : Stores nodeConfigs R) {f : Filter}
    (hf : f.nodeConfigs = nodeConfigs) {name : String} {c : NodeConfig} (hc : R name = some c)
    (devName : String) :
    f.getDeviceFromNodeConfig name devName = c.devices.find? fun d => d.name == devName := by
  have hmem : (⟨name, c.convertToNodeConfigSpec⟩ : Api.NodeConfig) ∈ nodeConfigs :=
    (h.mem_iff _).mpr ⟨c, hc, rfl⟩
  have hfind : (nodeConfigs.find? fun config => config.name == name)
      = some ⟨name, c.convertToNodeConfigSpec⟩ := by
    cases hcfg : nodeConfigs.find? fun config => config.name == name with
    | none =>
      have hnone := List.find?_eq_none.mp hcfg _ hmem
      simp at hnone
    | some cfg =>
      have hname := List.find?_some hcfg
      rw [beq_iff_eq] at hname
      rw [List.inj_on_of_nodup_map h.distinct (List.mem_of_find?_eq_some hcfg) hmem hname]
  rw [Filter.getDeviceFromNodeConfig, hf, hfind]
  simp [NodeConfig.convertToNodeConfigSpec]

theorem Fleet.plan_find {F : Fleet} (hF : F.Distinct) {n : ClusterNode} (hn : n ∈ F.clusterNodes)
    {c : NodeConfig} (hc : F.plan env n.name = some c) (o : Overlay) (t : Family) :
    (c.devices.find? fun d => d.name == o.devName t) = (F.ends env o t n).map (·.dev) := by
  cases hfind : c.devices.find? fun d => d.name == o.devName t with
  | some d =>
    have hname := List.find?_some hfind
    rw [beq_iff_eq] at hname
    obtain ⟨o', t', m, ep, hm, hep, rfl⟩ := mem_journal_device.mp
      ((plan_has hc (.device d)).mp (List.mem_of_find?_eq_some hfind))
    rw [ends_name hep] at hname
    obtain ⟨rfl, rfl⟩ := Overlay.devName_inj hname
    rw [hF.eq_of_name hn (Overlay.nodes_subset (ends_mem hep)) hm, hep]
    rfl
  | none =>
    cases hends : F.ends env o t n with
    | none => rfl
    | some ep =>
      have hmem : ep.dev ∈ c.devices := (plan_has hc (.device ep.dev)).mpr
        (mem_journal_device.mpr ⟨o, t, n, ep, rfl, hends, rfl⟩)
      have hnone := List.find?_eq_none.mp hfind _ hmem
      simp [ends_name hends] at hnone

theorem Fleet.ends_mac {F : Fleet} {o : Overlay} {t : Family} {n : ClusterNode} {ep : Endpoint}
    (h : F.ends env o t n = some ep) :
    ep.dev.mac = F.macOf (env.rand n.name (o.devName t) 0) o t n := by
  obtain ⟨hn, hw, ha⟩ := ends_isSome.mp ⟨ep, h⟩
  rcases generateVxlanIP_cases (t.underlayIP n) (o.cidr t (F.options n)) with
    ⟨hg, -⟩ | ⟨-, addr, -, -, he, -⟩
  · exact absurd ha hg
  · obtain ⟨e, hes, hdev⟩ := endpoint_of_addressable (env.rand n.name (o.devName t) 0) hw he
    rw [ends, if_pos hn, hes, Option.some.injEq] at h
    rw [← h, hdev, deviceAt]

section Fixpoint

variable {clusters : List Cluster} {clusterNodes : List ClusterNode}

/-- A round over its own result returns it, whatever bytes and orders it meets. -/
theorem calculateNetworkConfigs_fixpoint {env env' : Env}
    {nodeConfigs nodeConfigs' : List Api.NodeConfig} {R : String → Option NodeConfig}
    (hnames : DistinctNames clusters clusterNodes)
    (h : calculateNetworkConfigs env clusters clusterNodes nodeConfigs = .ok R)
    (hmac : ∀ name c, R name = some c → ∀ d ∈ c.devices, d.mac ≠ "")
    (hstored : Stores nodeConfigs' R) :
    calculateNetworkConfigs env' clusters clusterNodes nodeConfigs' = .ok R := by
  have hF := hnames.fleetOf nodeConfigs
  have hR := eq_plan_of_calculate hnames h
  subst hR
  have hlookup : ∀ n ∈ (fleetOf clusters clusterNodes nodeConfigs).clusterNodes, ∀ o t,
      (fleetOf clusters clusterNodes nodeConfigs').getDeviceFromNodeConfig n.name (o.devName t)
        = ((fleetOf clusters clusterNodes nodeConfigs).ends env o t n).map (·.dev) := by
    intro n hn o t
    obtain ⟨c, hc⟩ := Fleet.plan_of_mem env hn
    rw [hstored.lookup rfl hc, Fleet.plan_find hF hn hc]
  have hsafe : ¬ SomeDoomed clusters clusterNodes nodeConfigs' := by
    rintro ⟨o, n, hn, t, -, ha, hold⟩
    have hn' : n ∈ o.nodes (fleetOf clusters clusterNodes nodeConfigs) := by cases o <;> exact hn
    rw [Fleet.storedMac, hlookup n (Overlay.nodes_subset hn')] at hold
    cases hep : (fleetOf clusters clusterNodes nodeConfigs).ends env o t n with
    | none => simp [hep] at hold
    | some ep => exact ha (Fleet.ends_isSome.mp ⟨ep, hep⟩).2.2
  have hends : (fleetOf clusters clusterNodes nodeConfigs').ends env'
      = (fleetOf clusters clusterNodes nodeConfigs).ends env := by
    funext o t n
    have hnodes : o.nodes (fleetOf clusters clusterNodes nodeConfigs')
        = o.nodes (fleetOf clusters clusterNodes nodeConfigs) := by cases o <;> rfl
    rw [Fleet.ends, Fleet.ends, hnodes]
    split
    next hn =>
      refine Fleet.endpoint_congr _ _ rfl fun hw ha => ?_
      obtain ⟨ep, hep⟩ :
          ∃ ep, (fleetOf clusters clusterNodes nodeConfigs).ends env o t n = some ep :=
        Fleet.ends_isSome.mpr ⟨hn, hw, ha⟩
      obtain ⟨c, hc⟩ := Fleet.plan_of_mem env (Overlay.nodes_subset hn)
      have hne := hmac n.name c hc ep.dev ((Fleet.plan_has hc (.device ep.dev)).mpr
        (Fleet.mem_journal_device.mpr ⟨o, t, n, ep, rfl, hep, rfl⟩))
      have hold : (fleetOf clusters clusterNodes nodeConfigs').storedMac n.name (o.devName t)
          = ep.dev.mac := by
        rw [Fleet.storedMac, hlookup n (Overlay.nodes_subset hn), hep]
        rfl
      rw [Fleet.macOf, hold, if_pos hne, Fleet.ends_mac hep]
    · rfl
  have halike : (fleetOf clusters clusterNodes nodeConfigs').Alike
      (fleetOf clusters clusterNodes nodeConfigs) :=
    ⟨List.Perm.refl _, List.Perm.refl _, rfl, fun _ => rfl⟩
  rw [calculateNetworkConfigs_eq hnames hsafe, halike.seenAlike.plan_eq hends]

theorem sample_calculate_again : ∃ R nodeConfigs,
    calculateNetworkConfigs sampleEnv sampleClusters sampleNodes [] = .ok R ∧
    Stores nodeConfigs R ∧
    calculateNetworkConfigs { sampleEnv with rand := fun _ _ _ => none } sampleClusters sampleNodes
      nodeConfigs = .ok R := by
  have hstores := Fleet.stores (sample_distinctNames.fleetOf []) sampleEnv
  refine ⟨_, _, sample_calculate, hstores,
    calculateNetworkConfigs_fixpoint sample_distinctNames sample_calculate ?_ hstores⟩
  intro name c hc d hd
  obtain ⟨o, t, n, ep, -, hep, rfl⟩ :=
    Fleet.mem_journal_device.mp ((Fleet.plan_has hc (.device d)).mp hd)
  rw [Fleet.ends_mac hep]
  exact (by decide : macText (generateMac (some #v[2, 0, 0, 0, 0, 1])) ≠ "")

end Fixpoint

end Kosmos.Manager
