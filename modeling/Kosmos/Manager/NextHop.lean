import Kosmos.Manager.Records

/-!
# Every route has a next hop

The owner of a gateway address is a peer of the node, so ARP and FDB entries lead to it.
-/

namespace Kosmos.Manager

open Kosmos.Go Kosmos.Go.Net Kosmos.Api

/-- No cluster has two nodes with the gateway role. -/
def AtMostOneGateway (clusterNodes : List ClusterNode) : Prop :=
  ∀ n ∈ clusterNodes, ∀ m ∈ clusterNodes, n.isGateway = true → m.isGateway = true →
    n.clusterName = m.clusterName → n = m

instance (clusterNodes : List ClusterNode) : Decidable (AtMostOneGateway clusterNodes) :=
  inferInstanceAs (Decidable (∀ n ∈ clusterNodes, ∀ m ∈ clusterNodes, _))

/-- The IP family is one of `all`, `ipv4` and `ipv6`. -/
def KnownFamily (c : Cluster) : Prop :=
  match c.clusterLinkOptions with
  | none => True
  | some o => o.ipFamily = ipFamilyTypeALL ∨ o.ipFamily = ipFamilyTypeIPV4 ∨
      o.ipFamily = ipFamilyTypeIPV6

instance : (c : Cluster) → Decidable (KnownFamily c)
  | ⟨_, none, _, _⟩ => inferInstanceAs (Decidable True)
  | ⟨_, some _, _, _⟩ => inferInstanceAs (Decidable (_ ∨ _ ∨ _))

namespace Fleet

variable {F : Fleet} {n : ClusterNode}

theorem gateway_of_isGateway (h1 : AtMostOneGateway F.clusterNodes) (hn : n ∈ F.clusterNodes)
    (hgw : n.isGateway = true) : F.getGatewayNodeByClusterName n.clusterName = some n := by
  cases hf : F.getGatewayNodeByClusterName n.clusterName with
  | none =>
    have hnone := List.find?_eq_none.mp hf n hn
    simp [hgw] at hnone
  | some g =>
    obtain ⟨hg, hname, hgg⟩ := gateway_some hf
    rw [h1 g hg n hn hgg hgw hname]

theorem mem_bridgeNodes_of_direct (h1 : AtMostOneGateway F.clusterNodes)
    (hn : n ∈ F.clusterNodes) (hdirect : (n.isGateway || (F.cluster n).isP2P) = true) :
    n ∈ F.bridgeNodes := by
  rw [mem_bridgeNodes]
  cases hgw : n.isGateway with
  | true => exact Or.inl (gateway_of_isGateway h1 hn hgw)
  | false =>
    rw [hgw, Bool.false_or] at hdirect
    exact Or.inr ⟨hn, hdirect, rfl⟩

theorem supports_eq_admits (hn : n ∈ F.clusterNodes) (hfam : KnownFamily (F.cluster n))
    (t : Family) : F.supports t n = F.admits t n := by
  rw [KnownFamily, getOptions hn] at hfam
  rcases hfam with h | h | h <;> cases t <;>
    simp only [supports, admits, h] <;> decide

theorem peer_of_route (hF : F.Distinct) (h1 : AtMostOneGateway F.clusterNodes)
    (hfam : ∀ c ∈ F.clusters, KnownFamily c) {env : Env} {target : ClusterNode} {t : Family}
    {cidr : String} {ep : Endpoint} {r : Route} (ht : target ∈ F.bridgeNodes)
    (hep : F.ends env .vxBridge t target = some ep) (hn : n ∈ F.clusterNodes)
    (hne : n.clusterName ≠ target.clusterName)
    (hr : F.routeOn (F.ends env) t cidr ep.ip n = some r) :
    ∃ o m mep, F.Peer o t n m ∧ F.ends env o t m = some mep ∧ r.gw = mep.ip ∧
      r.dev = o.devName t := by
  obtain ⟨hadm, -, ⟨hdirect, rfl⟩ | ⟨hdirect, gw, gep, hgw, hgep, rfl⟩⟩ := routeOn_eq_some.mp hr
  · -- straight to the target, over the bridge
    have hsup : F.supports t n = true := by
      rw [supports_eq_admits hn (hfam _ (cluster_mem hn).1)]
      exact hadm
    have hname : n.name ≠ target.name := fun he =>
      hne (by rw [hF.eq_of_name hn (bridgeNodes_subset ht) he])
    exact ⟨.vxBridge, target, ep, ⟨mem_bridgeNodes_of_direct h1 hn hdirect, ht, hname, hsup,
      ends_supports hep⟩, hep, rfl, rfl⟩
  · -- over the gateway of the node's own cluster
    obtain ⟨hgwn, hgwname, -⟩ := gateway_some hgw
    have hmode : (F.cluster n).isGateway = true := by
      rw [cluster_congr hgwname.symm]
      exact ((mem_getGatewayClusterNodes hF).mp (ends_mem hgep)).2
    have hsup : F.supports t n = true := by
      rw [supports_congr t hgwname.symm]
      exact ends_supports hgep
    rw [Bool.or_eq_false_iff] at hdirect
    exact ⟨.vxLocal, gw, gep, ⟨hsup, Or.inl ⟨mem_internalNodes.mpr ⟨hn, hmode, hdirect.1⟩, hgw⟩⟩,
      hgep, rfl, rfl⟩

theorem Peer.mem_nodes {o : Overlay} {t : Family} {m : ClusterNode} (h : F.Peer o t n m) :
    n ∈ F.clusterNodes ∧ m ∈ F.clusterNodes := by
  cases o with
  | vxLocal =>
    obtain ⟨-, ⟨hn, hm⟩ | ⟨hn, hm⟩⟩ := h
    · exact ⟨(mem_internalNodes.mp hn).1, (gateway_some hm).1⟩
    · exact ⟨(gateway_some (mem_getGatewayNodes.mp hn)).1, (mem_internalNodesOf.mp hm).1⟩
  | vxBridge => exact ⟨bridgeNodes_subset h.1, bridgeNodes_subset h.2.1⟩

end Fleet

def Family.Names (t : Family) (devName : String) : Prop :=
  devName = t.vxLocal ∨ devName = t.vxBridge

theorem Overlay.devName_names (o : Overlay) (t : Family) : t.Names (o.devName t) := by
  cases o with
  | vxLocal => exact Or.inl rfl
  | vxBridge => exact Or.inr rfl

/-- The gateway is resolved on the route's device, to the underlay IP of its owner. -/
def HasNextHop (R : String → Option NodeConfig) (clusterNodes : List ClusterNode)
    (cfg : NodeConfig) (r : Route) : Prop :=
  ∃ a ∈ cfg.arps, a.ip = r.gw ∧ a.dev = r.dev ∧
    ∃ f ∈ cfg.fdbs, f.mac = a.mac ∧ f.dev = r.dev ∧
      ∃ owner ∈ clusterNodes, ∃ ownerCfg, R owner.name = some ownerCfg ∧
        ∃ d ∈ ownerCfg.devices, d.name = r.dev ∧ devIP d = some r.gw ∧ d.mac = a.mac ∧
          ∃ t : Family, t.Names r.dev ∧ f.ip = t.underlayIP owner

/-- **Main result**: every route in a result has a next hop. -/
theorem calculateNetworkConfigs_nextHop {env : Env} {clusters : List Cluster}
    {clusterNodes : List ClusterNode} {nodeConfigs : List Api.NodeConfig}
    {R : String → Option NodeConfig} (hnames : DistinctNames clusters clusterNodes)
    (hgw : AtMostOneGateway clusterNodes) (hfam : ∀ c ∈ clusters, KnownFamily c)
    (h : calculateNetworkConfigs env clusters clusterNodes nodeConfigs = .ok R) :
    ∀ name cfg, R name = some cfg → ∀ r ∈ cfg.routes, HasNextHop R clusterNodes cfg r := by
  have hR := eq_plan_of_calculate hnames h
  subst hR
  intro name cfg hcfg r hr
  have hF := hnames.fleetOf nodeConfigs
  have hsub : ∀ n ∈ (fleetOf clusters clusterNodes nodeConfigs).clusterNodes, n ∈ clusterNodes :=
    fun n hn => (List.mem_filter.mp hn).1
  have hgw' : AtMostOneGateway (fleetOf clusters clusterNodes nodeConfigs).clusterNodes :=
    fun n hn m hm => hgw n (hsub n hn) m (hsub m hm)
  have hfam' : ∀ c ∈ (fleetOf clusters clusterNodes nodeConfigs).clusters, KnownFamily c :=
    fun c hc => hfam c (List.mem_filter.mp hc).1
  generalize fleetOf clusters clusterNodes nodeConfigs = F at *
  obtain ⟨target, cidr, t, ep, n, ha, -, hep, hn, hne, hname, hr⟩ :=
    Fleet.mem_journal_route.mp ((Fleet.plan_has hcfg (.route r)).mp hr)
  obtain ⟨o, m, mep, hpeer, hmep, hgwip, hdev⟩ :=
    Fleet.peer_of_route hF hgw' hfam' ha.mem_bridgeNodes hep hn hne hr
  have hcaches : ∀ e ∈ caches (F.ends env) o t m, cfg.Has e := fun e he =>
    (Fleet.plan_has hcfg e).mpr
      ((Fleet.mem_journal_cache (caches_isCache he)).mpr ⟨o, n, m, t, hname, hpeer, he⟩)
  simp only [caches, hmep, List.mem_cons, List.not_mem_nil, or_false, forall_eq_or_imp,
    forall_eq] at hcaches
  obtain ⟨-, hfdb, harp⟩ := hcaches
  obtain ⟨ownerCfg, howner⟩ := Fleet.plan_of_mem env hpeer.mem_nodes.2
  refine ⟨_, harp, hgwip.symm, hdev.symm, _, hfdb, rfl, hdev.symm, m,
    hsub m hpeer.mem_nodes.2, ownerCfg, howner, mep.dev, ?_, ?_, ?_, rfl, t, ?_, rfl⟩
  · exact (Fleet.plan_has howner (.device mep.dev)).mpr
      (Fleet.mem_journal_device.mpr ⟨o, t, m, mep, rfl, hmep, rfl⟩)
  · rw [hdev]
    exact Fleet.ends_name hmep
  · rw [hgwip]
    exact mep.devIP_eq
  · rw [hdev]
    exact o.devName_names t

theorem sampleInternal_nextHop : ∃ R cfg,
    calculateNetworkConfigs sampleEnv sampleClusters sampleNodes [] = .ok R ∧
    R sampleInternal.name = some cfg ∧
    ∃ r ∈ cfg.routes, r = ⟨"10.2.1.0/24", "210.168.1.1", "vx-local"⟩ ∧
      HasNextHop R sampleNodes cfg r := by
  have hmem : (⟨"10.2.1.0/24", "210.168.1.1", "vx-local"⟩ : Route) ∈
      (((fleetOf sampleClusters sampleNodes []).plan sampleEnv sampleInternal.name).getD
        {}).routes := by decide +kernel
  exact ⟨_, _, sample_calculate, rfl, _, hmem, rfl,
    calculateNetworkConfigs_nextHop sample_distinctNames (by decide) (by decide) sample_calculate
      sampleInternal.name _ rfl _ hmem⟩

end Kosmos.Manager
