import Kosmos.Manager.NextHop

/-!
# Two ways a result can go wrong

*No result*: a device that cannot be built any more is written through a nil pointer for its old
MAC, which takes the manager of all clusters down (`calculateNetworkConfigs_returns_iff`).

*Dangling devices*: routes and cache entries name devices that other handlers were to make
(`calculateNetworkConfigs_noDangling_iff`).
-/

namespace Kosmos.Manager

open Kosmos.Go Kosmos.Go.Net Kosmos.Api

/-- The call returns if and only if every device with a stored MAC can still be built. -/
theorem calculateNetworkConfigs_returns_iff (env : Env) (clusters : List Cluster)
    (clusterNodes : List ClusterNode) (nodeConfigs : List Api.NodeConfig) :
    (∃ R, calculateNetworkConfigs env clusters clusterNodes nodeConfigs = .ok R) ↔
      ∀ o t, ∀ n ∈ Overlay.nodes (fleetOf clusters clusterNodes nodeConfigs) o,
        (fleetOf clusters clusterNodes nodeConfigs).Wants o t n →
        (fleetOf clusters clusterNodes nodeConfigs).storedMac n.name (o.devName t) ≠ "" →
        (fleetOf clusters clusterNodes nodeConfigs).Addressable o t n := by
  have hcond : ¬ SomeDoomed clusters clusterNodes nodeConfigs ↔
      ∀ o t, ∀ n ∈ Overlay.nodes (fleetOf clusters clusterNodes nodeConfigs) o,
        (fleetOf clusters clusterNodes nodeConfigs).Wants o t n →
        (fleetOf clusters clusterNodes nodeConfigs).storedMac n.name (o.devName t) ≠ "" →
        (fleetOf clusters clusterNodes nodeConfigs).Addressable o t n := by
    constructor
    · intro hsafe o t n hn hw hmac
      by_contra ha
      exact hsafe ⟨o, n, hn, t, hw, ha, hmac⟩
    · rintro hall ⟨o, n, hn, t, hw, ha, hmac⟩
      exact ha (hall o t n hn hw hmac)
  rw [← hcond]
  rcases calculateNetworkConfigs_cases env clusters clusterNodes nodeConfigs with
    ⟨hd, he⟩ | ⟨hd, hret⟩
  · refine iff_of_false ?_ (not_not_intro hd)
    rintro ⟨R, hR⟩
    rw [he] at hR
    cases hR
  · exact iff_of_true hret hd

def brokenC1 : Cluster :=
  let options := { sampleOptions with localCIDRs := { ip := "210.0.0.0", ip6 := "" } }
  { sampleC1 with clusterLinkOptions := some options }

def storedInternal : Api.NodeConfig where
  name := "c1-in"
  spec := { devices := some [{ type := "vxlan", name := "vx-local", addr := "210.168.1.2/8",
                               mac := "02:00:00:00:00:01", bindDev := "eth0", id := 55,
                               port := 4877 }] }

theorem brokenC1_panics :
    calculateNetworkConfigs sampleEnv [brokenC1, sampleC2] sampleNodes [storedInternal]
      = .error (.panic .nilDeref) := by
  rfl

def NodeConfig.HasDevice (cfg : NodeConfig) (devName : String) : Prop :=
  ∃ d ∈ cfg.devices, d.name = devName

/-- Every route, FDB entry and ARP entry names a device of its own node. -/
def NoDangling (R : String → Option NodeConfig) : Prop :=
  ∀ name cfg, R name = some cfg →
    (∀ r ∈ cfg.routes, cfg.HasDevice r.dev) ∧ (∀ f ∈ cfg.fdbs, cfg.HasDevice f.dev) ∧
      ∀ a ∈ cfg.arps, cfg.HasDevice a.dev

theorem graftable_ne_empty {u d : String} (h : Graftable u d) : u ≠ "" ∧ d ≠ "" := by
  obtain ⟨-, hu, hd⟩ := h
  constructor
  · rintro rfl
    exact absurd hu (by decide)
  · rintro rfl
    exact absurd hd (by decide)

namespace Fleet

/-- The device handlers and the others choose nodes alike. -/
structure DevicesAgree (F : Fleet) : Prop where
  bridge : ∀ t, ∀ n ∈ F.bridgeNodes, ∀ m ∈ F.bridgeNodes, n.name ≠ m.name →
    F.supports t n = true → F.supports t m = true →
    F.Addressable .vxBridge t m → F.Addressable .vxBridge t n
  inner : ∀ t, ∀ n ∈ F.internalNodes, ∀ gw,
    F.getGatewayNodeByClusterName n.clusterName = some gw → F.supports t n = true →
    (F.Addressable .vxLocal t gw ↔ F.Addressable .vxLocal t n)
  direct : ∀ t target cidr, F.Advertises target cidr → familyOf cidr = some t →
    F.supports t target = true → F.Addressable .vxBridge t target →
    ∀ n ∈ F.clusterNodes, n.clusterName ≠ target.clusterName →
      (n.isGateway || (F.cluster n).isP2P) = true → F.admits t n = true →
      F.conflicts n cidr = false → n ∈ F.bridgeNodes ∧ F.supports t n = true

variable {F : Fleet} {n m : ClusterNode} {env : Env} {o : Overlay} {t : Family}

def Present (F : Fleet) (o : Overlay) (t : Family) (n : ClusterNode) : Prop :=
  n ∈ o.nodes F ∧ F.supports t n = true ∧ F.Addressable o t n

theorem ends_iff_present (env : Env) : (∃ ep, F.ends env o t n = some ep) ↔ F.Present o t n := by
  rw [ends_isSome]
  constructor
  · rintro ⟨hn, hw, ha⟩
    exact ⟨hn, hw.1, ha⟩
  · rintro ⟨hn, hs, ha⟩
    exact ⟨hn, ⟨hs, graftable_ne_empty ha⟩, ha⟩

theorem hasDevice_iff (hF : F.Distinct) (hn : n ∈ F.clusterNodes) {cfg : NodeConfig}
    (hcfg : F.plan env n.name = some cfg) : cfg.HasDevice (o.devName t) ↔ F.Present o t n := by
  rw [← ends_iff_present env]
  constructor
  · rintro ⟨d, hd, hname⟩
    obtain ⟨o', t', m, ep, hm, hep, rfl⟩ :=
      mem_journal_device.mp ((plan_has hcfg (.device d)).mp hd)
    rw [ends_name hep] at hname
    obtain ⟨rfl, rfl⟩ := Overlay.devName_inj hname
    rw [hF.eq_of_name hn (Overlay.nodes_subset (ends_mem hep)) hm]
    exact ⟨ep, hep⟩
  · rintro ⟨ep, hep⟩
    exact ⟨ep.dev, (plan_has hcfg (.device ep.dev)).mpr
      (mem_journal_device.mpr ⟨o, t, n, ep, rfl, hep, rfl⟩), ends_name hep⟩

theorem mem_caches_dev {ends : Ends} {e : Entry} (h : e ∈ caches ends o t m) :
    (∃ ep, ends o t m = some ep) ∧ (∀ f, e = .fdb f → f.dev = o.devName t) ∧
      ∀ a, e = .arp a → a.dev = o.devName t := by
  unfold caches at h
  split at h
  · cases h
  next ep hep =>
    simp only [List.mem_cons, List.not_mem_nil, or_false] at h
    rcases h with rfl | rfl | rfl <;>
      exact ⟨⟨ep, hep⟩, fun _ h => by cases h <;> rfl, fun _ h => by cases h <;> rfl⟩

def CachesHold (F : Fleet) : Prop :=
  ∀ o t n m, F.Peer o t n m → F.Present o t m → F.Present o t n

def RoutesHold (F : Fleet) : Prop :=
  ∀ target cidr t n, F.Advertises target cidr → familyOf cidr = some t →
    F.Present .vxBridge t target → n ∈ F.clusterNodes → n.clusterName ≠ target.clusterName →
    F.admits t n = true → F.conflicts n cidr = false →
    ((n.isGateway || (F.cluster n).isP2P) = true → F.Present .vxBridge t n) ∧
    ((n.isGateway || (F.cluster n).isP2P) = false → ∀ gw,
      F.getGatewayNodeByClusterName n.clusterName = some gw → F.Present .vxLocal t gw →
      F.Present .vxLocal t n)

theorem cachesHold_of_noDangling (hF : F.Distinct) (h : NoDangling (F.plan env)) :
    F.CachesHold := by
  intro o t n m hpeer hm
  obtain ⟨ep, hep⟩ := (ends_iff_present env).mpr hm
  obtain ⟨cfg, hcfg⟩ := plan_of_mem env hpeer.mem_nodes.1
  have hmem : Entry.arp { ip := ep.ip, mac := ep.dev.mac, dev := o.devName t } ∈
      caches (F.ends env) o t m := by simp [caches, hep]
  have harp := (plan_has hcfg _).mpr
    ((mem_journal_cache (caches_isCache hmem)).mpr ⟨o, n, m, t, rfl, hpeer, hmem⟩)
  exact (hasDevice_iff hF hpeer.mem_nodes.1 hcfg).mp ((h _ _ hcfg).2.2 _ harp)

theorem routesHold_of_noDangling (hF : F.Distinct) (h : NoDangling (F.plan env)) :
    F.RoutesHold := by
  intro target cidr t n ha hfam htarget hn hne hadm hconf
  obtain ⟨ep, hep⟩ := (ends_iff_present env).mpr htarget
  obtain ⟨cfg, hcfg⟩ := plan_of_mem env hn
  have hroute : ∀ r, F.routeOn (F.ends env) t cidr ep.ip n = some r → cfg.HasDevice r.dev :=
    fun r hr => (h _ _ hcfg).1 r ((plan_has hcfg (.route r)).mpr
      (mem_journal_route.mpr ⟨target, cidr, t, ep, n, ha, hfam, hep, hn, hne, rfl, hr⟩))
  constructor
  · intro hdirect
    exact (hasDevice_iff hF hn hcfg (o := .vxBridge)).mp
      (hroute _ (routeOn_eq_some.mpr ⟨hadm, hconf, Or.inl ⟨hdirect, rfl⟩⟩))
  · intro hdirect gw hgw hpres
    obtain ⟨gep, hgep⟩ := (ends_iff_present env).mpr hpres
    exact (hasDevice_iff hF hn hcfg (o := .vxLocal)).mp
      (hroute _ (routeOn_eq_some.mpr ⟨hadm, hconf, Or.inr ⟨hdirect, gw, gep, hgw, hgep, rfl⟩⟩))

theorem noDangling_of_hold (hF : F.Distinct) (hcaches : F.CachesHold) (hroutes : F.RoutesHold) :
    NoDangling (F.plan env) := by
  intro name cfg hcfg
  have hcache : ∀ e : Entry, e.IsCache → cfg.Has e →
      (∀ f, e = .fdb f → cfg.HasDevice f.dev) ∧ ∀ a, e = .arp a → cfg.HasDevice a.dev := by
    intro e hcache he
    obtain ⟨o, n, m, t, rfl, hpeer, hmem⟩ :=
      (mem_journal_cache hcache).mp ((plan_has hcfg e).mp he)
    obtain ⟨hm, hf, ha⟩ := mem_caches_dev hmem
    have hdev := (hasDevice_iff hF hpeer.mem_nodes.1 hcfg).mpr
      (hcaches o t n m hpeer ((ends_iff_present env).mp hm))
    exact ⟨fun f h => by rw [hf f h]; exact hdev, fun a h => by rw [ha a h]; exact hdev⟩
  refine ⟨fun r hr => ?_, fun f hf => (hcache (.fdb f) ⟨rfl, rfl, rfl⟩ hf).1 f rfl,
    fun a ha => (hcache (.arp a) ⟨rfl, rfl, rfl⟩ ha).2 a rfl⟩
  obtain ⟨target, cidr, t, ep, n, ha, hfam, hep, hn, hne, rfl, hr⟩ :=
    mem_journal_route.mp ((plan_has hcfg (.route r)).mp hr)
  obtain ⟨hadm, hconf, hcase⟩ := routeOn_eq_some.mp hr
  obtain ⟨hbridge, hinner⟩ :=
    hroutes target cidr t n ha hfam ((ends_iff_present env).mp ⟨ep, hep⟩) hn
    hne hadm hconf
  rcases hcase with ⟨hdirect, rfl⟩ | ⟨hdirect, gw, gep, hgw, hgep, rfl⟩
  · exact (hasDevice_iff hF hn hcfg (o := .vxBridge)).mpr (hbridge hdirect)
  · exact (hasDevice_iff hF hn hcfg (o := .vxLocal)).mpr
      (hinner hdirect gw hgw ((ends_iff_present env).mp ⟨gep, hgep⟩))

theorem isP2P_of_isGateway {c : Cluster} (h : c.isGateway = true) : c.isP2P = false := by
  unfold Cluster.isGateway at h
  unfold Cluster.isP2P
  split at h
  · cases h
  · rw [beq_iff_eq] at h
    simp only [h]
    decide

theorem devicesAgree_of_hold (hF : F.Distinct) (hcaches : F.CachesHold)
    (hroutes : F.RoutesHold) : F.DevicesAgree where
  bridge := fun t n hn m hm hne hsn hsm ha =>
    (hcaches .vxBridge t n m ⟨hn, hm, hne, hsn, hsm⟩ ⟨hm, hsm, ha⟩).2.2
  inner := fun t n hn gw hgw hs => by
    obtain ⟨hgwn, hname, hrole⟩ := gateway_some hgw
    obtain ⟨hnn, hmode, hnrole⟩ := mem_internalNodes.mp hn
    have hsgw : F.supports t gw = true := by rw [supports_congr t hname]; exact hs
    have hgwmode : (F.cluster gw).isGateway = true := by rw [cluster_congr hname]; exact hmode
    constructor
    · intro ha
      exact (hcaches .vxLocal t n gw ⟨hs, Or.inl ⟨hn, hgw⟩⟩
        ⟨(mem_getGatewayClusterNodes hF).mpr ⟨hgwn, hgwmode⟩, hsgw, ha⟩).2.2
    · intro ha
      have hpeer : F.Peer .vxLocal t gw n := by
        refine ⟨hsgw, Or.inr ⟨mem_getGatewayNodes.mpr (by rw [hname]; exact hgw), ?_⟩⟩
        exact mem_internalNodesOf.mpr ⟨hnn, isP2P_of_isGateway hmode, hname.symm, hnrole⟩
      exact (hcaches .vxLocal t gw n hpeer
        ⟨(mem_getGatewayClusterNodes hF).mpr ⟨hnn, hmode⟩, hs, ha⟩).2.2
  direct := fun t target cidr had hfam hs ha n hn hne hdirect hadm hconf => by
    have hpres := (hroutes target cidr t n had hfam ⟨had.mem_bridgeNodes, hs, ha⟩ hn hne hadm
      hconf).1 hdirect
    exact ⟨hpres.1, hpres.2.1⟩

theorem DevicesAgree.present_inner (h : F.DevicesAgree) (hF : F.Distinct)
    (hn : n ∈ F.clusterNodes) (hrole : n.isGateway = false)
    (hgw : F.getGatewayNodeByClusterName n.clusterName = some m) :
    F.Present .vxLocal t m ↔ F.Present .vxLocal t n := by
  obtain ⟨hmn, hname, -⟩ := gateway_some hgw
  have hmem : m ∈ Overlay.nodes F .vxLocal ↔ n ∈ Overlay.nodes F .vxLocal := by
    simp [Overlay.nodes, mem_getGatewayClusterNodes hF, hn, hmn, cluster_congr hname]
  simp only [Present, hmem, supports_congr t hname]
  refine and_congr_right fun hnode => and_congr_right fun hs => ?_
  have hmode := ((mem_getGatewayClusterNodes hF).mp hnode).2
  exact h.inner t n (mem_internalNodes.mpr ⟨hn, hmode, hrole⟩) m hgw hs

theorem DevicesAgree.cachesHold (h : F.DevicesAgree) (hF : F.Distinct) : F.CachesHold := by
  intro o t n m hpeer hm
  cases o with
  | vxBridge =>
    obtain ⟨hn, hm', hne, hsn, hsm⟩ := hpeer
    exact ⟨hn, hsn, h.bridge t n hn m hm' hne hsn hsm hm.2.2⟩
  | vxLocal =>
    obtain ⟨-, ⟨hn, hgw⟩ | ⟨hn, hmi⟩⟩ := hpeer
    · obtain ⟨hnn, -, hrole⟩ := mem_internalNodes.mp hn
      exact (h.present_inner hF hnn hrole hgw).mp hm
    · obtain ⟨hmn, -, hname, hrole⟩ := mem_internalNodesOf.mp hmi
      have hgw : F.getGatewayNodeByClusterName m.clusterName = some n := by
        rw [hname]
        exact mem_getGatewayNodes.mp hn
      exact (h.present_inner hF hmn hrole hgw).mpr hm

theorem DevicesAgree.routesHold (h : F.DevicesAgree) (hF : F.Distinct) : F.RoutesHold := by
  intro target cidr t n had hfam ht hn hne hadm hconf
  constructor
  · intro hdirect
    obtain ⟨hnb, hs⟩ := h.direct t target cidr had hfam ht.2.1 ht.2.2 n hn hne hdirect hadm hconf
    have hname : n.name ≠ target.name := fun he =>
      hne (by rw [hF.eq_of_name hn (bridgeNodes_subset ht.1) he])
    exact ⟨hnb, hs, h.bridge t n hnb target ht.1 hname hs ht.2.1 ht.2.2⟩
  · intro hdirect gw hgw hpres
    rw [Bool.or_eq_false_iff] at hdirect
    exact (h.present_inner hF hn hdirect.1 hgw).mp hpres

end Fleet

/-- No device dangles exactly when the handlers choose nodes alike. -/
theorem calculateNetworkConfigs_noDangling_iff {env : Env} {clusters : List Cluster}
    {clusterNodes : List ClusterNode} {nodeConfigs : List Api.NodeConfig}
    {R : String → Option NodeConfig} (hnames : DistinctNames clusters clusterNodes)
    (h : calculateNetworkConfigs env clusters clusterNodes nodeConfigs = .ok R) :
    NoDangling R ↔ (fleetOf clusters clusterNodes nodeConfigs).DevicesAgree := by
  have hF := hnames.fleetOf nodeConfigs
  rw [eq_plan_of_calculate hnames h]
  constructor
  · intro hR
    exact Fleet.devicesAgree_of_hold hF (Fleet.cachesHold_of_noDangling hF hR)
      (Fleet.routesHold_of_noDangling hF hR)
  · intro hagree
    exact Fleet.noDangling_of_hold hF (hagree.cachesHold hF) (hagree.routesHold hF)

def twoGatewayNodes : List ClusterNode :=
  sampleNodes ++ [{ sampleGateway with name := "c1-gw2", nodeName := "gw2", ip := "192.168.1.3" }]

private theorem twoGatewayNodes_calculate :
    calculateNetworkConfigs sampleEnv sampleClusters twoGatewayNodes []
      = .ok ((fleetOf sampleClusters twoGatewayNodes []).plan sampleEnv) :=
  calculateNetworkConfigs_eq ⟨by decide, by decide⟩
    (not_someDoomed_nil sampleClusters twoGatewayNodes)

private theorem second_gateway_config : ∃ cfg,
    (fleetOf sampleClusters twoGatewayNodes []).plan sampleEnv "c1-gw2" = some cfg ∧
      ∃ r ∈ cfg.routes, ¬ cfg.HasDevice r.dev := by
  have hroute : (⟨"10.2.1.0/24", "220.168.2.1", "vx-bridge"⟩ : Route) ∈
      (((fleetOf sampleClusters twoGatewayNodes []).plan sampleEnv "c1-gw2").getD {}).routes := by
    decide +kernel
  have hdevices : (((fleetOf sampleClusters twoGatewayNodes []).plan sampleEnv "c1-gw2").getD
      {}).devices.map (·.name) = ["vx-local"] := by
    decide +kernel
  refine ⟨_, rfl, _, hroute, ?_⟩
  rintro ⟨d, hd, hname⟩
  have hmem := List.mem_map_of_mem (f := (·.name)) hd
  rw [hname] at hmem
  exact absurd (hdevices ▸ hmem) (by decide)

theorem twoGatewayNodes_dangling : ∃ R cfg,
    calculateNetworkConfigs sampleEnv sampleClusters twoGatewayNodes [] = .ok R ∧
    R "c1-gw2" = some cfg ∧ ∃ r ∈ cfg.routes, ¬ cfg.HasDevice r.dev := by
  obtain ⟨cfg, hcfg, hr⟩ := second_gateway_config
  exact ⟨_, cfg, twoGatewayNodes_calculate, hcfg, hr⟩

theorem twoGatewayNodes_not_devicesAgree : ∃ R,
    calculateNetworkConfigs sampleEnv sampleClusters twoGatewayNodes [] = .ok R ∧
    ¬ (fleetOf sampleClusters twoGatewayNodes []).DevicesAgree := by
  refine ⟨_, twoGatewayNodes_calculate, fun hagree => ?_⟩
  obtain ⟨cfg, hcfg, r, hr, hdev⟩ := second_gateway_config
  have hno := (calculateNetworkConfigs_noDangling_iff ⟨by decide, by decide⟩
    twoGatewayNodes_calculate).mpr hagree
  exact hdev ((hno _ _ hcfg).1 r hr)

end Kosmos.Manager
