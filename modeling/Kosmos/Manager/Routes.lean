import Kosmos.Manager.Intersect
import Kosmos.Manager.Safety

/-!
# Where routes lead

*Exactness*: routes lead to other clusters only, and share no address with the own one.
*Completeness*: no pod CIDR is left out.
-/

namespace Kosmos.Manager

open Kosmos.Go Kosmos.Go.Net Kosmos.Api

def globalImage (globalCIDRMap : GoMap String String) (cidr : String) : String :=
  (globalCIDRMap.get? cidr).getD cidr

/-- A CIDR of the family of a cluster; all but `all` and `ipv4` mean `ipv6`. -/
def OfFamily (familyType cidr : String) : Prop :=
  familyType = ipFamilyTypeALL ∨ getIPType cidr = convertIPFamilyTypeToIPType familyType

def supportsFamily (o : ClusterLinkOptions) (t : Family) : Bool :=
  o.ipFamily == ipFamilyTypeALL || o.ipFamily == t.name

variable {cidr : String} {cidrs : List String} {t : Family} {target : ClusterNode}

theorem mem_filterByIPFamily {familyType : String} :
    cidr ∈ filterByIPFamily cidrs familyType ↔ cidr ∈ cidrs ∧ OfFamily familyType cidr := by
  unfold filterByIPFamily OfFamily
  split
  next h => simp [h]
  next h => simp [h]

theorem mem_convertToGlobalCIDRs {m : GoMap String String} :
    cidr ∈ convertToGlobalCIDRs cidrs m ↔ ∃ src ∈ cidrs, cidr = globalImage m src := by
  have hmap : convertToGlobalCIDRs cidrs m = cidrs.map (globalImage m) := by
    unfold convertToGlobalCIDRs
    split
    next h =>
      have hid : globalImage m = id := by
        funext c
        simp [globalImage, GoMap.get?, List.length_eq_zero_iff.mp h]
      rw [hid, List.map_id]
    · rfl
  rw [hmap, List.mem_map]
  simp only [eq_comm]

namespace Fleet

variable {F : Fleet} {n : ClusterNode}

theorem mem_advertised {source : Cluster → ClusterNode → List String} :
    cidr ∈ F.advertised source target ↔
      ∃ src ∈ source (F.cluster target) target, OfFamily (F.options target).ipFamily src ∧
        cidr = globalImage (F.options target).globalCIDRsMap src := by
  simp only [advertised, mem_convertToGlobalCIDRs, mem_filterByIPFamily, and_assoc]

theorem conflicts_eq_false : F.conflicts n cidr = false ↔
    ∀ own ∈ (F.cluster n).podCIDRs ++ (F.cluster n).serviceCIDRs, intersect own cidr = false := by
  simp only [conflicts, ifCIDRConflictWithSelf, List.any_eq_false, Bool.not_eq_true]

end Fleet

/-- The CIDR is the global image of one of `B`, of the family of `B`. -/
def ComesFrom (clusterNodes : List ClusterNode) (B : Cluster) (cidr : String) : Prop :=
  ∃ target ∈ clusterNodes, ∃ o, B.name = target.clusterName ∧ B.clusterLinkOptions = some o ∧
    ∃ src, (src ∈ podSource B target ∨ src ∈ B.serviceCIDRs) ∧ OfFamily o.ipFamily src ∧
      cidr = globalImage o.globalCIDRsMap src

/-- The route is from elsewhere, of a family of `A`, and shares no address with `A`. -/
structure RouteAllowed (clusters : List Cluster) (clusterNodes : List ClusterNode) (A : Cluster)
    (r : Route) : Prop where
  elsewhere : ∃ B ∈ clusters, B.name ≠ A.name ∧ ComesFrom clusterNodes B r.cidr
  notHome : ¬ ComesFrom clusterNodes A r.cidr
  family : ∃ o t, A.clusterLinkOptions = some o ∧ familyOf r.cidr = some t ∧
    supportsFamily o t = true
  clear : ∀ own ∈ A.podCIDRs ++ A.serviceCIDRs, ShareNoAddress own r.cidr

/-- Known families, no CIDR of two clusters, and CIDRs of one writing. -/
structure RoutesSeparate (clusters : List Cluster) (clusterNodes : List ClusterNode) : Prop where
  known : ∀ A ∈ clusters, KnownFamily A
  oneOrigin : ∀ A ∈ clusters, ∀ B ∈ clusters, ∀ cidr, ComesFrom clusterNodes A cidr →
    ComesFrom clusterNodes B cidr → A.name = B.name
  oneWriting : ∀ A ∈ clusters, ∀ B ∈ clusters, B.name ≠ A.name → ∀ cidr,
    ComesFrom clusterNodes B cidr → ∀ own ∈ A.podCIDRs ++ A.serviceCIDRs, OneWriting own cidr

theorem Fleet.Advertises.source {F : Fleet} (h : F.Advertises target cidr) :
    ∃ src, (src ∈ podSource (F.cluster target) target ∨ src ∈ (F.cluster target).serviceCIDRs) ∧
      OfFamily (F.options target).ipFamily src ∧
      cidr = globalImage (F.options target).globalCIDRsMap src := by
  rcases h with ⟨-, h⟩ | ⟨-, h⟩
  · obtain ⟨src, hsrc, hfam, hc⟩ := Fleet.mem_advertised.mp h
    exact ⟨src, Or.inr hsrc, hfam, hc⟩
  · obtain ⟨src, hsrc, hfam, hc⟩ := Fleet.mem_advertised.mp h
    exact ⟨src, Or.inl hsrc, hfam, hc⟩

theorem sample_separate : RoutesSeparate sampleClusters sampleNodes := by
  let origins := [("c1", "10.1.0.0/16"), ("c1", "10.101.0.0/16"), ("c2", "10.2.1.0/24")]
  have hall : ∀ B ∈ sampleClusters, ∀ target ∈ sampleNodes, B.name = target.clusterName →
      ∀ o ∈ B.clusterLinkOptions, ∀ src ∈ podSource B target ++ B.serviceCIDRs,
        (B.name, globalImage o.globalCIDRsMap src) ∈ origins := by
    decide +kernel
  have hfrom : ∀ B ∈ sampleClusters, ∀ cidr, ComesFrom sampleNodes B cidr →
      (B.name, cidr) ∈ origins := by
    rintro B hB cidr ⟨target, htarget, o, hname, ho, src, hsrc, -, rfl⟩
    exact hall B hB target htarget hname o ho src (List.mem_append.mpr hsrc)
  have hone : ∀ a ∈ origins, ∀ b ∈ origins, a.2 = b.2 → a.1 = b.1 := by decide
  have hown : ∀ A ∈ sampleClusters, ∀ own ∈ A.podCIDRs ++ A.serviceCIDRs, Unmapped own := by
    decide +kernel
  have horigin : ∀ a ∈ origins, Unmapped a.2 := by decide +kernel
  refine ⟨by decide, fun A hA B hB cidr hcA hcB => ?_, fun A hA B hB _ cidr hc own hmem => ?_⟩
  · exact hone _ (hfrom A hA cidr hcA) _ (hfrom B hB cidr hcB) rfl
  · exact oneWriting_of_unmapped (hown A hA own hmem) (horigin _ (hfrom B hB cidr hc))

def mappedOptions : ClusterLinkOptions :=
  { sampleOptions with
    ipFamily := ipFamilyTypeIPV6
    localCIDRs := { ip := "", ip6 := "fd11::/16" }
    bridgeCIDRs := { ip := "", ip6 := "fd12::/16" } }

def mappedC1 : Cluster where
  name := "c1"
  clusterLinkOptions := some mappedOptions
  podCIDRs := ["::/0"]
  serviceCIDRs := []

def mappedC2 : Cluster where
  name := "c2"
  clusterLinkOptions := some { mappedOptions with networkType := networkTypeP2P }
  podCIDRs := []
  serviceCIDRs := []

def mappedNodes : List ClusterNode :=
  [{ sampleGateway with ip6 := "fd00::1" },
   { sampleEndpoint with ip6 := "fd00::2", podCIDRs := ["::ffff:10.0.0.0/104"] }]

/-- For a supported family the vxlan CIDRs and the underlay IPs are of that family. -/
structure WellFormed (clusters : List Cluster) (clusterNodes : List ClusterNode) : Prop where
  cidrs : ∀ c ∈ clusters, ∀ o, c.clusterLinkOptions = some o →
    ∀ t, supportsFamily o t = true → ∀ ov : Overlay,
      getIPType (ov.cidr t o) = t.ipType ∧ (parseCIDR true (ov.cidr t o)).isOk = true
  underlays : ∀ c ∈ clusters, ∀ o, c.clusterLinkOptions = some o →
    ∀ t, supportsFamily o t = true → ∀ n ∈ clusterNodes, n.clusterName = c.name →
      getIPType (t.underlayIP n) = t.ipType ∧ (parseIP true (t.underlayIP n)).isSome = true

/-- A P2P node stands for its own pods, a gateway for those of its cluster. -/
def StandsFor (B : Cluster) (target : ClusterNode) (src : String) : Prop :=
  (B.isP2P = true ∧ src ∈ target.podCIDRs) ∨
    (B.isGateway = true ∧ target.isGateway = true ∧ src ∈ B.podCIDRs)

/-- A gateway, a P2P node, or a node behind a gateway. -/
def Connected (clusterNodes : List ClusterNode) (A : Cluster) (n : ClusterNode) : Prop :=
  n.isGateway = true ∨ A.isP2P = true ∨
    (A.isGateway = true ∧ ∃ gw ∈ clusterNodes, gw.clusterName = A.name ∧ gw.isGateway = true)

/-- In the result, the node has the device with that address. -/
def OwnsAddress (R : String → Option NodeConfig) (owner : ClusterNode) (devName ip : String) :
    Prop :=
  ∃ cfg, R owner.name = some cfg ∧ ∃ d ∈ cfg.devices, d.name = devName ∧ devIP d = some ip

/-- The node has a route to `cidr`, to the target's bridge address or over its gateway. -/
def HasRoute (R : String → Option NodeConfig) (clusterNodes : List ClusterNode) (A : Cluster)
    (n target : ClusterNode) (t : Family) (cidr : String) : Prop :=
  ∃ cfg, R n.name = some cfg ∧ ∃ r ∈ cfg.routes, r.cidr = cidr ∧
    ((n.isGateway || A.isP2P) = true → r.dev = t.vxBridge ∧ OwnsAddress R target t.vxBridge r.gw) ∧
    ((n.isGateway || A.isP2P) = false → r.dev = t.vxLocal ∧
      ∃ gw ∈ clusterNodes, gw.clusterName = A.name ∧ gw.isGateway = true ∧
        OwnsAddress R gw t.vxLocal r.gw)

namespace Fleet

variable {F : Fleet} {n m : ClusterNode}

theorem ownsAddress {env : Env} {o : Overlay} {ep : Endpoint} (hep : F.ends env o t n = some ep) :
    OwnsAddress (F.plan env) n (o.devName t) ep.ip := by
  obtain ⟨cfg, hcfg⟩ := plan_of_mem env (Overlay.nodes_subset (ends_mem hep))
  exact ⟨cfg, hcfg, ep.dev, (plan_has hcfg (.device ep.dev)).mpr
    (mem_journal_device.mpr ⟨o, t, n, ep, rfl, hep, rfl⟩), ends_name hep, ep.devIP_eq⟩

theorem exists_gateway {gw : ClusterNode} (hgw : gw ∈ F.clusterNodes)
    (hname : gw.clusterName = n.clusterName) (hrole : gw.isGateway = true) :
    ∃ g, F.getGatewayNodeByClusterName n.clusterName = some g := by
  cases h : F.getGatewayNodeByClusterName n.clusterName with
  | some g => exact ⟨g, rfl⟩
  | none =>
    have hnone := List.find?_eq_none.mp h gw hgw
    simp [hname, hrole] at hnone

theorem hasRoute (hF : F.Distinct) (env : Env)
    (haddr : ∀ o t, ∀ m ∈ F.clusterNodes, F.supports t m = true → F.Addressable o t m)
    (ha : F.Advertises target cidr) (ht : familyOf cidr = some t)
    (hst : F.supports t target = true) (hn : n ∈ F.clusterNodes)
    (hne : n.clusterName ≠ target.clusterName) (hadm : F.admits t n = true)
    (hsn : F.supports t n = true) (hconf : F.conflicts n cidr = false)
    (hconn : Connected F.clusterNodes (F.cluster n) n) :
    HasRoute (F.plan env) F.clusterNodes (F.cluster n) n target t cidr := by
  obtain ⟨ep, hep⟩ := (ends_iff_present env).mpr
    ⟨ha.mem_bridgeNodes, hst, haddr .vxBridge t target (bridgeNodes_subset ha.mem_bridgeNodes) hst⟩
  obtain ⟨cfg, hcfg⟩ := plan_of_mem env hn
  have hroute : ∀ r, F.routeOn (F.ends env) t cidr ep.ip n = some r → r ∈ cfg.routes := fun r hr =>
    (plan_has hcfg (.route r)).mpr
      (mem_journal_route.mpr ⟨target, cidr, t, ep, n, ha, ht, hep, hn, hne, rfl, hr⟩)
  cases hdirect : n.isGateway || (F.cluster n).isP2P with
  | true =>
    refine ⟨cfg, hcfg, _, hroute _ (routeOn_eq_some.mpr ⟨hadm, hconf, Or.inl ⟨hdirect, rfl⟩⟩), rfl,
      fun _ => ⟨rfl, ownsAddress hep⟩, fun h => ?_⟩
    rw [hdirect] at h
    cases h
  | false =>
    have hor := Bool.or_eq_false_iff.mp hdirect
    rcases hconn with hc | hc | ⟨hmode, gw, hgw, hgwname, hgwrole⟩
    · rw [hor.1] at hc
      cases hc
    · rw [hor.2] at hc
      cases hc
    obtain ⟨g, hg⟩ := exists_gateway hgw (hgwname.trans (cluster_mem hn).2) hgwrole
    obtain ⟨hgn, hgname, hgrole⟩ := gateway_some hg
    have hsg : F.supports t g = true := by rw [supports_congr t hgname]; exact hsn
    have hgmode : (F.cluster g).isGateway = true := by rw [cluster_congr hgname]; exact hmode
    obtain ⟨gep, hgep⟩ := (ends_iff_present env).mpr
      ⟨(mem_getGatewayClusterNodes hF).mpr ⟨hgn, hgmode⟩, hsg, haddr .vxLocal t g hgn hsg⟩
    refine ⟨cfg, hcfg, _, hroute _ (routeOn_eq_some.mpr
      ⟨hadm, hconf, Or.inr ⟨hdirect, g, gep, hg, hgep, rfl⟩⟩), rfl, fun h => ?_, fun _ =>
      ⟨rfl, g, hgn, hgname.trans (cluster_mem hn).2.symm, hgrole, ownsAddress hgep⟩⟩
    rw [hdirect] at h
    cases h

theorem advertises_of_standsFor (h1 : AtMostOneGateway F.clusterNodes)
    (htarget : target ∈ F.clusterNodes) {src : String}
    (hstands : StandsFor (F.cluster target) target src)
    (hfam : OfFamily (F.options target).ipFamily src) :
    F.Advertises target (globalImage (F.options target).globalCIDRsMap src) := by
  refine Or.inr ⟨mem_bridgeNodes_of_direct h1 htarget ?_, mem_advertised.mpr ⟨src, ?_, hfam, rfl⟩⟩
  · rcases hstands with ⟨hp, -⟩ | ⟨-, hrole, -⟩
    · rw [hp, Bool.or_true]
    · rw [hrole, Bool.true_or]
  · rw [podSource]
    rcases hstands with ⟨hp, hsrc⟩ | ⟨hmode, -, hsrc⟩
    · rw [if_pos hp]
      exact hsrc
    · rw [if_neg (by rw [isP2P_of_isGateway hmode]; decide)]
      exact hsrc

end Fleet

section Complete

variable {clusters : List Cluster} {clusterNodes : List ClusterNode}
  {nodeConfigs : List Api.NodeConfig}

theorem fleetOf_cluster (nodeConfigs : List Api.NodeConfig)
    (hnames : DistinctNames clusters clusterNodes) {n : ClusterNode}
    (hn : n ∈ (fleetOf clusters clusterNodes nodeConfigs).clusterNodes) {A : Cluster}
    (hA : A ∈ clusters) (hname : n.clusterName = A.name) :
    (fleetOf clusters clusterNodes nodeConfigs).cluster n = A := by
  obtain ⟨hmem, hcname⟩ := Fleet.cluster_mem hn
  exact List.inj_on_of_nodup_map hnames.clusters (List.mem_filter.mp hmem).1 hA
    (hcname.trans hname)

theorem WellFormed.addressable (h : WellFormed clusters clusterNodes) (o : Overlay) (t : Family)
    {n : ClusterNode} (hn : n ∈ (fleetOf clusters clusterNodes nodeConfigs).clusterNodes)
    (hs : (fleetOf clusters clusterNodes nodeConfigs).supports t n = true) :
    (fleetOf clusters clusterNodes nodeConfigs).Addressable o t n := by
  obtain ⟨hmem, hname⟩ := Fleet.cluster_mem hn
  have hc := (List.mem_filter.mp hmem).1
  obtain ⟨htype, hparse⟩ := h.cidrs _ hc _ (Fleet.getOptions hn) t hs o
  obtain ⟨htype', hparse'⟩ := h.underlays _ hc _ (Fleet.getOptions hn) t hs n
    (List.mem_filter.mp hn).1 hname.symm
  exact ⟨htype'.trans htype.symm, hparse', hparse⟩

/-- With well-formed addresses a connected node has a route to every pod CIDR both clusters support.
-/
theorem calculateNetworkConfigs_routes_complete (env : Env)
    (hnames : DistinctNames clusters clusterNodes) (hgw : AtMostOneGateway clusterNodes)
    (hfam : ∀ c ∈ clusters, KnownFamily c) (hwf : WellFormed clusters clusterNodes) :
    ∃ R, calculateNetworkConfigs env clusters clusterNodes nodeConfigs = .ok R ∧
      ∀ A ∈ clusters, ∀ B ∈ clusters, A.name ≠ B.name →
      ∀ oA oB, A.clusterLinkOptions = some oA → B.clusterLinkOptions = some oB →
      ∀ n ∈ validNodes clusters clusterNodes, n.clusterName = A.name →
      Connected (validNodes clusters clusterNodes) A n →
      ∀ target ∈ validNodes clusters clusterNodes, target.clusterName = B.name →
      ∀ src, StandsFor B target src → OfFamily oB.ipFamily src →
      ∀ t, familyOf (globalImage oB.globalCIDRsMap src) = some t →
      supportsFamily oA t = true → supportsFamily oB t = true →
      (∀ own ∈ A.podCIDRs ++ A.serviceCIDRs,
        intersect own (globalImage oB.globalCIDRsMap src) = false) →
      HasRoute R (validNodes clusters clusterNodes) A n target t
        (globalImage oB.globalCIDRsMap src) := by
  have hF := hnames.fleetOf nodeConfigs
  have hsafe : ¬ SomeDoomed clusters clusterNodes nodeConfigs := by
    rintro ⟨o, n, hn, t, hw, ha, -⟩
    exact ha (hwf.addressable o t (Overlay.nodes_subset hn) hw.1)
  refine ⟨_, calculateNetworkConfigs_eq hnames hsafe, ?_⟩
  intro A hA B hB hAB oA oB hoA hoB n hn hnA hconn target ht htB src hstands hsrc t htype hsA hsB
    hclear
  have hcn := fleetOf_cluster nodeConfigs hnames hn hA hnA
  have hct := fleetOf_cluster nodeConfigs hnames ht hB htB
  have hon := Fleet.getOptions (F := fleetOf clusters clusterNodes nodeConfigs) hn
  have hot := Fleet.getOptions (F := fleetOf clusters clusterNodes nodeConfigs) ht
  rw [hcn, hoA, Option.some.injEq] at hon
  rw [hct, hoB, Option.some.injEq] at hot
  have hgw' : AtMostOneGateway (fleetOf clusters clusterNodes nodeConfigs).clusterNodes :=
    fun n hn m hm => hgw n (List.mem_filter.mp hn).1 m (List.mem_filter.mp hm).1
  have hsn : (fleetOf clusters clusterNodes nodeConfigs).supports t n = true := by
    rw [Fleet.supports, ← hon]
    exact hsA
  have hst : (fleetOf clusters clusterNodes nodeConfigs).supports t target = true := by
    rw [Fleet.supports, ← hot]
    exact hsB
  have hadm : (fleetOf clusters clusterNodes nodeConfigs).admits t n = true := by
    rw [← Fleet.supports_eq_admits hn (by rw [hcn]; exact hfam A hA)]
    exact hsn
  have had := Fleet.advertises_of_standsFor hgw' ht (by rw [hct]; exact hstands)
    (by rw [← hot]; exact hsrc)
  rw [← hot] at had
  have hroute := Fleet.hasRoute hF env
    (fun o t m hm hs => hwf.addressable o t hm hs) had htype hst hn
    (by rw [hnA, htB]; exact hAB) hadm hsn
    (Fleet.conflicts_eq_false.mpr (by rw [hcn]; exact hclear)) (by rw [hcn]; exact hconn)
  rw [hcn] at hroute
  exact hroute

end Complete

theorem wellFormed_of_sampleOptions {clusters : List Cluster} {clusterNodes : List ClusterNode}
    (hc : ∀ c ∈ clusters, ∀ o ∈ c.clusterLinkOptions, o.ipFamily = "ipv4" ∧
      o.localCIDRs.ip = "210.0.0.0/8" ∧ o.bridgeCIDRs.ip = "220.0.0.0/8")
    (hn : ∀ n ∈ clusterNodes, getIPType n.ip = .ipv4 ∧ (parseIP true n.ip).isSome = true) :
    WellFormed clusters clusterNodes := by
  have honly : ∀ c ∈ clusters, ∀ o, c.clusterLinkOptions = some o → ∀ t,
      supportsFamily o t = true → t = .v4 := by
    intro c hcm o ho t ht
    cases t with
    | v4 => rfl
    | v6 =>
      rw [supportsFamily, (hc c hcm o ho).1] at ht
      exact absurd ht (by decide)
  constructor
  · intro c hcm o ho t ht ov
    rw [honly c hcm o ho t ht]
    obtain ⟨-, hlocal, hbridge⟩ := hc c hcm o ho
    cases ov with
    | vxLocal =>
      rw [Overlay.cidr, hlocal]
      decide
    | vxBridge =>
      rw [Overlay.cidr, hbridge]
      decide
  · intro c hcm o ho t ht n hnm _
    rw [honly c hcm o ho t ht]
    exact hn n hnm

theorem sampleInternal_hasRoute : ∃ R,
    calculateNetworkConfigs sampleEnv sampleClusters sampleNodes [] = .ok R ∧
    HasRoute R sampleNodes sampleC1 sampleInternal sampleEndpoint .v4 "10.2.1.0/24" := by
  obtain ⟨R, hR, hroutes⟩ := @calculateNetworkConfigs_routes_complete _ _ [] sampleEnv
    sample_distinctNames (by decide) (by decide)
    (wellFormed_of_sampleOptions (by simp [sampleClusters, sampleC1, sampleC2, sampleOptions,
      ipFamilyTypeIPV4]) (by decide))
  exact ⟨R, hR, hroutes sampleC1 (by simp [sampleClusters]) sampleC2 (by simp [sampleClusters])
    (by decide) _ _ rfl rfl sampleInternal (by decide) rfl
    (Or.inr (Or.inr ⟨by decide, sampleGateway, by decide, rfl, by decide⟩)) sampleEndpoint
    (by decide) rfl "10.2.1.0/24" (Or.inl ⟨by decide, by decide⟩) (Or.inr (by decide)) .v4
    (by decide) (by decide) (by decide) (by decide)⟩

def crossOptions : ClusterLinkOptions :=
  { sampleOptions with networkType := networkTypeP2P
                       globalCIDRsMap := ⟨[("fd00::/64", "10.9.0.0/16")], by decide⟩ }

def crossC2 : Cluster := { sampleC2 with clusterLinkOptions := some crossOptions }

def crossEndpoint : ClusterNode := { sampleEndpoint with podCIDRs := ["fd00::/64"] }

theorem crossFamily_no_route :
    DistinctNames [sampleC1, crossC2] [sampleGateway, crossEndpoint] ∧
    AtMostOneGateway [sampleGateway, crossEndpoint] ∧
    (∀ c ∈ [sampleC1, crossC2], KnownFamily c) ∧
    WellFormed [sampleC1, crossC2] [sampleGateway, crossEndpoint] ∧
    Connected [sampleGateway, crossEndpoint] sampleC1 sampleGateway ∧
    StandsFor crossC2 crossEndpoint "fd00::/64" ∧
    globalImage crossOptions.globalCIDRsMap "fd00::/64" = "10.9.0.0/16" ∧
    familyOf "10.9.0.0/16" = some .v4 ∧
    supportsFamily sampleOptions .v4 = true ∧ supportsFamily crossOptions .v4 = true ∧
    (∀ own ∈ sampleC1.podCIDRs ++ sampleC1.serviceCIDRs, intersect own "10.9.0.0/16" = false) ∧
    ∃ R cfg, calculateNetworkConfigs sampleEnv [sampleC1, crossC2] [sampleGateway, crossEndpoint]
        [] = .ok R ∧
      R sampleGateway.name = some cfg ∧ ∀ r ∈ cfg.routes, r.cidr ≠ "10.9.0.0/16" := by
  have hnames : DistinctNames [sampleC1, crossC2] [sampleGateway, crossEndpoint] :=
    ⟨by decide, by decide⟩
  have hnone : ∀ r ∈ (((fleetOf [sampleC1, crossC2] [sampleGateway, crossEndpoint] []).plan
      sampleEnv sampleGateway.name).getD {}).routes, r.cidr ≠ "10.9.0.0/16" := by
    decide +kernel
  exact ⟨hnames, by decide, by decide,
    wellFormed_of_sampleOptions (by simp [sampleC1, crossC2, sampleC2, crossOptions, sampleOptions,
      ipFamilyTypeIPV4]) (by decide),
    Or.inl (by decide), Or.inl ⟨by decide, by decide⟩, by decide, by decide, by decide, by decide,
    by decide, _, _, calculateNetworkConfigs_eq hnames (not_someDoomed_nil _ _), rfl, hnone⟩

end Kosmos.Manager
