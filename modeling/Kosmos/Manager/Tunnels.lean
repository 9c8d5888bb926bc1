import Kosmos.Manager.Plan

/-!
# The handlers compute the plan, part 1: tunnels

Seven handlers read the filter and the devices, and each posts its part of the plan.
-/

namespace Kosmos.Manager

open Kosmos.Go Kosmos.Go.Net Kosmos.Api

theorem foldl_add (es : List Entry) : ∀ v : NodeConfig, es.foldl NodeConfig.add v =
    { devices := v.devices ++ es.filterMap Entry.device?
      routes := v.routes ++ es.filterMap Entry.route?
      iptables := v.iptables ++ es.filterMap Entry.iptables?
      fdbs := v.fdbs ++ es.filterMap Entry.fdb?
      arps := v.arps ++ es.filterMap Entry.arp? } := by
  induction es with
  | nil => simp
  | cons e es ih =>
    intro v
    rw [List.foldl_cons, ih]
    cases e <;> simp [NodeConfig.add, List.filterMap_cons, Entry.device?, Entry.route?,
      Entry.iptables?, Entry.fdb?, Entry.arp?]

variable {es : List Entry} (t : Family)

namespace Context

def posted (c : Context) (log : Journal) : Context :=
  { c with results := Go.posted NodeConfig.add c.results log }

@[simp] theorem posted_filter (c : Context) (log : Journal) : (c.posted log).filter = c.filter :=
  rfl

@[simp] theorem posted_nil (c : Context) : c.posted [] = c := by
  simp [posted]

theorem posted_append (c : Context) (l₁ l₂ : Journal) :
    (c.posted l₁).posted l₂ = c.posted (l₁ ++ l₂) := by
  simp [posted, Go.posted_append]

theorem posted_isSome (c : Context) (log : Journal) (name : String) :
    ((c.posted log).results name).isSome = (c.results name).isSome := by
  simp [posted]

section Posts

variable {c : Context} {k : String} (h : (c.results k).isSome)
include h

theorem update_eq {f : NodeConfig → NodeConfig} (hf : ∀ v, f v = es.foldl NodeConfig.add v) :
    c.update k f = .ok (c.posted (post k es)) := by
  rw [update, updateAt_eq_posted NodeConfig.add h hf]
  rfl

theorem appendDevices_eq (ds : List Device) :
    c.appendDevices k ds = .ok (c.posted (post k (ds.map .device))) :=
  update_eq h fun v => by
    simp [foldl_add, show Entry.device? ∘ Entry.device = some from rfl, Entry.device?,
      Entry.route?, Entry.iptables?, Entry.fdb?, Entry.arp?]

theorem appendRoutes_eq (rs : List Route) :
    c.appendRoutes k rs = .ok (c.posted (post k (rs.map .route))) :=
  update_eq h fun v => by
    simp [foldl_add, show Entry.route? ∘ Entry.route = some from rfl, Entry.device?,
      Entry.route?, Entry.iptables?, Entry.fdb?, Entry.arp?]

theorem appendIptables_eq (is : List Iptables) :
    c.appendIptables k is = .ok (c.posted (post k (is.map .iptables))) :=
  update_eq h fun v => by
    simp [foldl_add, show Entry.iptables? ∘ Entry.iptables = some from rfl, Entry.device?,
      Entry.route?, Entry.iptables?, Entry.fdb?, Entry.arp?]

theorem appendCaches_eq (hes : ∀ e ∈ es, e.IsCache) :
    (do let c ← c.appendFdbs k (es.filterMap Entry.fdb?)
        c.appendArps k (es.filterMap Entry.arp?)) = .ok (c.posted (post k es)) := by
  have hd : es.filterMap Entry.device? = [] :=
    List.filterMap_eq_nil_iff.mpr fun e he => (hes e he).1
  have hr : es.filterMap Entry.route? = [] :=
    List.filterMap_eq_nil_iff.mpr fun e he => (hes e he).2.1
  have hi : es.filterMap Entry.iptables? = [] :=
    List.filterMap_eq_nil_iff.mpr fun e he => (hes e he).2.2
  obtain ⟨v, hv⟩ := Option.isSome_iff_exists.mp h
  have hboth : c.update k (fun v =>
      { v with
        fdbs := v.fdbs ++ es.filterMap Entry.fdb?
        arps := v.arps ++ es.filterMap Entry.arp? })
      = .ok (c.posted (post k es)) := update_eq h fun v => by simp [foldl_add, hd, hr, hi]
  rw [← hboth]
  simp [appendFdbs, appendArps, update, updateAt, hv]

end Posts

end Context

structure Keyed (F : Fleet) (c : Context) : Prop where
  filter_eq : c.filter = F.toFilter
  present : ∀ n ∈ F.clusterNodes, (c.results n.name).isSome

theorem Keyed.posted {F : Fleet} {c : Context} (h : Keyed F c) (log : Journal) :
    Keyed F (c.posted log) where
  filter_eq := h.filter_eq
  present := fun n hn => by rw [Context.posted_isSome]; exact h.present n hn

structure Ready (F : Fleet) (ends : Ends) (c : Context) : Prop extends Keyed F c where
  device : ∀ n ∈ F.clusterNodes, ∀ o t,
    c.getDeviceFromResults n.name (o.devName t) = (ends o t n).map (·.dev)
  no_name : ∀ n ∈ F.clusterNodes, c.getDeviceFromResults n.name "" = none

theorem getDeviceFromResults_posted {c : Context} {log : Journal}
    (hlog : ∀ ke ∈ log, ke.2.device? = none) (name devName : String) :
    (c.posted log).getDeviceFromResults name devName = c.getDeviceFromResults name devName := by
  have hnone : (entriesFor name log).filterMap Entry.device? = [] :=
    List.filterMap_eq_nil_iff.mpr fun e he => hlog _ (mem_entriesFor.mp he)
  cases h : c.results name <;>
    simp [Context.getDeviceFromResults, Context.posted, Go.posted, h, foldl_add, hnone]

theorem Ready.posted {F : Fleet} {ends : Ends} {c : Context} (h : Ready F ends c) {log : Journal}
    (hlog : ∀ ke ∈ log, ke.2.device? = none) : Ready F ends (c.posted log) where
  toKeyed := h.toKeyed.posted log
  device := fun n hn o t => by rw [getDeviceFromResults_posted hlog]; exact h.device n hn o t
  no_name := fun n hn => by rw [getDeviceFromResults_posted hlog]; exact h.no_name n hn

abbrev Does (F : Fleet) (ends : Ends) (h : Context → Outcome Context) (log : Journal) : Prop :=
  Posts (Ready F ends) Context.posted h log

section Rules

variable {F : Fleet} {ends : Ends} {n : ClusterNode}

theorem Does.skip : Does F ends (fun c => .ok c) [] :=
  Posts.skip Context.posted_nil

theorem Does.bind {h₁ h₂ : Context → Outcome Context} {l₁ l₂ : Journal} (p₁ : Does F ends h₁ l₁)
    (p₂ : Does F ends h₂ l₂) : Does F ends (fun c => h₁ c >>= h₂) (l₁ ++ l₂) :=
  Posts.bind Context.posted_append p₁ p₂

theorem Does.loop {α : Type} {step : Context → α → Outcome Context} {log : α → Journal}
    {xs : List α} (h : ∀ x ∈ xs, Does F ends (fun c => step c x) (log x)) :
    Does F ends (fun c => xs.foldlM step c) (xs.flatMap log) :=
  Posts.loop Context.posted_nil Context.posted_append h

theorem Does.run_nil : Does F ends (run []) [] := Does.skip

theorem Does.run_cons {h : Handler} {hs : List Handler} {l ls : Journal} (p : Does F ends h l)
    (ps : Does F ends (run hs) ls) : Does F ends (run (h :: hs)) (l ++ ls) :=
  Does.bind p ps

variable (hn : n ∈ F.clusterNodes)
include hn

theorem Does.routes (rs : List Route) :
    Does F ends (fun c => c.appendRoutes n.name rs) (post n.name (rs.map .route)) := by
  intro c hc
  exact ⟨Context.appendRoutes_eq (hc.present n hn) rs, hc.posted (by simp [post, Entry.device?])⟩

theorem Does.iptables (is : List Iptables) :
    Does F ends (fun c => c.appendIptables n.name is) (post n.name (is.map .iptables)) := by
  intro c hc
  exact ⟨Context.appendIptables_eq (hc.present n hn) is, hc.posted (by simp [post, Entry.device?])⟩

theorem Does.caches (hes : ∀ e ∈ es, e.IsCache) : Does F ends (fun c => do
      let c ← c.appendFdbs n.name (es.filterMap Entry.fdb?)
      c.appendArps n.name (es.filterMap Entry.arp?)) (post n.name es) := by
  intro c hc
  refine ⟨Context.appendCaches_eq (hc.present n hn) hes, hc.posted ?_⟩
  intro ke hke
  obtain ⟨e, he, rfl⟩ := List.mem_map.mp hke
  exact (hes e he).1

end Rules

section Handlers

variable {F : Fleet} {ends : Ends} {c : Context} {n : ClusterNode}

section Node

variable (hc : Ready F ends c) (hn : n ∈ F.clusterNodes)
include hc hn

theorem Ready.cluster :
    c.filter.getClusterByName n.clusterName = some (F.cluster n) := by
  rw [hc.filter_eq, Fleet.getCluster hn]

theorem Ready.supportIPv4 : c.filter.supportIPv4 n = .ok (F.supports .v4 n) := by
  rw [hc.filter_eq, Fleet.supportIPv4_eq hn]

theorem Ready.supportIPv6 : c.filter.supportIPv6 n = .ok (F.supports .v6 n) := by
  rw [hc.filter_eq, Fleet.supportIPv6_eq hn]

end Node

theorem Ready.bridgeNodes (hc : Ready F ends c) :
    gatewayAndEndpointNodes c.filter = .ok F.bridgeNodes := by
  rw [gatewayAndEndpointNodes, hc.filter_eq, Fleet.getEndpointNodes_eq]
  rfl

theorem supportIPType_eq (hn : n ∈ F.clusterNodes) :
    supportIPType (F.cluster n) t.ipType = .ok (F.admits t n) := by
  rw [supportIPType, Fleet.getOptions hn, deref_some, ok_bind, Fleet.admits]
  split <;> simp_all

theorem vxBridgeOf_ipType : vxBridgeOf t.ipType = t.vxBridge := by
  cases t <;> rfl

theorem vxLocalOf_ipType : vxLocalOf t.ipType = t.vxLocal := by
  cases t <;> rfl

theorem buildRouteOn_does (cidr targetIP : String) (hn : n ∈ F.clusterNodes) :
    Does F ends (fun c => buildRouteOn t.ipType cidr targetIP c n)
      (post n.name ((F.routeOn ends t cidr targetIP n).toList.map .route)) := by
  intro c hc
  have hconf : ifCIDRConflictWithSelf ((F.cluster n).podCIDRs ++ (F.cluster n).serviceCIDRs) cidr
      = F.conflicts n cidr := rfl
  simp only [buildRouteOn, hc.cluster hn, deref_some, ok_bind, supportIPType_eq t hn, hconf,
    Fleet.routeOn, vxBridgeOf_ipType, vxLocalOf_ipType]
  cases F.admits t n with
  | false => exact Does.skip c hc
  | true =>
  cases F.conflicts n cidr with
  | true => exact Does.skip c hc
  | false =>
  cases n.isGateway || (F.cluster n).isP2P with
  | true => exact Does.routes hn _ c hc
  | false =>
    simp only [Bool.not_true, Bool.false_eq_true, Bool.true_eq_false, if_false, hc.filter_eq]
    cases hgw : F.getGatewayNodeByClusterName n.clusterName with
    | none => exact Does.skip c hc
    | some gw =>
      have hdev := hc.device gw (Fleet.gateway_some hgw).1 .vxLocal t
      rw [Overlay.devName] at hdev
      simp only [hdev, Option.bind_some]
      cases ends .vxLocal t gw with
      | none => exact Does.skip c hc
      | some e =>
        simp only [Option.map_some, e.devIP_eq]
        exact Does.routes hn _ c hc

theorem buildRoutesTo_does {target : ClusterNode} (ht : target ∈ F.clusterNodes) (cidr : String) :
    Does F ends
      (fun c => buildRoutesTo target (F.getAllNodesExceptCluster target.clusterName) c cidr)
      (F.routesTo ends target cidr) := by
  intro c hc
  have hfam : ∀ t : Family, getIPType cidr = t.ipType →
      c.getDeviceFromResults target.name (vxBridgeOf (getIPType cidr))
        = (ends .vxBridge t target).map (·.dev) := by
    intro t he
    rw [he, vxBridgeOf_ipType]
    exact hc.device target ht .vxBridge t
  have hloop : ∀ t : Family, ∀ ip, Does F ends
      (fun c => (F.getAllNodesExceptCluster target.clusterName).foldlM
        (buildRouteOn t.ipType cidr ip) c)
      ((F.getAllNodesExceptCluster target.clusterName).flatMap fun n =>
        post n.name ((F.routeOn ends t cidr ip n).toList.map .route)) :=
    fun t ip => Does.loop fun n hn => buildRouteOn_does t cidr ip (List.mem_filter.mp hn).1
  have hknown : ∀ t : Family, getIPType cidr = t.ipType → familyOf cidr = some t →
      buildRoutesTo target (F.getAllNodesExceptCluster target.clusterName) c cidr
          = .ok (c.posted (F.routesTo ends target cidr)) ∧
        Ready F ends (c.posted (F.routesTo ends target cidr)) := by
    intro t he hf
    simp only [buildRoutesTo, hfam t he, Fleet.routesTo, hf]
    cases ends .vxBridge t target with
    | none => exact Does.skip c hc
    | some e =>
      simp only [Option.map_some, e.devIP_eq, he]
      exact hloop t e.ip c hc
  cases htype : getIPType cidr with
  | ipv4 => exact hknown .v4 htype (by simp [familyOf, htype])
  | ipv6 => exact hknown .v6 htype (by simp [familyOf, htype])
  | unknown =>
    -- no device has the empty name
    simp only [buildRoutesTo, htype, vxBridgeOf, hc.no_name target ht, Fleet.routesTo, familyOf]
    exact Does.skip c hc

theorem routesToTarget_does (source : Cluster → ClusterNode → List String)
    {target : ClusterNode} (ht : target ∈ F.clusterNodes) :
    Does F ends (fun c => routesToTarget source c target)
      ((F.advertised source target).flatMap (F.routesTo ends target)) := by
  refine Posts.congr (Does.loop fun cidr _ => buildRoutesTo_does ht cidr) fun c hc => ?_
  rw [routesToTarget, hc.cluster ht, deref_some, ok_bind, Fleet.getOptions ht, deref_some, ok_bind,
    buildRoutes, hc.filter_eq]
  rfl

theorem serviceRoutes_does :
    Does F ends serviceRoutes (F.routeLog ends serviceSource F.getGatewayNodes) := by
  refine Posts.congr (Does.loop fun target ht => routesToTarget_does serviceSource
    (Fleet.gateway_some (Fleet.mem_getGatewayNodes.mp ht)).1) fun c hc => ?_
  rw [serviceRoutes, hc.filter_eq]

theorem podRoutes_does : Does F ends podRoutes (F.routeLog ends podSource F.bridgeNodes) := by
  refine Posts.congr (Does.loop fun target ht => routesToTarget_does podSource
    (Fleet.bridgeNodes_subset ht)) fun c hc => ?_
  rw [podRoutes, hc.bridgeNodes, ok_bind]

theorem caches_isCache {o : Overlay} {t : Family} {e : Entry} (he : e ∈ caches ends o t n) :
    e.IsCache := by
  unfold caches at he
  split at he
  · cases he
  · simp only [List.mem_cons, List.not_mem_nil, or_false] at he
    rcases he with rfl | rfl | rfl <;> exact ⟨rfl, rfl, rfl⟩

section Node

variable (hc : Ready F ends c) (hn : n ∈ F.clusterNodes)
include hc hn

theorem buildVxLocalCaches_none {t : Family} (h : ends .vxLocal t n = none) :
    ∃ msg, VxLocalMacCache.buildVxLocalCachesByNode c t n = .error msg := by
  have hdev := hc.device n hn .vxLocal t
  rw [h, Overlay.devName] at hdev
  simp only [VxLocalMacCache.buildVxLocalCachesByNode, hdev, Option.map_none]
  exact ⟨_, rfl⟩

theorem buildVxLocalCaches_some {t : Family} {e : Endpoint} (h : ends .vxLocal t n = some e) :
    VxLocalMacCache.buildVxLocalCachesByNode c t n
      = .ok ((caches ends .vxLocal t n).filterMap Entry.fdb?,
          (caches ends .vxLocal t n).filterMap Entry.arp?) := by
  have hdev := hc.device n hn .vxLocal t
  rw [h, Overlay.devName] at hdev
  simp only [VxLocalMacCache.buildVxLocalCachesByNode, hdev, Option.map_some, e.devIP_eq, caches, h]
  rfl

theorem getSupportIPTypes_eq :
    VxLocalMacCache.getSupportIPTypes n c = .ok (F.familiesOf n) := by
  rw [VxLocalMacCache.getSupportIPTypes, hc.supportIPv4 hn, ok_bind, hc.supportIPv6 hn]
  rfl

end Node

theorem cacheGateway_does {gw : ClusterNode} (hn : n ∈ F.clusterNodes)
    (hgw : gw ∈ F.clusterNodes) (t : Family) :
    Does F ends (fun c => VxLocalMacCache.cacheGateway n gw c t)
      (post n.name (caches ends .vxLocal t gw)) := by
  cases h : ends .vxLocal t gw with
  | none =>
    have hnil : caches ends .vxLocal t gw = [] := by rw [caches, h]
    rw [hnil]
    refine Posts.congr Does.skip fun c hc => ?_
    obtain ⟨msg, he⟩ := buildVxLocalCaches_none hc hgw h
    rw [VxLocalMacCache.cacheGateway, he]
    rfl
  | some e =>
    refine Posts.congr (Does.caches hn fun _ => caches_isCache) fun c hc => ?_
    rw [VxLocalMacCache.cacheGateway, buildVxLocalCaches_some hc hgw h]

theorem onInternal_does (hn : n ∈ F.clusterNodes) :
    Does F ends (fun c => VxLocalMacCache.onInternal c n)
      (match F.getGatewayNodeByClusterName n.clusterName with
        | none => []
        | some gw =>
          (F.familiesOf n).flatMap fun t => post n.name (caches ends .vxLocal t gw)) := by
  cases hgw : F.getGatewayNodeByClusterName n.clusterName with
  | none =>
    refine Posts.congr Does.skip fun c hc => ?_
    rw [VxLocalMacCache.onInternal, getSupportIPTypes_eq hc hn, ok_bind, hc.filter_eq, hgw]
    rfl
  | some gw =>
    refine Posts.congr
      (Does.loop fun t _ => cacheGateway_does hn (Fleet.gateway_some hgw).1 t) fun c hc => ?_
    rw [VxLocalMacCache.onInternal, getSupportIPTypes_eq hc hn, ok_bind, hc.filter_eq, hgw]

theorem built_flatMap (hc : Ready F ends c) {β : Type} {tars : List ClusterNode}
    (htars : ∀ tar ∈ tars, tar ∈ F.clusterNodes) (ts : List Family)
    (proj : List Fdb × List Arp → List β) {get : Entry → Option β}
    (hproj : ∀ es : List Entry,
      proj (es.filterMap Entry.fdb?, es.filterMap Entry.arp?) = es.filterMap get) :
    (tars.flatMap fun tar => ts.filterMap fun t =>
        (VxLocalMacCache.buildVxLocalCachesByNode c t tar).toOption).flatMap proj
      = (tars.flatMap fun tar => ts.flatMap fun t => caches ends .vxLocal t tar).filterMap get := by
  have hone : ∀ tar ∈ tars, ∀ t,
      ((VxLocalMacCache.buildVxLocalCachesByNode c t tar).toOption.toList).flatMap proj
        = (caches ends .vxLocal t tar).filterMap get := by
    intro tar htar t
    cases h : ends .vxLocal t tar with
    | none =>
      obtain ⟨msg, he⟩ := buildVxLocalCaches_none hc (htars tar htar) h
      rw [he, caches, h]
      rfl
    | some e =>
      rw [buildVxLocalCaches_some hc (htars tar htar) h]
      exact (List.flatMap_singleton ..).trans (hproj _)
  simp only [List.filterMap_flatMap, List.flatMap_assoc]
  refine List.flatMap_congr fun tar htar => ?_
  rw [List.filterMap_eq_flatMap_toList, List.flatMap_assoc]
  exact List.flatMap_congr fun t _ => hone tar htar t

theorem onGateway_does (hn : n ∈ F.clusterNodes) :
    Does F ends (fun c => VxLocalMacCache.onGateway c n)
      (post n.name ((F.internalNodesOf n.clusterName).flatMap fun tar =>
        (F.familiesOf n).flatMap fun t => caches ends .vxLocal t tar)) := by
  refine Posts.congr (Does.caches hn fun e he => ?_) fun c hc => ?_
  · simp only [List.mem_flatMap] at he
    obtain ⟨tar, -, t, -, he⟩ := he
    exact caches_isCache he
  · have htars : ∀ tar ∈ F.internalNodesOf n.clusterName, tar ∈ F.clusterNodes :=
      fun tar h => (Fleet.mem_internalNodesOf.mp h).1
    rw [VxLocalMacCache.onGateway, getSupportIPTypes_eq hc hn, ok_bind, hc.filter_eq,
      Fleet.getInternalNodesByClusterName_eq, ok_bind]
    simp [built_flatMap hc htars (F.familiesOf n) Prod.fst (fun _ => rfl), built_flatMap hc htars
      (F.familiesOf n) Prod.snd (fun _ => rfl)]

theorem vxLocalMacCache_does :
    Does F ends vxLocalMacCache (F.toGatewayLog ends ++ F.fromGatewayLog ends) := by
  have hin : Does F ends (fun c => F.internalNodes.foldlM VxLocalMacCache.onInternal c)
      (F.toGatewayLog ends) :=
    Does.loop fun n hn => onInternal_does (Fleet.mem_internalNodes.mp hn).1
  have hgw : Does F ends (fun c => c.filter.getGatewayNodes.foldlM VxLocalMacCache.onGateway c)
      (F.fromGatewayLog ends) :=
    Posts.congr
      (Does.loop fun n hn =>
        onGateway_does (Fleet.gateway_some (Fleet.mem_getGatewayNodes.mp hn)).1)
      fun c hc => by rw [hc.filter_eq]
  refine Posts.congr (Does.bind hin hgw) fun c hc => ?_
  rw [vxLocalMacCache, hc.filter_eq, Fleet.getInternalNodes_eq, ok_bind]

theorem buildCaches_eq (hc : Ready F ends c) (hn : n ∈ F.clusterNodes) (t : Family) :
    VxBridgeMacCache.buildCaches c n t
      = ((caches ends .vxBridge t n).filterMap Entry.fdb?,
          (caches ends .vxBridge t n).filterMap Entry.arp?) := by
  have hdev := hc.device n hn .vxBridge t
  rw [Overlay.devName] at hdev
  simp only [VxBridgeMacCache.buildCaches, hdev, caches]
  cases ends .vxBridge t n with
  | none => rfl
  | some e =>
    simp only [Option.map_some, e.devIP_eq]
    rfl

theorem onTarget_eq (hc : Ready F ends c) {src tar : ClusterNode} (htar : tar ∈ F.clusterNodes)
    (acc : List Fdb × List Arp) :
    VxBridgeMacCache.onTarget c src (F.supports .v4 src) (F.supports .v6 src) acc tar
      = .ok (acc.1 ++ (F.reach ends src tar).filterMap Entry.fdb?,
          acc.2 ++ (F.reach ends src tar).filterMap Entry.arp?) := by
  unfold VxBridgeMacCache.onTarget Fleet.reach
  split
  · simp
  · rw [hc.supportIPv4 htar, ok_bind, hc.supportIPv6 htar, ok_bind]
    simp [buildCaches_eq hc htar, List.filterMap_flatMap, Fleet.sharedFamilies]

theorem onSource_does (hn : n ∈ F.clusterNodes) :
    Does F ends (fun c => VxBridgeMacCache.onSource F.bridgeNodes c n)
      (post n.name (F.bridgeNodes.flatMap (F.reach ends n))) := by
  refine Posts.congr (Does.caches hn fun e he => ?_) fun c hc => ?_
  · obtain ⟨tar, -, he⟩ := List.mem_flatMap.mp he
    unfold Fleet.reach at he
    split at he
    · cases he
    · obtain ⟨t, -, he⟩ := List.mem_flatMap.mp he
      exact caches_isCache he
  · -- the accumulators are a journal of their own
    have hacc : Posts (fun _ : List Fdb × List Arp => True)
        (fun acc es => (acc.1 ++ es.filterMap Entry.fdb?, acc.2 ++ es.filterMap Entry.arp?))
        (fun acc => F.bridgeNodes.foldlM (VxBridgeMacCache.onTarget c n _ _) acc)
        (F.bridgeNodes.flatMap (F.reach ends n)) :=
      Posts.loop (by simp) (by simp) fun tar htar acc _ =>
        ⟨onTarget_eq hc (Fleet.bridgeNodes_subset htar) acc, trivial⟩
    have hloop := (hacc ([], []) trivial).1
    dsimp only at hloop
    rw [VxBridgeMacCache.onSource, hc.supportIPv4 hn, ok_bind, hc.supportIPv6 hn, ok_bind, hloop]
    simp

theorem vxBridgeMacCache_does : Does F ends vxBridgeMacCache (F.bridgeLog ends) := by
  refine Posts.congr (Does.loop fun n hn => onSource_does (Fleet.bridgeNodes_subset hn))
    fun c hc => ?_
  rw [vxBridgeMacCache, hc.bridgeNodes, ok_bind]

theorem hostNetwork_onGateway_does (hn : n ∈ F.clusterNodes) :
    Does F ends (fun c => HostNetwork.onGateway c n)
      (if (F.cluster n).isP2P then []
        else post n.name (F.masqueradeOf .v4 n ++ F.masqueradeOf .v6 n)) := by
  have hfam : ∀ t : Family, Does F ends
      (fun c => if F.supports t n then
          c.appendIptables n.name (masquerade (Overlay.vxLocal.cidr t (F.options n))
            (Overlay.vxBridge.cidr t (F.options n)) t.vxBridge)
        else pure c) (post n.name (F.masqueradeOf t n)) := by
    intro t
    unfold Fleet.masqueradeOf
    split
    · exact Does.iptables hn _
    · exact Does.skip
  split
  next hp =>
    refine Posts.congr Does.skip fun c hc => ?_
    rw [HostNetwork.onGateway, hc.cluster hn, deref_some, ok_bind, if_pos hp]
    rfl
  next hp =>
    have h6 : Does F ends
        (fun c => do
          let v6 ← c.filter.supportIPv6 n
          if v6 then
            c.appendIptables n.name (masquerade (F.options n).localCIDRs.ip6
              (F.options n).bridgeCIDRs.ip6 vxlanBridgeName6)
          else pure c) (post n.name (F.masqueradeOf .v6 n)) :=
      Posts.congr (hfam .v6) fun c hc => by rw [hc.supportIPv6 hn]; rfl
    have hlog : post n.name (F.masqueradeOf .v4 n ++ F.masqueradeOf .v6 n)
        = post n.name (F.masqueradeOf .v4 n) ++ post n.name (F.masqueradeOf .v6 n) :=
      List.map_append
    rw [hlog]
    refine Posts.congr (Does.bind (hfam .v4) h6) fun c hc => ?_
    rw [HostNetwork.onGateway, hc.cluster hn, deref_some, ok_bind, if_neg hp, hc.supportIPv4 hn,
      ok_bind, Fleet.getOptions hn, deref_some, ok_bind]
    cases F.supports .v4 n <;> rfl

theorem hostNetwork_does : Does F ends hostNetwork F.hostLog := by
  refine Posts.congr (Does.loop fun n hn => hostNetwork_onGateway_does
    (Fleet.gateway_some (Fleet.mem_getGatewayNodes.mp hn)).1) fun c hc => ?_
  rw [hostNetwork, hc.filter_eq]

theorem globalMap_onNode_does (env : Env) {ni : ClusterNode × Nat} (hn : ni.1 ∈ F.clusterNodes) :
    Does F ends (fun c => GlobalMap.onNode env c ni)
      (post ni.1.name ((env.order ni.2 (F.options ni.1).globalCIDRsMap.entries).flatMap
        fun entry => (netmapRules entry).map .iptables)) := by
  have hlog : post ni.1.name ((env.order ni.2 (F.options ni.1).globalCIDRsMap.entries).flatMap
        fun entry => (netmapRules entry).map .iptables)
      = (env.order ni.2 (F.options ni.1).globalCIDRsMap.entries).flatMap
        fun entry => post ni.1.name ((netmapRules entry).map .iptables) :=
    List.map_flatMap
  rw [hlog]
  refine Posts.congr (Does.loop fun entry _ => Does.iptables hn (netmapRules entry))
    fun c hc => ?_
  rw [GlobalMap.onNode, hc.cluster hn, deref_some, ok_bind, Fleet.getOptions hn, deref_some,
    ok_bind]

theorem globalMap_does (env : Env) : Does F ends (globalMap env) (F.globalLog env) := by
  refine Posts.congr (Does.loop fun ni hni => globalMap_onNode_does env
    (Fleet.bridgeNodes_subset (List.fst_mem_of_mem_zipIdx hni))) fun c hc => ?_
  rw [globalMap, hc.bridgeNodes, ok_bind]

def tunnelHandlers (env : Env) : List Handler :=
  [serviceRoutes, podRoutes, vxLocalMacCache, vxBridgeMacCache, hostNetwork, globalMap env]

theorem run_tunnelHandlers (env : Env) (hc : Ready F ends c) :
    run (tunnelHandlers env) c = .ok (c.posted (F.tunnelLog ends env)) := by
  have h := Does.run_cons serviceRoutes_does <| Does.run_cons podRoutes_does <|
    Does.run_cons vxLocalMacCache_does <| Does.run_cons vxBridgeMacCache_does <|
    Does.run_cons hostNetwork_does <| Does.run_cons (globalMap_does env) <|
    (Does.run_nil : Does F ends _ _)
  simpa [Fleet.tunnelLog, tunnelHandlers] using (h c hc).1

end Handlers

end Kosmos.Manager
