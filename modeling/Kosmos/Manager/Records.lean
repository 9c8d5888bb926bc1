import Kosmos.Manager.Refine

/-!
# What is in a node's configuration

The plan read backwards: for each kind of record, where one in the journal comes from.
-/

namespace Kosmos.Manager

open Kosmos.Go Kosmos.Go.Net Kosmos.Api

theorem mem_post {name k : String} {e : Entry} {es : List Entry} :
    (name, e) ∈ post k es ↔ name = k ∧ e ∈ es := by
  simp only [post, List.mem_map, Prod.mk.injEq]
  constructor
  · rintro ⟨e', he', rfl, rfl⟩
    exact ⟨rfl, he'⟩
  · rintro ⟨rfl, he⟩
    exact ⟨e, he, rfl, rfl⟩

namespace Fleet

variable {F : Fleet} {ends : Ends} {name : String} {e : Entry}

theorem mem_familiesOf {t : Family} {n : ClusterNode} :
    t ∈ F.familiesOf n ↔ F.supports t n = true := by
  cases t <;> simp [familiesOf, families]

theorem mem_sharedFamilies {t : Family} {n m : ClusterNode} :
    t ∈ F.sharedFamilies n m ↔ F.supports t n = true ∧ F.supports t m = true := by
  cases t <;> simp [sharedFamilies, families]

def Peer (F : Fleet) : Overlay → Family → ClusterNode → ClusterNode → Prop
  | .vxLocal, t, n, m => F.supports t n = true ∧
    ((n ∈ F.internalNodes ∧ F.getGatewayNodeByClusterName n.clusterName = some m) ∨
      (n ∈ F.getGatewayNodes ∧ m ∈ F.internalNodesOf n.clusterName))
  | .vxBridge, t, n, m => n ∈ F.bridgeNodes ∧ m ∈ F.bridgeNodes ∧ n.name ≠ m.name ∧
    F.supports t n = true ∧ F.supports t m = true

theorem mem_localLog : (name, e) ∈ F.toGatewayLog ends ∨ (name, e) ∈ F.fromGatewayLog ends ↔
    ∃ n m t, name = n.name ∧ F.Peer .vxLocal t n m ∧ e ∈ caches ends .vxLocal t m := by
  simp only [toGatewayLog, fromGatewayLog, List.mem_flatMap, mem_post, mem_familiesOf]
  constructor
  · rintro (⟨n, hn, h⟩ | ⟨n, hn, hname, m, hm, t, ht, he⟩)
    · split at h
      · cases h
      next m hm =>
        simp only [List.mem_flatMap, mem_post, mem_familiesOf] at h
        obtain ⟨t, ht, hname, he⟩ := h
        exact ⟨n, m, t, hname, ⟨ht, Or.inl ⟨hn, hm⟩⟩, he⟩
    · exact ⟨n, m, t, hname, ⟨ht, Or.inr ⟨hn, hm⟩⟩, he⟩
  · rintro ⟨n, m, t, hname, ⟨ht, ⟨hn, hm⟩ | ⟨hn, hm⟩⟩, he⟩
    · refine Or.inl ⟨n, hn, ?_⟩
      rw [hm]
      exact List.mem_flatMap.mpr ⟨t, mem_familiesOf.mpr ht, mem_post.mpr ⟨hname, he⟩⟩
    · exact Or.inr ⟨n, hn, hname, m, hm, t, ht, he⟩

theorem mem_bridgeLog : (name, e) ∈ F.bridgeLog ends ↔ ∃ n m t, name = n.name ∧
    F.Peer .vxBridge t n m ∧ e ∈ caches ends .vxBridge t m := by
  simp only [bridgeLog, List.mem_flatMap, mem_post, reach]
  constructor
  · rintro ⟨n, hn, hname, m, hm, h⟩
    split at h
    · cases h
    next hne =>
      obtain ⟨t, ht, he⟩ := List.mem_flatMap.mp h
      exact ⟨n, m, t, hname, ⟨hn, hm, hne, mem_sharedFamilies.mp ht⟩, he⟩
  · rintro ⟨n, m, t, hname, ⟨hn, hm, hne, ht⟩, he⟩
    refine ⟨n, hn, hname, m, hm, ?_⟩
    rw [if_neg hne]
    exact List.mem_flatMap.mpr ⟨t, mem_sharedFamilies.mpr ht, he⟩

/-- A gateway stands for the services of its cluster, a bridge node for pods. -/
def Advertises (F : Fleet) (target : ClusterNode) (cidr : String) : Prop :=
  (target ∈ F.getGatewayNodes ∧ cidr ∈ F.advertised serviceSource target) ∨
    (target ∈ F.bridgeNodes ∧ cidr ∈ F.advertised podSource target)

theorem mem_routesTo {target : ClusterNode} {cidr : String} :
    (name, e) ∈ F.routesTo ends target cidr ↔ ∃ t ep n r, familyOf cidr = some t ∧
      ends .vxBridge t target = some ep ∧ n ∈ F.clusterNodes ∧
      n.clusterName ≠ target.clusterName ∧ name = n.name ∧
      F.routeOn ends t cidr ep.ip n = some r ∧ .route r = e := by
  unfold routesTo
  cases hfam : familyOf cidr with
  | none => simp
  | some t =>
    cases hep : ends .vxBridge t target with
    | none => simp [hep]
    | some ep =>
      simp [hep, mem_post, Filter.getAllNodesExceptCluster, and_assoc]

theorem routeOn_eq_some {t : Family} {cidr targetIP : String} {n : ClusterNode} {r : Route} :
    F.routeOn ends t cidr targetIP n = some r ↔
      F.admits t n = true ∧ F.conflicts n cidr = false ∧
      (((n.isGateway || (F.cluster n).isP2P) = true ∧
          r = { cidr := cidr, gw := targetIP, dev := t.vxBridge }) ∨
        ((n.isGateway || (F.cluster n).isP2P) = false ∧
          ∃ gw e, F.getGatewayNodeByClusterName n.clusterName = some gw ∧
            ends .vxLocal t gw = some e ∧
            r = { cidr := cidr, gw := e.ip, dev := t.vxLocal })) := by
  unfold routeOn
  cases F.admits t n with
  | false => simp
  | true =>
    cases F.conflicts n cidr with
    | true => simp
    | false =>
      cases (n.isGateway || (F.cluster n).isP2P) with
      | true => simp [eq_comm]
      | false =>
        simp only [Bool.true_eq_false, Bool.false_eq_true, if_false, false_and, true_and, false_or,
          Option.bind_eq_some_iff, Option.map_eq_some_iff]
        constructor
        · rintro ⟨gw, hgw, ep, hep, rfl⟩
          exact ⟨gw, ep, hgw, hep, rfl⟩
        · rintro ⟨gw, ep, hgw, hep, rfl⟩
          exact ⟨gw, hgw, ep, hep, rfl⟩

theorem routeOn_cidr {t : Family} {cidr targetIP : String} {n : ClusterNode} {r : Route}
    (h : F.routeOn ends t cidr targetIP n = some r) : r.cidr = cidr := by
  obtain ⟨-, -, ⟨-, rfl⟩ | ⟨-, gw, ep, -, -, rfl⟩⟩ := routeOn_eq_some.mp h <;> rfl

theorem mem_rules {env : Env} (h : (name, e) ∈ F.hostLog ∨ (name, e) ∈ F.globalLog env) :
    ∃ i, e = .iptables i := by
  simp only [hostLog, globalLog, masqueradeOf, List.mem_flatMap, mem_post] at h
  rcases h with ⟨n, -, h⟩ | ⟨ni, -, -, entry, -, h⟩
  · split at h
    · cases h
    · obtain ⟨-, h⟩ := mem_post.mp h
      rcases List.mem_append.mp h with h | h
      all_goals
        split at h
        · obtain ⟨i, -, rfl⟩ := List.mem_map.mp h
          exact ⟨i, rfl⟩
        · cases h
  · obtain ⟨i, -, rfl⟩ := List.mem_map.mp h
    exact ⟨i, rfl⟩

theorem mem_deviceLog_iff {env : Env} {o : Overlay} :
    (name, e) ∈ F.deviceLog env o ↔ ∃ n t ep, name = n.name ∧ F.ends env o t n = some ep ∧
      e = .device ep.dev := by
  simp only [deviceLog, List.mem_flatMap, mem_post, devices, List.mem_map, Option.mem_toList]
  constructor
  · rintro ⟨n, hn, hname, t, -, ep, hep, rfl⟩
    refine ⟨n, t, ep, hname, ?_, rfl⟩
    rw [ends, if_pos hn]
    exact hep
  · rintro ⟨n, t, ep, hname, hep, rfl⟩
    unfold Fleet.ends at hep
    split at hep
    next hn => exact ⟨n, hn, hname, t, by cases t <;> simp, ep, hep, rfl⟩
    · cases hep

theorem exists_overlay {p : Overlay → Prop} : (∃ o, p o) ↔ p .vxLocal ∨ p .vxBridge := by
  constructor
  · rintro ⟨_ | _, h⟩
    · exact Or.inl h
    · exact Or.inr h
  · rintro (h | h) <;> exact ⟨_, h⟩

theorem mem_journal {env : Env} : (name, e) ∈ F.journal env ↔
    (∃ o, (name, e) ∈ F.deviceLog env o) ∨
    (∃ target cidr, F.Advertises target cidr ∧
      (name, e) ∈ F.routesTo (F.ends env) target cidr) ∨
    (∃ o n m t, name = n.name ∧ F.Peer o t n m ∧ e ∈ caches (F.ends env) o t m) ∨
    (name, e) ∈ F.hostLog ∨ (name, e) ∈ F.globalLog env := by
  simp only [journal, tunnelLog, routeLog, List.mem_append, List.mem_flatMap, mem_localLog,
    mem_bridgeLog, exists_overlay, Advertises, or_and_right, exists_or, and_assoc, exists_and_left,
    or_assoc]

theorem mem_journal_device {env : Env} {d : Device} : (name, .device d) ∈ F.journal env ↔
    ∃ o t n ep, name = n.name ∧ F.ends env o t n = some ep ∧ d = ep.dev := by
  rw [mem_journal]
  constructor
  · rintro (⟨o, h⟩ | ⟨target, cidr, -, h⟩ | ⟨o, n, m, t, -, -, h⟩ | h)
    · obtain ⟨n, t, ep, hname, hep, hd⟩ := mem_deviceLog_iff.mp h
      cases hd
      exact ⟨o, t, n, ep, hname, hep, rfl⟩
    · obtain ⟨t, ep, n, r, -, -, -, -, -, -, he⟩ := mem_routesTo.mp h
      cases he
    · cases (caches_isCache h).1
    · cases mem_rules h with | intro i he => cases he
  · rintro ⟨o, t, n, ep, hname, hep, rfl⟩
    exact Or.inl ⟨o, mem_deviceLog_iff.mpr ⟨n, t, ep, hname, hep, rfl⟩⟩

theorem mem_journal_route {env : Env} {r : Route} : (name, .route r) ∈ F.journal env ↔
    ∃ target cidr t ep n, F.Advertises target cidr ∧ familyOf cidr = some t ∧
      F.ends env .vxBridge t target = some ep ∧ n ∈ F.clusterNodes ∧
      n.clusterName ≠ target.clusterName ∧ name = n.name ∧
      F.routeOn (F.ends env) t cidr ep.ip n = some r := by
  rw [mem_journal]
  constructor
  · rintro (⟨o, h⟩ | ⟨target, cidr, ha, h⟩ | ⟨o, n, m, t, -, -, h⟩ | h)
    · obtain ⟨n, t, ep, -, -, he⟩ := mem_deviceLog_iff.mp h
      cases he
    · obtain ⟨t, ep, n, r', ht, hep, hn, hne, hname, hr, he⟩ := mem_routesTo.mp h
      cases he
      exact ⟨target, cidr, t, ep, n, ha, ht, hep, hn, hne, hname, hr⟩
    · cases (caches_isCache h).2.1
    · cases mem_rules h with | intro i he => cases he
  · rintro ⟨target, cidr, t, ep, n, ha, ht, hep, hn, hne, hname, hr⟩
    exact Or.inr (Or.inl ⟨target, cidr, ha,
      mem_routesTo.mpr ⟨t, ep, n, r, ht, hep, hn, hne, hname, hr, rfl⟩⟩)

theorem mem_journal_cache {env : Env} (hcache : e.IsCache) : (name, e) ∈ F.journal env ↔
    ∃ o n m t, name = n.name ∧ F.Peer o t n m ∧ e ∈ caches (F.ends env) o t m := by
  rw [mem_journal]
  constructor
  · rintro (⟨o, h⟩ | ⟨target, cidr, -, h⟩ | h | h)
    · obtain ⟨n, t, ep, -, -, rfl⟩ := mem_deviceLog_iff.mp h
      cases hcache.1
    · obtain ⟨t, ep, n, r, -, -, -, -, -, -, rfl⟩ := mem_routesTo.mp h
      cases hcache.2.1
    · exact h
    · obtain ⟨i, rfl⟩ := mem_rules h
      cases hcache.2.2
  · exact fun h => Or.inr (Or.inr (Or.inl h))

theorem ends_isSome {env : Env} {o : Overlay} {t : Family} {n : ClusterNode} :
    (∃ ep, F.ends env o t n = some ep) ↔
      n ∈ o.nodes F ∧ F.Wants o t n ∧ F.Addressable o t n := by
  unfold Fleet.ends
  constructor
  · rintro ⟨ep, h⟩
    split at h
    next hn =>
      refine ⟨hn, ?_, ?_⟩
      · by_contra hw
        rw [endpoint_of_not_wants hw] at h
        cases h
      · by_contra ha
        rw [endpoint_of_not_addressable ha] at h
        cases h
    · cases h
  · rintro ⟨hn, hw, ha⟩
    rcases generateVxlanIP_cases (t.underlayIP n) (o.cidr t (F.options n)) with
      ⟨hg, -⟩ | ⟨-, addr, -, -, he, -⟩
    · exact absurd ha hg
    · obtain ⟨ep, hep, -⟩ := endpoint_of_addressable (env.rand n.name (o.devName t) 0) hw he
      exact ⟨ep, by rw [if_pos hn, hep]⟩

section Ends

variable {env : Env} {o : Overlay} {t : Family} {n : ClusterNode} {ep : Endpoint}
  (h : F.ends env o t n = some ep)
include h

theorem ends_mem : n ∈ o.nodes F :=
  (ends_isSome.mp ⟨ep, h⟩).1

theorem ends_supports : F.supports t n = true :=
  (ends_isSome.mp ⟨ep, h⟩).2.1.1

theorem ends_name : ep.dev.name = o.devName t := by
  rw [Fleet.ends, if_pos (ends_mem h)] at h
  exact endpoint_name h

end Ends

theorem mem_getGatewayClusterNodes (hF : F.Distinct) {n : ClusterNode} :
    n ∈ F.getGatewayClusterNodes ↔ n ∈ F.clusterNodes ∧ (F.cluster n).isGateway = true := by
  simp only [Filter.getGatewayClusterNodes, List.mem_flatMap]
  constructor
  · rintro ⟨c, hc, h⟩
    split at h
    next hgw =>
      obtain ⟨hn, hname⟩ := List.mem_filter.mp h
      rw [beq_iff_eq] at hname
      have hcl := getCluster hn
      rw [Filter.getClusterByName, F.map_eq, hname, buildClustersMap_of_mem hF.clusters hc,
        Option.some.injEq] at hcl
      exact ⟨hn, hcl ▸ hgw⟩
    · cases h
  · rintro ⟨hn, hgw⟩
    obtain ⟨hc, hname⟩ := cluster_mem hn
    refine ⟨F.cluster n, hc, ?_⟩
    rw [if_pos hgw]
    exact List.mem_filter.mpr ⟨hn, by rw [beq_iff_eq, hname]⟩

theorem getGatewayNodes_subset_bridgeNodes {n : ClusterNode} (h : n ∈ F.getGatewayNodes) :
    n ∈ F.bridgeNodes :=
  List.mem_append_left _ h

theorem Advertises.mem_bridgeNodes {target : ClusterNode} {cidr : String}
    (h : F.Advertises target cidr) : target ∈ F.bridgeNodes := by
  rcases h with ⟨h, -⟩ | ⟨h, -⟩
  · exact getGatewayNodes_subset_bridgeNodes h
  · exact h

end Fleet

end Kosmos.Manager
