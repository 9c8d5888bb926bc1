import Kosmos.Manager.Tunnels

/-!
# The handlers compute the plan, part 2: devices

A device that is wanted and cannot be built takes the process down when an old one left a MAC
(`run_handlers_cases`); otherwise the devices are those of `Fleet.ends`.
-/

namespace Kosmos.Manager

open Kosmos.Go Kosmos.Go.Net Kosmos.Api

variable {buf : Option (Vector UInt8 6)} {o : Overlay} {d : Device} {name : String}

namespace Fleet

variable {F : Fleet} {n : ClusterNode}

theorem endpoint_of_not_wants {t : Family} (h : ¬ F.Wants o t n) : F.endpoint buf o t n = none := by
  rw [endpoint, if_neg h]

theorem endpoint_of_not_addressable {t : Family} (h : ¬ F.Addressable o t n) :
    F.endpoint buf o t n = none := by
  unfold endpoint
  split
  · split
    · rfl
    next addr he =>
      rcases generateVxlanIP_cases (t.underlayIP n) (o.cidr t (F.options n)) with
        ⟨-, msg, he'⟩ | ⟨hg, -⟩
      · rw [he'] at he
        cases he
      · exact absurd hg h
  · rfl

theorem endpoint_of_addressable (buf : Option (Vector UInt8 6)) {t : Family} (hw : F.Wants o t n)
    {addr : String} (ha : generateVxlanIP (t.underlayIP n) (o.cidr t (F.options n)) = .ok addr) :
    ∃ e, F.endpoint buf o t n = some e ∧ e.dev = F.deviceAt buf o t n addr := by
  unfold endpoint
  rw [if_pos hw]
  split
  next msg he =>
    rw [ha] at he
    cases he
  next addr' he =>
    rw [ha, Except.ok.injEq] at he
    subst he
    exact ⟨_, rfl, rfl⟩

theorem endpoint_name {t : Family} {e : Endpoint} (h : F.endpoint buf o t n = some e) :
    e.dev.name = o.devName t := by
  unfold endpoint at h
  split at h
  · split at h
    · cases h
    · rw [Option.some.injEq] at h
      rw [← h]
      rfl
  · cases h

theorem mem_devices {t : Family} (h : .device d ∈ F.devices buf o t n) :
    (devIP d).isSome ∧ d.name = o.devName t := by
  simp only [devices, List.mem_map, Option.mem_toList] at h
  obtain ⟨e, he, hd⟩ := h
  cases hd
  exact ⟨e.addr_ok, endpoint_name he⟩

end Fleet

section Devices

variable {F : Fleet} {c : Context} {n : ClusterNode}

theorem needToCreateVxlan_eq (o : Overlay) (t : Family) (hn : n ∈ F.clusterNodes) :
    needToCreateVxlan (.ok (F.supports t n)) (t.underlayIP n) (o.cidr t) (some (F.cluster n))
      = .ok (decide (F.Wants o t n)) := by
  unfold needToCreateVxlan
  by_cases hw : F.Wants o t n
  · obtain ⟨hs, hu, hcidr⟩ := hw
    simp [hs, hu, hcidr, Fleet.getOptions hn, Fleet.Wants]
  · rw [decide_eq_false hw]
    by_cases hs : F.supports t n = true
    · by_cases hu : t.underlayIP n = ""
      · simp [hs, hu]
      · have hcidr : o.cidr t (F.options n) = "" := by
          by_contra hne
          exact hw ⟨hs, hu, hne⟩
        simp [hs, hu, hcidr, Fleet.getOptions hn]
    · simp [hs]

def Context.bytes (env : Env) (c : Context) (o : Overlay) (t : Family) (n : ClusterNode) :
    Option (Vector UInt8 6) :=
  env.rand n.name (o.devName t) (c.deviceCount n.name (o.devName t))

theorem vxlanIDPort_devName (o : Overlay) (t : Family) :
    ∃ idPort, vxlanIDPort (o.devName t) = some idPort := by
  cases o <;> cases t <;> exact ⟨_, rfl⟩

theorem createVxlan_cases (env : Env) (o : Overlay) (t : Family) (hc : Keyed F c)
    (hn : n ∈ F.clusterNodes) :
    (¬ F.Addressable o t n ∧
      createVxlan env (o.devName t) (t.underlayIP n) (o.cidr t) c n (some (F.cluster n))
        = if F.storedMac n.name (o.devName t) ≠ "" then .error (.panic .nilDeref)
          else .ok none) ∨
    (F.Addressable o t n ∧ ∃ addr,
      generateVxlanIP (t.underlayIP n) (o.cidr t (F.options n)) = .ok addr ∧
      createVxlan env (o.devName t) (t.underlayIP n) (o.cidr t) c n (some (F.cluster n))
        = .ok (some (F.deviceAt (c.bytes env o t n) o t n addr))) := by
  obtain ⟨idPort, hid⟩ := vxlanIDPort_devName o t
  simp only [createVxlan, hc.filter_eq, deref_some, ok_bind, Fleet.getOptions hn, buildVxlanDevice,
    hid, Option.getD_some, Fleet.deviceAt, Fleet.macOf]
  have hold := Option.eq_none_or_eq_some (F.getDeviceFromNodeConfig n.name (o.devName t))
  rcases generateVxlanIP_cases (t.underlayIP n) (o.cidr t (F.options n)) with
    ⟨hg, msg, he⟩ | ⟨hg, addr, -, -, he, -⟩
  · -- there is no device: only a stored MAC makes a difference
    refine Or.inl ⟨hg, ?_⟩
    rcases hold with hold | ⟨old, hold⟩
    · simp [he, hold, Fleet.storedMac]
    · by_cases hm : old.mac = "" <;> simp [he, hold, Fleet.storedMac, hm, deref]
  · refine Or.inr ⟨hg, addr, he, ?_⟩
    rcases hold with hold | ⟨old, hold⟩
    · simp [he, hold, Fleet.storedMac, Context.bytes]
    · by_cases hm : old.mac = "" <;> simp [he, hold, Fleet.storedMac, hm, Context.bytes]

theorem addVxlan_cases (env : Env) (o : Overlay) (t : Family) (hc : Keyed F c)
    (hn : n ∈ F.clusterNodes) :
    addVxlan
        (needToCreateVxlan (.ok (F.supports t n)) (t.underlayIP n) (o.cidr t) (some (F.cluster n)))
        (createVxlan env (o.devName t) (t.underlayIP n) (o.cidr t) c n (some (F.cluster n)))
        n.name c
      = if F.Doomed o t n then .error (.panic .nilDeref)
        else .ok (c.posted (post n.name (F.devices (c.bytes env o t n) o t n))) := by
  rw [addVxlan, needToCreateVxlan_eq o t hn, ok_bind]
  by_cases hw : F.Wants o t n
  · rw [if_pos (decide_eq_true hw)]
    rcases createVxlan_cases env o t hc hn with ⟨ha, hcr⟩ | ⟨ha, addr, hgen, hcr⟩
    · rw [hcr]
      by_cases hm : F.storedMac n.name (o.devName t) = ""
      · rw [if_neg (not_not_intro hm), if_neg fun h : F.Doomed o t n => h.2.2 hm, Fleet.devices,
          Fleet.endpoint_of_not_addressable ha]
        simp [post]
      · have hd : F.Doomed o t n := ⟨hw, ha, hm⟩
        rw [if_pos hm, if_pos hd]
        rfl
    · obtain ⟨e, he, hdev⟩ := Fleet.endpoint_of_addressable (c.bytes env o t n) hw hgen
      rw [hcr, if_neg fun h : F.Doomed o t n => h.2.1 ha, Fleet.devices, he, ok_bind]
      simp only [Context.appendDevices_eq (hc.present n hn), ← hdev]
      rfl
  · rw [if_neg fun h : F.Doomed o t n => hw h.1, Fleet.devices, Fleet.endpoint_of_not_wants hw]
    simp [hw, post]

def addOverlay (env : Env) (o : Overlay) (c : Context) (n : ClusterNode) : Outcome Context := do
  let cluster := c.filter.getClusterByName n.clusterName
  let c ← addVxlan
    (needToCreateVxlan (c.filter.supportFamily Family.v4.name n) (Family.v4.underlayIP n)
      (o.cidr .v4) cluster)
    (createVxlan env (o.devName .v4) (Family.v4.underlayIP n) (o.cidr .v4) c n cluster) n.name c
  addVxlan
    (needToCreateVxlan (c.filter.supportFamily Family.v6.name n) (Family.v6.underlayIP n)
      (o.cidr .v6) cluster)
    (createVxlan env (o.devName .v6) (Family.v6.underlayIP n) (o.cidr .v6) c n cluster) n.name c

theorem vxLocalNetwork_eq (env : Env) (hc : Keyed F c) :
    vxLocalNetwork env c = (Overlay.vxLocal.nodes F).foldlM (addOverlay env .vxLocal) c := by
  rw [vxLocalNetwork, hc.filter_eq]
  rfl

theorem vxBridgeNetwork_eq (env : Env) (hc : Keyed F c) :
    vxBridgeNetwork env c = (Overlay.vxBridge.nodes F).foldlM (addOverlay env .vxBridge) c := by
  rw [vxBridgeNetwork, gatewayAndEndpointNodes, hc.filter_eq, Fleet.getEndpointNodes_eq]
  rfl

theorem mem_devicesFor {log : Journal} :
    d ∈ (entriesFor name log).filterMap Entry.device? ↔ (name, .device d) ∈ log := by
  rw [List.mem_filterMap, ← mem_entriesFor]
  constructor
  · rintro ⟨e, he, hed⟩
    cases e with
    | device d' =>
      cases hed
      exact he
    | _ => cases hed
  · exact fun h => ⟨_, h, rfl⟩

theorem deviceCount_posted {log : Journal} {devName : String}
    (h : ∀ d, (name, .device d) ∈ log → d.name ≠ devName) :
    (c.posted log).deviceCount name devName = c.deviceCount name devName := by
  have hzero : ((entriesFor name log).filterMap Entry.device?).countP
      (fun dev => dev.name == devName) = 0 := by
    rw [List.countP_eq_zero]
    intro d hd
    simpa using h d (mem_devicesFor.mp hd)
  cases hr : c.results name <;>
    simp [Context.deviceCount, Context.posted, Go.posted, hr, foldl_add, hzero]

def Fleet.devicesOf (F : Fleet) (bufs : Family → Option (Vector UInt8 6)) (o : Overlay)
    (n : ClusterNode) : List Entry :=
  [Family.v4, .v6].flatMap fun t => F.devices (bufs t) o t n

theorem Fleet.mem_devicesOf {bufs : Family → Option (Vector UInt8 6)}
    (h : .device d ∈ F.devicesOf bufs o n) : (devIP d).isSome ∧ ∃ t, d.name = o.devName t := by
  obtain ⟨t, -, hd⟩ := List.mem_flatMap.mp h
  exact ⟨(Fleet.mem_devices hd).1, t, (Fleet.mem_devices hd).2⟩

theorem addOverlay_cases (env : Env) (o : Overlay) (hc : Keyed F c) (hn : n ∈ F.clusterNodes) :
    ((∃ t, F.Doomed o t n) ∧ addOverlay env o c n = .error (.panic .nilDeref)) ∨
    ((¬ ∃ t, F.Doomed o t n) ∧ addOverlay env o c n
      = .ok (c.posted (post n.name (F.devicesOf (fun t => c.bytes env o t n) o n)))) := by
  have h4 := addVxlan_cases env o .v4 hc hn
  have hc' := hc.posted (post n.name (F.devices (c.bytes env o .v4 n) o .v4 n))
  have h6 := addVxlan_cases env o .v6 hc' hn
  have hbytes : Context.bytes env
      (c.posted (post n.name (F.devices (c.bytes env o .v4 n) o .v4 n))) o .v6 n
        = c.bytes env o .v6 n := by
    rw [Context.bytes, deviceCount_posted, Context.bytes]
    intro d hd hname
    simp only [post, List.mem_map, Prod.mk.injEq, true_and, exists_eq_right] at hd
    rw [(Fleet.mem_devices hd).2] at hname
    cases (Overlay.devName_inj hname).2
  simp only [addOverlay, hc.filter_eq, Fleet.getCluster hn, Fleet.supportFamily_eq _ hn, h4]
  by_cases hd4 : F.Doomed o .v4 n
  · exact Or.inl ⟨⟨.v4, hd4⟩, by rw [if_pos hd4]; rfl⟩
  · rw [if_neg hd4, ok_bind, Context.posted_filter, hc.filter_eq, Fleet.supportFamily_eq _ hn, h6,
      hbytes]
    by_cases hd6 : F.Doomed o .v6 n
    · exact Or.inl ⟨⟨.v6, hd6⟩, by rw [if_pos hd6]⟩
    · refine Or.inr ⟨?_, ?_⟩
      · rintro ⟨t, ht⟩
        cases t with
        | v4 => exact hd4 ht
        | v6 => exact hd6 ht
      · rw [if_neg hd6, Context.posted_append]
        simp [Fleet.devicesOf, post]

end Devices

def Context.Sound (c : Context) : Prop :=
  ∀ name cfg, c.results name = some cfg → ∀ d ∈ cfg.devices, (devIP d).isSome ∧ d.name ≠ ""

def Context.ends (c : Context) : Ends := fun o t n =>
  (c.getDeviceFromResults n.name (o.devName t)).bind fun d =>
    if h : (devIP d).isSome then some ⟨d, h⟩ else none

theorem Context.Sound.posted {c : Context} (h : c.Sound) {log : Journal}
    (hlog : ∀ name d, (name, Entry.device d) ∈ log → (devIP d).isSome ∧ d.name ≠ "") :
    (c.posted log).Sound := by
  intro name cfg hcfg d hd
  cases hr : c.results name with
  | none => simp [Context.posted, Go.posted, hr] at hcfg
  | some cfg' =>
    simp only [Context.posted, Go.posted, hr, Option.map_some, foldl_add, Option.some.injEq] at hcfg
    subst hcfg
    rcases List.mem_append.mp hd with hd | hd
    · exact h name cfg' hr d hd
    · exact hlog name d (mem_devicesFor.mp hd)

theorem Context.Sound.lookup {c : Context} (h : c.Sound) {devName : String}
    (hd : c.getDeviceFromResults name devName = some d) :
    (devIP d).isSome ∧ d.name ≠ "" ∧ d.name = devName := by
  simp only [Context.getDeviceFromResults, Option.bind_eq_some_iff] at hd
  obtain ⟨cfg, hcfg, hfind⟩ := hd
  obtain ⟨hip, hne⟩ := h name cfg hcfg d (List.mem_of_find?_eq_some hfind)
  exact ⟨hip, hne, by simpa using List.find?_some hfind⟩

theorem Context.Sound.ready {F : Fleet} {c : Context} (h : c.Sound) (hc : Keyed F c) :
    Ready F c.ends c where
  toKeyed := hc
  device := fun n _ o t => by
    cases hd : c.getDeviceFromResults n.name (o.devName t) with
    | none => simp [Context.ends, hd]
    | some d => simp [Context.ends, hd, (h.lookup hd).1]
  no_name := fun n _ => by
    cases hd : c.getDeviceFromResults n.name "" with
    | none => rfl
    | some d => exact absurd (h.lookup hd).2.2 (h.lookup hd).2.1

theorem Overlay.nodes_subset {F : Fleet} {n : ClusterNode} (h : n ∈ o.nodes F) :
    n ∈ F.clusterNodes := by
  cases o with
  | vxLocal => exact Fleet.getGatewayClusterNodes_subset h
  | vxBridge => exact Fleet.bridgeNodes_subset h

theorem deviceHandler_cases {F : Fleet} (env : Env) (o : Overlay) {c : Context} (hc : Keyed F c)
    (hs : c.Sound) :
    ((∃ n ∈ o.nodes F, ∃ t, F.Doomed o t n) ∧
      (o.nodes F).foldlM (addOverlay env o) c = .error (.panic .nilDeref)) ∨
    ((∀ n ∈ o.nodes F, ¬ ∃ t, F.Doomed o t n) ∧
      ∃ c', (o.nodes F).foldlM (addOverlay env o) c = .ok c' ∧ Keyed F c' ∧ c'.Sound) := by
  refine foldlM_stop_iff (I := fun c => Keyed F c ∧ c.Sound) (fun c n hn ⟨hc, hs⟩ => ?_) ⟨hc, hs⟩
  rcases addOverlay_cases env o hc (Overlay.nodes_subset hn) with h | ⟨hok, he⟩
  · exact Or.inl h
  · refine Or.inr ⟨hok, _, he, hc.posted _, hs.posted fun name d hd => ?_⟩
    simp only [post, List.mem_map, Prod.mk.injEq] at hd
    obtain ⟨e, hmem, -, rfl⟩ := hd
    obtain ⟨hip, t, hname⟩ := Fleet.mem_devicesOf hmem
    exact ⟨hip, hname ▸ Overlay.devName_ne_empty o t⟩

def Fleet.initContext (F : Fleet) : Context where
  filter := F.toFilter
  results := fun name => if name ∈ F.clusterNodes.map (·.name) then some {} else none

theorem initNodes_eq {F : Fleet} {c : Context} (hc : c.filter = F.toFilter) :
    initNodes c = .ok F.initContext := by
  have hfold : ∀ (ns : List ClusterNode) (m : String → Option NodeConfig) (name : String),
      ns.foldl (fun (m : String → Option NodeConfig) n => Function.update m n.name (some {})) m name
        = if name ∈ ns.map (·.name) then some {} else m name := by
    intro ns
    induction ns with
    | nil => simp
    | cons n ns ih =>
      intro m name
      rw [List.foldl_cons, ih, List.map_cons]
      by_cases hname : name = n.name
      · subst hname
        simp
      · rw [Function.update_of_ne hname]
        simp only [List.mem_cons, hname, false_or]
  simp only [initNodes, hc, pure_eq_ok, Fleet.initContext, Except.ok.injEq, Context.mk.injEq,
    true_and]
  funext name
  exact hfold _ _ name

theorem initContext_results {F : Fleet} {n : ClusterNode} (hn : n ∈ F.clusterNodes) :
    F.initContext.results n.name = some {} :=
  if_pos (List.mem_map_of_mem hn)

theorem Fleet.keyed_initContext (F : Fleet) : Keyed F F.initContext where
  filter_eq := rfl
  present := fun n hn => by rw [initContext_results hn]; rfl

theorem Fleet.sound_initContext (F : Fleet) : F.initContext.Sound := by
  intro name cfg hcfg d hd
  simp only [Fleet.initContext] at hcfg
  split at hcfg
  · cases hcfg
    cases hd
  · cases hcfg

theorem run_handlers_init {F : Fleet} (env : Env) {c : Context} (hc : c.filter = F.toFilter) :
    run (handlers env) c = vxLocalNetwork env F.initContext >>= fun c =>
      vxBridgeNetwork env c >>= run (tunnelHandlers env) := by
  rw [handlers, run, initNodes_eq hc, ok_bind]
  rfl

theorem run_handlers_cases (F : Fleet) (env : Env) {c : Context} (hc : c.filter = F.toFilter) :
    ((∃ o, ∃ n ∈ Overlay.nodes F o, ∃ t, F.Doomed o t n) ∧
      run (handlers env) c = .error (.panic .nilDeref)) ∨
    ((∀ o, ∀ n ∈ Overlay.nodes F o, ∀ t, ¬ F.Doomed o t n) ∧
      ∃ c', run (handlers env) c = .ok c') := by
  rw [run_handlers_init env hc, vxLocalNetwork_eq env F.keyed_initContext]
  rcases deviceHandler_cases env .vxLocal F.keyed_initContext F.sound_initContext with
    ⟨⟨n, hn, t, hd⟩, he⟩ | ⟨hlocal, c₁, he, hc₁, hs₁⟩
  · exact Or.inl ⟨⟨_, n, hn, t, hd⟩, by rw [he]; rfl⟩
  rw [he, ok_bind, vxBridgeNetwork_eq env hc₁]
  rcases deviceHandler_cases env .vxBridge hc₁ hs₁ with
    ⟨⟨n, hn, t, hd⟩, he⟩ | ⟨hbridge, c₂, he, hc₂, hs₂⟩
  · exact Or.inl ⟨⟨_, n, hn, t, hd⟩, by rw [he]; rfl⟩
  rw [he, ok_bind, run_tunnelHandlers env (hs₂.ready hc₂)]
  refine Or.inr ⟨fun o n hn t hd => ?_, _, rfl⟩
  cases o with
  | vxLocal => exact hlocal n hn ⟨t, hd⟩
  | vxBridge => exact hbridge n hn ⟨t, hd⟩

structure Fleet.Distinct (F : Fleet) : Prop where
  nodes : (F.clusterNodes.map (·.name)).Nodup
  clusters : (F.clusters.map (·.name)).Nodup

section Distinct

variable {F : Fleet} {n m : ClusterNode}

theorem Fleet.Distinct.eq_of_name (hF : F.Distinct) (hn : n ∈ F.clusterNodes)
    (hm : m ∈ F.clusterNodes) (h : n.name = m.name) : n = m :=
  List.inj_on_of_nodup_map hF.nodes hn hm h

theorem Fleet.Distinct.getGatewayNodes_nodup (hF : F.Distinct) : F.getGatewayNodes.Nodup := by
  have hc := hF.clusters
  rw [List.Nodup, List.pairwise_map] at hc
  rw [Filter.getGatewayNodes, List.Nodup, List.pairwise_filterMap]
  refine hc.imp fun {c c'} hne g hg g' hg' he => hne ?_
  subst he
  rw [← (Fleet.gateway_some hg).2.1, ← (Fleet.gateway_some hg').2.1]

theorem Fleet.Distinct.nodes_nodup (hF : F.Distinct) (o : Overlay) :
    ((o.nodes F).map (·.name)).Nodup := by
  have hnodes : F.clusterNodes.Nodup := List.Nodup.of_map _ hF.nodes
  refine List.Nodup.map_on (fun n hn m hm => hF.eq_of_name (Overlay.nodes_subset hn)
    (Overlay.nodes_subset hm)) ?_
  cases o with
  | vxLocal =>
    refine List.nodup_flatMap.mpr ⟨fun c _ => ?_, ?_⟩
    · split
      · exact hnodes.filter _
      · exact List.nodup_nil
    · have hc := hF.clusters
      rw [List.Nodup, List.pairwise_map] at hc
      refine hc.imp fun {c c'} hne n hn hn' => hne ?_
      dsimp only at hn hn'
      split at hn
      · split at hn'
        · have h1 := (List.mem_filter.mp hn).2
          have h2 := (List.mem_filter.mp hn').2
          rw [beq_iff_eq] at h1 h2
          rw [← h1, ← h2]
        · cases hn'
      · cases hn
  | vxBridge =>
    refine List.nodup_append.mpr ⟨hF.getGatewayNodes_nodup, hnodes.filter _, ?_⟩
    rintro n hn m hm rfl
    have hgw := (Fleet.gateway_some (Fleet.mem_getGatewayNodes.mp hn)).2.2
    rw [(Fleet.mem_endpointNodes.mp hm).2.2] at hgw
    cases hgw

theorem deviceHandler_eq (hF : F.Distinct) (env : Env) (o : Overlay)
    (hsafe : ∀ n ∈ o.nodes F, ∀ t, ¬ F.Doomed o t n) {c : Context} (hc : Keyed F c)
    (hzero : ∀ n ∈ o.nodes F, ∀ t, c.deviceCount n.name (o.devName t) = 0) :
    (o.nodes F).foldlM (addOverlay env o) c = .ok (c.posted (F.deviceLog env o)) := by
  refine (foldlM_act (I := fun rest c => Keyed F c ∧ (rest.map (·.name)).Nodup ∧
      ∀ n ∈ rest, n ∈ o.nodes F ∧ ∀ t, c.deviceCount n.name (o.devName t) = 0)
    Context.posted_nil Context.posted_append (fun c n rest ⟨hc, hnd, hrest⟩ => ?_)
    ⟨hc, hF.nodes_nodup o, fun n hn => ⟨hn, hzero n hn⟩⟩).1
  obtain ⟨hn, hcount⟩ := hrest n (List.mem_cons_self ..)
  rw [List.map_cons, List.nodup_cons] at hnd
  have hbytes : (fun t => c.bytes env o t n) = fun t => env.rand n.name (o.devName t) 0 := by
    funext t
    rw [Context.bytes, hcount t]
  rcases addOverlay_cases env o hc (Overlay.nodes_subset hn) with ⟨⟨t, hd⟩, -⟩ | ⟨-, he⟩
  · exact absurd hd (hsafe n hn t)
  · rw [hbytes] at he
    refine ⟨he, hc.posted _, hnd.2, fun m hm => ?_⟩
    obtain ⟨hm', hcount'⟩ := hrest m (List.mem_cons_of_mem _ hm)
    refine ⟨hm', fun t => ?_⟩
    rw [deviceCount_posted, hcount' t]
    intro d hd
    simp only [post, List.mem_map, Prod.mk.injEq] at hd
    obtain ⟨e, -, hname, -⟩ := hd
    exact absurd (hname ▸ List.mem_map_of_mem hm) hnd.1

theorem mem_deviceLog {env : Env} (h : (name, .device d) ∈ F.deviceLog env o) :
    ∃ t, d.name = o.devName t := by
  obtain ⟨n, -, h⟩ := List.mem_flatMap.mp h
  simp only [post, List.mem_map, Prod.mk.injEq] at h
  obtain ⟨e, he, -, rfl⟩ := h
  exact (Fleet.mem_devicesOf he).2

theorem entriesFor_deviceLog (hF : F.Distinct) (env : Env) (o : Overlay)
    (hn : n ∈ F.clusterNodes) :
    entriesFor n.name (F.deviceLog env o) = if n ∈ o.nodes F then
      F.devicesOf (fun t => env.rand n.name (o.devName t) 0) o n else [] := by
  split
  next h => exact entriesFor_flatMap_self (hF.nodes_nodup o) h
  next h =>
    refine entriesFor_flatMap_other fun hmem => h ?_
    obtain ⟨m, hm, hname⟩ := List.mem_map.mp hmem
    rw [← hF.eq_of_name (Overlay.nodes_subset hm) hn hname]
    exact hm

theorem devName_beq (o o' : Overlay) (t t' : Family) :
    (o'.devName t' == o.devName t) = decide (o' = o ∧ t' = t) := by
  by_cases h : o' = o ∧ t' = t
  · obtain ⟨rfl, rfl⟩ := h
    simp
  · rw [decide_eq_false h, beq_eq_false_iff_ne]
    exact fun he => h (Overlay.devName_inj he)

theorem find_devicesOf (bufs : Family → Option (Vector UInt8 6)) (o o' : Overlay) (t : Family) :
    ((F.devicesOf bufs o' n).filterMap Entry.device?).find? (fun d => d.name == o.devName t)
      = if o' = o then (F.endpoint (bufs t) o' t n).map (·.dev) else none := by
  have hone : ∀ t', ((F.devices (bufs t') o' t' n).filterMap Entry.device?).find?
      (fun d => d.name == o.devName t)
        = if o' = o ∧ t' = t then (F.endpoint (bufs t') o' t' n).map (·.dev) else none := by
    intro t'
    cases h : F.endpoint (bufs t') o' t' n with
    | none => simp [Fleet.devices, h]
    | some e =>
      have hname := Fleet.endpoint_name h
      simp only [Fleet.devices, h, Option.toList_some, List.map_cons, List.map_nil,
        List.filterMap_cons, Entry.device?, List.filterMap_nil, List.find?_singleton, hname,
        devName_beq]
      by_cases hot : o' = o ∧ t' = t <;> simp [hot]
  simp only [Fleet.devicesOf, List.flatMap_cons, List.flatMap_nil, List.append_nil,
    List.filterMap_append, List.find?_append, hone]
  by_cases ho : o' = o
  · cases t <;> simp [ho]
  · simp [ho]

theorem ready_devices (hF : F.Distinct) (env : Env) :
    Ready F (F.ends env)
      (F.initContext.posted (F.deviceLog env .vxLocal ++ F.deviceLog env .vxBridge)) := by
  have hlog : ∀ n ∈ F.clusterNodes, ∀ devName,
      (F.initContext.posted (F.deviceLog env .vxLocal ++ F.deviceLog env .vxBridge)
        ).getDeviceFromResults n.name devName
      = (((entriesFor n.name (F.deviceLog env .vxLocal)).filterMap Entry.device?).find?
          fun d => d.name == devName).or
        (((entriesFor n.name (F.deviceLog env .vxBridge)).filterMap Entry.device?).find?
          fun d => d.name == devName) := by
    intro n hn devName
    simp [Context.getDeviceFromResults, Context.posted, Go.posted, initContext_results hn,
      foldl_add]
  have hfind : ∀ n ∈ F.clusterNodes, ∀ o o' t,
      ((entriesFor n.name (F.deviceLog env o')).filterMap Entry.device?).find?
        (fun d => d.name == o.devName t) = if o' = o then (F.ends env o t n).map (·.dev)
          else none := by
    intro n hn o o' t
    rw [entriesFor_deviceLog hF env o' hn, Fleet.ends]
    by_cases ho : o' = o
    · subst ho
      split
      · rw [find_devicesOf]
      · simp
    · rw [if_neg ho]
      split
      · rw [find_devicesOf, if_neg ho]
      · rfl
  refine ⟨F.keyed_initContext.posted _, fun n hn o t => ?_, fun n hn => ?_⟩
  · rw [hlog n hn, hfind n hn, hfind n hn]
    cases o <;> simp
  · rw [hlog n hn, List.find?_eq_none.mpr, List.find?_eq_none.mpr, Option.or_none]
    all_goals
      intro d hd
      obtain ⟨t, ht⟩ := mem_deviceLog (mem_devicesFor.mp hd)
      simpa [ht] using Overlay.devName_ne_empty _ t

theorem run_handlers_eq (hF : F.Distinct) (env : Env)
    (hsafe : ∀ o, ∀ n ∈ Overlay.nodes F o, ∀ t, ¬ F.Doomed o t n) {c : Context}
    (hc : c.filter = F.toFilter) :
    run (handlers env) c = .ok (F.initContext.posted (F.journal env)) := by
  have hk₁ := F.keyed_initContext.posted (F.deviceLog env .vxLocal)
  have hzero : ∀ n ∈ F.clusterNodes, ∀ devName,
      F.initContext.deviceCount n.name devName = 0 := by
    intro n hn devName
    simp [Context.deviceCount, initContext_results hn]
  rw [run_handlers_init env hc, vxLocalNetwork_eq env F.keyed_initContext,
    deviceHandler_eq hF env .vxLocal (hsafe .vxLocal) F.keyed_initContext
      (fun n hn t => hzero n (Overlay.nodes_subset hn) _),
    ok_bind, vxBridgeNetwork_eq env hk₁, deviceHandler_eq hF env .vxBridge (hsafe .vxBridge) hk₁,
    ok_bind, Context.posted_append, run_tunnelHandlers env (ready_devices hF env),
    Context.posted_append, Fleet.journal]
  intro n hn t
  rw [deviceCount_posted, hzero n (Overlay.nodes_subset hn)]
  intro d hd hname
  obtain ⟨t', ht'⟩ := mem_deviceLog hd
  rw [ht'] at hname
  cases (Overlay.devName_inj hname).1

end Distinct

/-- Clusters have distinct names, and so have nodes. -/
structure DistinctNames (clusters : List Cluster) (clusterNodes : List ClusterNode) : Prop where
  clusters : (clusters.map (·.name)).Nodup
  nodes : (clusterNodes.map (·.name)).Nodup

theorem DistinctNames.fleetOf {clusters : List Cluster} {clusterNodes : List ClusterNode}
    (h : DistinctNames clusters clusterNodes) (nodeConfigs : List Api.NodeConfig) :
    (fleetOf clusters clusterNodes nodeConfigs).Distinct where
  nodes := h.nodes.sublist (List.filter_sublist.map _)
  clusters := h.clusters.sublist (List.filter_sublist.map _)

section Calculate

variable (env : Env) (clusters : List Cluster) (clusterNodes : List ClusterNode)
  (nodeConfigs : List Api.NodeConfig)

def SomeDoomed : Prop :=
  ∃ o, ∃ n ∈ Overlay.nodes (fleetOf clusters clusterNodes nodeConfigs) o, ∃ t,
    (fleetOf clusters clusterNodes nodeConfigs).Doomed o t n

theorem not_someDoomed_nil : ¬ SomeDoomed clusters clusterNodes [] := by
  rintro ⟨o, n, -, t, -, -, hmac⟩
  exact hmac rfl

theorem calculateNetworkConfigs_cases :
    (SomeDoomed clusters clusterNodes nodeConfigs ∧
      calculateNetworkConfigs env clusters clusterNodes nodeConfigs = .error (.panic .nilDeref)) ∨
    (¬ SomeDoomed clusters clusterNodes nodeConfigs ∧
      ∃ R, calculateNetworkConfigs env clusters clusterNodes nodeConfigs = .ok R) := by
  simp only [calculateNetworkConfigs, excludeInvalidItems_eq, ok_bind]
  rcases run_handlers_cases (fleetOf clusters clusterNodes nodeConfigs) env
    (c := ⟨newFilter (validClusters clusters) (validNodes clusters clusterNodes) nodeConfigs,
      fun _ => none⟩) rfl with ⟨hd, he⟩ | ⟨hd, c', he⟩
  · exact Or.inl ⟨hd, by rw [he]⟩
  · refine Or.inr ⟨?_, _, by rw [he]; rfl⟩
    rintro ⟨o, n, hn, t, h⟩
    exact hd o n hn t h

variable {env clusters clusterNodes nodeConfigs}

theorem calculateNetworkConfigs_eq (hnames : DistinctNames clusters clusterNodes)
    (hsafe : ¬ SomeDoomed clusters clusterNodes nodeConfigs) :
    calculateNetworkConfigs env clusters clusterNodes nodeConfigs
      = .ok ((fleetOf clusters clusterNodes nodeConfigs).plan env) := by
  simp only [calculateNetworkConfigs, excludeInvalidItems_eq, ok_bind]
  rw [run_handlers_eq (F := fleetOf clusters clusterNodes nodeConfigs) (hnames.fleetOf nodeConfigs)
    env (fun o n hn t hd => hsafe ⟨o, n, hn, t, hd⟩) rfl]
  simp only [pure_eq_ok, Except.ok.injEq]
  funext name
  simp only [sortConfigs, Context.posted, Go.posted, Fleet.initContext, Fleet.plan]
  split <;> rfl

theorem eq_plan_of_calculate (hnames : DistinctNames clusters clusterNodes)
    {R : String → Option NodeConfig}
    (h : calculateNetworkConfigs env clusters clusterNodes nodeConfigs = .ok R) :
    R = (fleetOf clusters clusterNodes nodeConfigs).plan env := by
  rcases calculateNetworkConfigs_cases env clusters clusterNodes nodeConfigs with
    ⟨-, he⟩ | ⟨hsafe, -⟩
  · rw [he] at h
    cases h
  · rw [calculateNetworkConfigs_eq hnames hsafe, Except.ok.injEq] at h
    exact h.symm

theorem sample_distinctNames : DistinctNames sampleClusters sampleNodes :=
  ⟨by decide, by decide⟩

theorem sample_calculate : calculateNetworkConfigs sampleEnv sampleClusters sampleNodes []
    = .ok ((fleetOf sampleClusters sampleNodes []).plan sampleEnv) :=
  calculateNetworkConfigs_eq sample_distinctNames (not_someDoomed_nil _ _)

end Calculate

end Kosmos.Manager
