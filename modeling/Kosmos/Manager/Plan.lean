import Kosmos.Manager.Handlers

/-!
# The plan: what the nine handlers are for

The tunnels of a fleet, without the loops: given who has which `Endpoint`, what is posted to whom.
-/

namespace Kosmos.Manager

open Kosmos.Go Kosmos.Go.Net Kosmos.Api

inductive Overlay where
  | vxLocal
  | vxBridge
  deriving DecidableEq, Repr

def Overlay.devName : Overlay → Family → String
  | .vxLocal, t => t.vxLocal
  | .vxBridge, t => t.vxBridge

def Overlay.cidr : Overlay → Family → ClusterLinkOptions → String
  | .vxLocal, .v4, o => o.localCIDRs.ip
  | .vxLocal, .v6, o => o.localCIDRs.ip6
  | .vxBridge, .v4, o => o.bridgeCIDRs.ip
  | .vxBridge, .v6, o => o.bridgeCIDRs.ip6

def Overlay.nodes (F : Fleet) : Overlay → List ClusterNode
  | .vxLocal => F.getGatewayClusterNodes
  | .vxBridge => F.bridgeNodes

theorem Overlay.devName_inj {o o' : Overlay} {t t' : Family}
    (h : o.devName t = o'.devName t') : o = o' ∧ t = t' := by
  revert h
  cases o <;> cases o' <;> cases t <;> cases t' <;> decide

theorem Overlay.devName_ne_empty (o : Overlay) (t : Family) : o.devName t ≠ "" := by
  cases o <;> cases t <;> decide

structure Endpoint where
  dev : Device
  addr_ok : (devIP dev).isSome

def Endpoint.ip (e : Endpoint) : String := (devIP e.dev).get e.addr_ok

theorem Endpoint.devIP_eq (e : Endpoint) : devIP e.dev = some e.ip :=
  (Option.some_get e.addr_ok).symm

abbrev Ends := Overlay → Family → ClusterNode → Option Endpoint

theorem devIP_isSome_of_generate {u d addr : String} (h : generateVxlanIP u d = .ok addr)
    {dev : Device} (hdev : dev.addr = addr) : (devIP dev).isSome := by
  rcases generateVxlanIP_cases u d with ⟨-, msg, he⟩ | ⟨-, addr', ip, net, he, hparse⟩
  · rw [he] at h
    cases h
  · rw [he, Except.ok.injEq] at h
    rw [devIP, hdev, ← h, hparse]
    rfl

namespace Fleet

variable (F : Fleet)

def storedMac (nodeName devName : String) : String :=
  (F.getDeviceFromNodeConfig nodeName devName).elim "" (·.mac)

/-- A device is asked for: the family is supported, with an underlay IP and a CIDR. -/
def Wants (o : Overlay) (t : Family) (n : ClusterNode) : Prop :=
  F.supports t n = true ∧ t.underlayIP n ≠ "" ∧ o.cidr t (F.options n) ≠ ""

instance (o : Overlay) (t : Family) (n : ClusterNode) : Decidable (F.Wants o t n) :=
  inferInstanceAs (Decidable (_ ∧ _ ∧ _))

/-- The overlay address of a node exists. -/
def Addressable (o : Overlay) (t : Family) (n : ClusterNode) : Prop :=
  Graftable (t.underlayIP n) (o.cidr t (F.options n))

instance (o : Overlay) (t : Family) (n : ClusterNode) : Decidable (F.Addressable o t n) :=
  inferInstanceAs (Decidable (Graftable _ _))

/-- A device is asked for and cannot be built, but an old one left a MAC. -/
def Doomed (o : Overlay) (t : Family) (n : ClusterNode) : Prop :=
  F.Wants o t n ∧ ¬ F.Addressable o t n ∧ F.storedMac n.name (o.devName t) ≠ ""

instance (o : Overlay) (t : Family) (n : ClusterNode) : Decidable (F.Doomed o t n) :=
  inferInstanceAs (Decidable (_ ∧ _ ∧ _))

def macOf (buf : Option (Vector UInt8 6)) (o : Overlay) (t : Family) (n : ClusterNode) :
    String :=
  if F.storedMac n.name (o.devName t) ≠ "" then F.storedMac n.name (o.devName t)
  else macText (generateMac buf)

def deviceAt (buf : Option (Vector UInt8 6)) (o : Overlay) (t : Family) (n : ClusterNode)
    (addr : String) : Device where
  type := vxlanDevice
  name := o.devName t
  addr := addr
  mac := F.macOf buf o t n
  bindDev := n.interfaceName
  id := ((vxlanIDPort (o.devName t)).getD (0, 0)).1
  port := ((vxlanIDPort (o.devName t)).getD (0, 0)).2

def endpoint (buf : Option (Vector UInt8 6)) (o : Overlay) (t : Family) (n : ClusterNode) :
    Option Endpoint :=
  if F.Wants o t n then
    match h : generateVxlanIP (t.underlayIP n) (o.cidr t (F.options n)) with
    | .error _ => none
    | .ok addr => some ⟨F.deviceAt buf o t n addr, devIP_isSome_of_generate h rfl⟩
  else none

def ends (env : Env) : Ends := fun o t n =>
  if n ∈ o.nodes F then F.endpoint (env.rand n.name (o.devName t) 0) o t n else none

def admits (t : Family) (n : ClusterNode) : Bool :=
  (F.options n).ipFamily == ipFamilyTypeALL ||
    convertIPFamilyTypeToIPType (F.options n).ipFamily == t.ipType

def conflicts (n : ClusterNode) (cidr : String) : Bool :=
  ifCIDRConflictWithSelf ((F.cluster n).podCIDRs ++ (F.cluster n).serviceCIDRs) cidr

end Fleet

abbrev Journal := List (String × Entry)

def post (nodeName : String) (es : List Entry) : Journal := es.map fun e => (nodeName, e)

def familyOf (cidr : String) : Option Family :=
  match getIPType cidr with
  | .ipv4 => some .v4
  | .ipv6 => some .v6
  | .unknown => none

def caches (ends : Ends) (o : Overlay) (t : Family) (n : ClusterNode) : List Entry :=
  match ends o t n with
  | none => []
  | some e =>
    [.fdb { ip := t.underlayIP n, mac := allZeroMac, dev := o.devName t },
     .fdb { ip := t.underlayIP n, mac := e.dev.mac, dev := o.devName t },
     .arp { ip := e.ip, mac := e.dev.mac, dev := o.devName t }]

namespace Fleet

variable (F : Fleet) (ends : Ends)

def advertised (source : Cluster → ClusterNode → List String) (target : ClusterNode) :
    List String :=
  convertToGlobalCIDRs
    (filterByIPFamily (source (F.cluster target) target) (F.options target).ipFamily)
    (F.options target).globalCIDRsMap

def routeOn (t : Family) (cidr targetIP : String) (n : ClusterNode) : Option Route :=
  if F.admits t n = false then none
  else if F.conflicts n cidr then none
  else if n.isGateway || (F.cluster n).isP2P then
    some { cidr := cidr, gw := targetIP, dev := t.vxBridge }
  else
    (F.getGatewayNodeByClusterName n.clusterName).bind fun gw =>
      (ends .vxLocal t gw).map fun e => { cidr := cidr, gw := e.ip, dev := t.vxLocal }

def routesTo (target : ClusterNode) (cidr : String) : Journal :=
  match familyOf cidr with
  | none => []
  | some t =>
    match ends .vxBridge t target with
    | none => []
    | some e =>
      (F.getAllNodesExceptCluster target.clusterName).flatMap fun n =>
        post n.name ((F.routeOn ends t cidr e.ip n).toList.map .route)

def routeLog (source : Cluster → ClusterNode → List String) (targets : List ClusterNode) :
    Journal :=
  targets.flatMap fun target => (F.advertised source target).flatMap (F.routesTo ends target)

def familiesOf (n : ClusterNode) : List Family := families (F.supports .v4 n) (F.supports .v6 n)

def sharedFamilies (n m : ClusterNode) : List Family :=
  families (F.supports .v4 n && F.supports .v4 m) (F.supports .v6 n && F.supports .v6 m)

def toGatewayLog : Journal :=
  F.internalNodes.flatMap fun n =>
    match F.getGatewayNodeByClusterName n.clusterName with
    | none => []
    | some gw => (F.familiesOf n).flatMap fun t => post n.name (caches ends .vxLocal t gw)

def fromGatewayLog : Journal :=
  F.getGatewayNodes.flatMap fun src =>
    post src.name ((F.internalNodesOf src.clusterName).flatMap fun tar =>
      (F.familiesOf src).flatMap fun t => caches ends .vxLocal t tar)

def reach (src tar : ClusterNode) : List Entry :=
  if src.name = tar.name then []
  else (F.sharedFamilies src tar).flatMap fun t => caches ends .vxBridge t tar

def bridgeLog : Journal :=
  F.bridgeNodes.flatMap fun src => post src.name (F.bridgeNodes.flatMap (F.reach ends src))

def masqueradeOf (t : Family) (n : ClusterNode) : List Entry :=
  if F.supports t n then
    (masquerade (Overlay.vxLocal.cidr t (F.options n)) (Overlay.vxBridge.cidr t (F.options n))
      t.vxBridge).map .iptables
  else []

def hostLog : Journal :=
  F.getGatewayNodes.flatMap fun n =>
    if (F.cluster n).isP2P then []
    else post n.name (F.masqueradeOf .v4 n ++ F.masqueradeOf .v6 n)

def globalLog (env : Env) : Journal :=
  F.bridgeNodes.zipIdx.flatMap fun ni =>
    post ni.1.name ((env.order ni.2 (F.options ni.1).globalCIDRsMap.entries).flatMap fun entry =>
      (netmapRules entry).map .iptables)

def tunnelLog (env : Env) : Journal :=
  F.routeLog ends serviceSource F.getGatewayNodes ++ F.routeLog ends podSource F.bridgeNodes ++
    (F.toGatewayLog ends ++ F.fromGatewayLog ends) ++ F.bridgeLog ends ++ F.hostLog ++
    F.globalLog env

def devices (buf : Option (Vector UInt8 6)) (o : Overlay) (t : Family) (n : ClusterNode) :
    List Entry :=
  (F.endpoint buf o t n).toList.map fun e => .device e.dev

def deviceLog (env : Env) (o : Overlay) : Journal :=
  (o.nodes F).flatMap fun n =>
    post n.name ([Family.v4, .v6].flatMap fun t =>
      F.devices (env.rand n.name (o.devName t) 0) o t n)

def journal (env : Env) : Journal :=
  F.deviceLog env .vxLocal ++ F.deviceLog env .vxBridge ++ F.tunnelLog (F.ends env) env

end Fleet

def NodeConfig.add (c : NodeConfig) : Entry → NodeConfig
  | .device d => { c with devices := c.devices ++ [d] }
  | .route r => { c with routes := c.routes ++ [r] }
  | .iptables i => { c with iptables := c.iptables ++ [i] }
  | .fdb f => { c with fdbs := c.fdbs ++ [f] }
  | .arp a => { c with arps := c.arps ++ [a] }

def Fleet.plan (F : Fleet) (env : Env) : String → Option NodeConfig := fun name =>
  if name ∈ F.clusterNodes.map (·.name) then
    some ((entriesFor name (F.journal env)).foldl NodeConfig.add {}).sort
  else none

def NodeConfig.Has (c : NodeConfig) : Entry → Prop
  | .device d => d ∈ c.devices
  | .route r => r ∈ c.routes
  | .iptables i => i ∈ c.iptables
  | .fdb f => f ∈ c.fdbs
  | .arp a => a ∈ c.arps

theorem NodeConfig.has_add (c : NodeConfig) (e e' : Entry) :
    (c.add e).Has e' ↔ c.Has e' ∨ e' = e := by
  cases e <;> cases e' <;> simp [NodeConfig.add, NodeConfig.Has]

theorem NodeConfig.has_foldl (es : List Entry) (e : Entry) :
    ∀ c : NodeConfig, (es.foldl NodeConfig.add c).Has e ↔ c.Has e ∨ e ∈ es := by
  induction es with
  | nil => simp
  | cons x xs ih =>
    intro c
    rw [List.foldl_cons, ih, NodeConfig.has_add, List.mem_cons, or_assoc]

theorem NodeConfig.has_sort (c : NodeConfig) (e : Entry) : c.sort.Has e ↔ c.Has e := by
  cases e <;> simp [NodeConfig.Has, NodeConfig.sort, mem_sortBy]

theorem NodeConfig.not_has_empty (e : Entry) : ¬ ({} : NodeConfig).Has e := by
  cases e <;> simp [NodeConfig.Has]

theorem Fleet.plan_has {F : Fleet} {env : Env} {name : String} {cfg : NodeConfig}
    (h : F.plan env name = some cfg) (e : Entry) : cfg.Has e ↔ (name, e) ∈ F.journal env := by
  unfold Fleet.plan at h
  split at h
  · rw [Option.some.injEq] at h
    rw [← h, NodeConfig.has_sort, NodeConfig.has_foldl, ← mem_entriesFor]
    exact or_iff_right (NodeConfig.not_has_empty e)
  · cases h

theorem Fleet.plan_of_mem {F : Fleet} (env : Env) {n : ClusterNode} (hn : n ∈ F.clusterNodes) :
    ∃ cfg, F.plan env n.name = some cfg := by
  have hmem : n.name ∈ F.clusterNodes.map (·.name) := List.mem_map_of_mem hn
  rw [Fleet.plan, if_pos hmem]
  exact ⟨_, rfl⟩

end Kosmos.Manager
