import Kosmos.Go.Basic
import Kosmos.Go.Json

/-!
# The `kosmos.io/v1alpha1` objects of ClusterLink

Network type, IP family and roles are open string types in the API, so every value is possible.
-/

namespace Kosmos.Api

open Kosmos.Go

def networkTypeP2P : String := "p2p"
def networkTypeGateWay : String := "gateway"

def ipFamilyTypeALL : String := "all"
def ipFamilyTypeIPV4 : String := "ipv4"
def ipFamilyTypeIPV6 : String := "ipv6"

def roleGateway : String := "gateway"

def kosmosNodeLabel : String := "kosmos.io/node"

def vxlanDevice : String := "vxlan"

def vxlanBridgeName : String := "vx-bridge"
def vxlanLocalName : String := "vx-local"
def vxlanBridgeName6 : String := "vx-bridge-6"
def vxlanLocalName6 : String := "vx-local-6"

def vxlanBridgeID : Int32 := 54
def vxlanBridgePort : Int32 := 4876
def vxlanLocalID : Int32 := 55
def vxlanLocalPort : Int32 := 4877
def vxlanBridgeID6 : Int32 := 64
def vxlanBridgePort6 : Int32 := 4866
def vxlanLocalID6 : Int32 := 65
def vxlanLocalPort6 : Int32 := 4867

def allZeroMac : String := "00:00:00:00:00:00"

def ipTablesPreRoutingChain : String := "PREROUTING"
def ipTablesPostRoutingChain : String := "POSTROUTING"

structure VxlanCIDRs where
  ip : String
  ip6 : String

structure ClusterLinkOptions where
  enable : Bool
  networkType : String
  ipFamily : String
  localCIDRs : VxlanCIDRs
  bridgeCIDRs : VxlanCIDRs
  globalCIDRsMap : GoMap String String

structure Cluster where
  name : String
  clusterLinkOptions : Option ClusterLinkOptions
  podCIDRs : List String
  serviceCIDRs : List String

def Cluster.isP2P (c : Cluster) : Bool :=
  match c.clusterLinkOptions with
  | none => false
  | some o => o.networkType == networkTypeP2P

def Cluster.isGateway (c : Cluster) : Bool :=
  match c.clusterLinkOptions with
  | none => false
  | some o => o.networkType == networkTypeGateWay

structure ClusterNode where
  name : String
  clusterName : String
  nodeName : String
  podCIDRs : List String
  ip : String
  ip6 : String
  roles : List String
  interfaceName : String
  deriving DecidableEq

def updateClusterNode (clusterNodes : List ClusterNode) (node : ClusterNode) : List ClusterNode :=
  clusterNodes.map fun n => if n.name = node.name then node else n

def equalFold (s t : String) : Bool :=
  s.toList.map Char.toLower == t.toList.map Char.toLower

def hasRole (roles : List String) (r : String) : Bool :=
  roles.any fun role => equalFold r role

def ClusterNode.isGateway (n : ClusterNode) : Bool := hasRole n.roles roleGateway

structure Device where
  type : String
  name : String
  addr : String
  mac : String
  bindDev : String
  id : Int32
  port : Int32
  deriving DecidableEq, Repr

structure Route where
  cidr : String
  gw : String
  dev : String
  deriving DecidableEq, Repr

structure Iptables where
  table : String
  chain : String
  rule : String
  deriving DecidableEq, Repr

structure Fdb where
  ip : String
  mac : String
  dev : String
  deriving DecidableEq, Repr

structure Arp where
  ip : String
  mac : String
  dev : String
  deriving DecidableEq, Repr

structure NodeConfigSpec where
  devices : Slice Device := none
  routes : Slice Route := none
  iptables : Slice Iptables := none
  fdbs : Slice Fdb := none
  arps : Slice Arp := none
  deriving DecidableEq, Repr

structure NodeConfig where
  name : String
  spec : NodeConfigSpec
  deriving DecidableEq, Repr

inductive Entry where
  | device (d : Device)
  | route (r : Route)
  | iptables (i : Iptables)
  | fdb (f : Fdb)
  | arp (a : Arp)
  deriving DecidableEq, Repr

namespace Entry

def device? : Entry → Option Device
  | .device d => some d
  | _ => none

def route? : Entry → Option Route
  | .route r => some r
  | _ => none

def iptables? : Entry → Option Iptables
  | .iptables i => some i
  | _ => none

def fdb? : Entry → Option Fdb
  | .fdb f => some f
  | _ => none

def arp? : Entry → Option Arp
  | .arp a => some a
  | _ => none

def IsCache (e : Entry) : Prop :=
  e.device? = none ∧ e.route? = none ∧ e.iptables? = none

end Entry

def NodeConfigSpec.Has (c : NodeConfigSpec) : Entry → Prop
  | .device d => d ∈ c.devices.elems
  | .route r => r ∈ c.routes.elems
  | .iptables i => i ∈ c.iptables.elems
  | .fdb f => f ∈ c.fdbs.elems
  | .arp a => a ∈ c.arps.elems

def Device.compare (d v : Device) : Bool :=
  d.type == v.type && d.name == v.name && d.addr == v.addr && d.mac == v.mac &&
    d.bindDev == v.bindDev && d.id == v.id && d.port == v.port

def Route.compare (r v : Route) : Bool :=
  r.cidr == v.cidr && r.gw == v.gw && r.dev == v.dev

def Iptables.compare (i v : Iptables) : Bool :=
  i.table == v.table && i.chain == v.chain && i.rule == v.rule

def Fdb.compare (f v : Fdb) : Bool :=
  f.ip == v.ip && f.mac == v.mac && f.dev == v.dev

def Arp.compare (a v : Arp) : Bool :=
  a.ip == v.ip && a.mac == v.mac && a.dev == v.dev

theorem Device.compare_iff (d v : Device) : d.compare v = true ↔ d = v := by
  cases d; cases v
  simp [Device.compare, and_assoc]

theorem Route.compare_iff (r v : Route) : r.compare v = true ↔ r = v := by
  cases r; cases v
  simp [Route.compare, and_assoc]

theorem Iptables.compare_iff (i v : Iptables) : i.compare v = true ↔ i = v := by
  cases i; cases v
  simp [Iptables.compare, and_assoc]

theorem Fdb.compare_iff (f v : Fdb) : f.compare v = true ↔ f = v := by
  cases f; cases v
  simp [Fdb.compare, and_assoc]

theorem Arp.compare_iff (a v : Arp) : a.compare v = true ↔ a = v := by
  cases a; cases v
  simp [Arp.compare, and_assoc]

def Device.text (d : Device) : String :=
  marshalObject [("type", .str d.type), ("name", .str d.name), ("addr", .str d.addr),
    ("mac", .str d.mac), ("bindDev", .str d.bindDev), ("id", .int d.id.toInt),
    ("port", .int d.port.toInt)]

def Route.text (r : Route) : String :=
  marshalObject [("cidr", .str r.cidr), ("gw", .str r.gw), ("dev", .str r.dev)]

def Iptables.text (i : Iptables) : String :=
  marshalObject [("table", .str i.table), ("chain", .str i.chain), ("rule", .str i.rule)]

def Fdb.text (f : Fdb) : String :=
  marshalObject [("ip", .str f.ip), ("mac", .str f.mac), ("dev", .str f.dev)]

def Arp.text (a : Arp) : String :=
  marshalObject [("ip", .str a.ip), ("mac", .str a.mac), ("dev", .str a.dev)]

theorem Device.text_injective : Function.Injective Device.text := by
  intro d v h
  have h := marshalObject_inj h
  cases d; cases v
  simpa [Int32.toInt_inj] using h

theorem Route.text_injective : Function.Injective Route.text := by
  intro r v h
  have h := marshalObject_inj h
  cases r; cases v
  simpa using h

theorem Iptables.text_injective : Function.Injective Iptables.text := by
  intro i v h
  have h := marshalObject_inj h
  cases i; cases v
  simpa using h

theorem Fdb.text_injective : Function.Injective Fdb.text := by
  intro f v h
  have h := marshalObject_inj h
  cases f; cases v
  simpa using h

theorem Arp.text_injective : Function.Injective Arp.text := by
  intro a v h
  have h := marshalObject_inj h
  cases a; cases v
  simpa using h

end Kosmos.Api
