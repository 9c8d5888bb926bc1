import Kosmos.Manager.Filter

/-!
# `handlers/*.go` and `CalculateNetworkConfigs`

Nine handlers run over a shared `Context`, and append records to `Results[node.Name]`; a lookup
that misses is a panic.
-/

namespace Kosmos.Manager

open Kosmos.Go Kosmos.Go.Net Kosmos.Api

structure NodeConfig where
  devices : List Device := []
  routes : List Route := []
  iptables : List Iptables := []
  fdbs : List Fdb := []
  arps : List Arp := []
  deriving DecidableEq, Repr

def NodeConfig.convertToNodeConfigSpec (c : NodeConfig) : NodeConfigSpec where
  devices := appended c.devices
  routes := appended c.routes
  iptables := appended c.iptables
  fdbs := appended c.fdbs
  arps := appended c.arps

def NodeConfig.sort (c : NodeConfig) : NodeConfig where
  devices := sortBy Device.text c.devices
  routes := sortBy Route.text c.routes
  iptables := sortBy Iptables.text c.iptables
  fdbs := sortBy Fdb.text c.fdbs
  arps := sortBy Arp.text c.arps

structure Env where
  rand : String → String → Nat → Option (Vector UInt8 6)
  order : Nat → List (String × String) → List (String × String)
  order_perm : ∀ i l, (order i l).Perm l

structure Context where
  filter : Filter
  results : String → Option NodeConfig

namespace Context

variable (c : Context)

def getDeviceFromResults (nodeName devName : String) : Option Device :=
  (c.results nodeName).bind fun config => config.devices.find? fun dev => dev.name == devName

def deviceCount (nodeName devName : String) : Nat :=
  (c.results nodeName).elim 0 fun config => config.devices.countP fun dev => dev.name == devName

def update (nodeName : String) (f : NodeConfig → NodeConfig) : Outcome Context := do
  let results ← updateAt c.results nodeName f
  pure { c with results := results }

def appendDevices (nodeName : String) (ds : List Device) : Outcome Context :=
  c.update nodeName fun cfg => { cfg with devices := cfg.devices ++ ds }

def appendRoutes (nodeName : String) (rs : List Route) : Outcome Context :=
  c.update nodeName fun cfg => { cfg with routes := cfg.routes ++ rs }

def appendIptables (nodeName : String) (is : List Iptables) : Outcome Context :=
  c.update nodeName fun cfg => { cfg with iptables := cfg.iptables ++ is }

def appendFdbs (nodeName : String) (fs : List Fdb) : Outcome Context :=
  c.update nodeName fun cfg => { cfg with fdbs := cfg.fdbs ++ fs }

def appendArps (nodeName : String) (as : List Arp) : Outcome Context :=
  c.update nodeName fun cfg => { cfg with arps := cfg.arps ++ as }

end Context

abbrev Handler := Context → Outcome Context

def initNodes : Handler := fun c =>
  pure { c with results :=
    c.filter.getClusterNodes.foldl (fun m n => Function.update m n.name (some {})) fun _ => none }

def needToCreateVxlan (support : Outcome Bool) (underlayIP : String)
    (cidr : ClusterLinkOptions → String) (cluster : Option Cluster) : Outcome Bool := do
  if ← support then
    if underlayIP ≠ "" then
      let cluster ← deref cluster
      let options ← deref cluster.clusterLinkOptions
      pure (cidr options != "")
    else pure false
  else pure false

def createVxlan (env : Env) (devName underlayIP : String) (cidr : ClusterLinkOptions → String)
    (c : Context) (clusterNode : ClusterNode) (cluster : Option Cluster) :
    Outcome (Option Device) := do
  let devOld := c.filter.getDeviceFromNodeConfig clusterNode.name devName
  let cluster ← deref cluster
  let options ← deref cluster.clusterLinkOptions
  let buf := env.rand clusterNode.name devName (c.deviceCount clusterNode.name devName)
  let dev ← buildVxlanDevice buf devName underlayIP (cidr options) clusterNode.interfaceName
  match devOld with
  | none => pure dev
  | some old =>
    if old.mac ≠ "" then do
      let d ← deref dev
      pure (some { d with mac := old.mac })
    else pure dev

def addVxlan (need : Outcome Bool) (create : Outcome (Option Device)) (nodeName : String)
    (c : Context) : Outcome Context := do
  if ← need then
    match ← create with
    | none => pure c
    | some dev => c.appendDevices nodeName [dev]
  else pure c

namespace VxLocalNetwork

def needToCreateVxLocal (c : Context) (clusterNode : ClusterNode) (cluster : Option Cluster) :
    Outcome Bool :=
  needToCreateVxlan (c.filter.supportIPv4 clusterNode) clusterNode.ip (·.localCIDRs.ip) cluster

def needToCreateVxLocal6 (c : Context) (clusterNode : ClusterNode) (cluster : Option Cluster) :
    Outcome Bool :=
  needToCreateVxlan (c.filter.supportIPv6 clusterNode) clusterNode.ip6 (·.localCIDRs.ip6) cluster

def createVxLocal (env : Env) (c : Context) (clusterNode : ClusterNode)
    (cluster : Option Cluster) : Outcome (Option Device) :=
  createVxlan env vxlanLocalName clusterNode.ip (·.localCIDRs.ip) c clusterNode cluster

def createVxLocal6 (env : Env) (c : Context) (clusterNode : ClusterNode)
    (cluster : Option Cluster) : Outcome (Option Device) :=
  createVxlan env vxlanLocalName6 clusterNode.ip6 (·.localCIDRs.ip6) c clusterNode cluster

def onNode (env : Env) (c : Context) (node : ClusterNode) : Outcome Context := do
  let cluster := c.filter.getClusterByName node.clusterName
  let c ← addVxlan (needToCreateVxLocal c node cluster) (createVxLocal env c node cluster)
    node.name c
  addVxlan (needToCreateVxLocal6 c node cluster) (createVxLocal6 env c node cluster) node.name c

end VxLocalNetwork

def vxLocalNetwork (env : Env) : Handler := fun c =>
  c.filter.getGatewayClusterNodes.foldlM (VxLocalNetwork.onNode env) c

namespace VxBridgeNetwork

def needToCreateVxBridge (c : Context) (clusterNode : ClusterNode) (cluster : Option Cluster) :
    Outcome Bool :=
  needToCreateVxlan (c.filter.supportIPv4 clusterNode) clusterNode.ip (·.bridgeCIDRs.ip) cluster

def needToCreateVxBridge6 (c : Context) (clusterNode : ClusterNode) (cluster : Option Cluster) :
    Outcome Bool :=
  needToCreateVxlan (c.filter.supportIPv6 clusterNode) clusterNode.ip6 (·.bridgeCIDRs.ip6) cluster

def createVxBridge (env : Env) (c : Context) (clusterNode : ClusterNode)
    (cluster : Option Cluster) : Outcome (Option Device) :=
  createVxlan env vxlanBridgeName clusterNode.ip (·.bridgeCIDRs.ip) c clusterNode cluster

def createVxBridge6 (env : Env) (c : Context) (clusterNode : ClusterNode)
    (cluster : Option Cluster) : Outcome (Option Device) :=
  createVxlan env vxlanBridgeName6 clusterNode.ip6 (·.bridgeCIDRs.ip6) c clusterNode cluster

def onNode (env : Env) (c : Context) (node : ClusterNode) : Outcome Context := do
  let cluster := c.filter.getClusterByName node.clusterName
  let c ← addVxlan (needToCreateVxBridge c node cluster) (createVxBridge env c node cluster)
    node.name c
  addVxlan (needToCreateVxBridge6 c node cluster) (createVxBridge6 env c node cluster) node.name c

end VxBridgeNetwork

def gatewayAndEndpointNodes (f : Filter) : Outcome (List ClusterNode) := do
  let gwNodes := f.getGatewayNodes
  let epNodes ← f.getEndpointNodes
  pure (gwNodes ++ epNodes)

def vxBridgeNetwork (env : Env) : Handler := fun c => do
  let nodes ← gatewayAndEndpointNodes c.filter
  nodes.foldlM (VxBridgeNetwork.onNode env) c

def convertIPFamilyTypeToIPType (familyType : String) : IPType :=
  if familyType = ipFamilyTypeIPV4 then .ipv4 else .ipv6

def filterByIPFamily (cidrs : List String) (familyType : String) : List String :=
  if familyType = ipFamilyTypeALL then cidrs
  else cidrs.filter fun cidr => getIPType cidr = convertIPFamilyTypeToIPType familyType

def convertToGlobalCIDRs (cidrs : List String) (globalCIDRMap : GoMap String String) :
    List String :=
  if globalCIDRMap.entries.length = 0 then cidrs
  else cidrs.map fun cidr => (globalCIDRMap.get? cidr).getD cidr

def ifCIDRConflictWithSelf (selfCIDRs : List String) (tarCIDR : String) : Bool :=
  selfCIDRs.any fun cidr => intersect cidr tarCIDR

def supportIPType (cluster : Cluster) (ipType : IPType) : Outcome Bool := do
  let options ← deref cluster.clusterLinkOptions
  if options.ipFamily = ipFamilyTypeALL then pure true
  else pure (convertIPFamilyTypeToIPType options.ipFamily == ipType)

def vxBridgeOf : IPType → String
  | .ipv6 => vxlanBridgeName6
  | .ipv4 => vxlanBridgeName
  | .unknown => ""

def vxLocalOf : IPType → String
  | .ipv6 => vxlanLocalName6
  | .ipv4 => vxlanLocalName
  | .unknown => ""

def devIP (dev : Device) : Option String :=
  match parseCIDR true dev.addr with
  | .ok (ip, _) => some (ipText ip)
  | .error _ => none

def buildRouteOn (ipType : IPType) (cidr targetIP : String) (ctx : Context) (n : ClusterNode) :
    Outcome Context := do
  let srcCluster ← deref (ctx.filter.getClusterByName n.clusterName)
  let supported ← supportIPType srcCluster ipType
  if !supported then pure ctx
  else if ifCIDRConflictWithSelf (srcCluster.podCIDRs ++ srcCluster.serviceCIDRs) cidr then
    pure ctx
  else if n.isGateway || srcCluster.isP2P then
    ctx.appendRoutes n.name [{ cidr := cidr, gw := targetIP, dev := vxBridgeOf ipType }]
  else
    match ctx.filter.getGatewayNodeByClusterName n.clusterName with
    | none => pure ctx
    | some gw =>
      match ctx.getDeviceFromResults gw.name (vxLocalOf ipType) with
      | none => pure ctx
      | some gwDev =>
        match devIP gwDev with
        | none => pure ctx
        | some gwIP =>
          ctx.appendRoutes n.name [{ cidr := cidr, gw := gwIP, dev := vxLocalOf ipType }]

def buildRoutesTo (target : ClusterNode) (otherClusterNodes : List ClusterNode) (ctx : Context)
    (cidr : String) : Outcome Context :=
  let ipType := getIPType cidr
  match ctx.getDeviceFromResults target.name (vxBridgeOf ipType) with
  | none => pure ctx
  | some targetDev =>
    match devIP targetDev with
    | none => pure ctx
    | some targetIP => otherClusterNodes.foldlM (buildRouteOn ipType cidr targetIP) ctx

def buildRoutes (ctx : Context) (target : ClusterNode) (cidrs : List String) : Outcome Context :=
  let otherClusterNodes := ctx.filter.getAllNodesExceptCluster target.clusterName
  cidrs.foldlM (buildRoutesTo target otherClusterNodes) ctx

def routesToTarget (source : Cluster → ClusterNode → List String) (c : Context)
    (target : ClusterNode) : Outcome Context := do
  let cluster ← deref (c.filter.getClusterByName target.clusterName)
  let options ← deref cluster.clusterLinkOptions
  let cidrs := filterByIPFamily (source cluster target) options.ipFamily
  let cidrs := convertToGlobalCIDRs cidrs options.globalCIDRsMap
  buildRoutes c target cidrs

def serviceSource (cluster : Cluster) (_ : ClusterNode) : List String := cluster.serviceCIDRs

def podSource (cluster : Cluster) (target : ClusterNode) : List String :=
  if cluster.isP2P then target.podCIDRs else cluster.podCIDRs

def serviceRoutes : Handler := fun c =>
  c.filter.getGatewayNodes.foldlM (routesToTarget serviceSource) c

def podRoutes : Handler := fun c => do
  let nodes ← gatewayAndEndpointNodes c.filter
  nodes.foldlM (routesToTarget podSource) c

def Family.underlayIP : Family → ClusterNode → String
  | .v4, n => n.ip
  | .v6, n => n.ip6

def Family.vxLocal : Family → String
  | .v4 => vxlanLocalName
  | .v6 => vxlanLocalName6

def Family.vxBridge : Family → String
  | .v4 => vxlanBridgeName
  | .v6 => vxlanBridgeName6

def families (v4 v6 : Bool) : List Family :=
  (if v4 then [.v4] else []) ++ (if v6 then [.v6] else [])

namespace VxLocalMacCache

def getSupportIPTypes (node : ClusterNode) (c : Context) : Outcome (List Family) := do
  let supportIPv4 ← c.filter.supportIPv4 node
  let supportIPv6 ← c.filter.supportIPv6 node
  pure (families supportIPv4 supportIPv6)

def buildVxLocalCachesByNode (c : Context) (ipType : Family) (node : ClusterNode) :
    Except String (List Fdb × List Arp) :=
  let devName := ipType.vxLocal
  let hostIP := ipType.underlayIP node
  match c.getDeviceFromResults node.name devName with
  | none => .error ("device not found devName: " ++ devName ++ ", nodeName: " ++ node.name)
  | some dev =>
    let fdb : List Fdb :=
      [{ ip := hostIP, mac := allZeroMac, dev := devName },
       { ip := hostIP, mac := dev.mac, dev := devName }]
    match devIP dev with
    | none =>
      .error ("cannot parse dev addr, nodeName: " ++ node.name ++ ", devName: " ++ dev.name)
    | some ip => .ok (fdb, [{ ip := ip, mac := dev.mac, dev := devName }])

def cacheGateway (node gw : ClusterNode) (c : Context) (ipType : Family) : Outcome Context :=
  match buildVxLocalCachesByNode c ipType gw with
  | .error _ => pure c
  | .ok (fdb, arp) => do
    let c ← c.appendFdbs node.name fdb
    c.appendArps node.name arp

def onInternal (c : Context) (node : ClusterNode) : Outcome Context := do
  let ipTypes ← getSupportIPTypes node c
  match c.filter.getGatewayNodeByClusterName node.clusterName with
  | none => pure c
  | some gw => ipTypes.foldlM (cacheGateway node gw) c

def onGateway (c : Context) (src : ClusterNode) : Outcome Context := do
  let ipTypes ← getSupportIPTypes src c
  let internalNodes ← c.filter.getInternalNodesByClusterName src.clusterName
  let built := internalNodes.flatMap fun tar =>
    ipTypes.filterMap fun ipType => (buildVxLocalCachesByNode c ipType tar).toOption
  let c ← c.appendFdbs src.name (built.flatMap Prod.fst)
  c.appendArps src.name (built.flatMap Prod.snd)

end VxLocalMacCache

def vxLocalMacCache : Handler := fun c => do
  let nodes ← c.filter.getInternalNodes
  let c ← nodes.foldlM VxLocalMacCache.onInternal c
  c.filter.getGatewayNodes.foldlM VxLocalMacCache.onGateway c

namespace VxBridgeMacCache

def buildCaches (c : Context) (tar : ClusterNode) (ipType : Family) : List Fdb × List Arp :=
  let tarDevName := ipType.vxBridge
  let tarIP := ipType.underlayIP tar
  match c.getDeviceFromResults tar.name tarDevName with
  | none => ([], [])
  | some tarDev =>
    let fdbs : List Fdb :=
      [{ ip := tarIP, mac := allZeroMac, dev := tarDevName },
       { ip := tarIP, mac := tarDev.mac, dev := tarDevName }]
    match devIP tarDev with
    | none => (fdbs, [])
    | some tarDevIP => (fdbs, [{ ip := tarDevIP, mac := tarDev.mac, dev := tarDevName }])

def onTarget (c : Context) (src : ClusterNode) (sIPv4 sIPv6 : Bool)
    (acc : List Fdb × List Arp) (tar : ClusterNode) : Outcome (List Fdb × List Arp) :=
  if src.name = tar.name then pure acc
  else do
    let tIPv4 ← c.filter.supportIPv4 tar
    let tIPv6 ← c.filter.supportIPv6 tar
    let ipTypes := families (sIPv4 && tIPv4) (sIPv6 && tIPv6)
    pure (acc.1 ++ ipTypes.flatMap fun t => (buildCaches c tar t).1,
      acc.2 ++ ipTypes.flatMap fun t => (buildCaches c tar t).2)

def onSource (nodes : List ClusterNode) (c : Context) (src : ClusterNode) : Outcome Context := do
  let sIPv4 ← c.filter.supportIPv4 src
  let sIPv6 ← c.filter.supportIPv6 src
  let (fdbs, arps) ← nodes.foldlM (onTarget c src sIPv4 sIPv6) ([], [])
  let c ← c.appendFdbs src.name fdbs
  c.appendArps src.name arps

end VxBridgeMacCache

def vxBridgeMacCache : Handler := fun c => do
  let nodes ← gatewayAndEndpointNodes c.filter
  nodes.foldlM (VxBridgeMacCache.onSource nodes) c

def natRule (chain rule : String) : Iptables := { table := "nat", chain := chain, rule := rule }

def masquerade (localCIDR bridgeCIDR vxBridge : String) : List Iptables :=
  [natRule ipTablesPostRoutingChain ("-s " ++ localCIDR ++ " -o " ++ vxBridge ++ " -j MASQUERADE"),
   natRule ipTablesPostRoutingChain ("-s " ++ bridgeCIDR ++ " -j MASQUERADE")]

def HostNetwork.onGateway (c : Context) (n : ClusterNode) : Outcome Context := do
  let cluster ← deref (c.filter.getClusterByName n.clusterName)
  if cluster.isP2P then pure c
  else do
    let v4 ← c.filter.supportIPv4 n
    let options ← deref cluster.clusterLinkOptions
    let c ←
      if v4 then
        c.appendIptables n.name
          (masquerade options.localCIDRs.ip options.bridgeCIDRs.ip vxlanBridgeName)
      else pure c
    let v6 ← c.filter.supportIPv6 n
    if v6 then
      c.appendIptables n.name
        (masquerade options.localCIDRs.ip6 options.bridgeCIDRs.ip6 vxlanBridgeName6)
    else pure c

def hostNetwork : Handler := fun c =>
  c.filter.getGatewayNodes.foldlM HostNetwork.onGateway c

def netmapRules (entry : String × String) : List Iptables :=
  let src := entry.1
  let dst := entry.2
  let vxBridge := vxBridgeOf (getIPType src)
  natRule ipTablesPreRoutingChain ("-d " ++ dst ++ " -i " ++ vxBridge ++ " -j NETMAP --to " ++ src)
    :: match parseCIDR true dst with
      | .error _ => []
      | .ok (_, dstIP) =>
        [natRule ipTablesPostRoutingChain
          ("-s " ++ src ++ " -o " ++ vxBridge ++ " -j SNAT --to-source " ++ ipText dstIP.ip)]

def GlobalMap.onNode (env : Env) (c : Context) (ni : ClusterNode × Nat) : Outcome Context := do
  let cluster ← deref (c.filter.getClusterByName ni.1.clusterName)
  let options ← deref cluster.clusterLinkOptions
  (env.order ni.2 options.globalCIDRsMap.entries).foldlM
    (fun c entry => c.appendIptables ni.1.name (netmapRules entry)) c

def globalMap (env : Env) : Handler := fun c => do
  let nodes ← gatewayAndEndpointNodes c.filter
  nodes.zipIdx.foldlM (GlobalMap.onNode env) c

def handlers (env : Env) : List Handler :=
  [initNodes, vxLocalNetwork env, vxBridgeNetwork env, serviceRoutes, podRoutes, vxLocalMacCache,
    vxBridgeMacCache, hostNetwork, globalMap env]

def run : List Handler → Handler
  | [], c => pure c
  | h :: hs, c => do
    let c ← h c
    run hs c

def sortConfigs (results : String → Option NodeConfig) : String → Option NodeConfig :=
  fun name => (results name).map NodeConfig.sort

def calculateNetworkConfigs (env : Env) (clusters : List Cluster)
    (clusterNodes : List ClusterNode) (nodeConfigs : List Api.NodeConfig) :
    Outcome (String → Option NodeConfig) := do
  let (cs, cns) ← excludeInvalidItems clusters clusterNodes
  let c : Context := ⟨newFilter cs cns nodeConfigs, fun _ => none⟩
  match run (handlers env) c with
  | .error (.err e) => .error (.err ("filed to calculate network config, err: " ++ e))
  | .error (.panic p) => .error (.panic p)
  | .ok c => pure (sortConfigs c.results)

def sampleEnv : Env where
  rand := fun _ _ _ => some #v[2, 0, 0, 0, 0, 1]
  order := fun _ l => l
  order_perm := fun _ _ => List.Perm.refl _

def sampleOptions : ClusterLinkOptions where
  enable := true
  networkType := networkTypeGateWay
  ipFamily := ipFamilyTypeIPV4
  localCIDRs := { ip := "210.0.0.0/8", ip6 := "" }
  bridgeCIDRs := { ip := "220.0.0.0/8", ip6 := "" }
  globalCIDRsMap := GoMap.empty

def sampleC1 : Cluster where
  name := "c1"
  clusterLinkOptions := some sampleOptions
  podCIDRs := ["10.1.0.0/16"]
  serviceCIDRs := ["10.101.0.0/16"]

def sampleC2 : Cluster where
  name := "c2"
  clusterLinkOptions := some { sampleOptions with networkType := networkTypeP2P }
  podCIDRs := ["10.2.0.0/16"]
  serviceCIDRs := []

def sampleGateway : ClusterNode where
  name := "c1-gw"
  clusterName := "c1"
  nodeName := "gw"
  podCIDRs := []
  ip := "192.168.1.1"
  ip6 := ""
  roles := ["gateway"]
  interfaceName := "eth0"

def sampleInternal : ClusterNode :=
  { sampleGateway with name := "c1-in", nodeName := "in", ip := "192.168.1.2", roles := [] }

def sampleEndpoint : ClusterNode where
  name := "c2-n"
  clusterName := "c2"
  nodeName := "n"
  podCIDRs := ["10.2.1.0/24"]
  ip := "192.168.2.1"
  ip6 := ""
  roles := []
  interfaceName := "eth0"

def sampleClusters : List Cluster := [sampleC1, sampleC2]

def sampleNodes : List ClusterNode := [sampleGateway, sampleInternal, sampleEndpoint]

end Kosmos.Manager
