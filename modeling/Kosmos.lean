import Kosmos.Manager.Trigger
import Kosmos.Manager.Overlay
import Kosmos.Manager.Controller
import Kosmos.Agent.Reconcile
import Kosmos.Agent.AutoDetect
import Kosmos.Controllers.Elector
import Kosmos.Controllers.NodeCIDR
import Kosmos.Controllers.PoolName
import Kosmos.Controllers.SyncIPPool
import Kosmos.Pods.Schedule
import Kosmos.Pods.Deletion
import Kosmos.Pods.Placement
import Kosmos.Pods.Convert
import Kosmos.Pods.Environment
import Kosmos.Tree.OnewayPV
import Kosmos.Tree.ClusterController
import Kosmos.Tree.LeafPVPanics
import Kosmos.Tree.PVAffinity
import Kosmos.Tree.HostDaemon
import Kosmos.Scheduler.Selectors
import Kosmos.Mcs.Families
import Kosmos.Mcs.Lifecycle
import Kosmos.Proxy.Controller
import Kosmos.Floater.Analysis
import Kosmos.Floater.NetMap
import Kosmos.Pods.Workers
import Kosmos.Scheduler.VolumeMatching
import Kosmos.Tree.ConditionCache
import Kosmos.Tree.Mirror
import Kosmos.Tree.Snapshot
