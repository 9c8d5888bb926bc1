import Kosmos.Go.MergePatch
import Kosmos.Scheduler.VolumeBinding

/-!
# Annotations of synced resources

`pkg/utils/k8s.go`: a copy has the global annotation, and an object names its owners in another.
-/

namespace Kosmos.Resources

open Go

abbrev Annotations := Option (GoMap String String)

def kosmosGlobalLabel : String := "kosmos.io/global"

def kosmosResourceOwnersAnnotations : String := "kosmos-io/cluster-owners"

def isGlobal (annotations : Annotations) : Bool :=
  readMap annotations kosmosGlobalLabel = some "true"

def isObjectGlobal (annotations : Annotations) : Bool := isGlobal annotations

def isObjectUnstructuredGlobal (annotations : Annotations) : Bool := isGlobal annotations

def owners (annotations : Annotations) : Option String :=
  readMap annotations kosmosResourceOwnersAnnotations

def hasResourceClusters (annotations : Annotations) (clusterName : String) : Bool :=
  VolumeBinding.hasResourceClusters (owners annotations) clusterName

def listResourceClusters (annotations : Annotations) : List String :=
  if (owners annotations).getD "" = "" then [] else split ((owners annotations).getD "") ','

structure ClusterName where
  val : String
  ne : val ≠ ""
  plain : ',' ∉ val.toList

def addResourceClusters (annotations : Annotations) (clusterName : String) : Annotations :=
  annotations.map fun m =>
    m.set kosmosResourceOwnersAnnotations
      (VolumeBinding.addResourceClusters (m.get? kosmosResourceOwnersAnnotations) clusterName)

theorem hasResourceClusters_iff {annotations : Annotations} {c : ClusterName} :
    hasResourceClusters annotations c.val = true ↔ c.val ∈ listResourceClusters annotations := by
  have hempty : split "" ',' = [""] := by decide
  unfold hasResourceClusters listResourceClusters VolumeBinding.hasResourceClusters
  by_cases hnone : (owners annotations).getD "" = ""
  · simp [hnone, hempty, c.ne.symm]
  · simp [hnone]

theorem hasResourceClusters_add_nil (clusterName : String) (c : ClusterName) :
    hasResourceClusters (addResourceClusters none clusterName) c.val = false := by
  have hempty : split "" ',' = [""] := by decide
  simp [hasResourceClusters, addResourceClusters, owners, readMap,
    VolumeBinding.hasResourceClusters, hempty, c.ne.symm]

theorem hasResourceClusters_add_some (m : GoMap String String) (n c : ClusterName) :
    hasResourceClusters (addResourceClusters (some m) n.val) c.val = true ↔
      hasResourceClusters (some m) c.val = true ∨ c.val = n.val := by
  simp only [hasResourceClusters, addResourceClusters, owners, readMap, Option.map_some,
    Option.bind_some, GoMap.get?_set_self]
  exact VolumeBinding.hasResourceClusters_add ⟨n.ne, n.plain⟩ c.ne

end Kosmos.Resources
