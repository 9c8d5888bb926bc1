import Kosmos.Go.Prog
import Kosmos.Go.Store
import Kosmos.Pods.Fit
import Kosmos.Tree.LeafModel
import Kosmos.Tree.Registries

/-!
# The pod controllers: `RootPodReconciler` and `LeafPodReconciler`

The first brings pods to the leaves, the second their status back.

`PopulateEnvironmentVariables`, `mutatePod`, `createVolumes` and `projectedHandler` are calls:
`mutatePod` changes annotations and spec, the last the spec. A call that creates a leaf pod says for
which root pod.
-/

namespace Kosmos.Pods

open Kosmos.Go Kosmos.Tree

structure NamespacedName where
  ns : String
  name : String
  deriving DecidableEq

def Pod.key (pod : Pod) : NamespacedName := ⟨pod.ns, pod.name⟩

inductive PodOp where
  | getRootPod (nn : NamespacedName)
  | deleteRootPod (nn : NamespacedName) (gracePeriodSeconds : Option Int)
  | updateRootStatus (pod : Pod)
  | getRootNode (nodeName : String)
  | listNodes
  | hasNode (nodeName : String)
  | getLeafResourceByNodeName (nodeName : String)
  | getClusterNode (nodeName : String)
  | leafClientResource (lr : LeafResource)
  | populateEnvironmentVariables (pod : Pod)
  | mutatePod (pod : Pod) (nodeName : String)
  | createVolumes (lr : LeafResource) (pod : Pod) (clusterNodeInfo : ClusterNode)
  | projectedHandler (lr : LeafResource) (pod : Pod)
  | getNamespace (lcr : LeafClientResource) (ns : String)
  | createNamespace (lcr : LeafClientResource) (ns : String)
  | getLeafPod (lcr : LeafClientResource) (nn : NamespacedName)
  | createLeafPod (lcr : LeafClientResource) (pod : Pod) (root : Nat)
  | updateLeafPod (lcr : LeafClientResource) (pod : Pod)
  | deleteLeafPod (lcr : LeafClientResource) (nn : NamespacedName)
      (gracePeriodSeconds : Option Int)
  | visitLabels
  | now

abbrev PodOp.Res : PodOp → Type
  | .getRootPod _ => Except ApiError Pod
  | .deleteRootPod _ _ => Except ApiError Unit
  | .updateRootStatus _ => Except ApiError Unit
  | .getRootNode _ => Except ApiError (Option Labels)
  | .listNodes => List String
  | .hasNode _ => Outcome Bool
  | .getLeafResourceByNodeName _ => Outcome LeafResource
  | .getClusterNode _ => Outcome (Option ClusterNode)
  | .leafClientResource _ => Outcome LeafClientResource
  | .populateEnvironmentVariables _ => Except String Unit
  | .mutatePod _ _ => Option Labels × PodSpec
  | .createVolumes _ _ _ => Except String Unit
  | .projectedHandler _ _ => PodSpec
  | .getNamespace _ _ => Except ApiError Unit
  | .createNamespace _ _ => Except ApiError Unit
  | .getLeafPod _ _ => Except ApiError Pod
  | .createLeafPod _ _ _ => Except ApiError Unit
  | .updateLeafPod _ _ => Except ApiError Unit
  | .deleteLeafPod _ _ _ => Except ApiError Unit
  | .visitLabels => LabelOrder
  | .now => Nat

abbrev PodProg (α : Type) := Prog PodOp.Res α

abbrev ask (op : PodOp) : PodProg op.Res := Prog.ask op

structure PodResult where
  requeueAfter : Nat := 0
  deriving DecidableEq

def defaultRequeueTime : Nat := 10

def PodResult.again : PodResult := { requeueAfter := defaultRequeueTime }

def wrapped (text : String) : Except ApiError Unit → Except String Unit
  | .ok () => .ok ()
  | .error .notFound => .error (text ++ "not found")
  | .error .alreadyExists => .error (text ++ "already exists")
  | .error (.other msg) => .error (text ++ msg)

def errText : Stop → String
  | .err msg => msg
  | .panic _ => ""

def deleteGraceTimeEqual (old new : Option Int) : Bool := old = new

def isEqual (pod1 pod2 : Pod) : Bool :=
  decide (pod1.spec.containers = pod2.spec.containers) &&
    decide (pod1.spec.initContainers = pod2.spec.initContainers) &&
    decide (pod1.spec.activeDeadlineSeconds = pod2.spec.activeDeadlineSeconds) &&
    decide (pod1.spec.tolerations = pod2.spec.tolerations) &&
    mapEqual pod1.labels pod2.labels && mapEqual pod1.annotations pod2.annotations

def shouldEnqueue (oldPod newPod : Pod) : Bool :=
  !isEqual oldPod newPod ||
    !deleteGraceTimeEqual oldPod.deletionGracePeriodSeconds newPod.deletionGracePeriodSeconds ||
    decide (oldPod.deletionTimestamp ≠ newPod.deletionTimestamp)

def newRootDeleteOption : Option Int := some 0

def newLeafDeleteOption (current : Nat) (pod : Pod) : Option Int :=
  if pod.deletionTimestamp.any (· < current) then some 0
  else
    match pod.deletionGracePeriodSeconds, pod.spec.terminationGracePeriodSeconds with
    | some deletion, some termination => some (deletion + termination)
    | some deletion, none => some deletion
    | none, termination => termination

def deletePodInRootCluster (nn : NamespacedName) : PodProg (Except String Unit) := do
  match ← ask (.getRootPod nn) with
  | .error .notFound => pure (.ok ())
  | .error err => pure (wrapped "" (.error err))
  | .ok rPod =>
    match ← ask (.deleteRootPod rPod.key newRootDeleteOption) with
    | .error .notFound => pure (.ok ())
    | res => pure (wrapped "" res)

def cleanRootPod (nn : NamespacedName) (cleanflag : Bool) : PodProg (Except String Unit) :=
  if cleanflag then deletePodInRootCluster nn else pure (.ok ())

def deletePodInLeafCluster (lr : LeafResource) (nn : NamespacedName) (cleanflag : Bool) :
    PodProg (Except String Unit) := do
  match ← ask (.leafClientResource lr) with
  | .error err => pure (.error ("could not get leaf client resource: " ++ errText err))
  | .ok lcr =>
    match ← ask (.getLeafPod lcr nn) with
    | .error .notFound => cleanRootPod nn cleanflag
    | .error err => pure (wrapped "" (.error err))
    | .ok leafPod =>
      if ¬ isKosmosPod leafPod then pure (.ok ())
      else do
        let current ← ask .now
        match ← ask (.deleteLeafPod lcr leafPod.key (newLeafDeleteOption current leafPod)) with
        | .error .notFound => cleanRootPod nn cleanflag
        | res => pure (wrapped "could not delete pod: " res)

def createNs (lcr : LeafClientResource) (ns : String) : PodProg (Except String Unit) := do
  match ← ask (.getNamespace lcr ns) with
  | .ok () => pure (.ok ())
  | .error .notFound =>
    match ← ask (.createNamespace lcr ns) with
    | .ok () => pure (.ok ())
    | .error .alreadyExists => pure (.ok ())
    | .error _ => pure (wrapped "" (.error .notFound))
  | .error err => pure (wrapped "" (.error err))

def clusterNodeNil (nodeName : String) : Except String Unit :=
  .error ("clusternode info is nil , name: " ++ nodeName)

section Leaf

variable (json : Json)

def placePod (lr : LeafResource) (basicPod : Pod) (clusterNodeInfo : ClusterNode) (root : Nat) :
    PodProg (Except String Unit) := do
  match ← ask (.leafClientResource lr) with
  | .error err => pure (.error (errText err))
  | .ok lcr =>
    match ← createNs lcr basicPod.ns with
    | .error err => pure (.error err)
    | .ok () =>
      match ← ask (.createVolumes lr basicPod clusterNodeInfo) with
      | .error err => pure (.error err)
      | .ok () => do
        let spec ← ask (.projectedHandler lr basicPod)
        let res ← ask (.createLeafPod lcr { basicPod with spec } root)
        pure (wrapped "could not create pod: " res)

def createPodInLeafCluster (lr : LeafResource) (pod : Pod) (nodeSelector : NodeSelector) :
    PodProg (Except String Unit) := do
  match ← ask (.populateEnvironmentVariables pod) with
  | .error err => pure (.error err)
  | .ok () =>
    match ← Prog.ofOutcome (← ask (.getClusterNode pod.spec.nodeName)) with
    | none => pure (clusterNodeNil pod.spec.nodeName)
    | some clusterNodeInfo => do
      let order ← ask .visitLabels
      let basicPod ← Prog.ofOutcome
        (fitPod json order pod setupIgnoreLabels clusterNodeInfo.leafMode nodeSelector)
      let (annotations, spec) ← ask (.mutatePod basicPod pod.spec.nodeName)
      placePod lr { basicPod with annotations, spec } clusterNodeInfo pod.uid

def sendUpdate (lr : LeafResource) : Option Pod → PodProg (Except String Unit)
  | none => pure (.ok ())
  | some podCopy => do
    let spec ← ask (.projectedHandler lr podCopy)
    match ← ask (.leafClientResource lr) with
    | .error err => pure (.error ("could not get leaf client resource: " ++ errText err))
    | .ok lcr => do
      let res ← ask (.updateLeafPod lcr { podCopy with spec })
      pure (wrapped "could not update pod: " res)

def updatePodInLeafCluster (lr : LeafResource) (rootPod leafPod : Pod)
    (nodeSelector : NodeSelector) : PodProg (Except String Unit) :=
  if ¬ isKosmosPod leafPod then pure (.ok ())
  else do
    match ← Prog.ofOutcome (← ask (.getClusterNode rootPod.spec.nodeName)) with
    | none => pure (clusterNodeNil rootPod.spec.nodeName)
    | some clusterNodeInfo => do
      let order ← ask .visitLabels
      let podCopy ← Prog.ofOutcome (podToUpdate json order rootPod leafPod setupIgnoreLabels
        clusterNodeInfo.leafMode nodeSelector)
      sendUpdate lr podCopy

namespace RootPodReconciler

def orAgain (res : Except String Unit) : PodResult :=
  match res with
  | .error _ => .again
  | .ok () => {}

def deleteInLeaves (nn : NamespacedName) : List String → PodProg PodResult
  | [] => pure {}
  | nodeName :: nodeNames => do
    match ← ask (.getLeafResourceByNodeName nodeName) with
    | .error _ => pure .again
    | .ok lr =>
      match ← deletePodInLeafCluster lr nn false with
      | .error _ => pure .again
      | .ok () => deleteInLeaves nn nodeNames

def nodeFilter (nodeName : String) : PodProg (Option PodResult) :=
  if hasPrefix nodeName kosmosNodePrefix then pure none
  else do
    match ← ask (.getRootNode nodeName) with
    | .error _ => pure (some .again)
    | .ok annotations =>
      if valueOf annotations kosmosNodeOwnedByClusterAnnotations = "" then pure (some {})
      else pure none

def leafNodeSelector (nodeName : String) : PodProg NodeSelector := do
  let clusterNode ← Prog.ofOutcome (← ask (.getClusterNode nodeName))
  let clusterNode ← Prog.ofOutcome (deref clusterNode)
  pure clusterNode.leafNodeSelector

def createLeafPod (lr : LeafResource) (rootpod : Pod) : PodProg PodResult := do
  let nodeSelector ← leafNodeSelector rootpod.spec.nodeName
  let res ← createPodInLeafCluster json lr rootpod nodeSelector
  pure (orAgain res)

def updateLeafPod (lr : LeafResource) (rootpod leafPod : Pod) : PodProg PodResult := do
  let nodeSelector ← leafNodeSelector rootpod.spec.nodeName
  let res ← updatePodInLeafCluster json lr rootpod leafPod nodeSelector
  pure (orAgain res)

def syncPod (nn : NamespacedName) (lr : LeafResource) (rootpod : Pod) : PodProg PodResult := do
  match ← ask (.leafClientResource lr) with
  | .error _ => pure .again
  | .ok lcr =>
    match ← ask (.getLeafPod lcr nn) with
    | .error .notFound => createLeafPod json lr rootpod
    | .error _ => pure .again
    | .ok leafPod =>
      if shouldEnqueue leafPod rootpod then updateLeafPod json lr rootpod leafPod else pure {}

def reconcilePod (nn : NamespacedName) (rootpod : Pod) : PodProg PodResult := do
  if ← Prog.ofOutcome (← ask (.hasNode rootpod.spec.nodeName)) then
    match ← ask (.getLeafResourceByNodeName rootpod.spec.nodeName) with
    | .error _ => pure .again
    | .ok lr =>
      if rootpod.deletionTimestamp.isSome then do
        let res ← deletePodInLeafCluster lr nn true
        pure (orAgain res)
      else syncPod json nn lr rootpod
  else pure .again

def reconcile (nn : NamespacedName) : PodProg PodResult := do
  match ← ask (.getRootPod nn) with
  | .error .notFound => do
    let nodeNames ← ask .listNodes
    deleteInLeaves nn nodeNames
  | .error _ => pure .again
  | .ok rootpod =>
    match ← nodeFilter rootpod.spec.nodeName with
    | some result => pure result
    | none => reconcilePod json nn rootpod

end RootPodReconciler

end Leaf

def LeafPodReconciler.reconcile (leaf : String) (nn : NamespacedName) : PodProg PodResult := do
  match ← ask (.getLeafPod ⟨leaf⟩ nn) with
  | .error .notFound =>
    match ← deletePodInRootCluster nn with
    | .error _ => pure .again
    | .ok () => pure {}
  | .error _ => pure .again
  | .ok pod =>
    if isKosmosPod pod then do
      match ← ask (.updateRootStatus
          { pod with uid := 0, resourceVersion := "0", ownerReferences := [] }) with
      | .ok () => pure {}
      | .error .notFound => pure {}
      | .error _ => pure .again
    else pure {}

section Sent

variable {json : Json} {o : LabelOrder} {leafMode : LeafMode} {nodeSelector : NodeSelector}
  {pod rootPod leafPod : Pod}

theorem valueOf_fitLabels (pod : Pod) :
    valueOf (some (fitLabels (fullLabels pod) setupIgnoreLabels).1) kosmosPodLabel = "true" := by
  have hfull : (fullLabels pod).get? kosmosPodLabel = some "true" := GoMap.get?_set_self _ _ _
  show ((fitLabel (fullLabels pod, .empty) "").1.get? kosmosPodLabel).getD "" = "true"
  simp only [fitLabel]
  split
  · rw [hfull]
    rfl
  · rw [GoMap.get?_delete, if_neg (by decide), hfull]
    rfl

theorem fitPod_sent (h : fitPod json o pod setupIgnoreLabels leafMode nodeSelector = .ok leafPod) :
    isKosmosPod leafPod = true ∧ leafPod.key = pod.key := by
  obtain ⟨affinity, -, h⟩ := bind_eq_ok h
  cases h
  exact ⟨decide_eq_true (valueOf_fitLabels pod), rfl⟩

theorem podToUpdate_sent {podCopy : Pod}
    (h : podToUpdate json o rootPod leafPod setupIgnoreLabels leafMode nodeSelector =
      .ok (some podCopy)) :
    isKosmosPod podCopy = true ∧ podCopy.key = leafPod.key ∧ podCopy.uid = leafPod.uid := by
  unfold podToUpdate at h
  split at h
  · cases h
  · obtain ⟨updated, hupdated, h⟩ := bind_eq_ok h
    obtain ⟨_, -, hupdated⟩ := bind_eq_ok hupdated
    obtain ⟨_, -, hupdated⟩ := bind_eq_ok hupdated
    obtain ⟨_, -, hupdated⟩ := bind_eq_ok hupdated
    have hsent : isKosmosPod updated = true ∧ updated.key = leafPod.key ∧
        updated.uid = leafPod.uid := by
      cases hupdated
      exact ⟨decide_eq_true (valueOf_fitLabels rootPod), rfl, rfl⟩
    split at h
    · cases h
    · cases h
      exact hsent

end Sent

end Kosmos.Pods
