import Kosmos.Api.Types
import Kosmos.Tree.LeafResource

/-!
# Leaf models: `NewLeafModelHandler` and `CreateRootNode`

A cluster is shown as one node, as some of its own, or as one for each selector.

Names are ASCII, so the cut to 63 bytes is one to 63 characters; `Get` refuses the empty name.
-/

namespace Kosmos.Tree

open Kosmos.Go
open Kosmos.Api (kosmosNodeLabel)

structure Taint where
  key : String
  value : String
  effect : String
  deriving DecidableEq

structure RootNode where
  name : String
  labels : GoMap String String
  annotations : Option (GoMap String String)
  taints : List Taint
  operatingSystem : String
  architecture : String
  kubeletVersion : String := ""
  kubeletPort : Int := 0

def nodeMode : String := "leafNodeMode"

def kosmosNodeOwnedByClusterAnnotations : String := "kosmos-io/owned-by-cluster"

def defaultK8sOS : String := "linux"

def defaultK8sArch : String := "amd64"

def buildNodeTemplate (name : String) : RootNode where
  name := name
  labels :=
    { entries :=
        [(kosmosNodeLabel, "true"), ("kubernetes.io/role", "agent"),
         ("kubernetes.io/hostname", name), ("kubernetes.io/arch", defaultK8sArch),
         ("kubernetes.io/os", defaultK8sOS), ("beta.kubernetes.io/os", defaultK8sOS)]
      nodup := by simp [kosmosNodeLabel] }
  annotations := none
  taints := [⟨"kosmos.io/node", "true", "NoSchedule"⟩]
  operatingSystem := defaultK8sOS
  architecture := defaultK8sArch

def RootNode.ownedBy (n : RootNode) : Option String :=
  n.annotations.bind fun a => a.get? kosmosNodeOwnedByClusterAnnotations

structure RootCalls where
  get : String → Option String := fun _ => none
  create : String → Option String := fun _ => none

def getNode (calls : RootCalls) (root : List RootNode) (name : String) :
    Except String (Option RootNode) :=
  if name = "" then .error "resource name may not be empty"
  else
    match calls.get name with
    | some err => .error err
    | none => .ok (root.find? fun n => n.name = name)

def newRootNode (clusterName nodeName gitVersion : String) (listenPort : Int)
    (leafModel : LeafMode) : RootNode :=
  let nodeAnnotations : GoMap String String :=
    if leafModel = .all then GoMap.empty.set nodeMode "one2cluster" else GoMap.empty
  { buildNodeTemplate nodeName with
    annotations := some (nodeAnnotations.set kosmosNodeOwnedByClusterAnnotations clusterName)
    kubeletVersion := gitVersion
    kubeletPort := listenPort }

def createNode (calls : RootCalls) (clusterName nodeName gitVersion : String) (listenPort : Int)
    (leafModel : LeafMode) (root : List RootNode) : Except String RootNode × List RootNode :=
  match getNode calls root nodeName with
  | .error err => (.error err, root)
  -- whosever node it is
  | .ok (some nodeInRoot) => (.ok nodeInRoot, root)
  | .ok none =>
    match calls.create nodeName with
    | some err => (.error err, root)
    | none =>
      let nodeInRoot := newRootNode clusterName nodeName gitVersion listenPort leafModel
      (.ok nodeInRoot, root ++ [nodeInRoot])

structure ClassificationHandler where
  leafMode : LeafMode
  cluster : Cluster

def LeafModel.leafMode (m : LeafModel) : LeafMode :=
  if m.nodeSelector.labelSelector.isSome then .party
  else if m.nodeSelector.nodeName ≠ "" then .node
  else .all

def newLeafModelHandler (cluster : Cluster) : Outcome ClassificationHandler := do
  let options ← deref cluster.clusterTreeOptions
  match options.leafModels with
  | none => pure { leafMode := .all, cluster }
  | some leafModels => do
    let leafModel ← index leafModels 0
    if leafModel.nodeSelector ≠ {} then
      if leafModel.nodeSelector.labelSelector.isSome then pure { leafMode := .party, cluster }
      else if leafModel.nodeSelector.nodeName ≠ "" then pure { leafMode := .node, cluster }
      else pure { leafMode := .all, cluster }
    else pure { leafMode := .all, cluster }

def takeBytes : Nat → List Char → List Char
  | _, [] => []
  | n, c :: cs => if c.utf8Size ≤ n then c :: takeBytes (n - c.utf8Size) cs else []

def cutName (name : String) : String :=
  if name.utf8ByteSize > 63 then String.ofList (takeBytes 63 name.toList) else name

def rootNodeName (leafMode : LeafMode) (i : Nat) (leafModel : LeafModel) : String :=
  cutName (if leafMode = .node then leafModel.nodeSelector.nodeName
    else kosmosNodePrefix ++ leafModel.leafNodeName ++ "-" ++ toString i)

def markParty (leafMode : LeafMode) (nodeInRoot : RootNode) : Outcome RootNode :=
  if leafMode = .party then
    match nodeInRoot.annotations with
    -- a write to a nil map
    | none => .error (.panic .nilDeref)
    | some annotations =>
      .ok { nodeInRoot with annotations := some (annotations.set nodeMode "one2party") }
  else .ok nodeInRoot

namespace ClassificationHandler

def createRootNodes (h : ClassificationHandler) (calls : RootCalls) (listenPort : Int)
    (gitVersion : String) :
    Nat → List LeafModel → GoMap String NodeSelector → List RootNode →
      Outcome (List RootNode × GoMap String NodeSelector) × List RootNode
  | _, [], leafNodeSelectors, root => (.ok ([], leafNodeSelectors), root)
  | i, leafModel :: rest, leafNodeSelectors, root =>
    let nodeNameInRoot := rootNodeName h.leafMode i leafModel
    match createNode calls h.cluster.name nodeNameInRoot gitVersion listenPort h.leafMode root with
    | (.error err, root) => (.error (.err err), root)
    | (.ok nodeInRoot, root) =>
      match markParty h.leafMode nodeInRoot with
      | .error stop => (.error stop, root)
      | .ok nodeInRoot =>
        match h.createRootNodes calls listenPort gitVersion (i + 1) rest
            (leafNodeSelectors.set nodeNameInRoot leafModel.nodeSelector) root with
        | (.error stop, root) => (.error stop, root)
        | (.ok (nodes, leafNodeSelectors), root) =>
          (.ok (nodeInRoot :: nodes, leafNodeSelectors), root)

def createRootNode (h : ClassificationHandler) (calls : RootCalls) (listenPort : Int)
    (gitVersion : String) (root : List RootNode) :
    Outcome (List RootNode × GoMap String NodeSelector) × List RootNode :=
  if h.leafMode = .all then
    let nodeNameInRoot := kosmosNodePrefix ++ h.cluster.name
    match createNode calls h.cluster.name nodeNameInRoot gitVersion listenPort h.leafMode root with
    | (.error err, root) => (.error (.err err), root)
    | (.ok nodeInRoot, root) => (.ok ([nodeInRoot], GoMap.empty.set nodeNameInRoot {}), root)
  else
    match deref h.cluster.clusterTreeOptions with
    | .error stop => (.error stop, root)
    | .ok options =>
      h.createRootNodes calls listenPort gitVersion 0 options.leafModels.elems GoMap.empty root

end ClassificationHandler

def Cluster.leafModels (cluster : Cluster) : List LeafModel :=
  (cluster.clusterTreeOptions.bind ClusterTreeOptions.leafModels).getD []

/-- No panic, and the entry of each root node has the handler's mode and its own selector. -/
structure ModesAgree (calls : RootCalls) (listenPort : Int) (gitVersion : String)
    (cluster : Cluster) (root : List RootNode) (resourceMap : GoMap String LeafResource) :
    Prop where
  handled : ∃ h, newLeafModelHandler cluster = .ok h
  created : ∀ h, newLeafModelHandler cluster = .ok h →
    ∀ p, (h.createRootNode calls listenPort gitVersion root).1 ≠ .error (.panic p)
  registered : ∀ h nodes leafNodeSelectors, newLeafModelHandler cluster = .ok h →
    (h.createRootNode calls listenPort gitVersion root).1 = .ok (nodes, leafNodeSelectors) →
    ∃ resourceMap' r,
      addLeafResource resourceMap cluster (nodes.map RootNode.name) = .ok resourceMap' ∧
      (cluster.name, r) ∈ resourceMap'.entries ∧
      ∀ (i : Nat) node, nodes[i]? = some node → ∃ e, r.nodes[i]? = some e ∧
        e.leafMode = h.leafMode ∧
        (h.leafMode = .party → ∃ leafModel, cluster.leafModels[i]? = some leafModel ∧
          e.leafNodeSelector = leafModel.nodeSelector)

def rootStop (calls : RootCalls) (leafMode : LeafMode) (root : List RootNode) (name : String) :
    Option Stop :=
  match getNode calls root name with
  | .error err => some (.err err)
  | .ok (some nodeInRoot) =>
    if leafMode = .party ∧ nodeInRoot.annotations.isNone then some (.panic .nilDeref) else none
  | .ok none => (calls.create name).map Stop.err

def rootNodeNames (leafMode : LeafMode) : Nat → List LeafModel → List String
  | _, [] => []
  | i, leafModel :: rest => rootNodeName leafMode i leafModel :: rootNodeNames leafMode (i + 1) rest

def firstStop (calls : RootCalls) (leafMode : LeafMode) (root : List RootNode)
    (leafModels : List LeafModel) : Option Stop :=
  (rootNodeNames leafMode 0 leafModels).findSome? (rootStop calls leafMode root)

/-- No leaf models, a whole leaf, or no panic and, if all goes through, one mode. -/
def Cluster.Uniform (cluster : Cluster) (calls : RootCalls) (root : List RootNode) : Prop :=
  match cluster.clusterTreeOptions with
  | none => False
  | some options =>
    match options.leafModels with
    | none => True
    | some [] => False
    | some (first :: rest) =>
      first.leafMode = .all ∨
        (∀ p, firstStop calls first.leafMode root (first :: rest) ≠ some (.panic p)) ∧
        (firstStop calls first.leafMode root (first :: rest) = none →
          ∀ leafModel ∈ first :: rest, leafModel.leafMode = first.leafMode)

section Loop

variable {calls : RootCalls} {name : String} {leafMode : LeafMode} {root : List RootNode}
  {stop : Stop}

theorem getNode_append (hne : getNode calls root name = .ok none) {nodeInRoot : RootNode}
    (hname : nodeInRoot.name = name) (b : String) :
    getNode calls (root ++ [nodeInRoot]) b =
      if b = name then .ok (some nodeInRoot) else getNode calls root b := by
  unfold getNode at hne ⊢
  by_cases hb : b = name
  · subst hb
    rw [if_pos rfl]
    split at hne
    · cases hne
    next hempty =>
      rw [if_neg hempty]
      split at hne
      · cases hne
      next hget =>
        have hnone := Except.ok.inj hne
        simp [hnone, hname]
  · have hlast : decide (nodeInRoot.name = b) = false :=
      decide_eq_false fun h => hb (h.symm.trans hname)
    rw [if_neg hb]
    simp [hlast]

theorem createNode_of_rootStop_some (clusterName gitVersion : String) (listenPort : Int)
    (hstop : rootStop calls leafMode root name = some stop) :
    (∃ err, stop = .err err ∧
      createNode calls clusterName name gitVersion listenPort leafMode root = (.error err, root)) ∨
    ∃ nodeInRoot,
      createNode calls clusterName name gitVersion listenPort leafMode root =
        (.ok nodeInRoot, root) ∧ markParty leafMode nodeInRoot = .error stop := by
  unfold rootStop at hstop
  unfold createNode
  cases hget : getNode calls root name with
  | error err =>
    rw [hget] at hstop
    exact Or.inl ⟨err, (Option.some.inj hstop).symm, rfl⟩
  | ok found =>
    rw [hget] at hstop
    cases found with
    | some nodeInRoot =>
      simp only at hstop
      split at hstop
      next hparty =>
        refine Or.inr ⟨nodeInRoot, rfl, ?_⟩
        rw [markParty, if_pos hparty.1, Option.isNone_iff_eq_none.mp hparty.2,
          Option.some.inj hstop]
      · cases hstop
    | none =>
      cases hcreate : calls.create name with
      | none =>
        simp only [hcreate] at hstop
        cases hstop
      | some err =>
        simp only [hcreate, Option.map_some, Option.some.injEq] at hstop
        exact Or.inl ⟨err, hstop.symm, rfl⟩

theorem markParty_of_annotations {nodeInRoot : RootNode}
    (hno : ¬ (leafMode = .party ∧ nodeInRoot.annotations.isNone = true)) :
    ∃ marked, markParty leafMode nodeInRoot = .ok marked := by
  unfold markParty
  split
  next hmode =>
    split
    next ha => exact absurd ⟨hmode, by rw [ha]; rfl⟩ hno
    · exact ⟨_, rfl⟩
  · exact ⟨_, rfl⟩

theorem createNode_of_rootStop_none (clusterName gitVersion : String) (listenPort : Int)
    (hstop : rootStop calls leafMode root name = none) :
    ∃ nodeInRoot root' marked,
      createNode calls clusterName name gitVersion listenPort leafMode root =
        (.ok nodeInRoot, root') ∧
      markParty leafMode nodeInRoot = .ok marked ∧
      rootStop calls leafMode root' = rootStop calls leafMode root := by
  unfold rootStop at hstop
  cases hget : getNode calls root name with
  | error err =>
    rw [hget] at hstop
    cases hstop
  | ok found =>
    rw [hget] at hstop
    cases found with
    | some nodeInRoot =>
      simp only at hstop
      split at hstop
      · cases hstop
      next hno =>
        obtain ⟨marked, hmarked⟩ := markParty_of_annotations hno
        refine ⟨nodeInRoot, root, marked, ?_, hmarked, rfl⟩
        rw [createNode, hget]
    | none =>
      have hcreate : calls.create name = none := Option.map_eq_none_iff.mp hstop
      let new := newRootNode clusterName name gitVersion listenPort leafMode
      have hnew : ¬ (leafMode = .party ∧ new.annotations.isNone = true) := fun hno => by
        cases hno.2
      obtain ⟨marked, hmarked⟩ := markParty_of_annotations hnew
      refine ⟨new, root ++ [new], marked, ?_, hmarked, ?_⟩
      · simp only [createNode, hget, hcreate, new]
      · funext b
        unfold rootStop
        rw [getNode_append hget rfl b]
        by_cases hb : b = name
        · subst hb
          simp only [if_true, hget, hcreate, if_neg hnew, Option.map_none]
        · rw [if_neg hb]

theorem createRootNodes_spec (h : ClassificationHandler) (calls : RootCalls) (listenPort : Int)
    (gitVersion : String) :
    ∀ (leafModels : List LeafModel) (i : Nat) (leafNodeSelectors : GoMap String NodeSelector)
      (root : List RootNode),
      (∀ stop, (rootNodeNames h.leafMode i leafModels).findSome? (rootStop calls h.leafMode root) =
          some stop →
        (h.createRootNodes calls listenPort gitVersion i leafModels leafNodeSelectors root).1 =
          .error stop) ∧
      ((rootNodeNames h.leafMode i leafModels).findSome? (rootStop calls h.leafMode root) = none →
        ∃ nodes selectors,
          (h.createRootNodes calls listenPort gitVersion i leafModels leafNodeSelectors root).1 =
            .ok (nodes, selectors) ∧ nodes.length = leafModels.length) := by
  intro leafModels
  induction leafModels with
  | nil =>
    intro i leafNodeSelectors root
    exact ⟨fun stop hstop => (by cases hstop), fun _ => ⟨[], leafNodeSelectors, rfl, rfl⟩⟩
  | cons leafModel rest ih =>
    intro i leafNodeSelectors root
    simp only [rootNodeNames, List.findSome?_cons, ClassificationHandler.createRootNodes]
    cases hstop : rootStop calls h.leafMode root (rootNodeName h.leafMode i leafModel) with
    | some stop =>
      refine ⟨?_, fun hnone => (by cases hnone)⟩
      intro stop' hsame
      cases hsame
      rcases createNode_of_rootStop_some h.cluster.name gitVersion listenPort hstop with
        ⟨err, rfl, hnode⟩ | ⟨nodeInRoot, hnode, hmark⟩
      · rw [hnode]
      · simp only [hnode, hmark]
    | none =>
      obtain ⟨nodeInRoot, root', marked, hnode, hmark, hsame⟩ :=
        createNode_of_rootStop_none h.cluster.name gitVersion listenPort hstop
      obtain ⟨ihstop, ihnone⟩ := ih (i + 1)
        (leafNodeSelectors.set (rootNodeName h.leafMode i leafModel) leafModel.nodeSelector) root'
      rw [hsame] at ihstop ihnone
      simp only [hnode, hmark]
      generalize h.createRootNodes calls listenPort gitVersion (i + 1) rest _ root' = r
        at ihstop ihnone ⊢
      obtain ⟨res, root''⟩ := r
      constructor
      · intro stop hrest
        cases ihstop stop hrest
        rfl
      · intro hrest
        obtain ⟨nodes, selectors, hres, hlen⟩ := ihnone hrest
        cases hres
        exact ⟨marked :: nodes, selectors, rfl, congrArg Nat.succ hlen⟩

end Loop

section Modes

variable {calls : RootCalls} {listenPort : Int} {gitVersion : String} {cluster : Cluster}
  {root : List RootNode} {resourceMap : GoMap String LeafResource} {options : ClusterTreeOptions}

theorem newLeafModelHandler_cluster {h : ClassificationHandler}
    (hh : newLeafModelHandler cluster = .ok h) : h.cluster = cluster := by
  obtain ⟨options, -, hh⟩ := bind_eq_ok hh
  split at hh
  · cases hh
    rfl
  next leafModels _ =>
    obtain ⟨leafModel, -, hh⟩ := bind_eq_ok hh
    split at hh
    · split at hh
      · cases hh
        rfl
      · split at hh
        · cases hh
          rfl
        · cases hh
          rfl
    · cases hh
      rfl

theorem newLeafModelHandler_cons {first : LeafModel} {rest : List LeafModel}
    (hoptions : cluster.clusterTreeOptions = some options)
    (hmodels : options.leafModels = some (first :: rest)) :
    newLeafModelHandler cluster = .ok { leafMode := first.leafMode, cluster } := by
  simp only [newLeafModelHandler, hoptions, deref_some, ok_bind, hmodels, index,
    List.getElem?_cons_zero, LeafModel.leafMode]
  by_cases hselector : first.nodeSelector = {}
  · simp [hselector]
  · rw [if_pos hselector]
    split
    · rfl
    · split
      · rfl
      · rfl

theorem newClusterNode_model {leafModels : List LeafModel} {i : Nat} {leafModel : LeafModel}
    (hmodel : leafModels[i]? = some leafModel) (n : String) :
    ∃ e, newClusterNode (some leafModels) i n = .ok e ∧ e.leafMode = leafModel.leafMode ∧
      (e.leafMode = .party → e.leafNodeSelector = leafModel.nodeSelector) := by
  simp only [newClusterNode, index_eq_ok.mpr hmodel, ok_bind, LeafModel.leafMode]
  split
  · exact ⟨_, rfl, rfl, fun _ => rfl⟩
  · split
    · exact ⟨_, rfl, rfl, fun hparty => by cases hparty⟩
    · exact ⟨_, rfl, rfl, fun hparty => by cases hparty⟩

theorem newClusterNodes_models (leafModels : List LeafModel) :
    ∀ (names : List String) (i : Nat), i + names.length ≤ leafModels.length →
      ∃ es, newClusterNodes (some leafModels) i names = .ok es ∧ es.length = names.length ∧
        ∀ (j : Nat) e, es[j]? = some e → ∃ leafModel, leafModels[i + j]? = some leafModel ∧
          e.leafMode = leafModel.leafMode ∧
          (e.leafMode = .party → e.leafNodeSelector = leafModel.nodeSelector) := by
  intro names
  induction names with
  | nil =>
    intro i _
    exact ⟨[], rfl, rfl, fun j e he => by simp at he⟩
  | cons n rest ih =>
    intro i hlen
    rw [List.length_cons] at hlen
    obtain ⟨es, hes, hlength, hspec⟩ := ih (i + 1) (by omega)
    have hmodel := List.getElem?_eq_getElem (show i < leafModels.length by omega)
    obtain ⟨e, he, hmode⟩ := newClusterNode_model hmodel n
    refine ⟨e :: es, ?_, congrArg Nat.succ hlength, ?_⟩
    · simp [newClusterNodes, he, hes]
    · intro j e' he'
      cases j with
      | zero =>
        cases he'
        exact ⟨_, hmodel, hmode⟩
      | succ j =>
        obtain ⟨leafModel', hmodel', hmode'⟩ := hspec j e' he'
        rw [Nat.succ_add, ← Nat.add_succ] at hmodel'
        exact ⟨leafModel', hmodel', hmode'⟩

theorem addLeafResource_eq (resourceMap : GoMap String LeafResource)
    (hoptions : cluster.clusterTreeOptions = some options) {names : List String}
    {es : List ClusterNode}
    (hes : newClusterNodes options.leafModels 0 names = .ok es) :
    addLeafResource resourceMap cluster names =
      .ok (resourceMap.set cluster.name { cluster, nodes := es }) := by
  simp [addLeafResource, hoptions, hes]

theorem modesAgree_all (hhandler : newLeafModelHandler cluster = .ok { leafMode := .all, cluster })
    (hoptions : cluster.clusterTreeOptions = some options)
    (hone : ∀ n, ∃ e, newClusterNode options.leafModels 0 n = .ok e ∧ e.leafMode = .all) :
    ModesAgree calls listenPort gitVersion cluster root resourceMap := by
  refine ⟨⟨_, hhandler⟩, ?_, ?_⟩
  · intro h hh p
    cases hhandler.symm.trans hh
    simp only [ClassificationHandler.createRootNode, if_true]
    split
    · exact fun hp => by cases hp
    · exact fun hp => by cases hp
  · intro h nodes leafNodeSelectors hh hnodes
    cases hhandler.symm.trans hh
    simp only [ClassificationHandler.createRootNode, if_true] at hnodes
    split at hnodes
    · cases hnodes
    · next nodeInRoot _ _ =>
      cases hnodes
      obtain ⟨e, he, hmode⟩ := hone nodeInRoot.name
      have hes :
          newClusterNodes options.leafModels 0 ([nodeInRoot].map RootNode.name) = .ok [e] := by
        simp [newClusterNodes, he]
      refine ⟨_, { cluster, nodes := [e] }, addLeafResource_eq resourceMap hoptions hes,
        GoMap.mem_set.mpr (Or.inl rfl), ?_⟩
      intro i node hnode
      cases i with
      | zero => exact ⟨e, rfl, hmode, fun hparty => by cases hparty⟩
      | succ i => cases hnode

section Models

variable {first : LeafModel} {rest : List LeafModel}
  (hoptions : cluster.clusterTreeOptions = some options)
  (hmodels : options.leafModels = some (first :: rest))

include hoptions hmodels

theorem createRootNode_models (calls : RootCalls) (listenPort : Int) (gitVersion : String)
    (root : List RootNode) (hall : first.leafMode ≠ .all) :
    let h : ClassificationHandler := { leafMode := first.leafMode, cluster }
    (∀ stop, firstStop calls first.leafMode root (first :: rest) = some stop →
      (h.createRootNode calls listenPort gitVersion root).1 = .error stop) ∧
    (firstStop calls first.leafMode root (first :: rest) = none →
      ∃ nodes selectors,
        (h.createRootNode calls listenPort gitVersion root).1 = .ok (nodes, selectors) ∧
        nodes.length = (first :: rest).length) := by
  simp only [ClassificationHandler.createRootNode, if_neg hall, hoptions, deref_some, hmodels,
    Slice.elems_some]
  exact createRootNodes_spec { leafMode := first.leafMode, cluster } calls listenPort gitVersion
    (first :: rest) 0 GoMap.empty root

theorem addLeafResource_models (resourceMap : GoMap String LeafResource) (leafMode : LeafMode)
    {nodes : List RootNode} (hlen : nodes.length = (first :: rest).length) :
    (∃ resourceMap' r,
      addLeafResource resourceMap cluster (nodes.map RootNode.name) = .ok resourceMap' ∧
      (cluster.name, r) ∈ resourceMap'.entries ∧
      ∀ (i : Nat) node, nodes[i]? = some node → ∃ e, r.nodes[i]? = some e ∧
        e.leafMode = leafMode ∧
        (leafMode = .party → ∃ leafModel, cluster.leafModels[i]? = some leafModel ∧
          e.leafNodeSelector = leafModel.nodeSelector)) ↔
      ∀ leafModel ∈ first :: rest, leafModel.leafMode = leafMode := by
  have hleafModels : cluster.leafModels = first :: rest := by
    rw [Cluster.leafModels, hoptions, Option.bind_some, hmodels, Option.getD_some]
  obtain ⟨es, hes, hlength, hspec⟩ := newClusterNodes_models (first :: rest)
    (nodes.map RootNode.name) 0 (by rw [List.length_map, hlen, Nat.zero_add])
  rw [← hmodels] at hes
  rw [List.length_map] at hlength
  have hadd := addLeafResource_eq resourceMap hoptions hes
  constructor
  · intro ⟨resourceMap', r, hadd', hr, hmode⟩ leafModel hmem
    cases hadd.symm.trans hadd'
    rcases GoMap.mem_set.mp hr with hr | ⟨-, hne⟩
    · cases hr
      obtain ⟨i, hlt, rfl⟩ := List.getElem_of_mem hmem
      obtain ⟨e, he, hemode, -⟩ := hmode i _ (List.getElem?_eq_getElem (by rw [hlen]; exact hlt))
      obtain ⟨leafModel, hmodel, hmode', -⟩ := hspec i e he
      rw [Nat.zero_add, List.getElem?_eq_getElem hlt] at hmodel
      cases hmodel
      exact hmode'.symm.trans hemode
    · exact absurd rfl hne
  · intro hsame
    refine ⟨_, { cluster, nodes := es }, hadd, GoMap.mem_set.mpr (Or.inl rfl), ?_⟩
    intro i node hnode
    obtain ⟨hlt, -⟩ := List.getElem?_eq_some_iff.mp hnode
    have he := List.getElem?_eq_getElem (hlength ▸ hlt)
    obtain ⟨leafModel, hmodel, hmode, hselector⟩ := hspec i _ he
    rw [Nat.zero_add, ← hleafModels] at hmodel
    have hlike := hmode.trans (hsame leafModel (hleafModels ▸ List.mem_of_getElem? hmodel))
    exact ⟨_, he, hlike, fun hparty => ⟨leafModel, hmodel, hselector (hlike.trans hparty)⟩⟩

theorem modesAgree_models (hall : first.leafMode ≠ .all) :
    ModesAgree calls listenPort gitVersion cluster root resourceMap ↔
      (∀ p, firstStop calls first.leafMode root (first :: rest) ≠ some (.panic p)) ∧
      (firstStop calls first.leafMode root (first :: rest) = none →
        ∀ leafModel ∈ first :: rest, leafModel.leafMode = first.leafMode) := by
  have hhandler := newLeafModelHandler_cons hoptions hmodels
  obtain ⟨hstops, hgoes⟩ :=
    createRootNode_models hoptions hmodels calls listenPort gitVersion root hall
  constructor
  · intro hagree
    constructor
    · intro p hp
      exact hagree.created _ hhandler p (hstops _ hp)
    · intro hnone
      obtain ⟨nodes, selectors, hnodes, hlen⟩ := hgoes hnone
      exact (addLeafResource_models hoptions hmodels resourceMap _ hlen).mp
        (hagree.registered _ nodes selectors hhandler hnodes)
  · intro ⟨hpanic, hsame⟩
    refine ⟨⟨_, hhandler⟩, ?_, ?_⟩
    · intro h hh p hp
      cases hhandler.symm.trans hh
      cases hfirst : firstStop calls first.leafMode root (first :: rest) with
      | some stop =>
        cases (hstops stop hfirst).symm.trans hp
        exact hpanic p hfirst
      | none =>
        obtain ⟨nodes, selectors, hnodes, -⟩ := hgoes hfirst
        cases hnodes.symm.trans hp
    · intro h nodes leafNodeSelectors hh hnodes
      cases hhandler.symm.trans hh
      cases hfirst : firstStop calls first.leafMode root (first :: rest) with
      | some stop => cases (hstops stop hfirst).symm.trans hnodes
      | none =>
        obtain ⟨nodes', selectors', hnodes', hlen⟩ := hgoes hfirst
        cases hnodes'.symm.trans hnodes
        exact (addLeafResource_models hoptions hmodels resourceMap _ hlen).mpr (hsame hfirst)

end Models

/-- Modes: the handler and the registry go together exactly when the leaf models are uniform. -/
theorem modesAgree_iff (calls : RootCalls) (listenPort : Int) (gitVersion : String)
    (cluster : Cluster) (root : List RootNode) (resourceMap : GoMap String LeafResource) :
    ModesAgree calls listenPort gitVersion cluster root resourceMap ↔
      cluster.Uniform calls root := by
  unfold Cluster.Uniform
  cases hoptions : cluster.clusterTreeOptions with
  | none =>
    refine ⟨fun hagree => ?_, False.elim⟩
    obtain ⟨h, hh⟩ := hagree.handled
    simp [newLeafModelHandler, hoptions, deref] at hh
  | some options =>
    cases hmodels : options.leafModels with
    | none =>
      refine ⟨fun _ => by simp [hmodels], fun _ => ?_⟩
      refine modesAgree_all ?_ hoptions ?_
      · simp [newLeafModelHandler, hoptions, hmodels]
      · intro n
        rw [hmodels]
        exact ⟨_, rfl, rfl⟩
    | some leafModels =>
      cases leafModels with
      | nil =>
        refine ⟨fun hagree => ?_, fun h => by simp [hmodels] at h⟩
        obtain ⟨h, hh⟩ := hagree.handled
        simp [newLeafModelHandler, hoptions, hmodels, index] at hh
      | cons first rest =>
        simp only [hmodels]
        by_cases hall : first.leafMode = .all
        · refine ⟨fun _ => Or.inl hall, fun _ => ?_⟩
          refine modesAgree_all ?_ hoptions ?_
          · rw [newLeafModelHandler_cons hoptions hmodels, hall]
          · intro n
            obtain ⟨e, he, hmode, -⟩ := newClusterNode_model (List.getElem?_cons_zero ..) n
            rw [hmodels]
            exact ⟨e, he, hmode.trans hall⟩
        · rw [modesAgree_models hoptions hmodels hall]
          simp [hall]

def emptyModels : Cluster where
  name := "c1"
  clusterTreeOptions := some { leafModels := some [] }

def mixedModels : Cluster where
  name := "c1"
  clusterTreeOptions :=
    some {
      leafModels :=
        some [{ leafNodeName := "edge",
                nodeSelector := { labelSelector := some { matchLabels := [("zone", "a")] } } },
              { nodeSelector := { nodeName := "n1" } }] }

theorem mixedModels_disagree :
    ¬ ModesAgree {} 10250 "v1.25.0" emptyModels [] .empty ∧
    ¬ ModesAgree {} 10250 "v1.25.0" mixedModels [] .empty := by
  constructor
  · intro hagree
    obtain ⟨h, hh⟩ := hagree.handled
    cases hh
  · intro hagree
    have hh :
        newLeafModelHandler mixedModels = .ok { leafMode := .party, cluster := mixedModels } :=
      rfl
    obtain ⟨resourceMap, r, hadd, hr, hmode⟩ := hagree.registered _ _ _ hh rfl
    cases hadd
    cases List.mem_singleton.mp hr
    obtain ⟨e, he, hparty, -⟩ := hmode 1 _ rfl
    cases he
    cases hparty

end Modes

end Kosmos.Tree
