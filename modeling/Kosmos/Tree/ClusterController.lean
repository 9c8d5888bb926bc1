import Kosmos.Tree.LeafModel
import Kosmos.Tree.Registries

/-!
# The cluster controller: `ClusterController.Reconcile`

The root nodes are made on the way up; on the way down one is deleted, and the finalizer goes.

A panic takes the process down; it starts anew, and what the API has stays.
-/

namespace Kosmos.Tree

open Kosmos.Go

structure ReconcileResult where
  requeue : Bool := false
  requeueAfter : Nat := 0
  err : Option String := none
  deriving DecidableEq

structure ReconcileCalls where
  get : Option String := none
  config : Option String := none
  clientset : Option String := none
  dynamicClient : Option String := none
  kosmosClientset : Option String := none
  addFinalizer : Option String := none
  deleteNode : Option String := none
  removeFinalizer : Option String := none
  newManager : Option String := none
  serverVersion : Except String String := .ok ""
  root : RootCalls := {}
  setup : Option String := none
  listenPort : Int := 10250

structure ClusterState extends Registries where
  clusters : List Cluster := []
  nodes : List RootNode := []
  controllerManagers : List String := []

def controllerFinalizerName : String := "kosmos.io/cluster-manager"

def requeueTime : Nat := 10

def buildClients (calls : ReconcileCalls) (cluster : Cluster) : Option String :=
  (calls.config.map fun err =>
    "could not build kubeconfig for cluster " ++ cluster.name ++ ": " ++ err) <|>
  (calls.clientset.map fun err =>
    "could not build clientset for cluster " ++ cluster.name ++ ": " ++ err) <|>
  (calls.dynamicClient.map fun err =>
    "could not build dynamic client for cluster " ++ cluster.name ++ ": " ++ err) <|>
  (calls.kosmosClientset.map fun err =>
    "could not build kosmos clientset for cluster " ++ cluster.name ++ ": " ++ err)

namespace ClusterState

def updateCluster (s : ClusterState) (cluster : Cluster) : ClusterState :=
  { s with
    clusters :=
      if cluster.deletionTimestamp ∧ cluster.finalizers = [] then
        s.clusters.filter fun k => k.name ≠ cluster.name
      else s.clusters.map fun k => if k.name = cluster.name then cluster else k }

def ensureFinalizer (calls : ReconcileCalls) (cluster : Cluster) (s : ClusterState) :
    Except String (Cluster × ClusterState) :=
  if ¬ cluster.deletionTimestamp ∧ controllerFinalizerName ∉ cluster.finalizers then
    match calls.addFinalizer with
    | some err => .error err
    | none =>
      let cluster := { cluster with finalizers := cluster.finalizers ++ [controllerFinalizerName] }
      .ok (cluster, s.updateCluster cluster)
  else .ok (cluster, s)

def clearClusterControllers (cluster : Cluster) (s : ClusterState) : ClusterState :=
  { s with
    controllerManagers := s.controllerManagers.filter fun m => m ≠ cluster.name
    toRegistries := s.toRegistries.clear cluster }

def deleteNode (calls : ReconcileCalls) (cluster : Cluster) (s : ClusterState) :
    Option String × ClusterState :=
  match calls.deleteNode with
  | some err => (some err, s)
  | none => (none, { s with nodes := s.nodes.filter fun n => n.name ≠ cluster.name })

def removeCluster (calls : ReconcileCalls) (cluster : Cluster) (s : ClusterState) :
    ReconcileResult × ClusterState :=
  match s.deleteNode calls cluster with
  | (some err, s) => ({ requeue := true, err := some err }, s)
  | (none, s) =>
    if controllerFinalizerName ∈ cluster.finalizers then
      match calls.removeFinalizer with
      | some err => ({ err := some err }, s)
      | none =>
        ({}, s.updateCluster { cluster with
          finalizers := cluster.finalizers.filter fun f => f ≠ controllerFinalizerName })
    else ({}, s)

def setupControllers (calls : ReconcileCalls) (cluster : Cluster) (nodes : List RootNode)
    (s : ClusterState) : Outcome (Option String) × ClusterState :=
  match deref cluster.clusterLinkOptions with
  | .error stop => (.error stop, s)
  | .ok _ =>
    match s.toRegistries.add cluster (nodes.map RootNode.name) with
    | .error stop => (.error stop, s)
    | .ok toRegistries => (.ok calls.setup, { s with toRegistries })

def startCluster (calls : ReconcileCalls) (cluster : Cluster) (s : ClusterState) :
    Outcome ReconcileResult × ClusterState :=
  match calls.newManager with
  | some err =>
    (.ok { err := some ("new manager with err " ++ err ++ ", cluster " ++ cluster.name) }, s)
  | none =>
    match newLeafModelHandler cluster with
    | .error stop => (.error stop, s)
    | .ok leafModelHandler =>
      let failed (err : String) : ReconcileResult :=
        { requeueAfter := requeueTime,
          err := some ("create node with err " ++ err ++ ", cluster " ++ cluster.name) }
      match calls.serverVersion with
      | .error err => (.ok (failed err), s)
      | .ok gitVersion =>
        match leafModelHandler.createRootNode calls.root calls.listenPort gitVersion s.nodes with
        | (.error (.panic p), nodes) => (.error (.panic p), { s with nodes })
        | (.error (.err err), nodes) => (.ok (failed err), { s with nodes })
        | (.ok (created, _), nodes) =>
          let s := { s with nodes, controllerManagers := s.controllerManagers.insert cluster.name }
          match s.setupControllers calls cluster created with
          | (.error stop, s) => (.error stop, s)
          | (.ok (some err), s) =>
            (.ok { err := some ("failed to setup cluster " ++ cluster.name ++ " controllers: " ++
              err) }, s)
          | (.ok none, s) => (.ok {}, s)

def reconcile (calls : ReconcileCalls) (name : String) (s : ClusterState) :
    Outcome ReconcileResult × ClusterState :=
  match calls.get with
  | some err => (.ok { requeueAfter := requeueTime, err := some err }, s)
  | none =>
    match s.clusters.find? fun k => k.name = name with
    | none => (.ok {}, s)
    | some cluster =>
      match buildClients calls cluster with
      | some err => (.ok { err := some err }, s)
      | none =>
        match s.ensureFinalizer calls cluster with
        | .error err => (.ok { err := some err }, s)
        | .ok (cluster, s) =>
          let s := s.clearClusterControllers cluster
          if cluster.deletionTimestamp then
            let (res, s) := s.removeCluster calls cluster
            (.ok res, s)
          else
            match deref cluster.clusterTreeOptions with
            | .error stop => (.error stop, s)
            | .ok options =>
              if ¬ options.enable then (.ok {}, s) else s.startCluster calls cluster

end ClusterState

structure ClusterWorld extends ClusterState where
  creator : String → Option String := fun _ => none

inductive ClusterEvent where
  | apply (cluster : Cluster)
  | delete (name : String)
  | addNode (node : RootNode)
  | removeNode (name : String)
  | reconcile (name : String) (calls : ReconcileCalls)

namespace ClusterWorld

def apply (cluster : Cluster) (w : ClusterWorld) : ClusterWorld :=
  { w with
    clusters :=
      if w.clusters.any fun k => k.name = cluster.name then
        w.clusters.map fun k =>
          if k.name = cluster.name then
            { k with
              labels := cluster.labels
              clusterLinkOptions := cluster.clusterLinkOptions
              clusterTreeOptions := cluster.clusterTreeOptions }
          else k
      else w.clusters ++ [{ cluster with deletionTimestamp := false }] }

def delete (name : String) (w : ClusterWorld) : ClusterWorld :=
  { w with
    clusters := (w.clusters.filter fun k => k.name ≠ name ∨ k.finalizers ≠ []).map fun k =>
      if k.name = name then { k with deletionTimestamp := true } else k }

def addNode (node : RootNode) (w : ClusterWorld) : ClusterWorld :=
  if w.nodes.any fun n => n.name = node.name then w
  else { w with nodes := w.nodes ++ [node], creator := Function.update w.creator node.name none }

def removeNode (name : String) (w : ClusterWorld) : ClusterWorld :=
  { w with nodes := w.nodes.filter fun n => n.name ≠ name }

def restart (s : ClusterState) : ClusterState :=
  { s with toRegistries := {}, controllerManagers := [] }

def reconcile (name : String) (calls : ReconcileCalls) (w : ClusterWorld) :
    Outcome ReconcileResult × ClusterWorld :=
  let creator n := if w.nodes.any fun m => m.name = n then w.creator n else some name
  match ClusterState.reconcile calls name w.toClusterState with
  | (.ok res, s) => (.ok res, { s with creator })
  | (.error stop, s) => (.error stop, { restart s with creator })

def step (w : ClusterWorld) :
    ClusterEvent → Outcome (Option (Outcome ReconcileResult) × ClusterWorld)
  | .apply cluster => pure (none, w.apply cluster)
  | .delete name => pure (none, w.delete name)
  | .addNode node => pure (none, w.addNode node)
  | .removeNode name => pure (none, w.removeNode name)
  | .reconcile name calls =>
    let (res, w) := w.reconcile name calls
    pure (some res, w)

end ClusterWorld

def ClusterState.hasFinalizer (s : ClusterState) (name : String) : Bool :=
  (s.clusters.find? fun k => k.name = name).any fun k => controllerFinalizerName ∈ k.finalizers

/-- A move in which `Reconcile` takes the finalizer off the cluster. -/
structure Removal (c : String)
    (x : Move ClusterWorld ClusterEvent (Option (Outcome ReconcileResult))) : Prop where
  event : ∃ calls, x.event = .reconcile c calls
  before : x.before.hasFinalizer c = true
  after : x.after.hasFinalizer c = false

/-- The nodes made for the cluster are gone, and all others there. -/
structure LeavesNothing (c : String)
    (x : Move ClusterWorld ClusterEvent (Option (Outcome ReconcileResult))) : Prop where
  gone : ∀ n ∈ x.after.nodes, x.after.creator n.name ≠ some c
  kept : ∀ n ∈ x.before.nodes, x.before.creator n.name ≠ some c → n ∈ x.after.nodes

section Removal

variable {calls : ReconcileCalls} {s : ClusterState} {cluster : Cluster} {name : String}

theorem setupControllers_clusters (calls : ReconcileCalls) (cluster : Cluster)
    (nodes : List RootNode) (s : ClusterState) :
    (s.setupControllers calls cluster nodes).2.clusters = s.clusters := by
  unfold ClusterState.setupControllers
  split
  · rfl
  · split
    · rfl
    · rfl

theorem startCluster_clusters : (s.startCluster calls cluster).2.clusters = s.clusters := by
  unfold ClusterState.startCluster
  split
  · rfl
  · split
    · rfl
    · simp only
      split
      · rfl
      · split
        · rfl
        · rfl
        next created _ nodes _ =>
          have hsetup := setupControllers_clusters calls cluster created { s with
            nodes := nodes, controllerManagers := s.controllerManagers.insert cluster.name }
          split
          next hstop =>
            rw [hstop] at hsetup
            exact hsetup
          next herr =>
            rw [herr] at hsetup
            exact hsetup
          next hok =>
            rw [hok] at hsetup
            exact hsetup

def KeepsOrDeletes (name : String) (s s' : ClusterState) : Prop :=
  s'.clusters = s.clusters ∨ s'.nodes = s.nodes.filter fun n => n.name ≠ name

theorem removeCluster_keepsOrDeletes :
    KeepsOrDeletes cluster.name s (s.removeCluster calls cluster).2 := by
  unfold ClusterState.removeCluster ClusterState.deleteNode
  cases calls.deleteNode with
  | some err => exact Or.inl rfl
  | none =>
    refine Or.inr ?_
    simp only
    split
    · split
      · rfl
      · rfl
    · rfl

theorem reconcile_keepsOrDeletes
    (hfind : (s.clusters.find? fun k => k.name = name) = some cluster)
    (hfinalizer : controllerFinalizerName ∈ cluster.finalizers) :
    KeepsOrDeletes name s (s.reconcile calls name).2 := by
  have hname := (of_find?_key hfind).2
  -- the finalizer is there, so it is not put on
  have hensure : s.ensureFinalizer calls cluster = .ok (cluster, s) := by
    rw [ClusterState.ensureFinalizer, if_neg]
    exact fun h => h.2 hfinalizer
  unfold ClusterState.reconcile
  split
  · exact Or.inl rfl
  · simp only [hfind]
    split
    · exact Or.inl rfl
    · simp only [hensure]
      split
      · rw [← hname]
        exact removeCluster_keepsOrDeletes (s := s.clearClusterControllers cluster)
      · split
        · exact Or.inl rfl
        · split
          · exact Or.inl rfl
          · exact Or.inl startCluster_clusters

theorem reconcile_removal (hbefore : s.hasFinalizer name = true)
    (hafter : (s.reconcile calls name).2.hasFinalizer name = false) :
    (s.reconcile calls name).2.nodes = s.nodes.filter fun n => n.name ≠ name := by
  cases hfind : s.clusters.find? fun k => k.name = name with
  | none =>
    rw [ClusterState.hasFinalizer, hfind] at hbefore
    cases hbefore
  | some cluster =>
    have hfinalizer : controllerFinalizerName ∈ cluster.finalizers := by
      rw [ClusterState.hasFinalizer, hfind] at hbefore
      exact of_decide_eq_true hbefore
    rcases reconcile_keepsOrDeletes hfind hfinalizer with hkeeps | hdeletes
    · rw [ClusterState.hasFinalizer, hkeeps] at hafter
      rw [ClusterState.hasFinalizer, hafter] at hbefore
      cases hbefore
    · exact hdeletes

theorem ClusterWorld.reconcile_eq (name : String) (calls : ReconcileCalls) (w : ClusterWorld) :
    (w.reconcile name calls).2.clusters = (w.toClusterState.reconcile calls name).2.clusters ∧
    (w.reconcile name calls).2.nodes = (w.toClusterState.reconcile calls name).2.nodes ∧
    ∀ n, (w.reconcile name calls).2.creator n =
      if w.nodes.any fun m => m.name = n then w.creator n else some name := by
  unfold ClusterWorld.reconcile
  simp only
  split
  next hok =>
    rw [hok]
    exact ⟨rfl, rfl, fun n => rfl⟩
  next hstop =>
    rw [hstop]
    exact ⟨rfl, rfl, fun n => rfl⟩

theorem ClusterWorld.reconcile_removal {w : ClusterWorld} (hbefore : w.hasFinalizer name = true)
    (hafter : (w.reconcile name calls).2.hasFinalizer name = false) :
    (∀ n, n ∈ (w.reconcile name calls).2.nodes ↔ n ∈ w.nodes ∧ n.name ≠ name) ∧
    ∀ n ∈ w.nodes, (w.reconcile name calls).2.creator n.name = w.creator n.name := by
  obtain ⟨hclusters, hnodes, hcreator⟩ := ClusterWorld.reconcile_eq name calls w
  rw [ClusterState.hasFinalizer, hclusters] at hafter
  rw [Tree.reconcile_removal hbefore hafter] at hnodes
  constructor
  · intro n
    rw [hnodes, mem_filter_key_ne]
  · intro n hn
    rw [hcreator, if_pos]
    exact List.any_eq_true.mpr ⟨n, hn, decide_eq_true rfl⟩

end Removal

/-- Removal of a cluster deletes the nodes made for it if and only if they are those of its own
name. -/
theorem removal_leavesNothing_iff (w : ClusterWorld) (es : List ClusterEvent)
    (xs : List (Move ClusterWorld ClusterEvent (Option (Outcome ReconcileResult))))
    (h : trace ClusterWorld.step w es = .ok xs) :
    ∀ x ∈ xs, ∀ c, Removal c x →
      (LeavesNothing c x ↔
        ∀ n ∈ x.before.nodes, x.before.creator n.name = some c ↔ n.name = c) := by
  refine trace_keeps (I := fun _ => True) (A := fun _ => True) ?_ es w xs trivial h
    fun _ _ => trivial
  intro w e r w' _ hstep _
  refine ⟨trivial, fun c hremoval => ?_⟩
  obtain ⟨⟨calls, rfl⟩, hbefore, hafter⟩ := hremoval
  have hw' : w' = (w.reconcile c calls).2 := by
    cases hstep
    rfl
  obtain ⟨hmem, hsame⟩ := ClusterWorld.reconcile_removal hbefore (hw' ▸ hafter)
  rw [← hw'] at hmem hsame
  constructor
  · intro hleaves n hn
    constructor
    · intro hcreated
      by_contra hne
      refine hleaves.gone n ((hmem n).mpr ⟨hn, hne⟩) ?_
      exact (hsame n hn).trans hcreated
    · intro hname
      by_contra hother
      exact ((hmem n).mp (hleaves.kept n hn hother)).2 hname
  · intro hnamed
    constructor
    · intro n hn hcreated
      obtain ⟨hold, hne⟩ := (hmem n).mp hn
      exact hne ((hnamed n hold).mp ((hsame n hold).symm.trans hcreated))
    · intro n hn hother
      exact (hmem n).mpr ⟨hn, fun hname => hother ((hnamed n hn).mpr hname)⟩

def eponymousCluster : Cluster where
  name := "c1"
  clusterTreeOptions := some { leafModels := some [{ nodeSelector := { nodeName := "c1" } }] }

def clusterLife (cluster : Cluster) : List ClusterEvent :=
  [.apply cluster, .reconcile cluster.name {}, .delete cluster.name, .reconcile cluster.name {}]

theorem eponymousCluster_leavesNothing :
    ∃ xs, trace ClusterWorld.step {} (clusterLife eponymousCluster) = .ok xs ∧
      ∃ x ∈ xs, Removal "c1" x ∧ x.before.nodes.length = 1 ∧ LeavesNothing "c1" x := by
  have hxs : trace ClusterWorld.step {} (clusterLife eponymousCluster) = .ok _ := rfl
  refine ⟨_, hxs, _, List.mem_of_getElem? (i := 3) rfl, ?_, rfl, ?_⟩
  · exact ⟨⟨_, rfl⟩, by decide, by decide⟩
  · refine (removal_leavesNothing_iff {} _ _ hxs _ (List.mem_of_getElem? (i := 3) rfl) "c1"
      ⟨⟨_, rfl⟩, by decide, by decide⟩).mpr ?_
    decide

theorem wholeCluster_leavesNode :
    ∃ xs, trace ClusterWorld.step {} (clusterLife { name := "c1" }) = .ok xs ∧
      ∃ x ∈ xs, Removal "c1" x ∧ ¬ LeavesNothing "c1" x := by
  refine ⟨_, rfl, _, List.mem_of_getElem? (i := 3) rfl, ⟨⟨_, rfl⟩, by decide, by decide⟩, ?_⟩
  intro hleaves
  exact hleaves.gone _ (List.mem_cons_self ..) (by decide)

inductive RegistriesReconciled (cluster : Cluster) (w : Registries) : Registries → Prop
  | kept : RegistriesReconciled cluster w w
  | cleared : RegistriesReconciled cluster w (w.clear cluster)
  | setup (nodes : List String) {w' : Registries} (h : w.setup cluster nodes = .ok w') :
      RegistriesReconciled cluster w w'

section Reconciled

variable {calls : ReconcileCalls} {s : ClusterState} {cluster : Cluster} {name : String}

theorem setupControllers_registries (calls : ReconcileCalls) (cluster : Cluster)
    (nodes : List RootNode) (s : ClusterState) :
    (s.setupControllers calls cluster nodes).2.toRegistries = s.toRegistries ∨
    s.toRegistries.add cluster (nodes.map RootNode.name) =
      .ok (s.setupControllers calls cluster nodes).2.toRegistries := by
  unfold ClusterState.setupControllers
  split
  · exact Or.inl rfl
  · split
    · exact Or.inl rfl
    next hadd => exact Or.inr hadd

theorem startCluster_registries {w : Registries} (hs : s.toRegistries = w.clear cluster) :
    RegistriesReconciled cluster w (s.startCluster calls cluster).2.toRegistries := by
  have hcleared : RegistriesReconciled cluster w s.toRegistries := hs ▸ .cleared
  unfold ClusterState.startCluster
  split
  · exact hcleared
  · split
    · exact hcleared
    · simp only
      split
      · exact hcleared
      · split
        · exact hcleared
        · exact hcleared
        next created _ nodes _ =>
          have hsetup := setupControllers_registries calls cluster created { s with
            nodes := nodes, controllerManagers := s.controllerManagers.insert cluster.name }
          have hgoal : ∀ s' : ClusterState, s'.toRegistries = s.toRegistries ∨
              s.toRegistries.add cluster (created.map RootNode.name) = .ok s'.toRegistries →
              RegistriesReconciled cluster w s'.toRegistries := by
            intro s' hs'
            rcases hs' with heq | hadd
            · rw [heq]
              exact hcleared
            · rw [hs] at hadd
              exact .setup _ hadd
          split
          next hstop =>
            rw [hstop] at hsetup
            exact hgoal _ hsetup
          next herr =>
            rw [herr] at hsetup
            exact hgoal _ hsetup
          next hok =>
            rw [hok] at hsetup
            exact hgoal _ hsetup

theorem removeCluster_registries :
    (s.removeCluster calls cluster).2.toRegistries = s.toRegistries := by
  unfold ClusterState.removeCluster ClusterState.deleteNode
  cases calls.deleteNode with
  | some err => rfl
  | none =>
    simp only
    split
    · split
      · rfl
      · rfl
    · rfl

theorem ensureFinalizer_eq_ok {cluster' : Cluster} {s' : ClusterState}
    (h : s.ensureFinalizer calls cluster = .ok (cluster', s')) :
    s'.toRegistries = s.toRegistries ∧ cluster'.name = cluster.name ∧
      getActualClusterName cluster' = getActualClusterName cluster := by
  unfold ClusterState.ensureFinalizer at h
  split at h
  · split at h
    · cases h
    · cases h
      exact ⟨rfl, rfl, rfl⟩
  · cases h
    exact ⟨rfl, rfl, rfl⟩

theorem reconcile_registries (calls : ReconcileCalls) (name : String) (s : ClusterState) :
    (s.reconcile calls name).2.toRegistries = s.toRegistries ∨
    ∃ cluster ∈ s.clusters, ∃ cluster', cluster'.name = cluster.name ∧
      getActualClusterName cluster' = getActualClusterName cluster ∧
      RegistriesReconciled cluster' s.toRegistries (s.reconcile calls name).2.toRegistries := by
  unfold ClusterState.reconcile
  split
  · exact Or.inl rfl
  · split
    · exact Or.inl rfl
    next cluster hfind =>
      split
      · exact Or.inl rfl
      · split
        · exact Or.inl rfl
        next cluster' s' hensure =>
          obtain ⟨hsame, hname, hactual⟩ := ensureFinalizer_eq_ok hensure
          refine Or.inr ⟨cluster, List.mem_of_find?_eq_some hfind, cluster', hname, hactual, ?_⟩
          rw [← hsame]
          have hclear : (s'.clearClusterControllers cluster').toRegistries =
              s'.toRegistries.clear cluster' := rfl
          simp only
          split
          · show RegistriesReconciled _ _ (ClusterState.removeCluster _ _ _).2.toRegistries
            rw [removeCluster_registries]
            exact .cleared
          · split
            · exact .cleared
            · split
              · exact .cleared
              · exact startCluster_registries hclear

end Reconciled

structure Registries.Plain (w : Registries) : Prop where
  coherent : w.Coherent
  named : ∀ c r, (c, r) ∈ w.resourceMap.entries → getActualClusterName r.cluster = c

theorem RegistriesReconciled.plain {cluster : Cluster} {w w' : Registries} (hw : w.Plain)
    (hcluster : getActualClusterName cluster = cluster.name)
    (h : RegistriesReconciled cluster w w') : w'.Plain := by
  cases h with
  | kept => exact hw
  | cleared =>
    refine ⟨(Registries.clear_coherent_iff hw.coherent).mpr ⟨?_, Or.inr (Or.inl hcluster.symm)⟩, ?_⟩
    · intro e he hne
      rw [hw.named e.1 e.2 he, hcluster]
      exact hne
    · intro c r hcr
      exact hw.named c r (GoMap.mem_delete.mp hcr).1
  | setup nodes h =>
    refine ⟨(Registries.setup_coherent_iff hw.coherent h).mpr (Or.inr (Or.inl hcluster)), ?_⟩
    intro c r hcr
    obtain ⟨⟨clusterNodes, hmap⟩, -⟩ := Registries.setup_eq_ok h
    rw [hmap, GoMap.mem_set, GoMap.mem_delete] at hcr
    rcases hcr with heq | ⟨⟨hold, -⟩, -⟩
    · cases heq
      exact hcluster
    · exact hw.named c r hold

/-- In every run in which actual names are the own ones the registries are coherent, whatever fails.
-/
theorem trace_registries_coherent (es : List ClusterEvent)
    (xs : List (Move ClusterWorld ClusterEvent (Option (Outcome ReconcileResult))))
    (h : trace ClusterWorld.step {} es = .ok xs)
    (hnamed : ∀ x ∈ xs, ∀ k ∈ x.before.clusters, getActualClusterName k = k.name) :
    ∀ x ∈ xs, x.after.toRegistries.Coherent := by
  have hempty : Registries.Plain {} :=
    ⟨Registries.empty_coherent, fun c r hcr => absurd hcr List.not_mem_nil⟩
  refine trace_keeps (I := fun w => w.toRegistries.Plain) ?_ es {} xs hempty h hnamed
  intro w e r w' hw hstep hnamed
  suffices hplain : w'.toRegistries.Plain from ⟨hplain, hplain.coherent⟩
  cases e with
  | apply cluster =>
    cases hstep
    exact hw
  | delete name =>
    cases hstep
    exact hw
  | addNode node =>
    cases hstep
    unfold ClusterWorld.addNode
    split
    · exact hw
    · exact hw
  | removeNode name =>
    cases hstep
    exact hw
  | reconcile name calls =>
    cases hstep
    have hreconciled := reconcile_registries calls name w.toClusterState
    split
    next hok =>
      rw [hok] at hreconciled
      rcases hreconciled with hkept | ⟨cluster, hmem, cluster', hname, hactual, hreconciled⟩
      · show Registries.Plain _
        rw [hkept]
        exact hw
      · refine hreconciled.plain hw ?_
        rw [hname, hactual]
        exact hnamed cluster hmem
    -- after a panic the registries are made anew
    · exact hempty

theorem eponymousCluster_coherent :
    ∃ xs, trace ClusterWorld.step {} (clusterLife eponymousCluster) = .ok xs ∧
      ∀ x ∈ xs, x.after.toRegistries.Coherent := by
  have hxs : trace ClusterWorld.step {} (clusterLife eponymousCluster) = .ok _ := rfl
  exact ⟨_, hxs, trace_registries_coherent _ _ hxs (by decide)⟩

end Kosmos.Tree
