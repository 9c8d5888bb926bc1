import Kosmos.Controllers.IPPool
import Kosmos.Go.Trace
import Kosmos.Manager.Network

/-!
# The pool controller: `Reconcile` and `syncIPPool`

The CIDRs of the *other* clusters become external IP pools of the local one.

A `range` over a set is in any order, chosen anew for each reconcile.
-/

namespace Kosmos.Controllers

open Kosmos.Go Kosmos.Api
open Kosmos.Manager (intersect)

/-! ## The clients -/

structure IPPoolClient (σ : Type) where
  listIPPools : σ → Outcome (List ExternalClusterIPPool × List String)
  deleteIPPool : List ExternalClusterIPPool → σ → Option (List String) × σ
  createOrUpdateCalicoIPPool : List ExternalClusterIPPool → σ → Option (List String) × σ

structure PoolCalls where
  list : Option String := none
  delete : String → Option String := fun _ => none
  create : String → Option String := fun _ => none
  get : String → Option String := fun _ => none
  update : String → Option String := fun _ => none
  calicoClient : Option String := none
  range : List ExternalClusterIPPool → List ExternalClusterIPPool := id
  range_perm : ∀ l, (range l).Perm l := by exact fun l => List.Perm.refl l

def hasPool (pools : List IPPool) (name : String) : Bool := pools.any fun p => p.name = name

def deletePool (calls : PoolCalls) (name : String) (pools : List IPPool) :
    DeleteOutcome × List IPPool :=
  match calls.delete name with
  | some err => (.failed err, pools)
  | none =>
    if hasPool pools name then (.deleted, pools.filter fun p => p.name ≠ name)
    else (.doesNotExist (name ++ " not found"), pools)

def deletePools (calls : PoolCalls) :
    List ExternalClusterIPPool → List IPPool → List DeleteOutcome × List IPPool
  | [], pools => ([], pools)
  | ipPool :: rest, pools =>
    let (outcome, pools) := deletePool calls ipPool.poolName pools
    let (outcomes, pools) := deletePools calls rest pools
    (outcome :: outcomes, pools)

def ExternalClusterIPPool.manifest (p : ExternalClusterIPPool) : IPPool where
  name := p.poolName
  cidr := p.ipPool
  disabled := true

def KubernetesBackend.createOrUpdate (calls : PoolCalls) (ipPool : ExternalClusterIPPool)
    (pools : List IPPool) : Option String × List IPPool :=
  match calls.create ipPool.poolName with
  | some err => (some err, pools)
  | none =>
    if hasPool pools ipPool.poolName then (none, pools)
    else
      let pools := pools ++ [ipPool.manifest]
      match calls.get ipPool.poolName with
      | some err => (some err, pools)
      | none => (calls.update ipPool.poolName, pools)

def EtcdBackend.createOrUpdate (calls : PoolCalls) (ipPool : ExternalClusterIPPool)
    (pools : List IPPool) : Option String × List IPPool :=
  if (calls.get ipPool.poolName).isNone && hasPool pools ipPool.poolName then
    match calls.update ipPool.poolName with
    | some err => (some err, pools)
    | none => (none, pools.map fun p => if p.name = ipPool.poolName then ipPool.manifest else p)
  else
    match calls.create ipPool.poolName with
    | some err => (some err, pools)
    | none =>
      if hasPool pools ipPool.poolName then
        (some ("resource already exists: " ++ ipPool.poolName), pools)
      else (none, pools ++ [ipPool.manifest])

def createOrUpdatePools (turn : ExternalClusterIPPool → List IPPool → Option String × List IPPool) :
    List ExternalClusterIPPool → List IPPool → List String × List IPPool
  | [], pools => ([], pools)
  | ipPool :: rest, pools =>
    let (err, pools) := turn ipPool pools
    let (errs, pools) := createOrUpdatePools turn rest pools
    (err.toList ++ errs, pools)

def kubernetesBackend (calls : PoolCalls) : IPPoolClient (List IPPool) where
  listIPPools pools := KubernetesBackend.listIPPools
    (match calls.list with
    | some err => .error err
    | none => .ok (pools.map IPPool.unstructured))
  deleteIPPool ipPools pools :=
    let (outcomes, pools) := deletePools calls ipPools pools
    (newAggregate (outcomes.filterMap KubernetesBackend.deleteError), pools)
  createOrUpdateCalicoIPPool ipPools pools :=
    let (errs, pools) := createOrUpdatePools (KubernetesBackend.createOrUpdate calls) ipPools pools
    (newAggregate errs, pools)

def etcdBackend (calls : PoolCalls) : IPPoolClient (List IPPool) where
  listIPPools pools := EtcdBackend.listIPPools
    (match calls.list with
    | some err => .error err
    | none => .ok pools)
  deleteIPPool ipPools pools :=
    let (outcomes, pools) := deletePools calls ipPools pools
    (newAggregate (outcomes.filterMap EtcdBackend.deleteError), pools)
  createOrUpdateCalicoIPPool ipPools pools :=
    let (errs, pools) := createOrUpdatePools (EtcdBackend.createOrUpdate calls) ipPools pools
    (newAggregate errs, pools)

/-! ## `syncIPPool` -/

def overlaps (currentClusterName : String) (ippools : List String) (g : ExternalClusterIPPool) :
    Bool :=
  g.cluster != currentClusterName && ippools.any fun p => intersect g.ipPool p

def syncIPPool {σ : Type} (range : List ExternalClusterIPPool → List ExternalClusterIPPool)
    (currentClusterName : String) (globalExtIPPoolSet : List ExternalClusterIPPool)
    (client : IPPoolClient σ) (s : σ) :
    Outcome (Option (List String) × List ExternalClusterIPPool × σ) :=
  match client.listIPPools s with
  | .error (.panic p) => .error (.panic p)
  | .error (.err err) => .ok (some [err], globalExtIPPoolSet, s)
  | .ok (extIPPools, ippools) =>
    let globalExtIPPoolSet := globalExtIPPoolSet.filter fun g =>
      !overlaps currentClusterName ippools g
    let modifyIPPool := (range globalExtIPPoolSet).filter fun pool =>
      pool.cluster != currentClusterName
    let deleteIPPool := extIPPools.filter fun pool => pool ∉ globalExtIPPoolSet
    match client.deleteIPPool deleteIPPool s with
    | (some errs, s) => .ok (some errs, globalExtIPPoolSet, s)
    | (none, s) =>
      let (errs, s) := client.createOrUpdateCalicoIPPool modifyIPPool s
      .ok (errs, globalExtIPPoolSet, s)

/-! ## `Reconcile` -/

structure PoolOptions where
  cni : String
  globalCIDRsMap : GoMap String String

structure PoolCluster where
  name : String
  dataStoreType : String
  clusterLinkOptions : Option PoolOptions
  podCIDRs : List String
  serviceCIDRs : List String

def etcdV3 : String := "etcdv3"

def cniTypeCalico : String := "calico"

def checkIsEtcd (cluster : PoolCluster) : Bool := cluster.dataStoreType == etcdV3

inductive Backend where
  | kubernetes
  | etcd
  deriving DecidableEq

def Backend.client : Backend → PoolCalls → IPPoolClient (List IPPool)
  | .kubernetes => kubernetesBackend
  | .etcd => etcdBackend

structure PoolController where
  clusterName : String
  globalExtIPPoolSet : List ExternalClusterIPPool := []
  iPPoolClient : Option Backend := none

def getCIDR (cidr : String) (cidrMap : GoMap String String) : String :=
  (cidrMap.get? cidr).getD cidr

def PoolCluster.extIPPools (cluster : PoolCluster) (options : PoolOptions) :
    List ExternalClusterIPPool :=
  (cluster.podCIDRs.map fun cidr =>
    ⟨cluster.name, podIPType, getCIDR cidr options.globalCIDRsMap⟩) ++
  cluster.serviceCIDRs.map fun cidr =>
    ⟨cluster.name, serviceIPType, getCIDR cidr options.globalCIDRsMap⟩

def createIPPoolClient (calls : PoolCalls) (cluster : PoolCluster) : Except String Backend :=
  if checkIsEtcd cluster then
    match calls.calicoClient with
    | some err => .error err
    | none => .ok .etcd
  else .ok .kubernetes

namespace PoolController

def chooseClient (c : PoolController) (calls : PoolCalls) (cluster : PoolCluster) :
    Except String (Option Backend) :=
  match c.iPPoolClient with
  | some b => .ok (some b)
  | none =>
    if cluster.name = c.clusterName then
      match createIPPoolClient calls cluster with
      | .error err => .error err
      | .ok b => .ok (some b)
    else .ok none

def skips (c : PoolController) (cluster : PoolCluster) : Outcome Bool :=
  if cluster.name = c.clusterName then do
    let options ← deref cluster.clusterLinkOptions
    pure (options.cni != cniTypeCalico)
  else pure false

def reconcile (c : PoolController) (calls : PoolCalls) (clusters : List PoolCluster)
    (name : String) (pools : List IPPool) :
    Outcome (Option (List String) × PoolController × List IPPool) :=
  match clusters.find? fun k => k.name = name with
  -- not found: the set keeps what it has
  | none => .ok (none, c, pools)
  | some cluster => do
    let skip ← c.skips cluster
    if skip then pure (none, c, pools)
    else do
      let options ← deref cluster.clusterLinkOptions
      let globalExtIPPoolSet := insertAll (c.globalExtIPPoolSet.filter fun ipPool =>
        ipPool.cluster ≠ cluster.name) (cluster.extIPPools options)
      match c.chooseClient calls cluster with
      | .error err => pure (some [err], { c with globalExtIPPoolSet }, pools)
      | .ok none => pure (none, { c with globalExtIPPoolSet }, pools)
      | .ok (some b) =>
        let (err, globalExtIPPoolSet, pools) ←
          syncIPPool calls.range c.clusterName globalExtIPPoolSet (b.client calls) pools
        pure (err, { c with globalExtIPPoolSet, iPPoolClient := some b }, pools)

end PoolController

/-! ## Runs -/

structure PoolWorld where
  clusters : List PoolCluster := []
  controller : PoolController
  pools : List IPPool := []

inductive PoolEvent where
  | apply (cluster : PoolCluster) (calls : PoolCalls)
  | delete (name : String) (calls : PoolCalls)
  | again (name : String) (calls : PoolCalls)
  | ownPools (pools : List IPPool)

namespace PoolEvent

def change (w : PoolWorld) : PoolEvent → PoolWorld
  | .apply cluster _ =>
    { w with clusters := cluster :: w.clusters.filter fun k => k.name ≠ cluster.name }
  | .delete name _ => { w with clusters := w.clusters.filter fun k => k.name ≠ name }
  | .again _ _ => w
  | .ownPools pools =>
    { w with pools := (w.pools.filter fun p => External p.name) ++
        pools.filter fun p => ¬ External p.name }

def reconciled : PoolEvent → Option (String × PoolCalls)
  | .apply cluster calls => some (cluster.name, calls)
  | .delete name calls => some (name, calls)
  | .again name calls => some (name, calls)
  | .ownPools _ => none

end PoolEvent

def PoolWorld.step (w : PoolWorld) (e : PoolEvent) :
    Outcome (Option (Option (List String)) × PoolWorld) :=
  match e.reconciled with
  | none => pure (none, e.change w)
  | some (name, calls) => do
    let (err, controller, pools) ←
      w.controller.reconcile calls (e.change w).clusters name (e.change w).pools
    pure (some err, { e.change w with controller, pools })

/-! ## What is wanted -/

def PoolCluster.published (k : PoolCluster) : List ExternalClusterIPPool :=
  (k.clusterLinkOptions.map k.extIPPools).getD []

theorem cluster_eq_of_published {k : PoolCluster} {g : ExternalClusterIPPool}
    (h : g ∈ k.published) : g.cluster = k.name := by
  unfold PoolCluster.published at h
  cases ho : k.clusterLinkOptions with
  | none =>
    rw [ho] at h
    cases h
  | some options =>
    rw [ho] at h
    rcases List.mem_append.mp h with hg | hg
    · obtain ⟨cidr, -, rfl⟩ := List.mem_map.mp hg
      rfl
    · obtain ⟨cidr, -, rfl⟩ := List.mem_map.mp hg
      rfl

/-- The pool overlaps one of the local cluster's own. -/
def Overlapped (pools : List IPPool) (g : ExternalClusterIPPool) : Prop :=
  ∃ p ∈ pools, ¬ External p.name ∧ intersect g.ipPool p.cidr = true

instance (pools : List IPPool) (g : ExternalClusterIPPool) : Decidable (Overlapped pools g) :=
  inferInstanceAs (Decidable (∃ p ∈ pools, ¬ External p.name ∧ intersect g.ipPool p.cidr = true))

/-- Published by another cluster, and overlapped by no own pool. -/
def PoolWorld.Wanted (w : PoolWorld) (g : ExternalClusterIPPool) : Prop :=
  (∃ k ∈ w.clusters, k.name ≠ w.controller.clusterName ∧ g ∈ k.published) ∧ ¬ Overlapped w.pools g

/-- The external pools are exactly the wanted ones. -/
def PoolWorld.PoolsExact (w : PoolWorld) : Prop :=
  ∀ name cidr, (∃ p ∈ w.pools, External p.name ∧ p.name = name ∧ p.cidr = cidr) ↔
    ∃ g, w.Wanted g ∧ g.poolName = name ∧ g.ipPool = cidr

/-- The name of the pool gives its cluster and its type back. -/
structure ExternalClusterIPPool.Decodes (g : ExternalClusterIPPool) : Prop where
  ipType : getIPType g.poolName = g.ipType
  cluster : getClusterName g.poolName (getIPType g.poolName) = .ok g.cluster

instance (g : ExternalClusterIPPool) : Decidable g.Decodes :=
  decidable_of_iff (getIPType g.poolName = g.ipType ∧
      getClusterName g.poolName (getIPType g.poolName) = .ok g.cluster)
    ⟨fun h => ⟨h.1, h.2⟩, fun h => ⟨h.ipType, h.cluster⟩⟩

/-- What a reconcile must find, for its outcome to be that of the present. -/
structure PoolWorld.Safe (w : PoolWorld) (name : String) : Prop where
  found : ∃ k ∈ w.clusters, k.name = name
  calico : ∀ k ∈ w.clusters, k.name = w.controller.clusterName → checkIsEtcd k = false ∧
    ∀ options ∈ k.clusterLinkOptions, options.cni = cniTypeCalico
  kept : ∀ k ∈ w.clusters, k.name ≠ w.controller.clusterName → k.name ≠ name →
    ∀ g ∈ k.published, g ∈ w.controller.globalExtIPPoolSet ∨ Overlapped w.pools g
  decodes : ∀ k ∈ w.clusters, k.name ≠ w.controller.clusterName → ∀ g ∈ k.published, g.Decodes
  injective : ∀ k ∈ w.clusters, ∀ k' ∈ w.clusters, k.name ≠ w.controller.clusterName →
    k'.name ≠ w.controller.clusterName → ∀ g ∈ k.published, ∀ g' ∈ k'.published,
    g.poolName = g'.poolName → g = g'

/-- Every reconcile of the event finds what it must. -/
def PoolEvent.Safe (w : PoolWorld) (e : PoolEvent) : Prop :=
  ∀ r ∈ e.reconciled, (e.change w).Safe r.1

/-- The external pools are such as the controller makes. -/
def Canonical (clusterName : String) (pools : List IPPool) : Prop :=
  ∀ p ∈ pools, External p.name →
    ∃ g : ExternalClusterIPPool, g.cluster ≠ clusterName ∧ g.Decodes ∧ g.poolName = p.name ∧
      g.ipPool = p.cidr

variable {calls : PoolCalls} {clusterName : String} {pools pools' : List IPPool}
  {ipPools : List ExternalClusterIPPool}

theorem newAggregate_eq_none {errs : List String} (h : newAggregate errs = none) : errs = [] := by
  cases errs with
  | nil => rfl
  | cons err errs => cases h

theorem listIPPools_canonical (hcan : Canonical clusterName pools) :
    ∃ extIPPools ippools,
      KubernetesBackend.listIPPools (.ok (pools.map IPPool.unstructured)) =
        .ok (extIPPools, ippools) ∧
      (∀ p ∈ pools, External p.name → ∃ g ∈ extIPPools, g.poolName = p.name ∧
        g.ipPool = p.cidr ∧ g.cluster ≠ clusterName) ∧
      ∀ g : ExternalClusterIPPool,
        (ippools.any fun cidr => intersect g.ipPool cidr) = true ↔ Overlapped pools g := by
  -- the cluster name a pool gives
  let cluster (p : IPPool) : String := (getClusterName p.name (getIPType p.name)).toOption.getD ""
  have hcluster : ∀ p ∈ pools, External p.name →
      getClusterName p.name (getIPType p.name) = .ok (cluster p) := by
    intro p hp hext
    obtain ⟨g, -, hdec, hname, -⟩ := hcan p hp hext
    have hc := hdec.cluster
    rw [hname] at hc
    simp [cluster, hc, Except.toOption]
  refine ⟨_, _, KubernetesBackend.listIPPools_ok hcluster, ?_, ?_⟩
  · intro p hp hext
    obtain ⟨g, hne, hdec, hname, hcidr⟩ := hcan p hp hext
    have hc := hdec.cluster
    have ht := hdec.ipType
    rw [hname] at hc ht
    refine ⟨g, ?_, hname, hcidr, hne⟩
    refine List.mem_map.mpr ⟨p, List.mem_filter.mpr ⟨hp, decide_eq_true hext⟩, ?_⟩
    rw [Except.ok.inj ((hcluster p hp hext).symm.trans hc), ht, ← hcidr]
  · intro g
    simp only [List.any_eq_true, List.mem_map, List.mem_filter, decide_eq_true_eq, Overlapped]
    constructor
    · intro ⟨cidr, ⟨p, ⟨hp, hown⟩, hcidr⟩, hint⟩
      exact ⟨p, hp, hown, by rw [hcidr]; exact hint⟩
    · intro ⟨p, hp, hown, hint⟩
      exact ⟨p.cidr, ⟨p, ⟨hp, hown⟩, rfl⟩, hint⟩

theorem deletePool_sublist (calls : PoolCalls) (name : String) (pools : List IPPool) :
    (deletePool calls name pools).2.Sublist pools := by
  unfold deletePool
  split
  · exact List.Sublist.refl _
  · split
    · exact List.filter_sublist
    · exact List.Sublist.refl _

theorem mem_deletePool {name : String} {p : IPPool}
    (h : KubernetesBackend.deleteError (deletePool calls name pools).1 = none) :
    p ∈ (deletePool calls name pools).2 ↔ p ∈ pools ∧ p.name ≠ name := by
  unfold deletePool at h ⊢
  split
  next err herr =>
    rw [herr] at h
    cases h
  · split
    · simp
    next hno =>
      have hall : ∀ q ∈ pools, q.name ≠ name := by simpa [hasPool] using hno
      exact ⟨fun hp => ⟨hp, hall p hp⟩, And.left⟩

theorem deletePools_mem :
    ∀ (ipPools : List ExternalClusterIPPool) (pools : List IPPool) (p : IPPool),
      p ∈ (deletePools calls ipPools pools).2 → p ∈ pools := by
  intro ipPools
  induction ipPools with
  | nil => intro pools p hp; exact hp
  | cons ipPool rest ih =>
    intro pools p hp
    exact (deletePool_sublist calls ipPool.poolName pools).subset (ih _ p hp)

theorem mem_deletePools :
    ∀ (ipPools : List ExternalClusterIPPool) (pools : List IPPool) (p : IPPool),
      (deletePools calls ipPools pools).1.filterMap KubernetesBackend.deleteError = [] →
      (p ∈ (deletePools calls ipPools pools).2 ↔
        p ∈ pools ∧ ∀ g ∈ ipPools, p.name ≠ g.poolName) := by
  intro ipPools
  induction ipPools with
  | nil => intro pools p _; simp [deletePools]
  | cons ipPool rest ih =>
    intro pools p h
    rw [deletePools, List.filterMap_cons] at h
    split at h
    next hnone =>
      rw [deletePools, ih _ p h, mem_deletePool hnone, List.forall_mem_cons, and_assoc]
    · cases h

theorem createOrUpdate_spec (calls : PoolCalls) (g : ExternalClusterIPPool) (pools : List IPPool) :
    (∀ p, p ∈ (KubernetesBackend.createOrUpdate calls g pools).2 → p ∈ pools ∨ p = g.manifest) ∧
    (∀ p ∈ pools, p ∈ (KubernetesBackend.createOrUpdate calls g pools).2) ∧
    ((KubernetesBackend.createOrUpdate calls g pools).1 = none →
      ∃ p ∈ (KubernetesBackend.createOrUpdate calls g pools).2, p.name = g.poolName) := by
  have hadd : (∀ p, p ∈ pools ++ [g.manifest] → p ∈ pools ∨ p = g.manifest) ∧
      (∀ p ∈ pools, p ∈ pools ++ [g.manifest]) ∧
      ∃ p ∈ pools ++ [g.manifest], p.name = g.poolName := by
    refine ⟨?_, fun p hp => List.mem_append_left _ hp, g.manifest, ?_, rfl⟩
    · intro p hp
      simpa using hp
    · simp
  unfold KubernetesBackend.createOrUpdate
  split
  · exact ⟨fun p hp => Or.inl hp, fun p hp => hp, fun h => by cases h⟩
  · split
    next hhas =>
      refine ⟨fun p hp => Or.inl hp, fun p hp => hp, fun _ => ?_⟩
      simpa [hasPool] using hhas
    · split
      · exact ⟨hadd.1, hadd.2.1, fun h => by cases h⟩
      · exact ⟨hadd.1, hadd.2.1, fun _ => hadd.2.2⟩

theorem createOrUpdatePools_spec (calls : PoolCalls) :
    ∀ (ipPools : List ExternalClusterIPPool) (pools : List IPPool),
      let r := createOrUpdatePools (KubernetesBackend.createOrUpdate calls) ipPools pools
      (∀ p ∈ r.2, p ∈ pools ∨ ∃ g ∈ ipPools, p = g.manifest) ∧
      (∀ p ∈ pools, p ∈ r.2) ∧
      (r.1 = [] → ∀ g ∈ ipPools, ∃ p ∈ r.2, p.name = g.poolName) := by
  intro ipPools
  induction ipPools with
  | nil =>
    intro pools
    refine ⟨fun p hp => Or.inl hp, fun p hp => hp, fun _ g hg => ?_⟩
    cases hg
  | cons g rest ih =>
    intro pools
    obtain ⟨hnew, hold, hhas⟩ := createOrUpdate_spec calls g pools
    obtain ⟨ihnew, ihold, ihhas⟩ := ih (KubernetesBackend.createOrUpdate calls g pools).2
    refine ⟨?_, fun p hp => ihold p (hold p hp), ?_⟩
    · intro p hp
      rcases ihnew p hp with hp | ⟨g', hg', hp⟩
      · rcases hnew p hp with hp | hp
        · exact Or.inl hp
        · exact Or.inr ⟨g, List.mem_cons_self .., hp⟩
      · exact Or.inr ⟨g', List.mem_cons_of_mem _ hg', hp⟩
    · intro herrs
      obtain ⟨herr, herrs⟩ := List.append_eq_nil_iff.mp herrs
      rw [List.forall_mem_cons]
      refine ⟨?_, ihhas herrs⟩
      obtain ⟨p, hp, hname⟩ := hhas (Option.toList_eq_nil_iff.mp herr)
      exact ⟨p, ihold p hp, hname⟩

variable {set set' : List ExternalClusterIPPool}

/-- A sync only shrinks the set, makes only its pools, and leaves the own pools alone. -/
structure Syncs (clusterName : String) (set set' : List ExternalClusterIPPool)
    (pools pools' : List IPPool) : Prop where
  subset : ∀ g ∈ set', g ∈ set
  own : ∀ p, ¬ External p.name → (p ∈ pools' ↔ p ∈ pools)
  new : ∀ p ∈ pools', p ∈ pools ∨ ∃ g ∈ set, g.cluster ≠ clusterName ∧ p = g.manifest

structure Synced (clusterName : String) (set set' : List ExternalClusterIPPool)
    (pools pools' : List IPPool) : Prop where
  mem : ∀ g, g ∈ set' ↔ g ∈ set ∧ (g.cluster = clusterName ∨ ¬ Overlapped pools g)
  pools : ∀ p ∈ pools', External p.name →
    ∃ g ∈ set', g.cluster ≠ clusterName ∧ g.poolName = p.name ∧ g.ipPool = p.cidr
  made : ∀ g ∈ set', g.cluster ≠ clusterName → ∃ p ∈ pools', p.name = g.poolName

theorem mem_deletePool_of_ne {name : String} {p : IPPool} (hne : p.name ≠ name) (hp : p ∈ pools) :
    p ∈ (deletePool calls name pools).2 := by
  unfold deletePool
  split
  · exact hp
  · split
    · simpa [hne] using hp
    · exact hp

theorem deletePools_own {p : IPPool} (hown : ¬ External p.name) :
    ∀ (ipPools : List ExternalClusterIPPool) (pools : List IPPool), p ∈ pools →
      p ∈ (deletePools calls ipPools pools).2 := by
  intro ipPools
  induction ipPools with
  | nil => intro pools hp; exact hp
  | cons ipPool rest ih =>
    intro pools hp
    have hne : p.name ≠ ipPool.poolName := by
      intro heq
      rw [heq] at hown
      exact hown (external_poolName ipPool)
    exact ih _ (mem_deletePool_of_ne hne hp)

theorem Syncs.refl (clusterName : String) (set : List ExternalClusterIPPool) (pools : List IPPool) :
    Syncs clusterName set set pools pools :=
  ⟨fun _ hg => hg, fun _ _ => Iff.rfl, fun _ hp => Or.inl hp⟩

theorem Syncs.delete (calls : PoolCalls) (clusterName : String)
    (ipPools : List ExternalClusterIPPool) (pools : List IPPool) (hsubset : ∀ g ∈ set', g ∈ set) :
    Syncs clusterName set set' pools (deletePools calls ipPools pools).2 where
  subset := hsubset
  own p hown := ⟨deletePools_mem ipPools pools p, deletePools_own hown ipPools pools⟩
  new p hp := Or.inl (deletePools_mem ipPools pools p hp)

theorem Syncs.create (h : Syncs clusterName set set' pools pools') (calls : PoolCalls)
    (hipPools : ∀ g ∈ ipPools, g ∈ set' ∧ g.cluster ≠ clusterName) :
    Syncs clusterName set set' pools
      (createOrUpdatePools (KubernetesBackend.createOrUpdate calls) ipPools pools').2 := by
  obtain ⟨hnew, hold, -⟩ := createOrUpdatePools_spec calls ipPools pools'
  refine ⟨h.subset, ?_, ?_⟩
  · intro p hown
    rw [← h.own p hown]
    refine ⟨fun hp => ?_, hold p⟩
    rcases hnew p hp with hp | ⟨g, -, rfl⟩
    · exact hp
    · exact absurd (external_poolName g) hown
  · intro p hp
    rcases hnew p hp with hp | ⟨g, hg, hp⟩
    · exact h.new p hp
    · obtain ⟨hg, hc⟩ := hipPools g hg
      exact Or.inr ⟨g, h.subset g hg, hc, hp⟩

theorem syncIPPool_kubernetes (calls : PoolCalls) (set : List ExternalClusterIPPool)
    (hcan : Canonical clusterName pools) :
    ∃ err set' pools',
      syncIPPool calls.range clusterName set (kubernetesBackend calls) pools =
        .ok (err, set', pools') ∧
      Syncs clusterName set set' pools pools' ∧
      (err = none → Synced clusterName set set' pools pools') := by
  obtain ⟨extIPPools, ippools, hlist, hext, hoverlap⟩ := listIPPools_canonical hcan
  unfold syncIPPool kubernetesBackend
  cases hcall : calls.list with
  | some err => exact ⟨some [err], set, pools, rfl, Syncs.refl .., nofun⟩
  | none =>
    simp only [hlist]
    generalize hset : (set.filter fun g => !overlaps clusterName ippools g) = set'
    generalize hmodify :
      (calls.range set').filter (fun pool => pool.cluster != clusterName) = modify
    generalize hdelete : (extIPPools.filter fun pool => pool ∉ set') = delete
    have hmemset : ∀ g, g ∈ set' ↔ g ∈ set ∧ (g.cluster = clusterName ∨ ¬ Overlapped pools g) := by
      intro g
      rw [← hset, List.mem_filter, ← hoverlap g, overlaps]
      by_cases hc : g.cluster = clusterName <;> simp [hc]
    have hmemmodify : ∀ g, g ∈ modify ↔ g ∈ set' ∧ g.cluster ≠ clusterName := by
      intro g
      rw [← hmodify, List.mem_filter, (calls.range_perm set').mem_iff]
      simp
    have hdeletes : Syncs clusterName set set' pools (deletePools calls delete pools).2 :=
      Syncs.delete calls clusterName delete pools fun g hg => ((hmemset g).mp hg).1
    cases herrs : newAggregate
        ((deletePools calls delete pools).1.filterMap KubernetesBackend.deleteError) with
    | some errs => exact ⟨some errs, set', _, rfl, hdeletes, nofun⟩
    | none =>
      refine ⟨_, set', _, rfl, hdeletes.create calls fun g => (hmemmodify g).mp, ?_⟩
      intro hnone
      obtain ⟨hnew, -, hmade⟩ :=
        createOrUpdatePools_spec calls modify (deletePools calls delete pools).2
      refine ⟨hmemset, ?_, ?_⟩
      · intro p hp hpext
        rcases hnew p hp with hp | ⟨g, hg, rfl⟩
        · -- a pool that was there before is not one of those to delete
          obtain ⟨hp, hkeep⟩ := (mem_deletePools delete pools p (newAggregate_eq_none herrs)).mp hp
          obtain ⟨g, hg, hname, hcidr, hc⟩ := hext p hp hpext
          refine ⟨g, ?_, hc, hname, hcidr⟩
          by_contra hgset
          refine hkeep g ?_ hname.symm
          rw [← hdelete]
          exact List.mem_filter.mpr ⟨hg, decide_eq_true hgset⟩
        · obtain ⟨hg, hc⟩ := (hmemmodify g).mp hg
          exact ⟨g, hg, hc, rfl, rfl⟩
      · intro g hg hc
        exact hmade (newAggregate_eq_none hnone) g ((hmemmodify g).mpr ⟨hg, hc⟩)

/-- What holds between the events of a run. -/
structure PoolWorld.Inv (w : PoolWorld) : Prop where
  distinct : (w.clusters.map PoolCluster.name).Nodup
  known : ∀ g ∈ w.controller.globalExtIPPoolSet, ∃ k ∈ w.clusters, g ∈ k.published
  client : w.controller.iPPoolClient ≠ some .etcd
  canonical : Canonical w.controller.clusterName w.pools

structure PoolWorld.Ready (w : PoolWorld) (name : String) : Prop where
  distinct : (w.clusters.map PoolCluster.name).Nodup
  known : ∀ g ∈ w.controller.globalExtIPPoolSet, g.cluster ≠ name →
    ∃ k ∈ w.clusters, g ∈ k.published
  client : w.controller.iPPoolClient ≠ some .etcd
  canonical : Canonical w.controller.clusterName w.pools

variable {w : PoolWorld} {name : String}

theorem Canonical.of_syncs (h : Syncs clusterName set set' pools pools')
    (hcan : Canonical clusterName pools)
    (hdec : ∀ g ∈ set, g.cluster ≠ clusterName → g.Decodes) : Canonical clusterName pools' := by
  intro p hp hext
  rcases h.new p hp with hp | ⟨g, hg, hc, rfl⟩
  · exact hcan p hp hext
  · exact ⟨g, hc, hdec g hg hc, rfl, rfl⟩

variable {cluster : PoolCluster} {c : PoolController}

theorem PoolWorld.Safe.chooseClient (hsafe : w.Safe name)
    (hclient : w.controller.iPPoolClient ≠ some .etcd) (hmem : cluster ∈ w.clusters)
    (calls : PoolCalls) :
    (w.controller.iPPoolClient = none ∧ w.controller.chooseClient calls cluster = .ok none) ∨
      w.controller.chooseClient calls cluster = .ok (some .kubernetes) := by
  unfold PoolController.chooseClient
  cases hc : w.controller.iPPoolClient with
  | some b =>
    cases b with
    | kubernetes => exact Or.inr rfl
    | etcd => exact absurd hc hclient
  | none =>
    by_cases hlocal : cluster.name = w.controller.clusterName
    · simp [if_pos hlocal, createIPPoolClient, (hsafe.calico cluster hmem hlocal).1]
    · exact Or.inl ⟨rfl, if_neg hlocal⟩

theorem PoolWorld.Safe.skips_eq (hsafe : w.Safe name) (hmem : cluster ∈ w.clusters) {skip : Bool}
    (hskip : w.controller.skips cluster = .ok skip) : skip = false := by
  unfold PoolController.skips at hskip
  split at hskip
  next hlocal =>
    obtain ⟨options, hoptions, hskip⟩ := bind_eq_ok hskip
    cases hskip
    rw [(hsafe.calico cluster hmem hlocal).2 _ (deref_eq_ok hoptions)]
    decide
  · cases hskip
    rfl

theorem reconcile_safe (hsafe : w.Safe name) (hready : w.Ready name) {err : Option (List String)}
    (h : w.controller.reconcile calls w.clusters name w.pools = .ok (err, c, pools')) :
    c.clusterName = w.controller.clusterName ∧ c.iPPoolClient ≠ some .etcd ∧
    ∃ cluster ∈ w.clusters, cluster.name = name ∧ ∃ set,
      (∀ g, g ∈ set ↔ (g ∈ w.controller.globalExtIPPoolSet ∧ g.cluster ≠ name) ∨
        g ∈ cluster.published) ∧
      Syncs w.controller.clusterName set c.globalExtIPPoolSet w.pools pools' ∧
      (err = none → c.iPPoolClient.isSome = true →
        Synced w.controller.clusterName set c.globalExtIPPoolSet w.pools pools') := by
  unfold PoolController.reconcile at h
  split at h
  next hnone =>
    obtain ⟨k, hk, hname⟩ := hsafe.found
    exact absurd hname (find?_key_eq_none.mp hnone k hk)
  next cluster hfind =>
    obtain ⟨hmem, hname⟩ := of_find?_key hfind
    obtain ⟨skip, hskip, h⟩ := bind_eq_ok h
    rw [hsafe.skips_eq hmem hskip, if_neg (by decide)] at h
    obtain ⟨options, hoptions, h⟩ := bind_eq_ok h
    have hset : ∀ g, g ∈ insertAll (w.controller.globalExtIPPoolSet.filter fun ipPool =>
        ipPool.cluster ≠ cluster.name) (cluster.extIPPools options) ↔
        (g ∈ w.controller.globalExtIPPoolSet ∧ g.cluster ≠ name) ∨ g ∈ cluster.published := by
      intro g
      rw [mem_insertAll, mem_filter_key_ne, hname, PoolCluster.published, deref_eq_ok hoptions]
      rfl
    generalize insertAll (w.controller.globalExtIPPoolSet.filter _) _ = set at h hset
    rcases hsafe.chooseClient hready.client hmem calls with ⟨hno, hclient⟩ | hclient
    · simp only [hclient] at h
      cases h
      refine ⟨rfl, hready.client, cluster, hmem, hname, set, hset, Syncs.refl _ _ _, ?_⟩
      intro _ hsome
      rw [hno] at hsome
      cases hsome
    · simp only [hclient] at h
      obtain ⟨r, hr, h⟩ := bind_eq_ok h
      obtain ⟨err', set', pools'', hsync, hsyncs, hsynced⟩ :=
        syncIPPool_kubernetes calls set hready.canonical
      cases hsync.symm.trans hr
      cases h
      exact ⟨rfl, nofun, cluster, hmem, hname, set, hset, hsyncs, fun hnone _ => hsynced hnone⟩

theorem PoolWorld.Ready.eq_of_name (hready : w.Ready name) {k k' : PoolCluster}
    (hk : k ∈ w.clusters) (hk' : k' ∈ w.clusters) (h : k.name = k'.name) : k = k' :=
  List.inj_on_of_nodup_map hready.distinct hk hk' h

theorem wanted_iff (hsafe : w.Safe name) (hready : w.Ready name) (hmem : cluster ∈ w.clusters)
    (hname : cluster.name = name)
    (hset : ∀ g, g ∈ set ↔ (g ∈ w.controller.globalExtIPPoolSet ∧ g.cluster ≠ name) ∨ g ∈
      cluster.published) (hknown : ∀ g ∈ set, ∃ k ∈ w.clusters, g ∈ k.published)
    (hsyncs : Syncs w.controller.clusterName set set' w.pools pools')
    (hsynced : Synced w.controller.clusterName set set' w.pools pools')
    (hlocal : c.clusterName = w.controller.clusterName) (g : ExternalClusterIPPool) :
    PoolWorld.Wanted { w with controller := c, pools := pools' } g ↔
      g ∈ set' ∧ g.cluster ≠ w.controller.clusterName := by
  have hover : Overlapped pools' g ↔ Overlapped w.pools g :=
    exists_congr fun p => and_congr_left fun hp => hsyncs.own p hp.1
  rw [hsynced.mem g, PoolWorld.Wanted, hover, hlocal]
  constructor
  · intro ⟨⟨k, hk, hc, hpub⟩, hno⟩
    refine ⟨⟨(hset g).mpr ?_, Or.inr hno⟩, cluster_eq_of_published hpub ▸ hc⟩
    by_cases hkn : k.name = name
    · rw [hready.eq_of_name hk hmem (hkn.trans hname.symm)] at hpub
      exact Or.inr hpub
    · refine Or.inl ⟨?_, cluster_eq_of_published hpub ▸ hkn⟩
      exact (hsafe.kept k hk hc hkn g hpub).resolve_right hno
  · intro ⟨⟨hg, hno⟩, hc⟩
    obtain ⟨k, hk, hpub⟩ := hknown g hg
    exact ⟨⟨k, hk, cluster_eq_of_published hpub ▸ hc, hpub⟩, hno.resolve_left hc⟩

theorem reconcile_exact (hsafe : w.Safe name) (hready : w.Ready name) {err : Option (List String)}
    (h : w.controller.reconcile calls w.clusters name w.pools = .ok (err, c, pools')) :
    PoolWorld.Inv { w with controller := c, pools := pools' } ∧
      (err = none → c.iPPoolClient.isSome = true →
        PoolWorld.PoolsExact { w with controller := c, pools := pools' }) := by
  obtain ⟨hlocal, hclient, cluster, hmem, hname, set, hset, hsyncs, hsynced⟩ :=
    reconcile_safe hsafe hready h
  have hknown : ∀ g ∈ set, ∃ k ∈ w.clusters, g ∈ k.published := by
    intro g hg
    rcases (hset g).mp hg with ⟨hg, hne⟩ | hg
    · exact hready.known g hg hne
    · exact ⟨cluster, hmem, hg⟩
  have hdec : ∀ g ∈ set, g.cluster ≠ w.controller.clusterName → g.Decodes := by
    intro g hg hc
    obtain ⟨k, hk, hpub⟩ := hknown g hg
    exact hsafe.decodes k hk (cluster_eq_of_published hpub ▸ hc) g hpub
  constructor
  · refine ⟨hready.distinct, fun g hg => hknown g (hsyncs.subset g hg), hclient, ?_⟩
    show Canonical c.clusterName pools'
    rw [hlocal]
    exact hready.canonical.of_syncs hsyncs hdec
  · intro hnone hsome
    have hsynced := hsynced hnone hsome
    have hwanted := wanted_iff hsafe hready hmem hname hset hknown hsyncs hsynced hlocal
    intro nm cidr
    constructor
    · intro ⟨p, hp, hext, hpn, hpc⟩
      obtain ⟨g, hg, hc, hgn, hgc⟩ := hsynced.pools p hp hext
      exact ⟨g, (hwanted g).mpr ⟨hg, hc⟩, hgn.trans hpn, hgc.trans hpc⟩
    · intro ⟨g, hg, hgn, hgc⟩
      obtain ⟨hgset, hc⟩ := (hwanted g).mp hg
      obtain ⟨p, hp, hpn⟩ := hsynced.made g hgset hc
      have hext : External p.name := by rw [hpn]; exact external_poolName g
      obtain ⟨g', hg', hc', hgn', hgc'⟩ := hsynced.pools p hp hext
      obtain ⟨k, hk, hpub⟩ := hknown g (hsyncs.subset g hgset)
      obtain ⟨k', hk', hpub'⟩ := hknown g' (hsyncs.subset g' hg')
      have heq : g = g' := hsafe.injective k hk k' hk' (cluster_eq_of_published hpub ▸ hc)
        (cluster_eq_of_published hpub' ▸ hc') g hpub g' hpub' (hpn.symm.trans hgn'.symm)
      exact ⟨p, hp, hext, hpn.trans hgn, by rw [← hgc', ← heq, hgc]⟩

theorem PoolEvent.change_ready {e : PoolEvent} (hinv : w.Inv)
    (hrec : e.reconciled = some (name, calls)) (hsafe : (e.change w).Safe name) :
    (e.change w).Ready name := by
  cases e with
  | apply cluster calls' =>
    cases hrec
    refine ⟨?_, ?_, hinv.client, hinv.canonical⟩
    · show ((cluster :: _).map PoolCluster.name).Nodup
      rw [List.map_cons, List.nodup_cons]
      refine ⟨?_, (hinv.distinct.sublist (List.filter_sublist.map _))⟩
      simp
    · intro g hg hne
      obtain ⟨k, hk, hpub⟩ := hinv.known g hg
      refine ⟨k, List.mem_cons_of_mem _ (List.mem_filter.mpr ⟨hk, ?_⟩), hpub⟩
      exact decide_eq_true (cluster_eq_of_published hpub ▸ hne)
  | delete name' calls' =>
    cases hrec
    -- the cluster is gone
    obtain ⟨k, hk, hkn⟩ := hsafe.found
    exact absurd hkn (of_decide_eq_true (List.mem_filter.mp hk).2)
  | again name' calls' =>
    exact ⟨hinv.distinct, fun g hg _ => hinv.known g hg, hinv.client, hinv.canonical⟩
  | ownPools pools => cases hrec

/-- The pool controller over whole runs: with safe reconciles, each success leaves exactly the
wanted external pools. -/
theorem trace_poolsExact (clusterName : String) (pools : List IPPool)
    (hpools : Canonical clusterName pools) (es : List PoolEvent)
    (xs : List (Move PoolWorld PoolEvent (Option (Option (List String)))))
    (h : trace PoolWorld.step { controller := { clusterName }, pools } es = .ok xs)
    (hsafe : ∀ x ∈ xs, x.event.Safe x.before) :
    ∀ x ∈ xs, x.result = some none → x.after.controller.iPPoolClient.isSome = true →
      x.after.PoolsExact := by
  refine trace_keeps (I := PoolWorld.Inv) (A := fun x => x.event.Safe x.before) ?_ es _ xs ?_ h
    hsafe
  · intro w e r w' hinv hstep hsafe
    unfold PoolWorld.step at hstep
    cases hrec : e.reconciled with
    | none =>
      rw [hrec] at hstep
      cases hstep
      refine ⟨?_, fun hr => by cases hr⟩
      cases e with
      | ownPools pools =>
        refine ⟨hinv.distinct, hinv.known, hinv.client, ?_⟩
        intro p hp hext
        rcases List.mem_append.mp hp with hp | hp
        · exact hinv.canonical p (List.mem_filter.mp hp).1 hext
        · exact absurd hext (of_decide_eq_true (List.mem_filter.mp hp).2)
      | apply cluster calls => cases hrec
      | delete name calls => cases hrec
      | again name calls => cases hrec
    | some nc =>
      obtain ⟨name, calls⟩ := nc
      rw [hrec] at hstep
      obtain ⟨⟨err, c, pools'⟩, hreconcile, hstep⟩ := bind_eq_ok hstep
      cases hstep
      have hsafe' := hsafe (name, calls) hrec
      have hsame : (e.change w).controller = w.controller := by cases e <;> rfl
      rw [← hsame] at hreconcile
      obtain ⟨hinv', hexact⟩ :=
        reconcile_exact hsafe' (PoolEvent.change_ready hinv hrec hsafe') hreconcile
      exact ⟨hinv', fun hr => hexact (Option.some.inj hr)⟩
  · exact ⟨List.nodup_nil, fun g hg => absurd hg List.not_mem_nil, nofun, hpools⟩

def localCluster : PoolCluster where
  name := "c1"
  dataStoreType := ""
  clusterLinkOptions := some { cni := "calico", globalCIDRsMap := ⟨[], List.nodup_nil⟩ }
  podCIDRs := ["10.1.0.0/16"]
  serviceCIDRs := []

def otherCluster : PoolCluster where
  name := "c2"
  dataStoreType := ""
  clusterLinkOptions := some { cni := "flannel", globalCIDRsMap := ⟨[], List.nodup_nil⟩ }
  podCIDRs := ["10.2.0.0/16"]
  serviceCIDRs := []

def addedRun : List PoolEvent := [.apply localCluster {}, .apply otherCluster {}]

theorem addedRun_poolsExact :
    ∃ xs, trace PoolWorld.step { controller := { clusterName := "c1" }, pools := [] } addedRun =
        .ok xs ∧ (∀ x ∈ xs, x.event.Safe x.before) ∧
      ∃ x ∈ xs, x.result = some none ∧ x.after.controller.iPPoolClient.isSome = true ∧
        x.after.pools.length = 1 ∧ x.after.PoolsExact := by
  have hxs : trace PoolWorld.step { controller := { clusterName := "c1" }, pools := [] } addedRun =
    .ok _ := rfl
  have hpools : Canonical "c1" [] := fun p hp => absurd hp List.not_mem_nil
  refine ⟨_, hxs, ?safe, _, List.mem_of_getElem? (i := 1) rfl, rfl, rfl, rfl,
    trace_poolsExact "c1" [] hpools addedRun _ hxs ?safe _
      (List.mem_of_getElem? (i := 1) rfl) rfl rfl⟩
  rw [List.forall_mem_cons, List.forall_mem_singleton]
  constructor
  all_goals
    intro r hr
    cases hr
    constructor <;> decide +kernel

def deletedRun : List PoolEvent := addedRun ++ [.delete "c2" {}]

theorem deletedRun_poolStays :
    ∃ xs, trace PoolWorld.step { controller := { clusterName := "c1" }, pools := [] } deletedRun =
        .ok xs ∧
      ∃ x ∈ xs, x.result = some none ∧ x.after.controller.iPPoolClient.isSome = true ∧
        ¬ x.after.PoolsExact := by
  refine ⟨_, rfl, _, List.mem_cons_of_mem _ (List.mem_cons_of_mem _ (List.mem_cons_self ..)),
    rfl, rfl, ?_⟩
  intro h
  obtain ⟨g, ⟨⟨k, hk, hc, hg⟩, -⟩, -⟩ :=
    (h "clusterlink-c2-pod-10-2-0-0-16" "10.2.0.0/16").mp (by decide +kernel)
  -- only the local cluster is left
  cases List.mem_singleton.mp hk
  exact hc rfl

end Kosmos.Controllers
