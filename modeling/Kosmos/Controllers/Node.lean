import Kosmos.Api.Types
import Kosmos.Go.Trace

/-!
# The node controller: the mirror of the nodes in the control plane

Each node that is neither virtual nor excluded has a `ClusterNode`, over whole runs.

A request is in the queue until a reconcile of it ends without being asked to come again. The caches
are up to date.
-/

namespace Kosmos.Controllers

open Kosmos.Go Kosmos.Api

/-! ## Nodes and their mirror images -/

structure K8sNode where
  name : String
  labels : GoMap String String := .empty
  deletionTimestamp : Bool := false
  podCIDRs : List String := []

def isKosmosNode (node : K8sNode) : Bool :=
  match node.labels.get? "kosmos.io/node" with
  | none => false
  | some labelVal => labelVal == "true"

def isExcludeNode (node : K8sNode) : Bool :=
  match node.labels.get? "kosmos.io/exclude" with
  | none => false
  | some labelVal => labelVal == "true"

def predicatesFunc (node : K8sNode) : Bool := !isKosmosNode node && !isExcludeNode node

structure LabelledNode extends ClusterNode where
  cluster : Option String
  deriving DecidableEq

def clusterNodeName (clusterName nodeName : String) : String := clusterName ++ "-" ++ nodeName

/-! ## The reconciler -/

structure NodeResult where
  requeue : Bool := false
  requeueAfter : Nat := 0
  deriving DecidableEq

def NodeResult.again (r : NodeResult) : Bool := r.requeue || r.requeueAfter != 0

structure NodeCalls where
  getNode : Option String := none
  delete : Option String := none
  get : Option String := none
  create : Option String := none
  update : Option String := none

def deleteClusterNode (calls : NodeCalls) (name : String) (store : List LabelledNode) :
    List LabelledNode :=
  match calls.delete with
  | some _ => store
  | none => store.filter fun m => m.name ≠ name

def createOrUpdateClusterNode (calls : NodeCalls) (node : LabelledNode)
    (f : LabelledNode → LabelledNode) (store : List LabelledNode) :
    Option String × List LabelledNode :=
  match calls.get with
  | some err => (some err, store)
  | none =>
    match store.find? fun m => m.name = node.name with
    | none =>
      match calls.create with
      | some err => (some err, store)
      | none => (none, store ++ [f node])
    | some clusterNode =>
      match calls.update with
      | some err => (some err, store)
      | none => (none, store.map fun m => if m.name = node.name then f clusterNode else m)

def reconcileNode (clusterName : String) (calls : NodeCalls) (name : String)
    (nodes : List K8sNode) (store : List LabelledNode) : NodeResult × List LabelledNode :=
  let name' := clusterNodeName clusterName name
  match calls.getNode with
  | some _ => ({ requeueAfter := 10 }, store)
  | none =>
    match nodes.find? fun n => n.name = name with
    | none => ({}, deleteClusterNode calls name' store)
    | some node =>
      if node.deletionTimestamp then ({}, deleteClusterNode calls name' store)
      else
        let clusterNode : LabelledNode :=
          { name := name', clusterName := "", nodeName := "", podCIDRs := [], ip := "", ip6 := "",
            roles := [], interfaceName := "", cluster := some clusterName }
        match createOrUpdateClusterNode calls clusterNode
            (fun n => { n with nodeName := node.name, clusterName }) store with
        | (some _, store) => ({ requeue := true }, store)
        | (none, store) => ({}, store)

structure OrphanCalls where
  listNodes : Option String := none
  listClusterNodes : Option String := none
  delete : String → Option String := fun _ => none

def cleanOrphan (clusterName : String) (calls : OrphanCalls) (nodes : List K8sNode)
    (store : List LabelledNode) : Option (List String) × List LabelledNode :=
  match calls.listNodes, calls.listClusterNodes with
  | some err, _ => (some [err], store)
  | none, some err => (some [err], store)
  | none, none =>
    let k8sNodeNameSet := nodes.map K8sNode.name
    let orphans := store.filter fun m =>
      m.cluster = some clusterName ∧ m.nodeName ∉ k8sNodeNameSet
    let errs := orphans.filterMap fun m => calls.delete m.name
    let deleted := orphans.filter fun m => (calls.delete m.name).isNone
    (if errs = [] then none else some errs,
      store.filter fun m => m.name ∉ deleted.map fun o => o.name)

/-! ## Runs of several clusters -/

structure MirrorWorld where
  nodes : String → List K8sNode := fun _ => []
  store : List LabelledNode := []
  pending : List (String × String) := []

inductive MirrorEvent where
  | create (clusterName : String) (node : K8sNode)
  | update (clusterName : String) (node : K8sNode)
  | delete (clusterName name : String)
  | reconcile (clusterName name : String) (calls : NodeCalls)
  | cleanOrphan (clusterName : String) (calls : OrphanCalls)

namespace MirrorWorld

def enqueue (c : String) (node : K8sNode) (pending : List (String × String)) :
    List (String × String) :=
  if predicatesFunc node then pending.insert (c, node.name) else pending

def setNodes (w : MirrorWorld) (c : String) (nodes : List K8sNode) : MirrorWorld :=
  { w with nodes := Function.update w.nodes c nodes }

def create (c : String) (node : K8sNode) (w : MirrorWorld) : MirrorWorld :=
  if (w.nodes c).any fun n => n.name = node.name then w
  else { w.setNodes c (w.nodes c ++ [node]) with pending := enqueue c node w.pending }

def update (c : String) (node : K8sNode) (w : MirrorWorld) : MirrorWorld :=
  if (w.nodes c).any fun n => n.name = node.name then
    { w.setNodes c ((w.nodes c).map fun n => if n.name = node.name then node else n) with
      pending := enqueue c node w.pending }
  else w

def delete (c name : String) (w : MirrorWorld) : MirrorWorld :=
  match (w.nodes c).find? fun n => n.name = name with
  | none => w
  | some node =>
    { w.setNodes c ((w.nodes c).filter fun n => n.name ≠ name) with
      pending := enqueue c node w.pending }

def reconcile (c name : String) (calls : NodeCalls) (w : MirrorWorld) : MirrorWorld :=
  if (c, name) ∈ w.pending then
    let r := reconcileNode c calls name (w.nodes c) w.store
    { w with
      store := r.2
      pending := if r.1.again then w.pending else w.pending.filter fun q => q ≠ (c, name) }
  else w

def cleanOrphan (c : String) (calls : OrphanCalls) (w : MirrorWorld) : MirrorWorld :=
  { w with store := (Controllers.cleanOrphan c calls (w.nodes c) w.store).2 }

def step (w : MirrorWorld) : MirrorEvent → Outcome (Unit × MirrorWorld)
  | .create c node => pure ((), w.create c node)
  | .update c node => pure ((), w.update c node)
  | .delete c name => pure ((), w.delete c name)
  | .reconcile c name calls => pure ((), w.reconcile c name calls)
  | .cleanOrphan c calls => pure ((), w.cleanOrphan c calls)

/-- The node is there and stays, and is neither virtual nor excluded. -/
def Mirrored (w : MirrorWorld) (c n : String) : Prop :=
  ∃ node ∈ w.nodes c, node.name = n ∧ predicatesFunc node = true ∧ node.deletionTimestamp = false

/-- The `ClusterNode`s of a cluster are one for each node that should have one. -/
structure Mirrors (w : MirrorWorld) : Prop where
  sound : ∀ c, ∀ m ∈ w.store, m.cluster = some c → m.clusterName = c ∧ w.Mirrored c m.nodeName
  complete : ∀ c n, w.Mirrored c n →
    ∃! m, m ∈ w.store ∧ m.cluster = some c ∧ m.nodeName = n

end MirrorWorld

def MirrorEvent.actor : MirrorEvent → Option String
  | .reconcile c _ _ => some c
  | .cleanOrphan c _ => some c
  | _ => none

/-- A controller leaves the `ClusterNode`s of other clusters alone. -/
def LeavesOthers (x : Move MirrorWorld MirrorEvent Unit) : Prop :=
  ∀ c, x.event.actor = some c → ∀ m ∈ x.before.store,
    m.cluster ≠ some c ∨ m.clusterName ≠ c → m ∈ x.after.store

/-- A node that is hidden now has left no request and no object. -/
def HidesNothing (w : MirrorWorld) (c : String) (node : K8sNode) : Prop :=
  predicatesFunc node = false →
    (c, node.name) ∉ w.pending ∧ ∀ m ∈ w.store, m.cluster = some c → m.nodeName ≠ node.name

/-- An object that has the name for the node is the node's own. -/
def OwnName (w : MirrorWorld) (c name : String) : Prop :=
  ∀ m ∈ w.store, m.name = clusterNodeName c name → m.cluster = some c ∧ m.nodeName = name

def MirrorEvent.Safe (w : MirrorWorld) : MirrorEvent → Prop
  | .create c node => HidesNothing w c node
  | .update c node => HidesNothing w c node
  | .delete _ _ => True
  | .reconcile c name calls =>
    OwnName w c name ∧
      (calls.delete = none ∨ ∀ m ∈ w.store, m.name ≠ clusterNodeName c name)
  | .cleanOrphan _ _ => True

instance (w : MirrorWorld) (c : String) (node : K8sNode) : Decidable (HidesNothing w c node) :=
  inferInstanceAs (Decidable (_ → _ ∧ _))

instance (w : MirrorWorld) (c name : String) : Decidable (OwnName w c name) :=
  inferInstanceAs (Decidable (∀ m ∈ w.store, _ → _ ∧ _))

instance (w : MirrorWorld) : (e : MirrorEvent) → Decidable (e.Safe w)
  | .create c node => inferInstanceAs (Decidable (HidesNothing w c node))
  | .update c node => inferInstanceAs (Decidable (HidesNothing w c node))
  | .delete _ _ => inferInstanceAs (Decidable True)
  | .reconcile c name _ => inferInstanceAs (Decidable (OwnName w c name ∧ (_ ∨ _)))
  | .cleanOrphan _ _ => inferInstanceAs (Decidable True)

/-! ## The invariant -/

namespace MirrorWorld

/-- The objects are mirror images, up to the requests that are queued. -/
structure Inv (w : MirrorWorld) : Prop where
  nodes : ∀ c, ((w.nodes c).map K8sNode.name).Nodup
  distinct : (w.store.map fun m => m.name).Nodup
  consistent : ∀ m ∈ w.store,
    m.cluster = some m.clusterName ∧ m.name = clusterNodeName m.clusterName m.nodeName
  mirrored : ∀ m ∈ w.store,
    w.Mirrored m.clusterName m.nodeName ∨ (m.clusterName, m.nodeName) ∈ w.pending
  present : ∀ c n, w.Mirrored c n →
    (∃ m ∈ w.store, m.clusterName = c ∧ m.nodeName = n) ∨ (c, n) ∈ w.pending
  hidden : ∀ c, ∀ node ∈ w.nodes c, predicatesFunc node = false →
    (c, node.name) ∉ w.pending ∧ ∀ m ∈ w.store, m.clusterName = c → m.nodeName ≠ node.name

variable {w : MirrorWorld} {c name : String} {node : K8sNode}

theorem Inv.mirrors (hinv : w.Inv) (hquiet : w.pending = []) : w.Mirrors := by
  have hnone : ∀ q, q ∉ w.pending := by
    intro q
    rw [hquiet]
    exact List.not_mem_nil
  constructor
  · intro c m hm hc
    obtain ⟨hlabel, -⟩ := hinv.consistent m hm
    cases Option.some.inj (hlabel.symm.trans hc)
    exact ⟨rfl, (hinv.mirrored m hm).resolve_right (hnone _)⟩
  · intro c n hn
    obtain ⟨m, hm, rfl, rfl⟩ := (hinv.present c n hn).resolve_right (hnone _)
    obtain ⟨hlabel, hname⟩ := hinv.consistent m hm
    refine ⟨m, ⟨hm, hlabel, rfl⟩, ?_⟩
    intro m' ⟨hm', hlabel', hnode'⟩
    -- both have the name of the pair
    obtain ⟨hlabel'', hname'⟩ := hinv.consistent m' hm'
    have hc := Option.some.inj (hlabel''.symm.trans hlabel')
    apply List.inj_on_of_nodup_map hinv.distinct hm' hm
    rw [hname', hname, hc, hnode']

theorem mem_enqueue {q : String × String} {pending : List (String × String)} :
    q ∈ enqueue c node pending ↔
      q ∈ pending ∨ (predicatesFunc node = true ∧ q = (c, node.name)) := by
  unfold enqueue
  by_cases h : predicatesFunc node = true
  · rw [if_pos h, List.mem_insert_iff]
    simp [h, or_comm]
  · rw [if_neg h]
    simp [h]

theorem nodes_setNodes (c c' : String) (nodes' : List K8sNode) :
    (w.setNodes c nodes').nodes c' = if c' = c then nodes' else w.nodes c' :=
  Function.update_apply ..

section Change

variable {nodes' : List K8sNode}
  (hother : ∀ n, n.name ≠ node.name → (n ∈ nodes' ↔ n ∈ w.nodes c))
  (hself : ∀ n ∈ nodes', n.name = node.name → n = node)

include hother

theorem mirrored_setNodes {c' n : String} (hne : (c', n) ≠ (c, node.name)) :
    (w.setNodes c nodes').Mirrored c' n ↔ w.Mirrored c' n := by
  unfold Mirrored
  rw [nodes_setNodes]
  split
  next hc =>
    subst hc
    have hmem : ∀ x : K8sNode, x.name = n → (x ∈ nodes' ↔ x ∈ w.nodes c') := by
      intro x hx
      exact hother x fun h => hne (by rw [← hx, h])
    exact exists_congr fun x => and_congr_left fun hx => hmem x hx.1
  · exact Iff.rfl

include hself

theorem mem_setNodes {c' : String} {x : K8sNode} (hx : x ∈ (w.setNodes c nodes').nodes c') :
    (c' = c ∧ x = node) ∨ (x ∈ w.nodes c' ∧ (c', x.name) ≠ (c, node.name)) := by
  rw [nodes_setNodes] at hx
  split at hx
  next hc =>
    subst hc
    by_cases hxn : x.name = node.name
    · exact Or.inl ⟨rfl, hself x hx hxn⟩
    · exact Or.inr ⟨(hother x hxn).mp hx, fun h => hxn (Prod.mk.inj h).2⟩
  next hc => exact Or.inr ⟨hx, fun h => hc (Prod.mk.inj h).1⟩

theorem Inv.change (hinv : w.Inv) (hnodup : (nodes'.map K8sNode.name).Nodup)
    (hhidden : HidesNothing w c node) :
    Inv { w.setNodes c nodes' with pending := enqueue c node w.pending } := by
  refine ⟨?_, hinv.distinct, hinv.consistent, ?_, ?_, ?_⟩
  · intro c'
    show (((w.setNodes c nodes').nodes c').map K8sNode.name).Nodup
    rw [nodes_setNodes]
    split
    · exact hnodup
    · exact hinv.nodes c'
  · intro m hm
    by_cases hpair : (m.clusterName, m.nodeName) = (c, node.name)
    · cases hpred : predicatesFunc node with
      | true => exact Or.inr (mem_enqueue.mpr (Or.inr ⟨hpred, hpair⟩))
      | false =>
        obtain ⟨hc, hn⟩ := Prod.mk.inj hpair
        exact absurd hn ((hhidden hpred).2 m hm (hc ▸ (hinv.consistent m hm).1))
    · rcases hinv.mirrored m hm with hm | hm
      · exact Or.inl ((mirrored_setNodes hother hpair).mpr hm)
      · exact Or.inr (mem_enqueue.mpr (Or.inl hm))
  · intro c' n hn
    by_cases hpair : (c', n) = (c, node.name)
    · cases hpair
      obtain ⟨x, hx, hxn, hpred, -⟩ := hn
      rcases mem_setNodes hother hself hx with ⟨-, rfl⟩ | ⟨-, hne⟩
      · exact Or.inr (mem_enqueue.mpr (Or.inr ⟨hpred, rfl⟩))
      · exact absurd (by rw [hxn]) hne
    · rcases hinv.present c' n ((mirrored_setNodes hother hpair).mp hn) with hm | hq
      · exact Or.inl hm
      · exact Or.inr (mem_enqueue.mpr (Or.inl hq))
  · intro c' x hx hpred
    rcases mem_setNodes hother hself hx with ⟨rfl, rfl⟩ | ⟨hx, hne⟩
    · obtain ⟨hq, hm⟩ := hhidden hpred
      constructor
      · intro hin
        rcases mem_enqueue.mp hin with hin | ⟨htrue, -⟩
        · exact hq hin
        · rw [hpred] at htrue
          cases htrue
      · intro m hmem hc
        exact hm m hmem (hc ▸ (hinv.consistent m hmem).1)
    · obtain ⟨hq, hm⟩ := hinv.hidden c' x hx hpred
      refine ⟨?_, hm⟩
      intro hin
      rcases mem_enqueue.mp hin with hin | ⟨-, heq⟩
      · exact hq hin
      · exact hne heq

end Change

end MirrorWorld

/-! ## What the controllers do -/

section Controllers

variable {w : MirrorWorld} {c name : String} {calls : NodeCalls}

inductive Reconciled (w : MirrorWorld) (c name : String) : NodeResult × List LabelledNode → Prop
  | again (r : NodeResult) : r.again = true → Reconciled w c name (r, w.store)
  | gone : ¬ w.Mirrored c name →
      Reconciled w c name ({}, w.store.filter fun m => m.name ≠ clusterNodeName c name)
  | kept (m : LabelledNode) : m ∈ w.store → m.clusterName = c → m.nodeName = name →
      w.Mirrored c name → Reconciled w c name ({}, w.store)
  | made (m : LabelledNode) : (∀ m' ∈ w.store, m'.name ≠ clusterNodeName c name) →
      m.name = clusterNodeName c name → m.cluster = some c → m.clusterName = c →
      m.nodeName = name → w.Mirrored c name → Reconciled w c name ({}, w.store ++ [m])

theorem deleteClusterNode_eq {store : List LabelledNode}
    (hdelete : calls.delete = none ∨ ∀ m ∈ store, m.name ≠ name) :
    deleteClusterNode calls name store = store.filter fun m => m.name ≠ name := by
  unfold deleteClusterNode
  rcases hdelete with hdelete | hdelete
  · rw [hdelete]
  · have hall : (store.filter fun m => m.name ≠ name) = store :=
      List.filter_eq_self.mpr fun m hm => decide_eq_true (hdelete m hm)
    rw [hall]
    split <;> rfl

theorem createOrUpdateClusterNode_cases {node : LabelledNode} {f : LabelledNode → LabelledNode}
    {store store' : List LabelledNode} {err : Option String}
    (h : createOrUpdateClusterNode calls node f store = (err, store'))
    (hdistinct : (store.map fun m => m.name).Nodup)
    (hf : ∀ m ∈ store, m.name = node.name → f m = m) :
    (err ≠ none ∧ store' = store) ∨
    (err = none ∧ store' = store ∧ ∃ m ∈ store, m.name = node.name) ∨
    (err = none ∧ store' = store ++ [f node] ∧ ∀ m ∈ store, m.name ≠ node.name) := by
  unfold createOrUpdateClusterNode at h
  split at h
  · cases h
    exact Or.inl ⟨nofun, rfl⟩
  · split at h
    next hnone =>
      split at h
      · cases h
        exact Or.inl ⟨nofun, rfl⟩
      · cases h
        exact Or.inr (Or.inr ⟨rfl, rfl, find?_key_eq_none.mp hnone⟩)
    next m hfind =>
      obtain ⟨hm, hname⟩ := of_find?_key hfind
      split at h
      · cases h
        exact Or.inl ⟨nofun, rfl⟩
      · cases h
        refine Or.inr (Or.inl ⟨rfl, ?_, m, hm, hname⟩)
        rw [hf m hm hname, ← hname, replace_self hdistinct hm]

theorem reconcileNode_reconciled (hinv : w.Inv) (hpending : (c, name) ∈ w.pending)
    (hown : OwnName w c name)
    (hdelete : calls.delete = none ∨ ∀ m ∈ w.store, m.name ≠ clusterNodeName c name) :
    Reconciled w c name (reconcileNode c calls name (w.nodes c) w.store) := by
  unfold reconcileNode
  simp only
  split
  · exact .again _ rfl
  · split
    next hnone =>
      rw [deleteClusterNode_eq hdelete]
      refine .gone ?_
      intro ⟨node, hnode, hname, _⟩
      exact find?_key_eq_none.mp hnone node hnode hname
    next node hfind =>
      obtain ⟨hnode, hname⟩ := of_find?_key hfind
      split
      next hdeleted =>
        rw [deleteClusterNode_eq hdelete]
        refine .gone ?_
        intro ⟨node', hnode', hname', _, hlives⟩
        -- there is one node of that name
        cases List.inj_on_of_nodup_map (hinv.nodes c) hnode hnode' (hname.trans hname'.symm)
        rw [hdeleted] at hlives
        cases hlives
      next hlives =>
        have hpred : predicatesFunc node = true := by
          by_contra hpred
          refine (hinv.hidden c node hnode (Bool.not_eq_true _ ▸ hpred)).1 ?_
          rw [hname]
          exact hpending
        have hmirrored : w.Mirrored c name :=
          ⟨node, hnode, hname, hpred, by simpa using hlives⟩
        have hpair : ∀ m ∈ w.store, m.name = clusterNodeName c name →
            m.clusterName = c ∧ m.nodeName = name := by
          intro m hm hmname
          obtain ⟨hlabel, hnodeName⟩ := hown m hm hmname
          exact ⟨Option.some.inj ((hinv.consistent m hm).1.symm.trans hlabel), hnodeName⟩
        have hsame : ∀ m ∈ w.store, m.name = clusterNodeName c name →
            { m with nodeName := node.name, clusterName := c } = m := by
          intro m hm hmname
          obtain ⟨hc, hn⟩ := hpair m hm hmname
          rw [hname, ← hc, ← hn]
        split
        next hr =>
          rcases createOrUpdateClusterNode_cases hr hinv.distinct hsame with
            ⟨-, rfl⟩ | ⟨herr, -⟩ | ⟨herr, -⟩
          · exact .again _ rfl
          · cases herr
          · cases herr
        next hr =>
          rcases createOrUpdateClusterNode_cases hr hinv.distinct hsame with
            ⟨herr, -⟩ | ⟨-, rfl, m, hm, hmname⟩ | ⟨-, rfl, hfree⟩
          · exact absurd rfl herr
          · obtain ⟨hc, hn⟩ := hpair m hm hmname
            exact .kept m hm hc hn hmirrored
          · exact .made _ hfree rfl rfl rfl hname hmirrored

theorem MirrorWorld.Inv.settle (hinv : w.Inv) {store' : List LabelledNode}
    (hdistinct : (store'.map fun m => m.name).Nodup)
    (hconsistent : ∀ m ∈ store',
      m.cluster = some m.clusterName ∧ m.name = clusterNodeName m.clusterName m.nodeName)
    (hother : ∀ m : LabelledNode, (m.clusterName, m.nodeName) ≠ (c, name) →
      (m ∈ store' ↔ m ∈ w.store))
    (hself : (∃ m ∈ store', m.clusterName = c ∧ m.nodeName = name) ↔ w.Mirrored c name) :
    MirrorWorld.Inv { w with
      store := store', pending := w.pending.filter fun q => q ≠ (c, name) } := by
  have hpending : ∀ q, q ∈ (w.pending.filter fun q => q ≠ (c, name)) ↔
      q ∈ w.pending ∧ q ≠ (c, name) := by
    intro q
    rw [List.mem_filter, decide_eq_true_iff]
  refine ⟨hinv.nodes, hdistinct, hconsistent, ?_, ?_, ?_⟩
  · intro m hm
    by_cases heq : (m.clusterName, m.nodeName) = (c, name)
    · obtain ⟨hc, hn⟩ := Prod.mk.inj heq
      rw [hc, hn]
      exact Or.inl (hself.mp ⟨m, hm, hc, hn⟩)
    · exact (hinv.mirrored m ((hother m heq).mp hm)).imp_right fun hq => (hpending _).mpr ⟨hq, heq⟩
  · intro c' n hmirrored
    by_cases heq : (c', n) = (c, name)
    · cases heq
      exact Or.inl (hself.mpr hmirrored)
    · rcases hinv.present c' n hmirrored with ⟨m, hm, rfl, rfl⟩ | hq
      · exact Or.inl ⟨m, (hother m heq).mpr hm, rfl, rfl⟩
      · exact Or.inr ((hpending _).mpr ⟨hq, heq⟩)
  · intro c' node hnode hpred
    obtain ⟨hq, hno⟩ := hinv.hidden c' node hnode hpred
    refine ⟨fun hin => hq ((hpending _).mp hin).1, ?_⟩
    intro m hm hc hn
    by_cases heq : (m.clusterName, m.nodeName) = (c, name)
    · -- the node is hidden, so it is not the one that is mirrored
      obtain ⟨hc', hn'⟩ := Prod.mk.inj heq
      obtain ⟨node', hnode', hname', hpred', -⟩ := hself.mp ⟨m, hm, hc', hn'⟩
      rw [← hc', hc] at hnode'
      cases List.inj_on_of_nodup_map (hinv.nodes c') hnode hnode'
        (hn.symm.trans (hn'.trans hname'.symm))
      rw [hpred] at hpred'
      cases hpred'
    · exact hno m ((hother m heq).mp hm) hc hn

theorem Reconciled.inv (hinv : w.Inv) (hown : OwnName w c name)
    {r : NodeResult × List LabelledNode} (h : Reconciled w c name r) :
    MirrorWorld.Inv { w with
      store := r.2
      pending := if r.1.again then w.pending else w.pending.filter fun q => q ≠ (c, name) } := by
  have hpair : ∀ m ∈ w.store, m.name = clusterNodeName c name ↔
      (m.clusterName, m.nodeName) = (c, name) := by
    intro m hm
    obtain ⟨hlabel, hname⟩ := hinv.consistent m hm
    constructor
    · intro h
      obtain ⟨hlabel', hn⟩ := hown m hm h
      rw [Option.some.inj (hlabel.symm.trans hlabel'), hn]
    · intro h
      rw [hname, (Prod.mk.inj h).1, (Prod.mk.inj h).2]
  cases h with
  | again r hr =>
    simp only [hr, if_true]
    exact hinv
  | gone hgone =>
    refine hinv.settle (hinv.distinct.sublist (List.filter_sublist.map _)) ?_ ?_ ?_
    · exact fun m hm => hinv.consistent m (List.mem_of_mem_filter hm)
    · intro m hne
      rw [mem_filter_key_ne]
      exact ⟨And.left, fun hm => ⟨hm, fun hname => hne ((hpair m hm).mp hname)⟩⟩
    · refine ⟨fun ⟨m, hm, hc, hn⟩ => ?_, fun h => absurd h hgone⟩
      obtain ⟨hm, hne⟩ := mem_filter_key_ne.mp hm
      exact absurd ((hpair m hm).mpr (by rw [hc, hn])) hne
  | kept m hm hc hn hmirrored =>
    exact hinv.settle hinv.distinct hinv.consistent (fun _ _ => Iff.rfl)
      ⟨fun _ => hmirrored, fun _ => ⟨m, hm, hc, hn⟩⟩
  | made m hfree hname hlabel hc hn hmirrored =>
    rw [← hname] at hfree
    refine hinv.settle (nodup_append_key hinv.distinct hfree) ?_ ?_ ?_
    · intro m' hm'
      rcases List.mem_append.mp hm' with hm' | hm'
      · exact hinv.consistent m' hm'
      · rw [List.mem_singleton.mp hm', hc, hn]
        exact ⟨hlabel, hname⟩
    · intro m' hne
      rw [List.mem_append, List.mem_singleton]
      refine or_iff_left ?_
      intro heq
      exact hne (by rw [heq, hc, hn])
    · exact ⟨fun _ => hmirrored, fun _ => ⟨m, List.mem_append_right _ (by simp), hc, hn⟩⟩

theorem Reconciled.mem (hinv : w.Inv) (hown : OwnName w c name)
    {r : NodeResult × List LabelledNode} (h : Reconciled w c name r) {m : LabelledNode}
    (hm : m ∈ w.store) (hc : m.cluster ≠ some c ∨ m.clusterName ≠ c) : m ∈ r.2 := by
  have hne : m.name ≠ clusterNodeName c name := by
    intro hname
    have hlabel := (hown m hm hname).1
    rcases hc with hc | hc
    · exact hc hlabel
    · exact hc (Option.some.inj ((hinv.consistent m hm).1.symm.trans hlabel))
  cases h with
  | again r hr => exact hm
  | gone hgone => exact mem_filter_key_ne.mpr ⟨hm, hne⟩
  | kept m' hm' hc' hn' hmirrored => exact hm
  | made m' hfree hname hlabel hc' hn' hmirrored => exact List.mem_append_left _ hm

theorem cleanOrphan_spec (hdistinct : (w.store.map fun m => m.name).Nodup) (calls : OrphanCalls) :
    (cleanOrphan c calls (w.nodes c) w.store).2.Sublist w.store ∧
    ∀ m ∈ w.store, m.cluster ≠ some c ∨ m.nodeName ∈ (w.nodes c).map K8sNode.name →
      m ∈ (cleanOrphan c calls (w.nodes c) w.store).2 := by
  unfold cleanOrphan
  split
  · exact ⟨List.Sublist.refl _, fun m hm _ => hm⟩
  · exact ⟨List.Sublist.refl _, fun m hm _ => hm⟩
  · refine ⟨List.filter_sublist, fun m hm hkeep => ?_⟩
    refine List.mem_filter.mpr ⟨hm, decide_eq_true ?_⟩
    intro hin
    obtain ⟨o, ho, hname⟩ := List.mem_map.mp hin
    obtain ⟨ho, horphan⟩ := List.mem_filter.mp (List.mem_filter.mp ho).1
    cases List.inj_on_of_nodup_map hdistinct ho hm hname
    obtain ⟨hlabel, hgone⟩ := of_decide_eq_true horphan
    rcases hkeep with hkeep | hkeep
    · exact hkeep hlabel
    · exact hgone hkeep

theorem cleanOrphan_inv (hinv : w.Inv) (calls : OrphanCalls) :
    MirrorWorld.Inv { w with store := (cleanOrphan c calls (w.nodes c) w.store).2 } := by
  obtain ⟨hsub, hkeeps⟩ := cleanOrphan_spec (c := c) hinv.distinct calls
  refine ⟨hinv.nodes, hinv.distinct.sublist (hsub.map _), ?_, ?_, ?_, ?_⟩
  · exact fun m hm => hinv.consistent m (hsub.subset hm)
  · exact fun m hm => hinv.mirrored m (hsub.subset hm)
  · intro c' n hmirrored
    rcases hinv.present c' n hmirrored with ⟨m, hm, rfl, rfl⟩ | hq
    · refine Or.inl ⟨m, hkeeps m hm ?_, rfl, rfl⟩
      by_cases hc : m.clusterName = c
      · obtain ⟨node, hnode, hname, -⟩ := hmirrored
        rw [hc] at hnode
        exact Or.inr (List.mem_map.mpr ⟨node, hnode, hname⟩)
      · rw [(hinv.consistent m hm).1]
        exact Or.inl fun h => hc (Option.some.inj h)
    · exact Or.inr hq
  · intro c' node hnode hpred
    obtain ⟨hq, hno⟩ := hinv.hidden c' node hnode hpred
    exact ⟨hq, fun m hm => hno m (hsub.subset hm)⟩

end Controllers

/-! ## Whole runs -/

namespace MirrorWorld

variable {w : MirrorWorld} {c name : String} {node : K8sNode}

theorem create_inv (hinv : w.Inv) (hhidden : HidesNothing w c node) : (w.create c node).Inv := by
  unfold create
  split
  · exact hinv
  next hnew =>
    have hfresh : ∀ n ∈ w.nodes c, n.name ≠ node.name := by simpa using hnew
    refine hinv.change ?_ ?_ (nodup_append_key (hinv.nodes c) hfresh) hhidden
    · intro n hne
      rw [List.mem_append, List.mem_singleton]
      exact or_iff_left fun h => hne (by rw [h])
    · intro n hn hname
      rcases List.mem_append.mp hn with hn | hn
      · exact absurd hname (hfresh n hn)
      · exact List.mem_singleton.mp hn

theorem update_inv (hinv : w.Inv) (hhidden : HidesNothing w c node) : (w.update c node).Inv := by
  unfold update
  split
  next hany =>
    have hnode : ∃ n ∈ w.nodes c, n.name = node.name := by simpa using hany
    refine hinv.change ?_ ?_ ?_ hhidden
    · intro n hne
      rw [mem_replace hnode]
      refine ⟨fun hn => ?_, fun hn => Or.inr ⟨hn, hne⟩⟩
      rcases hn with rfl | ⟨hn, -⟩
      · exact absurd rfl hne
      · exact hn
    · intro n hn hname
      exact ((mem_replace hnode).mp hn).resolve_right fun h => h.2 hname
    · rw [map_key_replace]
      exact hinv.nodes c
  · exact hinv

theorem delete_inv (hinv : w.Inv) : (w.delete c name).Inv := by
  unfold delete
  split
  · exact hinv
  next node hfind =>
    obtain ⟨hnode, rfl⟩ := of_find?_key hfind
    refine hinv.change ?_ ?_ ((hinv.nodes c).sublist (List.filter_sublist.map _)) ?_
    · intro n hne
      rw [mem_filter_key_ne, and_iff_left hne]
    · intro n hn hname
      exact absurd hname (mem_filter_key_ne.mp hn).2
    · intro hpred
      obtain ⟨hq, hno⟩ := hinv.hidden c node hnode hpred
      refine ⟨hq, fun m hm hlabel => hno m hm ?_⟩
      exact Option.some.inj ((hinv.consistent m hm).1.symm.trans hlabel)

theorem reconcile_mirror (hinv : w.Inv) {calls : NodeCalls} (hown : OwnName w c name)
    (hdelete : calls.delete = none ∨ ∀ m ∈ w.store, m.name ≠ clusterNodeName c name) :
    (w.reconcile c name calls).Inv ∧ ∀ m ∈ w.store, m.cluster ≠ some c ∨ m.clusterName ≠ c →
      m ∈ (w.reconcile c name calls).store := by
  unfold reconcile
  split
  next hpending =>
    have hreconciled := reconcileNode_reconciled hinv hpending hown hdelete
    exact ⟨hreconciled.inv hinv hown, fun m hm hother => hreconciled.mem hinv hown hm hother⟩
  · exact ⟨hinv, fun m hm _ => hm⟩

theorem cleanOrphan_mem (hinv : w.Inv) {calls : OrphanCalls} {m : LabelledNode} (hm : m ∈ w.store)
    (hother : m.cluster ≠ some c ∨ m.clusterName ≠ c) : m ∈ (w.cleanOrphan c calls).store := by
  refine (cleanOrphan_spec hinv.distinct calls).2 m hm (Or.inl ?_)
  rcases hother with hother | hother
  · exact hother
  · rw [(hinv.consistent m hm).1]
    exact fun h => hother (Option.some.inj h)

theorem step_mirror {w' : MirrorWorld} {e : MirrorEvent} {u : Unit} (hinv : w.Inv)
    (hstep : w.step e = .ok (u, w')) (hsafe : e.Safe w) :
    w'.Inv ∧ LeavesOthers ⟨w, e, u, w'⟩ := by
  cases e with
  | create c node =>
    cases hstep
    exact ⟨create_inv hinv hsafe, nofun⟩
  | update c node =>
    cases hstep
    exact ⟨update_inv hinv hsafe, nofun⟩
  | delete c name =>
    cases hstep
    exact ⟨delete_inv hinv, nofun⟩
  | reconcile c name calls =>
    cases hstep
    obtain ⟨hinv', hothers⟩ := reconcile_mirror hinv hsafe.1 hsafe.2
    refine ⟨hinv', ?_⟩
    intro c' hc'
    cases hc'
    exact hothers
  | cleanOrphan c calls =>
    cases hstep
    refine ⟨cleanOrphan_inv hinv calls, ?_⟩
    intro c' hc' m hm hother
    cases hc'
    exact cleanOrphan_mem hinv hm hother

end MirrorWorld

/-- The mirror over whole runs: after safe events, with no request left, each cluster is mirrored,
and no other is touched. -/
theorem trace_mirror (es : List MirrorEvent) (xs : List (Move MirrorWorld MirrorEvent Unit))
    (h : trace MirrorWorld.step {} es = .ok xs) (hsafe : ∀ x ∈ xs, x.event.Safe x.before) :
    ∀ x ∈ xs, (x.after.pending = [] → x.after.Mirrors) ∧ LeavesOthers x := by
  refine trace_keeps (I := MirrorWorld.Inv) (A := fun x => x.event.Safe x.before) ?_ es {} xs ?_ h
    hsafe
  · intro w e u w' hinv hstep hsafe
    obtain ⟨hinv', hothers⟩ := MirrorWorld.step_mirror hinv hstep hsafe
    exact ⟨hinv', hinv'.mirrors, hothers⟩
  · refine ⟨fun _ => List.nodup_nil, List.nodup_nil, nofun, nofun, ?_, nofun⟩
    intro c n ⟨node, hnode, _⟩
    cases hnode

def excludeLabels : GoMap String String :=
  ⟨[("kosmos.io/exclude", "true")], List.nodup_singleton _⟩

def mirroredRun : List MirrorEvent :=
  [.create "c1" { name := "n1" }, .create "c2" { name := "n1" }, .reconcile "c1" "n1" {},
   .create "c2" { name := "n2", labels := excludeLabels }, .reconcile "c2" "n1" {},
   .delete "c1" "n1", .cleanOrphan "c1" {}, .reconcile "c1" "n1" {}]

theorem mirroredRun_mirror :
    ∃ xs, trace MirrorWorld.step {} mirroredRun = .ok xs ∧ (∀ x ∈ xs, x.event.Safe x.before) ∧
      ∃ x ∈ xs, x.after.pending = [] ∧ x.after.store.length = 1 ∧ x.after.Mirrors := by
  have hxs : trace MirrorWorld.step {} mirroredRun = .ok _ := rfl
  refine ⟨_, hxs, ?safe, _, List.mem_of_getElem? (i := 7) rfl, rfl, rfl,
    (trace_mirror mirroredRun _ hxs ?safe _ (List.mem_of_getElem? (i := 7) rfl)).1 rfl⟩
  decide +kernel

def excludedRun : List MirrorEvent :=
  [.create "c1" { name := "n1" }, .reconcile "c1" "n1" {},
   .update "c1" { name := "n1", labels := excludeLabels }, .cleanOrphan "c1" {}]

def clashingNamesRun : List MirrorEvent :=
  [.create "a-b" { name := "c" }, .reconcile "a-b" "c" {},
   .create "a" { name := "b-c" }, .reconcile "a" "b-c" {}]

theorem excludedRun_stale :
    (∃ xs, trace MirrorWorld.step {} excludedRun = .ok xs ∧
      ∃ x ∈ xs, x.after.pending = [] ∧ ¬ x.after.Mirrors) ∧
    ∃ xs, trace MirrorWorld.step {} clashingNamesRun = .ok xs ∧ ∃ x ∈ xs, ¬ LeavesOthers x := by
  constructor
  · refine ⟨_, rfl, _, List.mem_of_getElem? (i := 3) rfl, rfl, ?_⟩
    intro h
    obtain ⟨-, node, hnode, -, hpred, -⟩ := h.sound "c1" _ (List.mem_cons_self ..) rfl
    cases List.mem_singleton.mp hnode
    exact absurd hpred (by decide)
  · refine ⟨_, rfl, _, List.mem_of_getElem? (i := 3) rfl, ?_⟩
    intro h
    exact absurd (h "a" rfl _ (List.mem_cons_self ..) (Or.inl (by decide))) (by decide)

end Kosmos.Controllers
