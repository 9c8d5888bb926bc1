import Kosmos.Api.Calico
import Kosmos.Controllers.Node

/-!
# The node CIDR controller: `requeue` and `Reconcile`

`requeue` turns the name of a node into a key, and `Reconcile` of the key writes the node's CIDRs.

A key is in the queue, with the node it was added for, until a `Reconcile` ends without an error and
without adding it again. `List` has any order. The informer of the `ClusterNode`s adds no keys, as
its filter tests for a value where it is given pointers; the one behind `nodeLister` is never
started, so it has no nodes.
-/

namespace Kosmos.Controllers

open Kosmos.Go Kosmos.Api

structure BlockAffinityKey where
  host : String
  cidr : String

inductive CniAdapter where
  | calico (sync : Bool) (blockAffinities : Except String (List Unstructured))
  | calicoETCD (sync : Bool) (blockAffinityKVList : Except String (List BlockAffinityKey))
  | common (sync : Bool) (nodes : List K8sNode)

namespace CniAdapter

def synced : CniAdapter → Bool
  | .calico sync _ => sync
  | .calicoETCD sync _ => sync
  | .common sync _ => sync

def blockCIDR (nodeName : String) (ba : Unstructured) : Option String :=
  match affinityNode ba, affinityCIDR ba with
  | some node, some cidr => if node = nodeName then some cidr else none
  | _, _ => none

def getCIDRByNodeName : CniAdapter → String → Except String (List String)
  | .calico _ blockAffinities, nodeName =>
    blockAffinities.map fun bas => bas.filterMap (blockCIDR nodeName)
  | .calicoETCD _ blockAffinityKVList, nodeName =>
    blockAffinityKVList.map fun keys =>
      (keys.filter fun key => key.host = nodeName).map BlockAffinityKey.cidr
  | .common _ nodes, nodeName =>
    match nodes.find? fun n => n.name = nodeName with
    | none => .error ("node \"" ++ nodeName ++ "\" not found")
    | some node => .ok node.podCIDRs

end CniAdapter

inductive AdapterObject where
  | blockAffinity (obj : Unstructured)
  | blockAffinityKey (key : BlockAffinityKey)
  | node (node : K8sNode)

def AdapterObject.nodeName : AdapterObject → Option String
  | .blockAffinity obj => affinityNode obj
  | .blockAffinityKey key => some key.host
  | .node n => some n.name

def requeue (originNodeName : String) (clusterNodes : List ClusterNode) : String :=
  match clusterNodes.find? fun n => n.nodeName = originNodeName with
  | some clusterNode => clusterNode.name
  | none => originNodeName

structure CIDRCalls where
  get : Option String := none
  update : Option String := none

structure CIDRResult where
  err : Option String := none
  addAfter : Bool := false
  deriving DecidableEq

def clusterNodeNotFound (name : String) : String :=
  "clusternode.kosmos.io \"" ++ name ++ "\" not found"

def keyNode (clusterName : String) (adapter : CniAdapter) (calls : CIDRCalls) (key : String)
    (clusterNodes : List ClusterNode) : Except CIDRResult ClusterNode :=
  match calls.get with
  | some err => .error { err := some err, addAfter := true }
  | none =>
    match clusterNodes.find? fun n => n.name = key with
    | some clusterNode => .ok clusterNode
    | none =>
      match adapter.getCIDRByNodeName key with
      | .error err => .error { err := some err }
      -- `nodeLister` does not know the node
      | .ok [] => .error {}
      | .ok (_ :: _) =>
        match clusterNodes.find? fun n => n.name = clusterNodeName clusterName key with
        | none =>
          .error { err := some (clusterNodeNotFound (clusterNodeName clusterName key)),
                   addAfter := true }
        | some clusterNode => .ok clusterNode

def reconcileCIDR (clusterName : String) (adapter : CniAdapter) (calls : CIDRCalls) (key : String)
    (clusterNodes : List ClusterNode) : CIDRResult × Option ClusterNode :=
  match keyNode clusterName adapter calls key clusterNodes with
  | .error r => (r, none)
  | .ok clusterNode =>
    if clusterNode.clusterName = "" ∨ clusterNode.nodeName = "" then ({ addAfter := true }, none)
    else if ¬ adapter.synced then ({ addAfter := true }, none)
    else
      match adapter.getCIDRByNodeName clusterNode.nodeName with
      | .error err => ({ err := some err }, none)
      | .ok podCIDRs =>
        match calls.update with
        | some err => ({ err := some err }, none)
        | none => ({}, some { clusterNode with podCIDRs })

structure ClusterNodeStore where
  nodes : List ClusterNode
  named : ∀ n ∈ nodes, n.name = clusterNodeName n.clusterName n.nodeName
  distinct : (nodes.map ClusterNode.name).Nodup

structure ListOrder where
  list : List ClusterNode → List ClusterNode := id
  perm : ∀ l, (list l).Perm l := by exact fun l => List.Perm.refl l

structure CIDRWorld where
  clusterNodes : List ClusterNode
  adapter : CniAdapter
  queue : List (String × String) := []

inductive CIDREvent where
  | adapter (obj : AdapterObject) (order : ListOrder)
  | reconcile (key : String) (calls : CIDRCalls)
  | clusterNodes (store : ClusterNodeStore)
  | cni (adapter : CniAdapter)

namespace CIDRWorld

def event (obj : AdapterObject) (order : ListOrder) (w : CIDRWorld) : CIDRWorld :=
  match obj.nodeName with
  | none => w
  | some node => { w with queue := w.queue.insert (requeue node (order.list w.clusterNodes), node) }

def written (clusterNodes : List ClusterNode) (node : Option ClusterNode) : List ClusterNode :=
  node.elim clusterNodes (updateClusterNode clusterNodes)

def reconcile (c key : String) (calls : CIDRCalls) (w : CIDRWorld) :
    Option ClusterNode × CIDRWorld :=
  if key ∈ w.queue.map Prod.fst then
    let r := reconcileCIDR c w.adapter calls key w.clusterNodes
    (r.2, { w with
      clusterNodes := written w.clusterNodes r.2
      queue := if r.1.addAfter ∨ r.1.err.isSome then w.queue
        else w.queue.filter fun q => q.1 ≠ key })
  else (none, w)

def step (c : String) (w : CIDRWorld) : CIDREvent → Outcome (Option ClusterNode × CIDRWorld)
  | .adapter obj order => pure (none, w.event obj order)
  | .reconcile key calls => pure (w.reconcile c key calls)
  | .clusterNodes store => pure (none, { w with clusterNodes := store.nodes })
  | .cni adapter => pure (none, { w with adapter })

end CIDRWorld

/-- What a move of the controller of cluster `c` should be like. -/
structure Isolated (c : String) (x : Move CIDRWorld CIDREvent (Option ClusterNode)) : Prop where
  writes : ∀ node, x.result = some node →
    ∃ n ∈ x.before.clusterNodes, n.clusterName = c ∧ ∃ podCIDRs, node = { n with podCIDRs }
  keeps : ∀ key calls, x.event = .reconcile key calls →
    ∀ n ∈ x.before.clusterNodes, n.clusterName ≠ c → n ∈ x.after.clusterNodes
  enqueues : ∀ obj order m, x.event = .adapter obj order → obj.nodeName = some m →
    ∃ key, (key, m) ∈ x.after.queue
  sets : ∀ key m, x.event = .reconcile key {} → (key, m) ∈ x.before.queue → m ≠ "" →
    ∀ n ∈ x.before.clusterNodes, n.clusterName = c → n.nodeName = m →
    x.before.adapter.synced = true → ∀ podCIDRs,
    x.before.adapter.getCIDRByNodeName m = .ok podCIDRs →
    { n with podCIDRs } ∈ x.after.clusterNodes

def CIDREvent.Safe (c : String) (w : CIDRWorld) : CIDREvent → Prop
  | .adapter obj order => ∀ m ∈ obj.nodeName,
    ∀ n ∈ (order.list w.clusterNodes).find? fun n => n.nodeName = m, n.clusterName = c
  | .reconcile key _ =>
    (∀ n ∈ w.clusterNodes, n.name = key → n.clusterName = c) ∧
    ((∀ n ∈ w.clusterNodes, n.name ≠ key) →
      ∀ n ∈ w.clusterNodes, n.name = clusterNodeName c key → n.clusterName = c) ∧
    ((key, key) ∈ w.queue → ∀ n ∈ w.clusterNodes, n.clusterName = c → n.nodeName = key →
      (∀ n' ∈ w.clusterNodes, n'.name ≠ key) ∧
      (w.adapter.getCIDRByNodeName key = .ok [] → n.podCIDRs = []))
  | .clusterNodes _ => True
  | .cni _ => True

instance (c : String) (w : CIDRWorld) : (e : CIDREvent) → Decidable (e.Safe c w)
  | .adapter obj _ => inferInstanceAs (Decidable (∀ m ∈ obj.nodeName, ∀ n ∈ List.find? _ _, _))
  | .reconcile _ _ => inferInstanceAs (Decidable (_ ∧ _ ∧ _))
  | .clusterNodes _ => inferInstanceAs (Decidable True)
  | .cni _ => inferInstanceAs (Decidable True)

namespace CIDRWorld

/-- What holds between the events of a run of the controller of cluster `c`. -/
structure Inv (c : String) (w : CIDRWorld) : Prop where
  named : ∀ n ∈ w.clusterNodes, n.name = clusterNodeName n.clusterName n.nodeName
  distinct : (w.clusterNodes.map ClusterNode.name).Nodup
  keys : ∀ q ∈ w.queue, q.1 = clusterNodeName c q.2 ∨ q.1 = q.2

variable {c key : String} {w : CIDRWorld} {calls : CIDRCalls}

theorem event_inv (hinv : w.Inv c) {obj : AdapterObject} {order : ListOrder}
    (hsafe : (CIDREvent.adapter obj order).Safe c w) :
    (w.event obj order).Inv c ∧ ∀ m, obj.nodeName = some m →
      ∃ key, (key, m) ∈ (w.event obj order).queue := by
  unfold event
  cases hnode : obj.nodeName with
  | none => exact ⟨hinv, nofun⟩
  | some node =>
    refine ⟨⟨hinv.named, hinv.distinct, ?_⟩, ?_⟩
    · intro q hq
      rcases List.mem_insert_iff.mp hq with rfl | hq
      · unfold requeue
        cases hfind : (order.list w.clusterNodes).find? fun n => n.nodeName = node with
        | none => exact Or.inr rfl
        | some n =>
          obtain ⟨hn, hnodeName⟩ := of_find?_key hfind
          replace hn := (order.perm _).mem_iff.mp hn
          refine Or.inl ?_
          show n.name = _
          rw [hinv.named n hn, hsafe node hnode n hfind, hnodeName]
      · exact hinv.keys q hq
    · intro m hm
      cases hm
      exact ⟨_, List.mem_insert_self⟩

theorem keyNode_safe {n : ClusterNode} (hsafe : (CIDREvent.reconcile key calls).Safe c w)
    (hn : keyNode c w.adapter calls key w.clusterNodes = .ok n) :
    n ∈ w.clusterNodes ∧ n.clusterName = c := by
  unfold keyNode at hn
  split at hn
  · cases hn
  · split at hn
    next hfind =>
      cases hn
      obtain ⟨hmem, hname⟩ := of_find?_key hfind
      exact ⟨hmem, hsafe.1 n hmem hname⟩
    next hnone =>
      split at hn
      · cases hn
      · cases hn
      · split at hn
        · cases hn
        next hfind =>
          cases hn
          obtain ⟨hmem, hname⟩ := of_find?_key hfind
          exact ⟨hmem, hsafe.2.1 (find?_key_eq_none.mp hnone) n hmem hname⟩

theorem reconcileCIDR_writes {adapter : CniAdapter} {clusterNodes : List ClusterNode}
    {node : ClusterNode} (h : (reconcileCIDR c adapter calls key clusterNodes).2 = some node) :
    ∃ n podCIDRs, keyNode c adapter calls key clusterNodes = .ok n ∧
      node = { n with podCIDRs } := by
  unfold reconcileCIDR at h
  split at h
  · cases h
  next n hn =>
    split at h
    · cases h
    · split at h
      · cases h
      · split at h
        · cases h
        next podCIDRs _ =>
          split at h
          · cases h
          · cases h
            exact ⟨n, podCIDRs, hn, rfl⟩

theorem mem_updateClusterNode {n : ClusterNode} (hn : n ∈ w.clusterNodes) (podCIDRs : List String)
    (m : ClusterNode) :
    m ∈ updateClusterNode w.clusterNodes { n with podCIDRs } ↔
      m = { n with podCIDRs } ∨ m ∈ w.clusterNodes ∧ m.name ≠ n.name :=
  mem_replace ⟨n, hn, rfl⟩

theorem reconcile_safe (hsafe : (CIDREvent.reconcile key calls).Safe c w) :
    (w.reconcile c key calls).1 = none ∧
      (w.reconcile c key calls).2.clusterNodes = w.clusterNodes ∨
    ∃ n ∈ w.clusterNodes, n.clusterName = c ∧ ∃ podCIDRs,
      (w.reconcile c key calls).1 = some { n with podCIDRs } ∧
      (w.reconcile c key calls).2.clusterNodes =
        updateClusterNode w.clusterNodes { n with podCIDRs } := by
  unfold reconcile
  split
  · cases hwritten : (reconcileCIDR c w.adapter calls key w.clusterNodes).2 with
    | none => exact Or.inl ⟨hwritten, by simp [hwritten, written]⟩
    | some node =>
      obtain ⟨n, podCIDRs, hkey, rfl⟩ := reconcileCIDR_writes hwritten
      obtain ⟨hn, hnc⟩ := keyNode_safe hsafe hkey
      exact Or.inr ⟨n, hn, hnc, podCIDRs, hwritten, by simp [hwritten, written]⟩
  · exact Or.inl ⟨rfl, rfl⟩

theorem reconcile_inv (hinv : w.Inv c) (hsafe : (CIDREvent.reconcile key calls).Safe c w) :
    (w.reconcile c key calls).2.Inv c := by
  have hqueue : ∀ q ∈ (w.reconcile c key calls).2.queue, q ∈ w.queue := by
    intro q hq
    unfold reconcile at hq
    split at hq
    · dsimp only at hq
      split at hq
      · exact hq
      · exact List.mem_of_mem_filter hq
    · exact hq
  rcases reconcile_safe hsafe with ⟨_, hnodes⟩ | ⟨n, hn, _, podCIDRs, _, hnodes⟩
  · refine ⟨?_, ?_, fun q hq => hinv.keys q (hqueue q hq)⟩
    · rw [hnodes]
      exact hinv.named
    · rw [hnodes]
      exact hinv.distinct
  · refine ⟨?_, ?_, fun q hq => hinv.keys q (hqueue q hq)⟩
    · intro m hm
      rw [hnodes] at hm
      rcases (mem_updateClusterNode hn podCIDRs m).mp hm with rfl | ⟨hm, _⟩
      · exact hinv.named n hn
      · exact hinv.named m hm
    · rw [hnodes, updateClusterNode, map_key_replace]
      exact hinv.distinct

theorem keyNode_of_mem_queue (hinv : w.Inv c) (hsafe : (CIDREvent.reconcile key {}).Safe c w)
    {n : ClusterNode} (hq : (key, n.nodeName) ∈ w.queue) (hn : n ∈ w.clusterNodes)
    (hnc : n.clusterName = c) {podCIDRs : List String}
    (hget : w.adapter.getCIDRByNodeName n.nodeName = .ok podCIDRs) :
    keyNode c w.adapter {} key w.clusterNodes = .ok n ∨
      keyNode c w.adapter {} key w.clusterNodes = .error {} ∧ { n with podCIDRs } = n := by
  have hname : n.name = clusterNodeName c n.nodeName := by rw [hinv.named n hn, hnc]
  rcases hinv.keys _ hq with hkey | hkey
  · have hfind := (find?_key_eq_some hinv.distinct).mpr ⟨hn, hname.trans hkey.symm⟩
    refine Or.inl ?_
    simp only [keyNode, hfind]
  · -- the key is the bare name of the node, which no object has
    have hkey' : key = n.nodeName := hkey
    subst hkey'
    obtain ⟨hno, hnil⟩ := hsafe.2.2 hq n hn hnc rfl
    have hnone := find?_key_eq_none.mpr hno
    cases podCIDRs with
    | nil =>
      refine Or.inr ⟨by simp only [keyNode, hnone, hget], ?_⟩
      rw [← hnil hget]
    | cons cidr cidrs =>
      have hfind := (find?_key_eq_some hinv.distinct).mpr ⟨hn, hname⟩
      refine Or.inl ?_
      simp only [keyNode, hnone, hget, hfind]

theorem reconcile_sets (hc : c ≠ "") (hinv : w.Inv c)
    (hsafe : (CIDREvent.reconcile key {}).Safe c w) {n : ClusterNode}
    (hq : (key, n.nodeName) ∈ w.queue) (hne : n.nodeName ≠ "") (hn : n ∈ w.clusterNodes)
    (hnc : n.clusterName = c) (hsynced : w.adapter.synced = true) {podCIDRs : List String}
    (hget : w.adapter.getCIDRByNodeName n.nodeName = .ok podCIDRs) :
    { n with podCIDRs } ∈ (w.reconcile c key {}).2.clusterNodes := by
  have hmem : key ∈ w.queue.map Prod.fst := List.mem_map_of_mem hq
  simp only [reconcile, if_pos hmem]
  rcases keyNode_of_mem_queue hinv hsafe hq hn hnc hget with hkey | ⟨hkey, hsame⟩
  · have hready : ¬ (n.clusterName = "" ∨ n.nodeName = "") := by simp [hnc, hc, hne]
    simp only [reconcileCIDR, hkey, if_neg hready, hsynced, hget, not_true_eq_false, if_false,
      written, Option.elim]
    exact (mem_updateClusterNode hn podCIDRs _).mpr (Or.inl rfl)
  · simp only [reconcileCIDR, hkey, written, Option.elim, hsame]
    exact hn

theorem reconcile_isolated (hc : c ≠ "") (hinv : w.Inv c)
    (hsafe : (CIDREvent.reconcile key calls).Safe c w) :
    Isolated c ⟨w, .reconcile key calls, (w.reconcile c key calls).1,
      (w.reconcile c key calls).2⟩ := by
  refine ⟨?_, ?_, nofun, ?_⟩
  · intro node hnode
    rcases reconcile_safe hsafe with ⟨hnone, _⟩ | ⟨n, hn, hnc, podCIDRs, hsome, _⟩
    · rw [show (w.reconcile c key calls).1 = some node from hnode] at hnone
      cases hnone
    · cases hnode.symm.trans hsome
      exact ⟨n, hn, hnc, podCIDRs, rfl⟩
  · intro _ _ _ m hm hmc
    show m ∈ (w.reconcile c key calls).2.clusterNodes
    rcases reconcile_safe hsafe with ⟨_, hnodes⟩ | ⟨n, hn, hnc, podCIDRs, _, hnodes⟩
    · rw [hnodes]
      exact hm
    · rw [hnodes]
      refine (mem_updateClusterNode hn podCIDRs m).mpr (Or.inr ⟨hm, fun h => hmc ?_⟩)
      rw [List.inj_on_of_nodup_map hinv.distinct hm hn h, hnc]
  · intro key' m hevent hq hne n hn hnc hnode hsynced podCIDRs hget
    cases hevent
    subst hnode
    exact reconcile_sets hc hinv hsafe hq hne hn hnc hsynced hget

theorem step_isolated (hc : c ≠ "") (hinv : w.Inv c) {e : CIDREvent} (hsafe : e.Safe c w)
    {r : Option ClusterNode} {w' : CIDRWorld} (hstep : w.step c e = .ok (r, w')) :
    w'.Inv c ∧ Isolated c ⟨w, e, r, w'⟩ := by
  cases e with
  | adapter obj order =>
    cases hstep
    obtain ⟨hinv', henqueues⟩ := event_inv hinv hsafe
    refine ⟨hinv', nofun, nofun, ?_, nofun⟩
    intro obj' _ m hevent hm
    cases hevent
    exact henqueues m hm
  | reconcile key calls =>
    have hr : w.reconcile c key calls = (r, w') := Except.ok.inj hstep
    have hinv' := reconcile_inv hinv hsafe
    have hisolated := reconcile_isolated hc hinv hsafe
    rw [hr] at hinv' hisolated
    exact ⟨hinv', hisolated⟩
  | clusterNodes store =>
    cases hstep
    exact ⟨⟨store.named, store.distinct, hinv.keys⟩, nofun, nofun, nofun, nofun⟩
  | cni adapter =>
    cases hstep
    exact ⟨⟨hinv.named, hinv.distinct, hinv.keys⟩, nofun, nofun, nofun, nofun⟩

end CIDRWorld

def clusterNodeOf (clusterName nodeName : String) : ClusterNode where
  name := clusterNodeName clusterName nodeName
  clusterName := clusterName
  nodeName := nodeName
  podCIDRs := []
  ip := ""
  ip6 := ""
  roles := []
  interfaceName := ""

def unlikeNodes : ClusterNodeStore where
  nodes := [clusterNodeOf "c2" "n2", clusterNodeOf "c1" "n1"]
  named := by decide
  distinct := by decide

def likeNodes : ClusterNodeStore where
  nodes := [clusterNodeOf "c2" "n1", clusterNodeOf "c1" "n1"]
  named := by decide
  distinct := by decide

def cidrNode : K8sNode where
  name := "n1"
  podCIDRs := ["10.1.0.0/24"]

def cidrRun (key : String) : List CIDREvent :=
  [.adapter (.node cidrNode) {}, .reconcile key {}]

end Kosmos.Controllers
