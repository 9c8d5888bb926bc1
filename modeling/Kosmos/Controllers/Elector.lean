import Kosmos.Api.Types

/-!
# The elector: `EnsureGateWayRole`

The elector with the lease makes its own node the gateway, and takes the role from the others.
-/

namespace Kosmos.Controllers

open Kosmos.Go Kosmos.Api

structure SetOrder where
  unsortedList : Nat → List String → List String
  perm : ∀ i l, (unsortedList i l).Perm l

def roleSet (roles : List String) : List String := insertAll [] roles

def addRole (unsortedList : List String → List String) (node : ClusterNode) (role : String) :
    ClusterNode :=
  { node with roles := unsortedList ((roleSet node.roles).insert role) }

def removeRole (unsortedList : List String → List String) (node : ClusterNode) (role : String) :
    ClusterNode :=
  if node.roles = [] then node
  else { node with roles := unsortedList ((roleSet node.roles).erase role) }

structure Elector where
  nodeName : String
  clusterName : String

namespace Elector

def modifyNode (e : Elector) (unsortedList : List String → List String)
    (clusterNode : ClusterNode) : Option ClusterNode :=
  let isGateWay := clusterNode.isGateway
  let isSameCluster := clusterNode.clusterName == e.clusterName
  let isCurrentNode := clusterNode.nodeName == e.nodeName
  if isSameCluster then
    if !isCurrentNode && isGateWay then
      some (removeRole unsortedList clusterNode roleGateway)
    else if isCurrentNode && !isGateWay then
      some (addRole unsortedList clusterNode roleGateway)
    else none
  else none

def genModifyFrom (e : Elector) (sets : SetOrder) : Nat → List ClusterNode → List ClusterNode
  | _, [] => []
  | i, clusterNode :: rest =>
    (e.modifyNode (sets.unsortedList i) clusterNode).toList ++ e.genModifyFrom sets (i + 1) rest

def genModifyNode (e : Elector) (sets : SetOrder) (clusterNodes : List ClusterNode) :
    List ClusterNode :=
  e.genModifyFrom sets 0 clusterNodes

def electFrom (e : Elector) (sets : SetOrder) : Nat → List ClusterNode → List ClusterNode
  | _, [] => []
  | i, clusterNode :: rest =>
    (e.modifyNode (sets.unsortedList i) clusterNode).getD clusterNode ::
      e.electFrom sets (i + 1) rest

def elect (e : Elector) (sets : SetOrder) (clusterNodes : List ClusterNode) : List ClusterNode :=
  e.electFrom sets 0 clusterNodes

end Elector

structure ElectorCalls where
  list : Option String := none
  getCluster : Option String := none
  update : String → Option String := fun _ => none

def updateAll (calls : ElectorCalls) :
    List ClusterNode → List ClusterNode → Option String × List ClusterNode
  | stored, [] => (none, stored)
  | stored, node :: rest =>
    match calls.update node.name with
    | some err => (some err, stored)
    | none => updateAll calls (updateClusterNode stored node) rest

def Elector.ensureGateWayRole (e : Elector) (sets : SetOrder) (calls : ElectorCalls)
    (clusterNodes : List ClusterNode) : Option String × List ClusterNode :=
  match calls.list, calls.getCluster with
  | some err, _ => (some err, clusterNodes)
  | none, some err => (some err, clusterNodes)
  | none, none => updateAll calls clusterNodes (e.genModifyNode sets clusterNodes)

@[simp] theorem mem_roleSet {r : String} {roles : List String} : r ∈ roleSet roles ↔ r ∈ roles := by
  simp [roleSet]

theorem nodup_roleSet (roles : List String) : (roleSet roles).Nodup :=
  nodup_insertAll List.nodup_nil

variable {unsortedList : List String → List String} {n : ClusterNode} {role r : String}

theorem mem_addRole (hperm : ∀ l, (unsortedList l).Perm l) :
    r ∈ (addRole unsortedList n role).roles ↔ r = role ∨ r ∈ n.roles := by
  rw [addRole, (hperm _).mem_iff, List.mem_insert_iff, mem_roleSet]

theorem mem_removeRole (hperm : ∀ l, (unsortedList l).Perm l) :
    r ∈ (removeRole unsortedList n role).roles ↔ r ≠ role ∧ r ∈ n.roles := by
  unfold removeRole
  split
  next h => simp [h]
  next h => rw [(hperm _).mem_iff, (nodup_roleSet _).mem_erase_iff, mem_roleSet]

theorem removeRole_eq (unsortedList : List String → List String) (n : ClusterNode) (role : String) :
    removeRole unsortedList n role =
      { n with roles := (removeRole unsortedList n role).roles } := by
  unfold removeRole
  split <;> rfl

theorem isGateway_iff : n.isGateway = true ↔ ∃ r ∈ n.roles, equalFold roleGateway r = true := by
  simp [ClusterNode.isGateway, hasRole]

theorem equalFold_self (s : String) : equalFold s s = true := by simp [equalFold]

/-- Only the gateway role of nodes of the own cluster may differ. -/
structure Kept (e : Elector) (n n' : ClusterNode) : Prop where
  fields : n' = { n with roles := n'.roles }
  others : n.clusterName ≠ e.clusterName → n' = n
  roles : ∀ r, equalFold roleGateway r = false → (r ∈ n'.roles ↔ r ∈ n.roles)

/-- The elector's node is the one gateway of its cluster, and nothing is left to modify. -/
structure Elected (e : Elector) (nodes nodes' : List ClusterNode) : Prop where
  kept : List.Forall₂ (Kept e) nodes nodes'
  gateway : ∀ n ∈ nodes', n.clusterName = e.clusterName →
    (n.isGateway = true ↔ n.nodeName = e.nodeName)
  settled : ∀ sets, e.genModifyNode sets nodes' = []

/-- The node is spared, or has no spelling of the role that `RemoveRole` misses. -/
def PlainGateway (e : Elector) (n : ClusterNode) : Prop :=
  n.clusterName = e.clusterName → n.nodeName ≠ e.nodeName →
    ∀ r ∈ n.roles, equalFold roleGateway r = true → r = roleGateway

instance (e : Elector) (n : ClusterNode) : Decidable (PlainGateway e n) :=
  inferInstanceAs (Decidable (_ → _ → _))

variable {e : Elector}

theorem modifyNode_cases (e : Elector) (unsortedList : List String → List String)
    (n : ClusterNode) :
    (n.clusterName ≠ e.clusterName ∧ e.modifyNode unsortedList n = none) ∨
    (n.clusterName = e.clusterName ∧ (n.isGateway = true ↔ n.nodeName = e.nodeName) ∧
      e.modifyNode unsortedList n = none) ∨
    (n.clusterName = e.clusterName ∧ n.nodeName ≠ e.nodeName ∧ n.isGateway = true ∧
      e.modifyNode unsortedList n = some (removeRole unsortedList n roleGateway)) ∨
    (n.clusterName = e.clusterName ∧ n.nodeName = e.nodeName ∧ n.isGateway = false ∧
      e.modifyNode unsortedList n = some (addRole unsortedList n roleGateway)) := by
  unfold Elector.modifyNode
  by_cases hc : n.clusterName = e.clusterName
  · by_cases hn : n.nodeName = e.nodeName
    · cases hg : n.isGateway <;> simp [hc, hn]
    · cases hg : n.isGateway <;> simp [hc, hn]
  · simp [hc]

theorem modifyNode_eq_none (unsortedList : List String → List String)
    (h : n.clusterName = e.clusterName → (n.isGateway = true ↔ n.nodeName = e.nodeName)) :
    e.modifyNode unsortedList n = none := by
  rcases modifyNode_cases e unsortedList n with ⟨-, he⟩ | ⟨-, -, he⟩ | ⟨hc, hn, hg, -⟩ |
    ⟨hc, hn, hg, -⟩
  · exact he
  · exact he
  · exact absurd ((h hc).mp hg) hn
  · rw [(h hc).mpr hn] at hg
    cases hg

theorem modifyNode_kept (hperm : ∀ l, (unsortedList l).Perm l) :
    Kept e n ((e.modifyNode unsortedList n).getD n) := by
  have hself : Kept e n n := ⟨rfl, fun _ => rfl, fun _ _ => Iff.rfl⟩
  have hne : ∀ r, equalFold roleGateway r = false → r ≠ roleGateway := by
    intro r hr heq
    rw [heq, equalFold_self] at hr
    cases hr
  rcases modifyNode_cases e unsortedList n with ⟨-, he⟩ | ⟨-, -, he⟩ | ⟨hc, -, -, he⟩ |
    ⟨hc, -, -, he⟩
  · rw [he]; exact hself
  · rw [he]; exact hself
  · rw [he]
    refine ⟨removeRole_eq .., fun h => absurd hc h, ?_⟩
    intro r hr
    rw [Option.getD_some, mem_removeRole hperm]
    exact ⟨And.right, fun h => ⟨hne r hr, h⟩⟩
  · rw [he]
    refine ⟨rfl, fun h => absurd hc h, ?_⟩
    intro r hr
    rw [Option.getD_some, mem_addRole hperm]
    exact ⟨fun h => h.resolve_left (hne r hr), Or.inr⟩

theorem modifyNode_gateway (hperm : ∀ l, (unsortedList l).Perm l)
    (hc : n.clusterName = e.clusterName) :
    (((e.modifyNode unsortedList n).getD n).isGateway = true ↔ n.nodeName = e.nodeName) ↔
      PlainGateway e n := by
  rcases modifyNode_cases e unsortedList n with ⟨h, -⟩ | ⟨-, hg, he⟩ | ⟨-, hn, -, he⟩ |
    ⟨-, hn, -, he⟩
  · exact absurd hc h
  · rw [he, Option.getD_none]
    refine ⟨fun _ _ hn r hr hf => ?_, fun _ => hg⟩
    exact absurd (hg.mp (isGateway_iff.mpr ⟨r, hr, hf⟩)) hn
  · rw [he, Option.getD_some, isGateway_iff]
    constructor
    · intro h _ _ r hr hf
      by_contra hne
      exact hn (h.mp ⟨r, (mem_removeRole hperm).mpr ⟨hne, hr⟩, hf⟩)
    · intro h
      refine ⟨?_, fun heq => absurd heq hn⟩
      intro ⟨r, hr, hf⟩
      obtain ⟨hne, hr⟩ := (mem_removeRole hperm).mp hr
      exact absurd (h hc hn r hr hf) hne
  · rw [he, Option.getD_some, isGateway_iff]
    refine ⟨fun _ _ hne => absurd hn hne, fun _ => ?_⟩
    refine ⟨fun _ => hn, fun _ => ⟨roleGateway, ?_, equalFold_self _⟩⟩
    exact (mem_addRole hperm).mpr (Or.inl rfl)

theorem electFrom_forall₂ {R : ClusterNode → ClusterNode → Prop} {sets : SetOrder}
    (h : ∀ i n, R n ((e.modifyNode (sets.unsortedList i) n).getD n)) :
    ∀ (nodes : List ClusterNode) (i : Nat), List.Forall₂ R nodes (e.electFrom sets i nodes) := by
  intro nodes
  induction nodes with
  | nil => intro i; exact List.Forall₂.nil
  | cons n nodes ih => intro i; exact List.Forall₂.cons (h i n) (ih (i + 1))

theorem genModifyFrom_eq_nil {sets : SetOrder} :
    ∀ (nodes : List ClusterNode) (i : Nat),
      (∀ n ∈ nodes, n.clusterName = e.clusterName →
        (n.isGateway = true ↔ n.nodeName = e.nodeName)) →
      e.genModifyFrom sets i nodes = [] := by
  intro nodes
  induction nodes with
  | nil => intro i _; rfl
  | cons n nodes ih =>
    intro i h
    rw [List.forall_mem_cons] at h
    rw [Elector.genModifyFrom, modifyNode_eq_none _ h.1, ih (i + 1) h.2]
    rfl

/-- The election is right if and only if the others' gateway role is spelled as `RemoveRole` spells
it. -/
theorem elect_elected_iff (e : Elector) (sets : SetOrder) (nodes : List ClusterNode) :
    Elected e nodes (e.elect sets nodes) ↔ ∀ n ∈ nodes, PlainGateway e n := by
  have hkept : List.Forall₂ (Kept e) nodes (e.elect sets nodes) :=
    electFrom_forall₂ (fun i n => modifyNode_kept (sets.perm i)) nodes 0
  have hgate : List.Forall₂ (fun n n' => PlainGateway e n ↔ (n'.clusterName = e.clusterName →
      (n'.isGateway = true ↔ n'.nodeName = e.nodeName))) nodes (e.elect sets nodes) := by
    refine electFrom_forall₂ (fun i n => ?_) nodes 0
    have hk : Kept e n ((e.modifyNode (sets.unsortedList i) n).getD n) :=
      modifyNode_kept (sets.perm i)
    rw [congrArg ClusterNode.clusterName hk.fields, congrArg ClusterNode.nodeName hk.fields]
    by_cases hc : n.clusterName = e.clusterName
    · rw [forall_prop_of_true hc]
      exact (modifyNode_gateway (sets.perm i) hc).symm
    · exact ⟨fun _ h => absurd h hc, fun _ h => absurd h hc⟩
  rw [forall_mem_iff_of_forall₂ hgate]
  constructor
  · intro h
    exact h.gateway
  · intro h
    exact ⟨hkept, h, fun _ => genModifyFrom_eq_nil _ 0 h⟩

def insertionOrder : SetOrder where
  unsortedList := fun _ l => l
  perm := fun _ l => List.Perm.refl l

def spelledNodes : List ClusterNode :=
  [{ name := "c1-n1", clusterName := "c1", nodeName := "n1", podCIDRs := [], ip := "", ip6 := "",
     roles := [], interfaceName := "eth0" },
   { name := "c1-n2", clusterName := "c1", nodeName := "n2", podCIDRs := [], ip := "", ip6 := "",
     roles := ["Gateway"], interfaceName := "eth0" }]

theorem spelledNodes_not_elected :
    ¬ Elected ⟨"n1", "c1"⟩ spelledNodes
      (Elector.elect ⟨"n1", "c1"⟩ insertionOrder spelledNodes) := by
  intro h
  have hgate := h.gateway
    { name := "c1-n2", clusterName := "c1", nodeName := "n2", podCIDRs := [], ip := "", ip6 := "",
      roles := ["Gateway"], interfaceName := "eth0" } (by decide) rfl
  exact absurd (hgate.mp (by decide)) (by decide)

theorem modifyNode_name {n' : ClusterNode} (h : e.modifyNode unsortedList n = some n') :
    n'.name = n.name := by
  rcases modifyNode_cases e unsortedList n with ⟨-, he⟩ | ⟨-, -, he⟩ | ⟨-, -, -, he⟩ |
    ⟨-, -, -, he⟩
  · rw [he] at h; cases h
  · rw [he] at h; cases h
  · rw [he] at h
    cases h
    rw [removeRole_eq]
  · rw [he] at h
    cases h
    rfl

theorem updateClusterNode_middle {before after : List ClusterNode} {n' : ClusterNode}
    (hname : n'.name = n.name) (hnd : ((before ++ n :: after).map ClusterNode.name).Nodup) :
    updateClusterNode (before ++ n :: after) n' = before ++ n' :: after := by
  have hother : ∀ m ∈ before ++ after, m.name ≠ n'.name := by
    intro m hm heq
    rw [List.map_append, List.map_cons, List.nodup_middle, List.nodup_cons,
      ← List.map_append] at hnd
    exact hnd.1 (hname ▸ heq ▸ List.mem_map_of_mem hm)
  have hbefore : updateClusterNode before n' = before :=
    replace_of_free fun m hm => hother m (List.mem_append_left _ hm)
  have hafter : updateClusterNode after n' = after :=
    replace_of_free fun m hm => hother m (List.mem_append_right _ hm)
  rw [updateClusterNode, List.map_append, List.map_cons, if_pos hname.symm]
  exact congrArg₂ (fun l r => l ++ n' :: r) hbefore hafter

theorem updateAll_genModifyFrom {calls : ElectorCalls} {sets : SetOrder} :
    ∀ (rest before : List ClusterNode) (i : Nat) (nodes : List ClusterNode),
      ((before ++ rest).map ClusterNode.name).Nodup →
      updateAll calls (before ++ rest) (e.genModifyFrom sets i rest) = (none, nodes) →
      nodes = before ++ e.electFrom sets i rest := by
  intro rest
  induction rest with
  | nil =>
    intro before i nodes _ h
    cases h
    rfl
  | cons n rest ih =>
    intro before i nodes hnd h
    rw [Elector.genModifyFrom] at h
    rw [Elector.electFrom, ← List.singleton_append, ← List.append_assoc]
    cases hm : e.modifyNode (sets.unsortedList i) n with
    | none =>
      rw [hm] at h
      refine ih (before ++ [n]) (i + 1) nodes ?_ ?_
      · rw [List.append_assoc]; exact hnd
      · rw [List.append_assoc]; exact h
    | some n' =>
      rw [hm, Option.toList_some, List.singleton_append, updateAll] at h
      have hname := modifyNode_name hm
      cases hc : calls.update n'.name with
      | some err => rw [hc] at h; cases h
      | none =>
        rw [hc] at h
        rw [updateClusterNode_middle hname hnd] at h
        refine ih (before ++ [n']) (i + 1) nodes ?_ ?_
        · rw [List.append_assoc, List.map_append]
          rw [List.map_append] at hnd
          simpa [hname] using hnd
        · rw [List.append_assoc]; exact h

/-- `EnsureGateWayRole` without an error leaves the elected nodes in the control plane. -/
theorem ensureGateWayRole_elect {calls : ElectorCalls} {sets : SetOrder}
    {clusterNodes clusterNodes' : List ClusterNode}
    (hnd : (clusterNodes.map ClusterNode.name).Nodup)
    (h : e.ensureGateWayRole sets calls clusterNodes = (none, clusterNodes')) :
    clusterNodes' = e.elect sets clusterNodes := by
  unfold Elector.ensureGateWayRole at h
  split at h
  · cases h
  · cases h
  · exact updateAll_genModifyFrom clusterNodes [] 0 clusterNodes' hnd h

theorem ensureGateWayRole_spelledNodes :
    (Elector.ensureGateWayRole ⟨"n1", "c1"⟩ insertionOrder {} spelledNodes).2
      = Elector.elect ⟨"n1", "c1"⟩ insertionOrder spelledNodes := by
  have hdone : Elector.ensureGateWayRole ⟨"n1", "c1"⟩ insertionOrder {} spelledNodes = (none, _) :=
    rfl
  exact ensureGateWayRole_elect (by decide) hdone

end Kosmos.Controllers
