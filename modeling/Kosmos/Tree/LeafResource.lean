import Kosmos.Go.Strings
import Kosmos.Go.Trace

/-!
# The leaf registry: `LeafResourceManager`

It says which leaf a root node stands for, and how.
-/

namespace Kosmos.Tree

open Kosmos.Go

structure LabelSelectorRequirement where
  key : String
  operator : String
  values : List String
  deriving DecidableEq

structure LabelSelector where
  matchLabels : List (String × String) := []
  matchExpressions : List LabelSelectorRequirement := []
  deriving DecidableEq

structure NodeSelector where
  nodeName : String := ""
  labelSelector : Option LabelSelector := none
  deriving DecidableEq

structure LeafModel where
  leafNodeName : String := ""
  nodeSelector : NodeSelector := {}
  deriving DecidableEq

structure ClusterTreeOptions where
  enable : Bool := true
  leafModels : Slice LeafModel := none
  deriving DecidableEq

structure Cluster where
  name : String
  labels : List (String × String) := []
  deletionTimestamp : Bool := false
  finalizers : List String := []
  clusterLinkOptions : Option String := some "all"
  clusterTreeOptions : Option ClusterTreeOptions := some {}
  deriving DecidableEq

inductive LeafMode where
  | all
  | node
  | party
  deriving DecidableEq

structure ClusterNode where
  nodeName : String
  leafMode : LeafMode
  leafNodeSelector : NodeSelector := {}
  deriving DecidableEq

structure LeafResource where
  cluster : Cluster
  nodes : List ClusterNode
  deriving DecidableEq

def kosmosNodePrefix : String := "kosmos-"

def trimNamePrefix (name : String) : String := trimPrefix name kosmosNodePrefix

def has (clusternodes : List ClusterNode) (target : String) : Bool :=
  clusternodes.any fun v => v.nodeName = target

def findClusterNode (clusternodes : List ClusterNode) (target : String) : Option ClusterNode :=
  clusternodes.find? fun v => v.nodeName = target

def newClusterNode (leafModels : Slice LeafModel) (i : Nat) (n : String) : Outcome ClusterNode :=
  match leafModels with
  | none => pure { nodeName := trimNamePrefix n, leafMode := .all }
  | some models => do
    let model ← index models i
    if model.nodeSelector.labelSelector.isSome then
      pure { nodeName := trimNamePrefix n, leafMode := .party,
             leafNodeSelector := model.nodeSelector }
    else if model.nodeSelector.nodeName ≠ "" then
      pure { nodeName := n, leafMode := .node }
    else
      pure { nodeName := trimNamePrefix n, leafMode := .all }

def newClusterNodes (leafModels : Slice LeafModel) : Nat → List String → Outcome (List ClusterNode)
  | _, [] => pure []
  | i, n :: rest => do
    let clusterNode ← newClusterNode leafModels i n
    let clusterNodes ← newClusterNodes leafModels (i + 1) rest
    pure (clusterNode :: clusterNodes)

def addLeafResource (resourceMap : GoMap String LeafResource) (cluster : Cluster)
    (nodes : List String) : Outcome (GoMap String LeafResource) := do
  let options ← deref cluster.clusterTreeOptions
  let clusterNodes ← newClusterNodes options.leafModels 0 nodes
  pure (resourceMap.set cluster.name { cluster, nodes := clusterNodes })

def removeLeafResource (resourceMap : GoMap String LeafResource) (clusterName : String) :
    GoMap String LeafResource :=
  resourceMap.delete clusterName

section Lookups

variable (visited : List (String × LeafResource))

def getLeafResourceByNodeName (nodeName : String) : Outcome LeafResource :=
  let nodeName := trimNamePrefix nodeName
  match visited.find? fun e => has e.2.nodes nodeName with
  | some e => .ok e.2
  | none => .error (.err ("cannot get leaf resource, nodeName: " ++ nodeName))

def hasNode (nodeName : String) : Bool :=
  visited.any fun e => has e.2.nodes (trimNamePrefix nodeName)

def getClusterNode (nodeName : String) : Option ClusterNode :=
  visited.findSome? fun e => findClusterNode e.2.nodes (trimNamePrefix nodeName)

def listNodes : List String :=
  visited.flatMap fun e => if e.1 = "" then [] else e.2.nodes.map ClusterNode.nodeName

end Lookups

structure Registry where
  resourceMap : GoMap String LeafResource := .empty
  roots : String → List String := fun _ => []

inductive RegistryEvent where
  | add (cluster : Cluster) (nodes : List String)
  | remove (clusterName : String)

def Registry.step (w : Registry) : RegistryEvent → Outcome (Unit × Registry)
  | .add cluster nodes => do
    let resourceMap ← addLeafResource w.resourceMap cluster nodes
    pure ((), { resourceMap, roots := Function.update w.roots cluster.name nodes })
  | .remove clusterName =>
    pure ((), { w with resourceMap := removeLeafResource w.resourceMap clusterName })

def Registry.rootNames (w : Registry) : List String :=
  w.resourceMap.entries.flatMap fun e => w.roots e.1

/-- In every order each root node is found with its own leaf and entry. -/
def Registry.LookupsRight (w : Registry) : Prop :=
  ∀ visited : List (String × LeafResource), visited.Perm w.resourceMap.entries →
    (∀ c r, (c, r) ∈ w.resourceMap.entries → ∀ (i : Nat) n, (w.roots c)[i]? = some n →
      hasNode visited n = true ∧ getLeafResourceByNodeName visited n = .ok r ∧
        getClusterNode visited n = r.nodes[i]?) ∧
    ∀ s ∈ listNodes visited, ∃ r, getLeafResourceByNodeName visited s = .ok r

structure Root where
  cluster : String
  resource : LeafResource
  name : String
  entry : ClusterNode

def Registry.registered (w : Registry) : List Root :=
  w.resourceMap.entries.flatMap fun e =>
    ((w.roots e.1).zip e.2.nodes).map fun ne => ⟨e.1, e.2, ne.1, ne.2⟩

/-- What the registered nodes must be like. -/
structure Registry.Apart (w : Registry) : Prop where
  plain : ∀ x ∈ w.registered, x.entry.leafMode = .node → hasPrefix x.name kosmosNodePrefix = false
  apart : ∀ x ∈ w.registered, ∀ y ∈ w.registered, trimNamePrefix x.name = trimNamePrefix y.name →
    x.cluster = y.cluster ∧ x.entry = y.entry
  listed : ∀ x ∈ w.registered, x.cluster ≠ "" →
    hasPrefix (trimNamePrefix x.name) kosmosNodePrefix = true →
    ∃ y ∈ w.registered, trimNamePrefix y.name = trimNamePrefix (trimNamePrefix x.name)

def Stored (n : String) (e : ClusterNode) : Prop :=
  e.nodeName = if e.leafMode = .node then n else trimNamePrefix n

/-- The entries of a leaf are those of its root nodes. -/
structure Registry.Inv (w : Registry) : Prop where
  stored : ∀ c r, (c, r) ∈ w.resourceMap.entries → List.Forall₂ Stored (w.roots c) r.nodes
  cluster : ∀ c r, (c, r) ∈ w.resourceMap.entries → r.cluster.name = c

theorem newClusterNode_stored {leafModels : Slice LeafModel} {i : Nat} {n : String}
    {e : ClusterNode} (h : newClusterNode leafModels i n = .ok e) : Stored n e := by
  unfold newClusterNode at h
  split at h
  · cases h
    rfl
  next models =>
    obtain ⟨model, -, h⟩ := bind_eq_ok h
    split at h
    · cases h
      rfl
    · split at h
      · cases h
        rfl
      · cases h
        rfl

theorem newClusterNodes_stored {leafModels : Slice LeafModel} :
    ∀ {i : Nat} {nodes : List String} {clusterNodes : List ClusterNode},
      newClusterNodes leafModels i nodes = .ok clusterNodes →
      List.Forall₂ Stored nodes clusterNodes := by
  intro i nodes
  induction nodes generalizing i with
  | nil =>
    intro clusterNodes h
    cases h
    exact .nil
  | cons n rest ih =>
    intro clusterNodes h
    obtain ⟨e, he, h⟩ := bind_eq_ok h
    obtain ⟨es, hes, h⟩ := bind_eq_ok h
    cases h
    exact .cons (newClusterNode_stored he) (ih hes)

theorem Registry.step_inv {w w' : Registry} {e : RegistryEvent} {u : Unit} (hinv : w.Inv)
    (h : w.step e = .ok (u, w')) : w'.Inv := by
  cases e with
  | add cluster nodes =>
    obtain ⟨resourceMap, hadd, h⟩ := bind_eq_ok h
    cases h
    obtain ⟨options, -, hadd⟩ := bind_eq_ok hadd
    obtain ⟨clusterNodes, hnodes, hadd⟩ := bind_eq_ok hadd
    cases hadd
    constructor
    · intro c r hcr
      rcases GoMap.mem_set.mp hcr with heq | ⟨hold, hne⟩
      · cases heq
        show List.Forall₂ Stored (Function.update w.roots cluster.name nodes cluster.name) _
        rw [Function.update_self]
        exact newClusterNodes_stored hnodes
      · show List.Forall₂ Stored (Function.update w.roots cluster.name nodes c) _
        rw [Function.update_of_ne hne]
        exact hinv.stored c r hold
    · intro c r hcr
      rcases GoMap.mem_set.mp hcr with heq | ⟨hold, -⟩
      · cases heq
        rfl
      · exact hinv.cluster c r hold
  | remove clusterName =>
    cases h
    constructor
    · intro c r hcr
      exact hinv.stored c r (GoMap.mem_delete.mp hcr).1
    · intro c r hcr
      exact hinv.cluster c r (GoMap.mem_delete.mp hcr).1

section State

variable {w : Registry} {c n : String} {r : LeafResource} {e : ClusterNode} {x : Root}
  {visited : List (String × LeafResource)}

theorem Registry.mem_registered :
    x ∈ w.registered ↔ (x.cluster, x.resource) ∈ w.resourceMap.entries ∧
      ∃ i : Nat, (w.roots x.cluster)[i]? = some x.name ∧ x.resource.nodes[i]? = some x.entry := by
  simp only [Registry.registered, List.mem_flatMap, List.mem_map]
  constructor
  · intro ⟨⟨c, r⟩, hcr, ⟨n, e⟩, hne, hx⟩
    subst hx
    obtain ⟨i, hi⟩ := List.mem_iff_getElem?.mp hne
    exact ⟨hcr, i, List.getElem?_zip_eq_some.mp hi⟩
  · intro ⟨hcr, i, hne⟩
    refine ⟨(x.cluster, x.resource), hcr, (x.name, x.entry), ?_, rfl⟩
    exact List.mem_iff_getElem?.mpr ⟨i, List.getElem?_zip_eq_some.mpr hne⟩

theorem Registry.mem_entries_of_registered (hx : x ∈ w.registered) :
    (x.cluster, x.resource) ∈ w.resourceMap.entries :=
  (Registry.mem_registered.mp hx).1

theorem Registry.entry_mem_of_registered (hx : x ∈ w.registered) : x.entry ∈ x.resource.nodes := by
  obtain ⟨-, i, -, he⟩ := Registry.mem_registered.mp hx
  exact List.mem_of_getElem? he

theorem Registry.Inv.stored_of_registered (hinv : w.Inv) (hx : x ∈ w.registered) :
    Stored x.name x.entry := by
  obtain ⟨hcr, i, hn, he⟩ := Registry.mem_registered.mp hx
  obtain ⟨hlt, hn⟩ := List.getElem?_eq_some_iff.mp hn
  obtain ⟨hlt', he⟩ := List.getElem?_eq_some_iff.mp he
  rw [← hn, ← he]
  exact (List.forall₂_iff_get.mp (hinv.stored _ _ hcr)).2 i hlt hlt'

theorem Registry.Inv.registered_of_root (hinv : w.Inv) (hcr : (c, r) ∈ w.resourceMap.entries)
    {i : Nat} (hn : (w.roots c)[i]? = some n) :
    ∃ e, r.nodes[i]? = some e ∧ ⟨c, r, n, e⟩ ∈ w.registered := by
  obtain ⟨hlt, -⟩ := List.getElem?_eq_some_iff.mp hn
  rw [(hinv.stored c r hcr).length_eq] at hlt
  have he := List.getElem?_eq_getElem hlt
  exact ⟨_, he, Registry.mem_registered.mpr ⟨hcr, i, hn, he⟩⟩

theorem Registry.Inv.registered_of_entry (hinv : w.Inv) (hcr : (c, r) ∈ w.resourceMap.entries)
    (he : e ∈ r.nodes) : ∃ n, ⟨c, r, n, e⟩ ∈ w.registered := by
  obtain ⟨i, hlt, rfl⟩ := List.getElem_of_mem he
  have hlt' : i < (w.roots c).length := by
    rw [(hinv.stored c r hcr).length_eq]
    exact hlt
  exact ⟨_, Registry.mem_registered.mpr
    ⟨hcr, i, List.getElem?_eq_getElem hlt', List.getElem?_eq_getElem hlt⟩⟩

theorem has_eq_true {nodes : List ClusterNode} {target : String} :
    has nodes target = true ↔ ∃ e ∈ nodes, e.nodeName = target := by
  simp [has]

theorem findClusterNode_nodeName {nodes : List ClusterNode} {target : String}
    (h : findClusterNode nodes target = some e) : e ∈ nodes ∧ e.nodeName = target :=
  of_find?_key h

theorem getClusterNode_nodeName (h : getClusterNode visited n = some e) :
    e.nodeName = trimNamePrefix n := by
  obtain ⟨x, -, hx⟩ := List.exists_of_findSome?_eq_some h
  exact (findClusterNode_nodeName hx).2

theorem getLeafResourceByNodeName_eq_ok (h : getLeafResourceByNodeName visited n = .ok r) :
    ∃ c, (c, r) ∈ visited ∧ has r.nodes (trimNamePrefix n) = true := by
  unfold getLeafResourceByNodeName at h
  simp only at h
  split at h
  next x hx =>
    cases h
    exact ⟨x.1, List.mem_of_find?_eq_some hx, by simpa using List.find?_some hx⟩
  · cases h

theorem getLeafResourceByNodeName_of_unique (hcr : (c, r) ∈ visited)
    (hhas : has r.nodes (trimNamePrefix n) = true)
    (huniq : ∀ c' r', (c', r') ∈ visited → has r'.nodes (trimNamePrefix n) = true → r' = r) :
    getLeafResourceByNodeName visited n = .ok r := by
  simp only [getLeafResourceByNodeName]
  cases hfind : visited.find? fun x => has x.2.nodes (trimNamePrefix n) with
  | none =>
    have hno := List.find?_eq_none.mp hfind (c, r) hcr
    exact absurd hhas hno
  | some x =>
    have hx := List.find?_some hfind
    show Except.ok x.2 = .ok r
    rw [huniq x.1 x.2 (List.mem_of_find?_eq_some hfind) hx]

theorem getClusterNode_of_unique (hcr : (c, r) ∈ visited) (he : e ∈ r.nodes)
    (hname : e.nodeName = trimNamePrefix n)
    (huniq : ∀ c' r' e', (c', r') ∈ visited → e' ∈ r'.nodes → e'.nodeName = trimNamePrefix n →
      e' = e) :
    getClusterNode visited n = some e := by
  unfold getClusterNode
  cases hfind : visited.findSome? fun x => findClusterNode x.2.nodes (trimNamePrefix n) with
  | none =>
    have hno := List.findSome?_eq_none_iff.mp hfind (c, r) hcr
    exact absurd hname (find?_key_eq_none.mp hno e he)
  | some e' =>
    obtain ⟨x, hx, hx'⟩ := List.exists_of_findSome?_eq_some hfind
    obtain ⟨hmem, hname'⟩ := findClusterNode_nodeName hx'
    rw [huniq x.1 x.2 e' hx hmem hname']

theorem Stored.nodeName_eq (h : Stored n e)
    (hplain : e.leafMode = .node → hasPrefix n kosmosNodePrefix = false) :
    e.nodeName = trimNamePrefix n := by
  rw [h]
  by_cases hmode : e.leafMode = .node
  · rw [if_pos hmode, trimNamePrefix, trimPrefix_of_not (hplain hmode)]
  · rw [if_neg hmode]

theorem Registry.Apart.entry_eq (hinv : w.Inv) (hapart : w.Apart) (hx : x ∈ w.registered)
    (hcr : (c, r) ∈ w.resourceMap.entries) (he : e ∈ r.nodes)
    (hname : e.nodeName = trimNamePrefix x.name) : r = x.resource ∧ e = x.entry := by
  obtain ⟨n, hy⟩ := hinv.registered_of_entry hcr he
  have hn := (hinv.stored_of_registered hy).nodeName_eq (hapart.plain _ hy)
  obtain ⟨hc, he⟩ := hapart.apart _ hy x hx (hn.symm.trans hname)
  have hxr := Registry.mem_entries_of_registered hx
  exact ⟨congrArg Prod.snd (List.inj_on_of_nodup_map w.resourceMap.nodup hcr hxr hc), he⟩

theorem Registry.Apart.lookupsRight (hinv : w.Inv) (hapart : w.Apart) : w.LookupsRight := by
  intro visited hperm
  have hmem : ∀ {e}, e ∈ visited ↔ e ∈ w.resourceMap.entries := hperm.mem_iff
  have hname : ∀ x ∈ w.registered, x.entry.nodeName = trimNamePrefix x.name := fun x hx =>
    (hinv.stored_of_registered hx).nodeName_eq (hapart.plain x hx)
  have hfound : ∀ x ∈ w.registered, ∀ s, trimNamePrefix s = trimNamePrefix x.name →
      hasNode visited s = true ∧ getLeafResourceByNodeName visited s = .ok x.resource ∧
        getClusterNode visited s = some x.entry := by
    intro x hx s hs
    have hcr := hmem.mpr (Registry.mem_entries_of_registered hx)
    have he := Registry.entry_mem_of_registered hx
    have hes : x.entry.nodeName = trimNamePrefix s := (hname x hx).trans hs.symm
    have hhas : has x.resource.nodes (trimNamePrefix s) = true := has_eq_true.mpr ⟨_, he, hes⟩
    refine ⟨List.any_eq_true.mpr ⟨_, hcr, hhas⟩,
      getLeafResourceByNodeName_of_unique hcr hhas ?_, getClusterNode_of_unique hcr he hes ?_⟩
    · intro c' r' hcr' hhas'
      obtain ⟨e', he', hes'⟩ := has_eq_true.mp hhas'
      exact (hapart.entry_eq hinv hx (hmem.mp hcr') he' (hes'.trans hs)).1
    · intro c' r' e' hcr' he' hes'
      exact (hapart.entry_eq hinv hx (hmem.mp hcr') he' (hes'.trans hs)).2
  constructor
  · intro c r hcr i n hn
    obtain ⟨e, he, hx⟩ := hinv.registered_of_root hcr hn
    rw [he]
    exact hfound _ hx n rfl
  · intro s hs
    obtain ⟨⟨c, r⟩, hcr, hs⟩ := List.mem_flatMap.mp hs
    by_cases hc : c = ""
    · rw [if_pos hc] at hs
      cases hs
    · rw [if_neg hc] at hs
      obtain ⟨e, he, rfl⟩ := List.mem_map.mp hs
      obtain ⟨n, hx⟩ := hinv.registered_of_entry (hmem.mp hcr) he
      rw [hname _ hx]
      cases hpre : hasPrefix (trimNamePrefix n) kosmosNodePrefix with
      | false => exact ⟨r, (hfound _ hx _ (trimPrefix_of_not hpre)).2.1⟩
      | true =>
        obtain ⟨y, hy, hn'⟩ := hapart.listed _ hx hc hpre
        exact ⟨y.resource, (hfound y hy _ hn'.symm).2.1⟩

theorem Registry.LookupsRight.apart (hinv : w.Inv) (hright : w.LookupsRight) : w.Apart := by
  obtain ⟨hroot, hlist⟩ := hright w.resourceMap.entries (List.Perm.refl _)
  have hlookup : ∀ x ∈ w.registered,
      getLeafResourceByNodeName w.resourceMap.entries x.name = .ok x.resource ∧
        getClusterNode w.resourceMap.entries x.name = some x.entry := by
    intro x hx
    obtain ⟨hcr, i, hn, he⟩ := Registry.mem_registered.mp hx
    obtain ⟨-, hresource, hnode⟩ := hroot _ _ hcr i _ hn
    exact ⟨hresource, hnode.trans he⟩
  have hname : ∀ x ∈ w.registered, x.entry.nodeName = trimNamePrefix x.name := fun x hx =>
    getClusterNode_nodeName (hlookup x hx).2
  refine ⟨?_, ?_, ?_⟩
  · intro x hx hmode
    have hstored := hinv.stored_of_registered hx
    rw [Stored, if_pos hmode, hname x hx] at hstored
    exact hasPrefix_of_trimPrefix_eq_self (by decide) hstored
  · intro x hx y hy hn
    obtain ⟨hr, he⟩ := hlookup x hx
    obtain ⟨hr', he'⟩ := hlookup y hy
    -- the lookups see the names as they are cut
    simp only [getLeafResourceByNodeName, getClusterNode, hn] at hr he hr' he'
    refine ⟨?_, Option.some.inj (he.symm.trans he')⟩
    rw [← hinv.cluster _ _ (Registry.mem_entries_of_registered hx),
      ← hinv.cluster _ _ (Registry.mem_entries_of_registered hy),
      Except.ok.inj (hr.symm.trans hr')]
  · intro x hx hc _
    have hs : x.entry.nodeName ∈ listNodes w.resourceMap.entries := by
      refine List.mem_flatMap.mpr ⟨_, Registry.mem_entries_of_registered hx, ?_⟩
      rw [if_neg hc]
      exact List.mem_map_of_mem (Registry.entry_mem_of_registered hx)
    obtain ⟨r', hr'⟩ := hlist x.entry.nodeName hs
    obtain ⟨c', hcr', hhas⟩ := getLeafResourceByNodeName_eq_ok hr'
    obtain ⟨e', he', hname'⟩ := has_eq_true.mp hhas
    obtain ⟨n', hy⟩ := hinv.registered_of_entry hcr' he'
    refine ⟨_, hy, ?_⟩
    rw [← hname _ hy, hname', hname x hx]

end State

/-- The leaf registry over whole runs: lookups are right exactly when the root nodes are apart. -/
theorem trace_lookupsRight_iff (es : List RegistryEvent)
    (xs : List (Move Registry RegistryEvent Unit)) (h : trace Registry.step {} es = .ok xs) :
    ∀ x ∈ xs, x.after.LookupsRight ↔ x.after.Apart := by
  refine trace_keeps (I := Registry.Inv) (A := fun _ => True) ?_ es {} xs ?_ h fun _ _ => trivial
  · intro w e u w' hinv hstep _
    have hinv' := Registry.step_inv hinv hstep
    exact ⟨hinv', fun hright => hright.apart hinv', fun hapart => hapart.lookupsRight hinv'⟩
  · exact ⟨fun c r hcr => absurd hcr List.not_mem_nil, fun c r hcr => absurd hcr List.not_mem_nil⟩

def plainRun : List RegistryEvent :=
  [.add { name := "a" } ["kosmos-a"],
   .add { name := "b", clusterTreeOptions :=
      some { leafModels := some [{ nodeSelector := { nodeName := "edge" } }] } } ["edge"]]

theorem plainRun_lookupsRight :
    ∃ xs, trace Registry.step {} plainRun = .ok xs ∧
      ∃ x ∈ xs, x.after.rootNames = ["edge", "kosmos-a"] ∧ x.after.LookupsRight := by
  have hxs : trace Registry.step {} plainRun = .ok _ := rfl
  refine ⟨_, hxs, _, List.mem_cons_of_mem _ (List.mem_cons_self ..), rfl, ?_⟩
  refine (trace_lookupsRight_iff plainRun _ hxs _
    (List.mem_cons_of_mem _ (List.mem_cons_self ..))).mpr ?_
  constructor <;> decide

def clashingRun : List RegistryEvent :=
  [.add { name := "a" } ["kosmos-a"],
   .add { name := "b", clusterTreeOptions :=
      some { leafModels := some [{ nodeSelector := { nodeName := "a" } }] } } ["a"]]

theorem clashingRun_wrongLeaf :
    ∃ xs, trace Registry.step {} clashingRun = .ok xs ∧ ∃ x ∈ xs, x.after.rootNames.Nodup ∧
      ¬ x.after.LookupsRight := by
  refine ⟨_, rfl, _, List.mem_cons_of_mem _ (List.mem_cons_self ..), by decide, ?_⟩
  intro h
  obtain ⟨hroot, -⟩ := h _ (List.Perm.swap _ _ _)
  obtain ⟨-, hleaf, -⟩ := hroot "b" _ (List.mem_cons_self ..) 0 "a" rfl
  exact absurd hleaf (by decide)

end Kosmos.Tree
