import Kosmos.Tree.LeafModel

/-!
# Root nodes over whole runs: whose they are

`createNode` takes a node that is there, whose cluster may be another one.
-/

namespace Kosmos.Tree

open Kosmos.Go

structure RootEvent where
  cluster : Cluster
  calls : RootCalls := {}
  listenPort : Int := 10250
  gitVersion : String := ""

def rootStep (root : List RootNode) (e : RootEvent) :
    Outcome (Option (List RootNode) × List RootNode) := do
  let h ← newLeafModelHandler e.cluster
  match h.createRootNode e.calls e.listenPort e.gitVersion root with
  | (.ok (nodes, _), root) => pure (some nodes, root)
  | (.error (.err _), root) => pure (none, root)
  | (.error (.panic p), _) => .error (.panic p)

def ClassificationHandler.rootNodeNames (h : ClassificationHandler) : List String :=
  if h.leafMode = .all then [kosmosNodePrefix ++ h.cluster.name]
  else Tree.rootNodeNames h.leafMode 0 h.cluster.leafModels

def Cluster.rootNodeNames (k : Cluster) : List String :=
  match newLeafModelHandler k with
  | .ok h => h.rootNodeNames
  | .error _ => []

/-- No two leaf models share a name, nor has one that of an older node. -/
structure NamesApart (clusters : List Cluster) (root : List RootNode) : Prop where
  fresh : ∀ k ∈ clusters, ∀ name ∈ k.rootNodeNames, ∀ n ∈ root, n.name ≠ name
  apart : ∀ k ∈ clusters, ∀ k' ∈ clusters, ∀ (i i' : Nat) name,
    k.rootNodeNames[i]? = some name → k'.rootNodeNames[i']? = some name →
    k.name = k'.name ∧ i = i'

/-- Each returned node bears its cluster, and no two models share one. -/
structure Owned (xs : List (Move (List RootNode) RootEvent (Option (List RootNode)))) : Prop where
  annotated : ∀ x ∈ xs, ∀ nodes, x.result = some nodes → ∀ node ∈ nodes,
    node.ownedBy = some x.event.cluster.name
  unshared : ∀ x ∈ xs, ∀ y ∈ xs, ∀ nodes nodes', x.result = some nodes → y.result = some nodes' →
    ∀ (i i' : Nat) node node', nodes[i]? = some node → nodes'[i']? = some node' →
    node.name = node'.name → x.event.cluster.name = y.event.cluster.name ∧ i = i'

section Effects

variable {calls : RootCalls} {clusterName name gitVersion : String} {listenPort : Int}
  {leafMode : LeafMode} {root root' : List RootNode} {h : ClassificationHandler}

@[simp] theorem newRootNode_name :
    (newRootNode clusterName name gitVersion listenPort leafMode).name = name := rfl

@[simp] theorem newRootNode_ownedBy :
    (newRootNode clusterName name gitVersion listenPort leafMode).ownedBy = some clusterName := by
  simp [newRootNode, RootNode.ownedBy]

theorem markParty_eq_ok {node marked : RootNode} (hmark : markParty leafMode node = .ok marked) :
    marked.name = node.name ∧ marked.ownedBy = node.ownedBy := by
  unfold markParty at hmark
  split at hmark
  · split at hmark
    · cases hmark
    next annotations ha =>
      cases hmark
      refine ⟨rfl, ?_⟩
      simp only [RootNode.ownedBy, ha, Option.bind_some]
      exact GoMap.get?_set_of_ne annotations _ (by decide)
  · cases hmark
    exact ⟨rfl, rfl⟩

structure Grows (clusterName : String) (names : List String) (root root' : List RootNode) :
    Prop where
  old : ∀ n ∈ root, n ∈ root'
  new : ∀ n ∈ root', n ∈ root ∨ n.name ∈ names ∧ n.ownedBy = some clusterName

theorem Grows.refl (clusterName : String) (names : List String) (root : List RootNode) :
    Grows clusterName names root root :=
  ⟨fun _ hn => hn, fun _ hn => Or.inl hn⟩

theorem Grows.trans {names names' : List String} {root₁ root₂ root₃ : List RootNode}
    (h : Grows clusterName names root₁ root₂) (h' : Grows clusterName names' root₂ root₃) :
    Grows clusterName (names ++ names') root₁ root₃ := by
  refine ⟨fun n hn => h'.old n (h.old n hn), fun n hn => ?_⟩
  rcases h'.new n hn with hn | ⟨hname, hown⟩
  · rcases h.new n hn with hn | ⟨hname, hown⟩
    · exact Or.inl hn
    · exact Or.inr ⟨List.mem_append_left _ hname, hown⟩
  · exact Or.inr ⟨List.mem_append_right _ hname, hown⟩

theorem createNode_grows (calls : RootCalls) (clusterName name gitVersion : String)
    (listenPort : Int) (leafMode : LeafMode) (root : List RootNode) :
    Grows clusterName [name] root
      (createNode calls clusterName name gitVersion listenPort leafMode root).2 := by
  unfold createNode
  split
  · exact Grows.refl ..
  · exact Grows.refl ..
  · split
    · exact Grows.refl ..
    · refine ⟨fun n hn => List.mem_append_left _ hn, fun n hn => ?_⟩
      rcases List.mem_append.mp hn with hn | hn
      · exact Or.inl hn
      · rw [List.mem_singleton.mp hn]
        simp

theorem createNode_node {node : RootNode}
    (hnode : (createNode calls clusterName name gitVersion listenPort leafMode root).1 =
      .ok node) :
    node ∈ (createNode calls clusterName name gitVersion listenPort leafMode root).2 ∧
      node.name = name := by
  unfold createNode at hnode ⊢
  split at hnode
  · cases hnode
  next found hget =>
    cases hnode
    unfold getNode at hget
    split at hget
    · cases hget
    · split at hget
      · cases hget
      · exact of_find?_key (Except.ok.inj hget)
  · split at hnode
    · cases hnode
    · cases hnode
      exact ⟨List.mem_append_right _ (List.mem_singleton.mpr rfl), rfl⟩

def Returns (root : List RootNode) (name : String) (node : RootNode) : Prop :=
  node.name = name ∧ ∃ n ∈ root, n.name = name ∧ n.ownedBy = node.ownedBy

structure Effect (clusterName : String) (names : List String) (root : List RootNode)
    (r : Outcome (List RootNode × GoMap String NodeSelector) × List RootNode) : Prop where
  grows : Grows clusterName names root r.2
  returns : ∀ nodes selectors, r.1 = .ok (nodes, selectors) →
    List.Forall₂ (Returns r.2) names nodes

theorem Grows.failed {names : List String} {root' : List RootNode} {stop : Stop}
    (h : Grows clusterName names root root') :
    Effect clusterName names root (.error stop, root') := by
  refine ⟨h, fun nodes selectors hok => ?_⟩
  cases hok

theorem createRootNodes_effect (h : ClassificationHandler) (calls : RootCalls) (listenPort : Int)
    (gitVersion : String) (leafModels : List LeafModel) :
    ∀ (i : Nat) (leafNodeSelectors : GoMap String NodeSelector) (root : List RootNode),
      Effect h.cluster.name (rootNodeNames h.leafMode i leafModels) root
        (h.createRootNodes calls listenPort gitVersion i leafModels leafNodeSelectors root) := by
  induction leafModels with
  | nil =>
    refine fun i leafNodeSelectors root => ⟨Grows.refl .., fun nodes selectors hok => ?_⟩
    cases hok
    exact .nil
  | cons leafModel rest ih =>
    intro i leafNodeSelectors root
    rw [ClassificationHandler.createRootNodes]
    have hgrows := createNode_grows calls h.cluster.name (rootNodeName h.leafMode i leafModel)
      gitVersion listenPort h.leafMode root
    have hskip : ∀ root', Grows h.cluster.name
        (rootNodeNames h.leafMode (i + 1) rest) root' root' := Grows.refl _ _
    cases hcreate : createNode calls h.cluster.name (rootNodeName h.leafMode i leafModel)
        gitVersion listenPort h.leafMode root with
    | mk created root₁ =>
      rw [hcreate] at hgrows
      cases created with
      | error err => exact (hgrows.trans (hskip _)).failed
      | ok nodeInRoot =>
        dsimp only
        cases hmark : markParty h.leafMode nodeInRoot with
        | error stop => exact (hgrows.trans (hskip _)).failed
        | ok marked =>
          obtain ⟨hgrows', hreturns⟩ := ih (i + 1) (leafNodeSelectors.set
            (rootNodeName h.leafMode i leafModel) leafModel.nodeSelector) root₁
          dsimp only
          split
          next hrest =>
            rw [hrest] at hgrows'
            exact (hgrows.trans hgrows').failed
          next hrest =>
            rw [hrest] at hgrows' hreturns
            refine ⟨hgrows.trans hgrows', fun nodes selectors hok => ?_⟩
            cases hok
            refine .cons ?_ (hreturns _ _ rfl)
            obtain ⟨hmem, hname⟩ := createNode_node (congrArg Prod.fst hcreate)
            obtain ⟨hname', hown⟩ := markParty_eq_ok hmark
            rw [hcreate] at hmem
            exact ⟨hname'.trans hname, nodeInRoot, hgrows'.old _ hmem, hname, hown.symm⟩

theorem createRootNode_effect (h : ClassificationHandler) (calls : RootCalls) (listenPort : Int)
    (gitVersion : String) (root : List RootNode) :
    Effect h.cluster.name h.rootNodeNames root
      (h.createRootNode calls listenPort gitVersion root) := by
  unfold ClassificationHandler.createRootNode ClassificationHandler.rootNodeNames
  split
  · have hgrows := createNode_grows calls h.cluster.name (kosmosNodePrefix ++ h.cluster.name)
      gitVersion listenPort h.leafMode root
    dsimp only
    split
    next hcreate =>
      rw [hcreate] at hgrows
      exact hgrows.failed
    next nodeInRoot root₁ hcreate =>
      obtain ⟨hmem, hname⟩ := createNode_node (congrArg Prod.fst hcreate)
      rw [hcreate] at hgrows hmem
      refine ⟨hgrows, fun nodes selectors hok => ?_⟩
      cases hok
      exact .cons ⟨hname, nodeInRoot, hmem, hname, rfl⟩ .nil
  · cases hoptions : h.cluster.clusterTreeOptions with
    | none => exact (Grows.refl ..).failed
    | some options =>
      have hmodels : h.cluster.leafModels = options.leafModels.elems := by
        rw [Cluster.leafModels, hoptions, Option.bind_some]
        rfl
      rw [hmodels]
      exact createRootNodes_effect h calls listenPort gitVersion _ 0 _ root

end Effects

def Known (clusters : List Cluster) (root₀ root : List RootNode) : Prop :=
  ∀ n ∈ root, n ∈ root₀ ∨ ∃ k ∈ clusters, n.name ∈ k.rootNodeNames ∧ n.ownedBy = some k.name

theorem rootStep_owned {clusters : List Cluster} {root₀ root root' : List RootNode}
    {e : RootEvent} {res : Option (List RootNode)} (hapart : NamesApart clusters root₀)
    (hknown : Known clusters root₀ root) (hcluster : e.cluster ∈ clusters)
    (hstep : rootStep root e = .ok (res, root')) :
    Known clusters root₀ root' ∧ ∀ nodes, res = some nodes →
      List.Forall₂ (fun name node => node.name = name ∧ node.ownedBy = some e.cluster.name)
        e.cluster.rootNodeNames nodes := by
  obtain ⟨h, hh, hstep⟩ := bind_eq_ok hstep
  have hnames : e.cluster.rootNodeNames = h.rootNodeNames := by rw [Cluster.rootNodeNames, hh]
  have hcl : h.cluster = e.cluster := newLeafModelHandler_cluster hh
  obtain ⟨hgrows, hreturns⟩ := createRootNode_effect h e.calls e.listenPort e.gitVersion root
  cases hcreate : h.createRootNode e.calls e.listenPort e.gitVersion root with
  | mk created root₁ =>
    rw [hcreate] at hgrows hreturns
    rw [hcl, ← hnames] at hgrows
    rw [← hnames] at hreturns
    have hknown' : Known clusters root₀ root₁ := by
      intro n hn
      rcases hgrows.new n hn with hn | hn
      · exact hknown n hn
      · exact Or.inr ⟨e.cluster, hcluster, hn⟩
    rw [hcreate] at hstep
    cases created with
    | error stop =>
      cases stop with
      | err msg =>
        cases hstep
        exact ⟨hknown', nofun⟩
      | panic p => cases hstep
    | ok r =>
      cases hstep
      refine ⟨hknown', fun nodes hnodes => ?_⟩
      cases hnodes
      have hboth : List.Forall₂
          (fun name node => name ∈ e.cluster.rootNodeNames ∧ Returns root' name node)
          e.cluster.rootNodeNames r.1 :=
        (List.forall₂_and_left _ _).mpr ⟨fun name hname => hname, hreturns r.1 r.2 rfl⟩
      refine hboth.imp ?_
      intro name node ⟨hname, hnode, n, hn, hnname, hnown⟩
      refine ⟨hnode, ?_⟩
      rcases hknown' n hn with hold | ⟨k, hk, hkname, hkown⟩
      · exact absurd hnname (hapart.fresh e.cluster hcluster name hname n hold)
      · -- the node of this name is one of this cluster
        obtain ⟨i, hi⟩ := List.mem_iff_getElem?.mp hname
        obtain ⟨j, hj⟩ := List.mem_iff_getElem?.mp (hnname ▸ hkname)
        rw [← hnown, hkown, (hapart.apart e.cluster hcluster k hk i j name hi hj).1]

/-- Root nodes over whole runs: with names apart each bears its cluster, and no leaf models share
one. -/
theorem trace_owned (clusters : List Cluster) (root : List RootNode)
    (hapart : NamesApart clusters root) (es : List RootEvent)
    (hes : ∀ e ∈ es, e.cluster ∈ clusters)
    (xs : List (Move (List RootNode) RootEvent (Option (List RootNode))))
    (h : trace rootStep root es = .ok xs) : Owned xs := by
  have hcluster : ∀ x ∈ xs, x.event.cluster ∈ clusters := by
    intro x hx
    apply hes
    rw [← trace_events h]
    exact List.mem_map_of_mem hx
  have hnodes : ∀ x ∈ xs, ∀ nodes, x.result = some nodes →
      List.Forall₂ (fun name node => node.name = name ∧ node.ownedBy = some x.event.cluster.name)
        x.event.cluster.rootNodeNames nodes := by
    refine trace_keeps (I := Known clusters root) (A := fun x => x.event.cluster ∈ clusters)
      ?_ es root xs ?_ h hcluster
    · intro root' e res root'' hknown hstep he
      exact rootStep_owned hapart hknown he hstep
    · intro n hn
      exact Or.inl hn
  have hnth : ∀ x ∈ xs, ∀ nodes, x.result = some nodes → ∀ (i : Nat) node,
      nodes[i]? = some node → x.event.cluster.rootNodeNames[i]? = some node.name ∧
        node.ownedBy = some x.event.cluster.name := by
    intro x hx nodes hr i node hi
    have hall := hnodes x hx nodes hr
    obtain ⟨hlt, rfl⟩ := List.getElem?_eq_some_iff.mp hi
    have hlt' : i < x.event.cluster.rootNodeNames.length := by
      rw [hall.length_eq]
      exact hlt
    obtain ⟨hname, hown⟩ := (List.forall₂_iff_get.mp hall).2 i hlt' hlt
    exact ⟨List.getElem?_eq_some_iff.mpr ⟨hlt', hname.symm⟩, hown⟩
  constructor
  · intro x hx nodes hr node hnode
    obtain ⟨i, hi⟩ := List.mem_iff_getElem?.mp hnode
    exact (hnth x hx nodes hr i node hi).2
  · intro x hx y hy nodes nodes' hr hr' i i' node node' hi hi' hname
    have hi := (hnth x hx nodes hr i node hi).1
    have hi' := (hnth y hy nodes' hr' i' node' hi').1
    rw [← hname] at hi'
    exact hapart.apart _ (hcluster x hx) _ (hcluster y hy) i i' _ hi hi'

def partyCluster (name leafNodeName : String) : Cluster where
  name := name
  clusterTreeOptions :=
    some { leafModels := some [{ leafNodeName, nodeSelector := { labelSelector := some {} } }] }

def apartClusters : List Cluster := [partyCluster "c1" "east", partyCluster "c2" "west"]

theorem apartClusters_owned :
    NamesApart apartClusters [] ∧
    ∃ xs, trace rootStep [] (apartClusters.map fun k => { cluster := k }) = .ok xs ∧ Owned xs := by
  have hapart : NamesApart apartClusters [] := by
    refine ⟨fun _ _ _ _ n hn => absurd hn List.not_mem_nil, ?_⟩
    intro k hk k' hk' i i' name hi hi'
    have heast : (partyCluster "c1" "east").rootNodeNames = ["kosmos-east-0"] := by decide
    have hwest : (partyCluster "c2" "west").rootNodeNames = ["kosmos-west-0"] := by decide
    simp only [apartClusters, List.mem_cons, List.not_mem_nil, or_false] at hk hk'
    rcases hk with rfl | rfl <;> rcases hk' with rfl | rfl <;>
      simp only [heast, hwest, List.getElem?_singleton] at hi hi' <;> grind
  have hxs : trace rootStep [] (apartClusters.map fun k => { cluster := k }) = .ok _ := rfl
  refine ⟨hapart, _, hxs, trace_owned apartClusters [] hapart _ ?_ _ hxs⟩
  intro e he
  obtain ⟨k, hk, rfl⟩ := List.mem_map.mp he
  exact hk

def alikeClusters : List Cluster := [partyCluster "c1" "edge", partyCluster "c2" "edge"]

theorem alikeClusters_shared :
    (alikeClusters.map Cluster.name).Nodup ∧
    ∃ xs, trace rootStep [] (alikeClusters.map fun k => { cluster := k }) = .ok xs ∧
      ¬ Owned xs := by
  refine ⟨by decide, _, rfl, fun howned => ?_⟩
  have hown := howned.annotated _ (List.mem_cons_of_mem _ (List.mem_cons_self ..)) _ rfl _
    (List.mem_cons_self ..)
  exact absurd hown (by decide)

end Kosmos.Tree
