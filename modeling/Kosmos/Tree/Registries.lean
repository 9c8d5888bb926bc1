import Kosmos.Tree.LeafResource

/-!
# The two registries: leaves and their clients

Leaves go by the name of the cluster, clients by its *actual* name.
-/

namespace Kosmos.Tree

open Kosmos.Go

structure LeafClientResource where
  cluster : String
  deriving DecidableEq

def kosmosActualClusterName : String := "kosmos.io/actual-cluster-name"

def getActualClusterName (cluster : Cluster) : String :=
  match cluster.labels.lookup kosmosActualClusterName with
  | some actualName => actualName
  | none => cluster.name

def getLeafResource (resourceMap : GoMap String LeafResource) (clusterName : String) :
    Outcome LeafResource :=
  match resourceMap.get? clusterName with
  | some m => .ok m
  | none => .error (.err ("cannot get leaf resource, clusterName: " ++ clusterName))

def getLeafClientResource (clientResourceMap : GoMap String LeafClientResource)
    (actualClusterName : String) : Outcome LeafClientResource :=
  match clientResourceMap.get? actualClusterName with
  | some m => .ok m
  | none =>
    .error (.err ("cannot get leaf client resource, actualClusterName: " ++ actualClusterName))

def addLeafClientResource (clientResourceMap : GoMap String LeafClientResource)
    (lcr : LeafClientResource) (cluster : Cluster) : GoMap String LeafClientResource :=
  let actualClusterName := getActualClusterName cluster
  -- an entry that is there already stays
  if (clientResourceMap.get? actualClusterName).isSome then clientResourceMap
  else clientResourceMap.set actualClusterName lcr

def removeLeafClientResource (clientResourceMap : GoMap String LeafClientResource)
    (actualClusterName : String) : GoMap String LeafClientResource :=
  clientResourceMap.delete actualClusterName

def listActualClusters (visited : List (String × LeafClientResource)) : List String :=
  (visited.map Prod.fst).filter fun k => k ≠ ""

def leafClientResource (clientResourceMap : GoMap String LeafClientResource) (lr : LeafResource) :
    Outcome LeafClientResource :=
  match getLeafClientResource clientResourceMap (getActualClusterName lr.cluster) with
  | .error (.err err) => .error (.err ("get leaf client resource err: " ++ err))
  | res => res

structure Registries where
  resourceMap : GoMap String LeafResource := .empty
  clientResourceMap : GoMap String LeafClientResource := .empty

namespace Registries

def clear (cluster : Cluster) (w : Registries) : Registries where
  resourceMap := removeLeafResource w.resourceMap cluster.name
  clientResourceMap := removeLeafClientResource w.clientResourceMap (getActualClusterName cluster)

def add (cluster : Cluster) (nodes : List String) (w : Registries) : Outcome Registries := do
  let resourceMap ← addLeafResource w.resourceMap cluster nodes
  pure
    { resourceMap
      clientResourceMap :=
        addLeafClientResource w.clientResourceMap { cluster := cluster.name } cluster }

end Registries

inductive RegistriesEvent where
  | setup (cluster : Cluster) (nodes : List String)
  | clear (cluster : Cluster)

variable {clientResourceMap : GoMap String LeafClientResource}

namespace Registries

def setup (cluster : Cluster) (nodes : List String) (w : Registries) : Outcome Registries :=
  (w.clear cluster).add cluster nodes

def step (w : Registries) : RegistriesEvent → Outcome (Unit × Registries)
  | .setup cluster nodes => do
    let w ← w.setup cluster nodes
    pure ((), w)
  | .clear cluster => pure ((), w.clear cluster)

/-- A registered leaf has its clients, and an actual cluster is a leaf. -/
structure Coherent (w : Registries) : Prop where
  client : ∀ c r, (c, r) ∈ w.resourceMap.entries →
    ∃ lcr, leafClientResource w.clientResourceMap r = .ok lcr
  leaf : ∀ a ∈ listActualClusters w.clientResourceMap.entries,
    ∃ r, getLeafResource w.resourceMap a = .ok r

def Apt (w : Registries) : RegistriesEvent → Prop
  | .setup cluster _ =>
    getActualClusterName cluster = "" ∨ getActualClusterName cluster = cluster.name ∨
      getActualClusterName cluster ∈ w.resourceMap.keys
  | .clear cluster =>
    (∀ e ∈ w.resourceMap.entries, e.1 ≠ cluster.name →
      getActualClusterName e.2.cluster ≠ getActualClusterName cluster) ∧
    (cluster.name = "" ∨ cluster.name = getActualClusterName cluster ∨
      cluster.name ∉ w.clientResourceMap.keys)

instance (w : Registries) : (e : RegistriesEvent) → Decidable (w.Apt e)
  | .setup cluster _ =>
    inferInstanceAs (Decidable (getActualClusterName cluster = "" ∨
      getActualClusterName cluster = cluster.name ∨
      getActualClusterName cluster ∈ w.resourceMap.keys))
  | .clear cluster =>
    inferInstanceAs (Decidable ((∀ e ∈ w.resourceMap.entries, e.1 ≠ cluster.name →
      getActualClusterName e.2.cluster ≠ getActualClusterName cluster) ∧
      (cluster.name = "" ∨ cluster.name = getActualClusterName cluster ∨
        cluster.name ∉ w.clientResourceMap.keys)))

section Step

variable {w w' : Registries} {cluster : Cluster} {nodes : List String} {e : RegistriesEvent}

theorem getLeafResource_ok {resourceMap : GoMap String LeafResource} {c : String} :
    (∃ r, getLeafResource resourceMap c = .ok r) ↔ c ∈ resourceMap.keys := by
  rw [← GoMap.isSome_get?, getLeafResource]
  cases resourceMap.get? c <;> simp

theorem leafClientResource_ok {lr : LeafResource} :
    (∃ lcr, leafClientResource clientResourceMap lr = .ok lcr) ↔
      getActualClusterName lr.cluster ∈ clientResourceMap.keys := by
  rw [← GoMap.isSome_get?, leafClientResource, getLeafClientResource]
  cases clientResourceMap.get? (getActualClusterName lr.cluster) <;> simp

theorem mem_listActualClusters {a : String} :
    a ∈ listActualClusters clientResourceMap.entries ↔ a ∈ clientResourceMap.keys ∧ a ≠ "" := by
  rw [listActualClusters, List.mem_filter, decide_eq_true_iff]
  rfl

theorem coherent_iff :
    w.Coherent ↔
      (∀ c r, (c, r) ∈ w.resourceMap.entries →
        getActualClusterName r.cluster ∈ w.clientResourceMap.keys) ∧
      ∀ a ∈ w.clientResourceMap.keys, a ≠ "" → a ∈ w.resourceMap.keys := by
  constructor
  · intro h
    refine ⟨fun c r hcr => leafClientResource_ok.mp (h.client c r hcr), fun a ha hne => ?_⟩
    exact getLeafResource_ok.mp (h.leaf a (mem_listActualClusters.mpr ⟨ha, hne⟩))
  · intro ⟨hclient, hleaf⟩
    refine ⟨fun c r hcr => leafClientResource_ok.mpr (hclient c r hcr), fun a ha => ?_⟩
    obtain ⟨hkey, hne⟩ := mem_listActualClusters.mp ha
    exact getLeafResource_ok.mpr (hleaf a hkey hne)

theorem addLeafClientResource_keys {lcr : LeafClientResource} {a : String} :
    a ∈ (addLeafClientResource clientResourceMap lcr cluster).keys ↔
      a = getActualClusterName cluster ∨ a ∈ clientResourceMap.keys := by
  unfold addLeafClientResource
  simp only
  split
  next hthere =>
    have hkey := GoMap.isSome_get?.mp hthere
    refine ⟨Or.inr, fun h => ?_⟩
    rcases h with rfl | h
    · exact hkey
    · exact h
  · exact GoMap.mem_keys_set

theorem setup_eq_ok (h : w.setup cluster nodes = .ok w') :
    (∃ clusterNodes, w'.resourceMap = (w.resourceMap.delete cluster.name).set cluster.name
      { cluster, nodes := clusterNodes }) ∧
    ∀ a, a ∈ w'.clientResourceMap.keys ↔
      a = getActualClusterName cluster ∨ a ∈ w.clientResourceMap.keys := by
  obtain ⟨resourceMap, hadd, h⟩ := bind_eq_ok h
  obtain ⟨options, -, hadd⟩ := bind_eq_ok hadd
  obtain ⟨clusterNodes, -, hadd⟩ := bind_eq_ok hadd
  cases hadd
  cases h
  refine ⟨⟨clusterNodes, rfl⟩, fun a => ?_⟩
  rw [addLeafClientResource_keys]
  show a = _ ∨ a ∈ (w.clientResourceMap.delete (getActualClusterName cluster)).keys ↔ _
  rw [GoMap.mem_keys_delete]
  by_cases ha : a = getActualClusterName cluster
  · simp [ha]
  · simp [ha]

theorem setup_coherent_iff (hw : w.Coherent) (h : w.setup cluster nodes = .ok w') :
    w'.Coherent ↔ w.Apt (.setup cluster nodes) := by
  obtain ⟨⟨clusterNodes, hmap⟩, hkeys⟩ := setup_eq_ok h
  obtain ⟨hclient, hleaf⟩ := coherent_iff.mp hw
  have hnames : ∀ n, n ∈ w'.resourceMap.keys ↔ n = cluster.name ∨ n ∈ w.resourceMap.keys := by
    intro n
    rw [hmap, GoMap.mem_keys_set, GoMap.mem_keys_delete]
    by_cases hn : n = cluster.name
    · simp [hn]
    · simp [hn]
  rw [coherent_iff]
  show _ ↔ _ ∨ _ ∨ _
  constructor
  · intro ⟨_, hleaf'⟩
    by_cases hempty : getActualClusterName cluster = ""
    · exact Or.inl hempty
    · exact Or.inr ((hnames _).mp (hleaf' _ ((hkeys _).mpr (Or.inl rfl)) hempty))
  · intro hapt
    refine ⟨fun c r hcr => ?_, fun a ha hne => ?_⟩
    · rw [hmap, GoMap.mem_set, GoMap.mem_delete] at hcr
      rw [hkeys]
      rcases hcr with heq | ⟨⟨hold, _⟩, _⟩
      · cases heq
        exact Or.inl rfl
      · exact Or.inr (hclient c r hold)
    · rw [hnames]
      rcases (hkeys a).mp ha with rfl | hold
      · rcases hapt with hempty | hown | hother
        · exact absurd hempty hne
        · exact Or.inl hown
        · exact Or.inr hother
      · exact Or.inr (hleaf a hold hne)

theorem clear_coherent_iff (hw : w.Coherent) :
    (w.clear cluster).Coherent ↔ w.Apt (.clear cluster) := by
  obtain ⟨hclient, hleaf⟩ := coherent_iff.mp hw
  rw [coherent_iff]
  show (∀ c r, (c, r) ∈ (w.resourceMap.delete cluster.name).entries →
      _ ∈ (w.clientResourceMap.delete (getActualClusterName cluster)).keys) ∧
    (∀ a ∈ (w.clientResourceMap.delete (getActualClusterName cluster)).keys, a ≠ "" →
      a ∈ (w.resourceMap.delete cluster.name).keys) ↔ _ ∧ (_ ∨ _ ∨ _)
  simp only [GoMap.mem_delete, GoMap.mem_keys_delete]
  constructor
  · rintro ⟨hclient', hleaf'⟩
    refine ⟨fun e he hne => (hclient' e.1 e.2 ⟨he, hne⟩).2, ?_⟩
    by_contra hno
    push Not at hno
    obtain ⟨hempty, hother, hkey⟩ := hno
    exact (hleaf' cluster.name ⟨hkey, hother⟩ hempty).2 rfl
  · rintro ⟨hothers, hown⟩
    refine ⟨fun c r h => ⟨hclient c r h.1, hothers _ h.1 h.2⟩, ?_⟩
    rintro a ⟨ha, hactual⟩ hne
    refine ⟨hleaf a ha hne, fun hname => ?_⟩
    subst hname
    rcases hown with hempty | hsame | hkey
    · exact hne hempty
    · exact hactual hsame
    · exact hkey ha

theorem step_coherent_iff {u : Unit} (hw : w.Coherent) (h : w.step e = .ok (u, w')) :
    w'.Coherent ↔ w.Apt e := by
  cases e with
  | setup cluster nodes =>
    obtain ⟨w'', hsetup, h⟩ := bind_eq_ok h
    cases h
    exact setup_coherent_iff hw hsetup
  | clear cluster =>
    cases h
    exact clear_coherent_iff hw

theorem empty_coherent : ({} : Registries).Coherent :=
  ⟨fun _ _ hcr => absurd hcr List.not_mem_nil, fun _ ha => absurd ha List.not_mem_nil⟩

end Step

end Registries

/-- **The registries over whole runs**: they are coherent after each reconcile exactly when each
reconcile is apt. -/
theorem trace_coherent_iff (es : List RegistriesEvent)
    (xs : List (Move Registries RegistriesEvent Unit))
    (h : trace Registries.step {} es = .ok xs) :
    (∀ x ∈ xs, x.after.Coherent) ↔ ∀ x ∈ xs, x.before.Apt x.event :=
  trace_keeps_iff (I := Registries.Coherent) (A := fun x => x.before.Apt x.event)
    (fun _ _ _ _ hw hstep => Registries.step_coherent_iff hw hstep) Registries.empty_coherent h

def aliasOfA : Cluster where
  name := "b"
  labels := [(kosmosActualClusterName, "a")]

def aliasRun : List RegistriesEvent :=
  [.setup { name := "a" } ["kosmos-a"], .setup aliasOfA ["kosmos-b"]]

theorem aliasRun_coherent :
    ∃ xs, trace Registries.step {} aliasRun = .ok xs ∧
      ∃ x ∈ xs, x.after.resourceMap.keys = ["b", "a"] ∧ x.after.Coherent := by
  have hxs : trace Registries.step {} aliasRun = .ok _ := rfl
  refine ⟨_, hxs, _, List.mem_of_getElem? (i := 1) rfl, rfl, ?_⟩
  refine (trace_coherent_iff aliasRun _ hxs).mpr ?_ _ (List.mem_of_getElem? (i := 1) rfl)
  decide +kernel

def aliasLeaves : List RegistriesEvent := aliasRun ++ [.clear aliasOfA]

theorem aliasLeaves_not_coherent :
    ∃ xs, trace Registries.step {} aliasLeaves = .ok xs ∧
      ∃ x ∈ xs, x.after.resourceMap.keys = ["a"] ∧ ¬ x.after.Coherent := by
  refine ⟨_, rfl, _, List.mem_of_getElem? (i := 2) rfl, rfl, fun h => ?_⟩
  obtain ⟨lcr, hlcr⟩ := h.client "a" _ List.mem_cons_self
  cases hlcr

end Kosmos.Tree
