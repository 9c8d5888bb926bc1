import Kosmos.Api.Resources
import Kosmos.Go.Prog
import Kosmos.Tree.Registries

/-!
# Exports and imports on demand: `AutoCreateMCSController`

A service that asks gets an export, and an import in each leaf. What was created is not marked, so
it is known only by the services that asked once.

Reconciles run side by side, and a call fails in any way, also after it took effect. A change is
noticed at once.
-/

namespace Kosmos.AutoMcs

open Go Resources Kosmos.Tree

/-! ## Services and clusters -/

abbrev Key := String × String

structure Service where
  ns : String
  name : String
  annotations : Annotations := none
  terminating : Bool := false

def Service.key (s : Service) : Key := (s.ns, s.name)

structure ListedCluster where
  cluster : Cluster
  annotations : Annotations := none

def rootClusterAnnotationKey : String := "kosmos.io/cluster-role"

def rootClusterAnnotationValue : String := "root"

def isRootCluster (c : ListedCluster) : Bool :=
  readMap c.annotations rootClusterAnnotationKey = some rootClusterAnnotationValue

structure Config where
  autoCreateMCSPrefix : List String
  reservedNamespaces : List String

def autoCreateMCSAnnotation : String := "kosmos.io/auto-create-mcs"

def matchNamespace (namespaceName : String) (prefixes : List String) : Bool :=
  prefixes.any fun p => hasPrefix namespaceName p

def hasAutoMCSAnnotation (service : Service) : Bool :=
  (readMap service.annotations autoCreateMCSAnnotation).isSome

def shouldEnqueue (cfg : Config) (service : Service) : Bool :=
  if cfg.reservedNamespaces.contains service.ns then false
  else matchNamespace service.ns cfg.autoCreateMCSPrefix || hasAutoMCSAnnotation service

/-! ## Calls -/

inductive Op where
  | getService (key : Key)
  | listClusters
  | getLeafResource (actualClusterName : String)
  | createExport (key : Key)
  | deleteExport (key : Key)
  | createNamespace (leaf ns : String)
  | createImport (leaf : String) (key : Key)
  | deleteImport (leaf : String) (key : Key)

abbrev Op.Res : Op → Type
  | .getService _ => Except String (Option Service)
  | .listClusters => Except String (List ListedCluster)
  | .getLeafResource _ => Outcome LeafClientResource
  | _ => Option CallError

abbrev Reconcile := Prog Op.Res (Option CallError)

abbrev ask (op : Op) : Prog Op.Res op.Res := Prog.ask op

def deleteImports (key : Key) : List ListedCluster → Reconcile
  | [] => pure none
  | cluster :: rest =>
    if isRootCluster cluster then deleteImports key rest
    else do
      match ← ask (.getLeafResource (getActualClusterName cluster.cluster)) with
      | .error _ => pure (some (.other "get leafManager failed"))
      | .ok leafManager =>
        match ← ask (.deleteImport leafManager.cluster key) with
        | none => deleteImports key rest
        | some .notFound => deleteImports key rest
        | some err => pure (some err)

def cleanUpMcsResources (key : Key) (clusterList : List ListedCluster) : Reconcile := do
  match ← ask (.deleteExport key) with
  | none => deleteImports key clusterList
  | some .notFound => deleteImports key clusterList
  | some err => pure (some err)

def createImports (key : Key) : List ListedCluster → Reconcile
  | [] => pure none
  | cluster :: rest =>
    if isRootCluster cluster then createImports key rest
    else do
      match ← ask (.getLeafResource (getActualClusterName cluster.cluster)) with
      | .error _ => pure (some (.other "get leafClientManager failed"))
      | .ok leafManager =>
        let createImport : Reconcile := do
          match ← ask (.createImport leafManager.cluster key) with
          | none => createImports key rest
          | some .alreadyExists => createImports key rest
          | some err => pure (some err)
        match ← ask (.createNamespace leafManager.cluster key.1) with
        | none => createImport
        | some .alreadyExists => createImport
        | some err => pure (some err)

def autoCreateMcsResources (key : Key) (clusterList : List ListedCluster) : Reconcile := do
  match ← ask (.createExport key) with
  | none => createImports key clusterList
  | some .alreadyExists => createImports key clusterList
  | some err => pure (some err)

def shouldDelete (cfg : Config) : Option Service → Bool
  | none => true
  | some service =>
    !(matchNamespace service.ns cfg.autoCreateMCSPrefix || hasAutoMCSAnnotation service) ||
      service.terminating

def reconcile (cfg : Config) (key : Key) : Reconcile := do
  match ← ask (.getService key) with
  | .error msg => pure (some (.other msg))
  | .ok service =>
    match ← ask .listClusters with
    | .error msg => pure (some (.other msg))
    | .ok clusterList =>
      if shouldDelete cfg service then cleanUpMcsResources key clusterList
      else autoCreateMcsResources key clusterList

/-! ## The world -/

abbrev Objects := Store (id : Key → Key)

abbrev Namespaces := Store (id : String → String)

structure State where
  services : Store Service.key
  clusters : List ListedCluster
  clients : GoMap String LeafClientResource
  exports : Objects
  imports : String → Objects
  namespaces : String → Namespaces
  queue : List Key := []
  annotated : List Key

structure Answer where
  read : Option String := none
  write : WriteAnswer := .done

def Answer.reads {α : Type} (a : Answer) (x : α) : Except String α :=
  match a.read with
  | some msg => .error msg
  | none => .ok x

def exec (a : Answer) : (op : Op) → State → op.Res × State
  | .getService key, s => (a.reads (s.services.get? key), s)
  | .listClusters, s => (a.reads s.clusters, s)
  | .getLeafResource actualClusterName, s =>
    (getLeafClientResource s.clients actualClusterName, s)
  | .createExport key, s =>
    let (err, exports) := answered a.write (s.exports.create key) s.exports
    (err, { s with exports := exports })
  | .deleteExport key, s =>
    let (err, exports) := answered a.write (s.exports.delete key) s.exports
    (err, { s with exports := exports })
  | .createNamespace leaf ns, s =>
    let (err, names) := answered a.write ((s.namespaces leaf).create ns) (s.namespaces leaf)
    (err, { s with namespaces := Function.update s.namespaces leaf names })
  | .createImport leaf key, s =>
    let (err, imports) := answered a.write ((s.imports leaf).create key) (s.imports leaf)
    (err, { s with imports := Function.update s.imports leaf imports })
  | .deleteImport leaf key, s =>
    let (err, imports) := answered a.write ((s.imports leaf).delete key) (s.imports leaf)
    (err, { s with imports := Function.update s.imports leaf imports })

structure World where
  state : State
  pool : GoMap Key Reconcile

inductive Event where
  | serviceCreated (service : Service)
  | serviceUpdated (service : Service)
  | serviceDeleted (key : Key)
  | clusterCreated (cluster : ListedCluster) (listed : Bool)
  | clusterDeleted (name : String)
  | clients (clients : GoMap String LeafClientResource)
  | exports (exports : Objects)
  | imports (leaf : String) (imports : Objects)
  | namespaces (leaf : String) (names : Namespaces)
  | restart (listed : Bool)
  | start (key : Key)
  | call (key : Key) (a : Answer)
  | finish (key : Key)

def clusterFn (listed : Bool) (s : State) : List Key :=
  if listed then s.services.objects.map Service.key else []

def State.note (s : State) (service : Service) : List Key :=
  if hasAutoMCSAnnotation service then service.key :: s.annotated else s.annotated

def enqueueIf (b : Bool) (key : Key) (queue : List Key) : List Key :=
  if b then key :: queue else queue

def initialQueue (cfg : Config) (listed : Bool) (s : State) : List Key :=
  (s.services.objects.filter (shouldEnqueue cfg)).map Service.key ++
    if s.clusters.isEmpty then [] else clusterFn listed s

def step (cfg : Config) (w : World) : Event → Outcome (Unit × World)
  | .serviceCreated service =>
    match w.state.services.create service with
    | .error _ => .ok ((), w)
    | .ok services =>
      .ok ((), { w with state := { w.state with
        services := services
        annotated := w.state.note service
        queue := enqueueIf (shouldEnqueue cfg service) service.key w.state.queue } })
  | .serviceUpdated service =>
    match w.state.services.get? service.key, w.state.services.update service with
    | some old, .ok services =>
      .ok ((), { w with state := { w.state with
        services := services
        annotated := w.state.note service
        queue := enqueueIf (shouldEnqueue cfg service != shouldEnqueue cfg old) service.key
          w.state.queue } })
    | _, _ => .ok ((), w)
  | .serviceDeleted key =>
    match w.state.services.get? key, w.state.services.delete key with
    | some old, .ok services =>
      .ok ((), { w with state := { w.state with
        services := services
        queue := enqueueIf (shouldEnqueue cfg old) key w.state.queue } })
    | _, _ => .ok ((), w)
  | .clusterCreated cluster listed =>
    .ok ((), { w with state := { w.state with
      clusters := cluster :: w.state.clusters
      queue := clusterFn listed w.state ++ w.state.queue } })
  | .clusterDeleted name =>
    .ok ((), { w with state := { w.state with
      clusters := w.state.clusters.filter fun c => c.cluster.name ≠ name } })
  | .clients clients => .ok ((), { w with state := { w.state with clients := clients } })
  | .exports exports => .ok ((), { w with state := { w.state with exports := exports } })
  | .imports leaf imports =>
    .ok ((), { w with state := { w.state with
      imports := Function.update w.state.imports leaf imports } })
  | .namespaces leaf names =>
    .ok ((), { w with state := { w.state with
      namespaces := Function.update w.state.namespaces leaf names } })
  | .restart listed =>
    .ok ((), { state := { w.state with queue := initialQueue cfg listed w.state }, pool := .empty })
  | .start key =>
    if key ∈ w.state.queue ∧ (w.pool.get? key).isNone then
      .ok ((),
        { state := { w.state with queue := w.state.queue.filter fun k => k ≠ key }
          pool := w.pool.set key (reconcile cfg key) })
    else .ok ((), w)
  | .call key a =>
    match w.pool.get? key with
    | some (.call op next) =>
      let (r, state) := exec a op w.state
      .ok ((), { state := state, pool := w.pool.set key (next r) })
    | _ => .ok ((), w)
  | .finish key =>
    match w.pool.get? key with
    | some (.ret err) =>
      .ok ((),
        { state := { w.state with queue := enqueueIf err.isSome key w.state.queue }
          pool := w.pool.delete key })
    | _ => .ok ((), w)

def World.start (cfg : Config) (s : State) (listed : Bool) : World where
  state :=
    { s with
      queue := initialQueue cfg listed s
      annotated := (s.services.objects.filter hasAutoMCSAnnotation).map Service.key }
  pool := .empty

def runs (cfg : Config) (s : State) (listed : Bool) (es : List Event) : Run World Event Unit :=
  Run.loop (Run.once (step cfg)) es (World.start cfg s listed)

/-! ## What is the controller's own -/

section Own

variable (cfg : Config) (s s' : State)

/-- The service has asked at some time. -/
def EverManaged (key : Key) : Prop :=
  matchNamespace key.1 cfg.autoCreateMCSPrefix = true ∨ key ∈ s.annotated

def Reserved (ns : String) : Prop := ns ∈ cfg.reservedNamespaces

/-- The service has asked, and its namespace is not reserved. -/
def Own (key : Key) : Prop := EverManaged cfg s key ∧ ¬ Reserved cfg key.1

/-- Only services that have asked lose anything, and reserved namespaces nothing. -/
structure OwnTouched : Prop where
  exports : ∀ key ∈ s.exports.objects, key ∉ s'.exports.objects → EverManaged cfg s key
  imports : ∀ leaf, ∀ key ∈ (s.imports leaf).objects, key ∉ (s'.imports leaf).objects →
    EverManaged cfg s key
  reservedExports : ∀ key, Reserved cfg key.1 →
    (key ∈ s'.exports.objects ↔ key ∈ s.exports.objects)
  reservedImports : ∀ leaf key, Reserved cfg key.1 →
    (key ∈ (s'.imports leaf).objects ↔ key ∈ (s.imports leaf).objects)
  reservedNamespaces : ∀ leaf ns, Reserved cfg ns →
    (ns ∈ (s'.namespaces leaf).objects ↔ ns ∈ (s.namespaces leaf).objects)

def Apt (w : World) : Event → Prop
  | .clusterCreated _ listed => ∀ key ∈ clusterFn listed w.state, Own cfg w.state key
  | .restart listed => w.state.clusters ≠ [] → ∀ key ∈ clusterFn listed w.state, Own cfg w.state key
  | _ => True

end Own

/-! ## Calls of one request -/

def Op.OnKey (key : Key) : Op → Prop
  | .createExport k => k = key
  | .deleteExport k => k = key
  | .createNamespace _ ns => ns = key.1
  | .createImport _ k => k = key
  | .deleteImport _ k => k = key
  | _ => True

theorem deleteImports_calls (key : Key) (clusters : List ListedCluster) :
    (deleteImports key clusters).Calls (Op.OnKey key) := by
  induction clusters with
  | nil => trivial
  | cons cluster rest ih =>
    unfold deleteImports
    split
    · exact ih
    · refine Prog.Calls.ask trivial fun r => ?_
      split
      · trivial
      · refine Prog.Calls.ask rfl fun r => ?_
        split
        · exact ih
        · exact ih
        · trivial

theorem createImports_calls (key : Key) (clusters : List ListedCluster) :
    (createImports key clusters).Calls (Op.OnKey key) := by
  induction clusters with
  | nil => trivial
  | cons cluster rest ih =>
    unfold createImports
    split
    · exact ih
    · refine Prog.Calls.ask trivial fun r => ?_
      split
      · trivial
      next leafManager =>
        have himport : Prog.Calls (Op.OnKey key) (do
            match ← ask (.createImport leafManager.cluster key) with
            | none => createImports key rest
            | some .alreadyExists => createImports key rest
            | some err => pure (some err)) := by
          refine Prog.Calls.ask rfl fun r => ?_
          split
          · exact ih
          · exact ih
          · trivial
        refine Prog.Calls.ask rfl fun r => ?_
        split
        · exact himport
        · exact himport
        · trivial

theorem reconcile_calls (cfg : Config) (key : Key) :
    (reconcile cfg key).Calls (Op.OnKey key) := by
  refine Prog.Calls.ask trivial fun r => ?_
  split
  · trivial
  · refine Prog.Calls.ask trivial fun r => ?_
    split
    · trivial
    next clusters =>
      split
      · refine Prog.Calls.ask rfl fun r => ?_
        split
        · exact deleteImports_calls key clusters
        · exact deleteImports_calls key clusters
        · trivial
      · refine Prog.Calls.ask rfl fun r => ?_
        split
        · exact createImports_calls key clusters
        · exact createImports_calls key clusters
        · trivial

variable {cfg : Config} {s s' : State} {key : Key}

theorem mem_answered_create {α : Type} [DecidableEq α] {x : Store (id : α → α)} {k k' : α}
    (answer : WriteAnswer) (hne : k' ≠ k) :
    k' ∈ (answered answer (x.create k) x).2.objects ↔ k' ∈ x.objects := by
  rcases answered_state (s := x) answer (x.create k) with ⟨hsame, -⟩ | ⟨-, hok⟩
  · rw [hsame]
  · rw [Store.mem_create hok]
    exact or_iff_left hne

theorem mem_answered_delete {α : Type} [DecidableEq α] {x : Store (id : α → α)} {k k' : α}
    (answer : WriteAnswer) (hne : k' ≠ k) :
    k' ∈ (answered answer (x.delete k) x).2.objects ↔ k' ∈ x.objects := by
  rcases answered_state (s := x) answer (x.delete k) with ⟨hsame, -⟩ | ⟨-, hok⟩
  · rw [hsame]
  · rw [Store.mem_delete hok]
    exact and_iff_left hne

theorem mem_update_at {α : Type} {f : String → Store (id : α → α)} {leaf : String}
    {x : Store (id : α → α)} {k : α} (h : k ∈ x.objects ↔ k ∈ (f leaf).objects) (leaf' : String) :
    k ∈ (Function.update f leaf x leaf').objects ↔ k ∈ (f leaf').objects := by
  by_cases heq : leaf' = leaf
  · rw [heq, Function.update_self]
    exact h
  · rw [Function.update_of_ne heq]

structure OnlyFor (key : Key) (s s' : State) : Prop where
  exports : ∀ k, k ≠ key → (k ∈ s'.exports.objects ↔ k ∈ s.exports.objects)
  imports : ∀ leaf k, k ≠ key → (k ∈ (s'.imports leaf).objects ↔ k ∈ (s.imports leaf).objects)
  namespaces : ∀ leaf ns, ns ≠ key.1 →
    (ns ∈ (s'.namespaces leaf).objects ↔ ns ∈ (s.namespaces leaf).objects)

theorem OnlyFor.refl (key : Key) (s : State) : OnlyFor key s s :=
  ⟨fun _ _ => Iff.rfl, fun _ _ _ => Iff.rfl, fun _ _ _ => Iff.rfl⟩

theorem exec_onlyFor (a : Answer) {op : Op} (hop : op.OnKey key) :
    OnlyFor key s (exec a op s).2 := by
  have hrefl := OnlyFor.refl key s
  cases op with
  | getService k => exact hrefl
  | listClusters => exact hrefl
  | getLeafResource name => exact hrefl
  | createExport k =>
    cases hop
    exact ⟨fun k hk => mem_answered_create a.write hk, hrefl.imports, hrefl.namespaces⟩
  | deleteExport k =>
    cases hop
    exact ⟨fun k hk => mem_answered_delete a.write hk, hrefl.imports, hrefl.namespaces⟩
  | createNamespace leaf ns =>
    cases hop
    exact ⟨hrefl.exports, hrefl.imports, fun leaf' ns hns =>
      mem_update_at (mem_answered_create a.write hns) leaf'⟩
  | createImport leaf k =>
    cases hop
    exact ⟨hrefl.exports, fun leaf' k hk => mem_update_at (mem_answered_create a.write hk) leaf',
      hrefl.namespaces⟩
  | deleteImport leaf k =>
    cases hop
    exact ⟨hrefl.exports, fun leaf' k hk => mem_update_at (mem_answered_delete a.write hk) leaf',
      hrefl.namespaces⟩

theorem OwnTouched.refl (cfg : Config) (s : State) : OwnTouched cfg s s :=
  ⟨fun _ h hn => absurd h hn, fun _ _ h hn => absurd h hn, fun _ _ => Iff.rfl,
    fun _ _ _ => Iff.rfl, fun _ _ _ => Iff.rfl⟩

theorem OnlyFor.ownTouched (h : OnlyFor key s s') (hown : Own cfg s key) : OwnTouched cfg s s' := by
  obtain ⟨hmanaged, hreserved⟩ := hown
  have hne : ∀ k : Key, Reserved cfg k.1 → k ≠ key := by
    rintro k hk rfl
    exact hreserved hk
  refine ⟨fun k hk hgone => ?_, fun leaf k hk hgone => ?_, fun k hk => h.exports k (hne k hk),
    fun leaf k hk => h.imports leaf k (hne k hk), fun leaf ns hns => h.namespaces leaf ns ?_⟩
  · by_cases heq : k = key
    · rwa [heq]
    · exact absurd ((h.exports k heq).mpr hk) hgone
  · by_cases heq : k = key
    · rwa [heq]
    · exact absurd ((h.imports leaf k heq).mpr hk) hgone
  · rintro rfl
    exact hreserved hns

/-! ## Side by side -/

def Remembers (s s' : State) : Prop := ∀ key ∈ s.annotated, key ∈ s'.annotated

theorem Own.mono (h : Own cfg s key) (hs : Remembers s s') : Own cfg s' key :=
  ⟨h.1.imp_right (hs key), h.2⟩

@[simp] theorem exec_annotated (a : Answer) (op : Op) (s : State) :
    (exec a op s).2.annotated = s.annotated := by
  cases op <;> rfl

@[simp] theorem exec_queue (a : Answer) (op : Op) (s : State) :
    (exec a op s).2.queue = s.queue := by
  cases op <;> rfl

def rules (cfg : Config) (key : Key) : Rules State Op.Res where
  answers := fun op s r s' => ∃ a, exec a op s = (r, s')
  allowed := fun op s => op.OnKey key ∧ Own cfg s key
  rely := Remembers

theorem answers_remembers {op : Op} {r : op.Res} (h : (rules cfg key).answers op s r s') :
    Remembers s s' := by
  obtain ⟨a, ha⟩ := h
  intro k hk
  have hsame := exec_annotated a op s
  rw [ha] at hsame
  rwa [hsame]

theorem own_stable (cfg : Config) (key : Key) : (rules cfg key).Stable (Own cfg · key) :=
  fun _ _ h hrely => h.mono hrely

theorem reconcile_holds (cfg : Config) (key : Key) :
    (rules cfg key).Holds (fun _ s => Own cfg s key) (reconcile cfg key) (Own cfg · key) :=
  Rules.Holds.of_calls (reconcile_calls cfg key) (own_stable cfg key)
    (fun _ _ hop hown => ⟨hop, hown⟩) fun _ _ _ _ hown h => hown.mono (answers_remembers h)

def Noted (s : State) : Prop :=
  ∀ service ∈ s.services.objects, hasAutoMCSAnnotation service = true →
    service.key ∈ s.annotated

/-- All requests are for services of the controller's own. -/
structure Inv (cfg : Config) (w : World) : Prop where
  noted : Noted w.state
  queue : ∀ key ∈ w.state.queue, Own cfg w.state key
  pool : Covered (rules cfg) (fun key _ s => Own cfg s key) w.state w.pool

variable {w w' : World} {e : Event} {u : Unit}

theorem Inv.grow (h : Inv cfg w) {state : State} (hs : Remembers w.state state)
    (hnoted : Noted state)
    (hqueue : ∀ key ∈ state.queue, key ∈ w.state.queue ∨ Own cfg state key) :
    Inv cfg { w with state := state } := by
  refine ⟨hnoted, fun key hkey => ?_, h.pool.others fun _ _ _ => hs⟩
  rcases hqueue key hkey with hold | hnew
  · exact (h.queue key hold).mono hs
  · exact hnew

theorem mem_enqueueIf {b : Bool} {key key' : Key} {queue : List Key} :
    key' ∈ enqueueIf b key queue ↔ (b = true ∧ key' = key) ∨ key' ∈ queue := by
  unfold enqueueIf
  cases b <;> simp

theorem mem_note {service : Service} :
    key ∈ s.note service ↔
      (key = service.key ∧ hasAutoMCSAnnotation service = true) ∨ key ∈ s.annotated := by
  unfold State.note
  split
  next h => rw [List.mem_cons, and_iff_left h]
  next h => rw [iff_false_intro h, and_false, false_or]

theorem own_of_shouldEnqueue {service : Service} (h : shouldEnqueue cfg service = true)
    (hnoted : hasAutoMCSAnnotation service = true → service.key ∈ s.annotated) :
    Own cfg s service.key := by
  unfold shouldEnqueue at h
  split at h
  · cases h
  next hreserved =>
    rw [Bool.or_eq_true] at h
    exact ⟨h.imp_right hnoted, fun hns => hreserved (List.contains_iff_mem.mpr hns)⟩

/-! ## One step -/

theorem serviceCreated_inv {service : Service} (h : Inv cfg w)
    (hstep : step cfg w (.serviceCreated service) = .ok (u, w')) : Inv cfg w' := by
  simp only [step] at hstep
  split at hstep
  · cases hstep
    exact h
  next services hcreate =>
    cases hstep
    refine h.grow (fun key hkey => mem_note.mpr (Or.inr hkey)) ?_ fun key hkey => ?_
    · intro x hx hannotated
      rcases (Store.mem_create hcreate).mp hx with hx | rfl
      · exact mem_note.mpr (Or.inr (h.noted x hx hannotated))
      · exact mem_note.mpr (Or.inl ⟨rfl, hannotated⟩)
    · rcases mem_enqueueIf.mp hkey with ⟨hpass, rfl⟩ | hold
      · exact Or.inr (own_of_shouldEnqueue hpass fun hannotated =>
          mem_note.mpr (Or.inl ⟨rfl, hannotated⟩))
      · exact Or.inl hold

theorem serviceUpdated_inv {service : Service} (h : Inv cfg w)
    (hstep : step cfg w (.serviceUpdated service) = .ok (u, w')) : Inv cfg w' := by
  simp only [step] at hstep
  split at hstep
  next old services hold hupdate =>
    cases hstep
    have hs : ∀ key ∈ w.state.annotated, key ∈ w.state.note service := fun key hkey =>
      mem_note.mpr (Or.inr hkey)
    obtain ⟨hmem, hkeys⟩ := Store.get?_eq_some.mp hold
    refine h.grow hs ?_ fun key hkey => ?_
    · intro x hx hannotated
      rcases (Store.mem_update hupdate).mp hx with rfl | ⟨hx, -⟩
      · exact mem_note.mpr (Or.inl ⟨rfl, hannotated⟩)
      · exact hs _ (h.noted x hx hannotated)
    · rcases mem_enqueueIf.mp hkey with ⟨hpass, rfl⟩ | hqueued
      · refine Or.inr ?_
        cases hnew : shouldEnqueue cfg service with
        | true =>
          exact own_of_shouldEnqueue hnew fun hannotated => mem_note.mpr (Or.inl ⟨rfl, hannotated⟩)
        | false =>
          rw [hnew, bne_iff_ne, ne_comm, ne_eq, Bool.not_eq_false] at hpass
          rw [← hkeys]
          exact own_of_shouldEnqueue hpass fun hannotated => hs _ (h.noted old hmem hannotated)
      · exact Or.inl hqueued
  · cases hstep
    exact h

theorem serviceDeleted_inv (h : Inv cfg w)
    (hstep : step cfg w (.serviceDeleted key) = .ok (u, w')) : Inv cfg w' := by
  simp only [step] at hstep
  split at hstep
  next old services hold hdelete =>
    cases hstep
    obtain ⟨hmem, hkeys⟩ := Store.get?_eq_some.mp hold
    refine h.grow (fun _ hk => hk) ?_ fun key' hkey' => ?_
    · intro x hx hannotated
      exact h.noted x ((Store.mem_delete hdelete).mp hx).1 hannotated
    · rcases mem_enqueueIf.mp hkey' with ⟨hpass, rfl⟩ | hqueued
      · rw [← hkeys]
        exact Or.inr (own_of_shouldEnqueue hpass fun hannotated => h.noted old hmem hannotated)
      · exact Or.inl hqueued
  · cases hstep
    exact h

theorem clusterCreated_inv_iff {cluster : ListedCluster} {listed : Bool} (h : Inv cfg w)
    (hstep : step cfg w (.clusterCreated cluster listed) = .ok (u, w')) :
    Inv cfg w' ↔ Apt cfg w (.clusterCreated cluster listed) := by
  cases hstep
  constructor
  · intro h' key hkey
    exact h'.queue key (List.mem_append_left _ hkey)
  · intro hapt
    refine h.grow (fun _ hk => hk) h.noted fun key hkey => ?_
    rcases List.mem_append.mp hkey with hnew | hold
    · exact Or.inr (hapt key hnew)
    · exact Or.inl hold

theorem initialQueue_own_iff (hnoted : Noted s) (listed : Bool) :
    (∀ key ∈ initialQueue cfg listed s, Own cfg s key) ↔
      (s.clusters ≠ [] → ∀ key ∈ clusterFn listed s, Own cfg s key) := by
  have hservices : ∀ key ∈ (s.services.objects.filter (shouldEnqueue cfg)).map Service.key,
      Own cfg s key := by
    intro key hkey
    obtain ⟨service, hservice, rfl⟩ := List.mem_map.mp hkey
    obtain ⟨hmem, hpass⟩ := List.mem_filter.mp hservice
    exact own_of_shouldEnqueue hpass (hnoted service hmem)
  unfold initialQueue
  rw [List.forall_mem_append, and_iff_right hservices]
  cases s.clusters with
  | nil => simp
  | cons c cs => simp

theorem restart_inv_iff {listed : Bool} (h : Inv cfg w)
    (hstep : step cfg w (.restart listed) = .ok (u, w')) :
    Inv cfg w' ↔ Apt cfg w (.restart listed) := by
  cases hstep
  refine Iff.trans ?_ (initialQueue_own_iff h.noted listed)
  constructor
  · exact fun h' => h'.queue
  · exact fun hqueue => ⟨h.noted, hqueue, fun _ _ hx => nomatch hx⟩

theorem start_inv (h : Inv cfg w) (hstep : step cfg w (.start key) = .ok (u, w')) :
    Inv cfg w' := by
  simp only [step] at hstep
  split at hstep
  next hstart =>
    cases hstep
    have hown := h.queue key hstart.1
    refine ⟨h.noted, fun k hk => h.queue k (List.mem_filter.mp hk).1, ?_⟩
    have hpool : Covered (rules cfg) (fun key _ s => Own cfg s key)
        { w.state with queue := w.state.queue.filter fun k => k ≠ key } w.pool :=
      h.pool.others fun _ _ _ _ hk => hk
    exact hpool.start _ (own_stable cfg key) hown (reconcile_holds cfg key)
  · cases hstep
    exact h

theorem call_inv {a : Answer} (h : Inv cfg w) (hstep : step cfg w (.call key a) = .ok (u, w')) :
    Inv cfg w' ∧ OwnTouched cfg w.state w'.state := by
  simp only [step] at hstep
  split at hstep
  next op next hget =>
    cases hstep
    obtain ⟨hop, hown⟩ := h.pool.allowed hget
    have hanswers :
        (rules cfg key).answers op w.state (exec a op w.state).1 (exec a op w.state).2 :=
      ⟨a, rfl⟩
    have hs := answers_remembers hanswers
    refine ⟨⟨?_, fun k hk => ?_, h.pool.answer hget hanswers fun _ _ _ _ => hs⟩,
      (exec_onlyFor a hop).ownTouched hown⟩
    · have hservices : (exec a op w.state).2.services = w.state.services := by cases op <;> rfl
      intro x hx hannotated
      rw [hservices] at hx
      exact hs _ (h.noted x hx hannotated)
    · rw [exec_queue] at hk
      exact (h.queue k hk).mono hs
  · cases hstep
    exact ⟨h, .refl cfg w.state⟩

theorem finish_inv (h : Inv cfg w) (hstep : step cfg w (.finish key) = .ok (u, w')) :
    Inv cfg w' := by
  simp only [step] at hstep
  split at hstep
  next err hget =>
    cases hstep
    have hown : Own cfg w.state key := h.pool.returned hget
    have hgrown : Inv cfg { w with
        state := { w.state with queue := enqueueIf err.isSome key w.state.queue } } := by
      refine h.grow (fun _ hk => hk) h.noted fun k hk => ?_
      rcases mem_enqueueIf.mp hk with ⟨-, rfl⟩ | hold
      · exact Or.inr hown
      · exact Or.inl hold
    exact ⟨hgrown.noted, hgrown.queue, hgrown.pool.finish⟩
  · cases hstep
    exact h

theorem step_inv_iff (h : Inv cfg w) (hstep : step cfg w e = .ok (u, w')) :
    Inv cfg w' ↔ Apt cfg w e := by
  cases e with
  | serviceCreated service => exact iff_of_true (serviceCreated_inv h hstep) trivial
  | serviceUpdated service => exact iff_of_true (serviceUpdated_inv h hstep) trivial
  | serviceDeleted key => exact iff_of_true (serviceDeleted_inv h hstep) trivial
  | clusterCreated cluster listed => exact clusterCreated_inv_iff h hstep
  | restart listed => exact restart_inv_iff h hstep
  | start key => exact iff_of_true (start_inv h hstep) trivial
  | call key a => exact iff_of_true (call_inv h hstep).1 trivial
  | finish key => exact iff_of_true (finish_inv h hstep) trivial
  | clusterDeleted name | clients clients | exports exports | imports leaf imports
  | namespaces leaf names =>
    cases hstep
    exact iff_of_true (h.grow (fun _ hk => hk) h.noted fun _ hk => Or.inl hk) trivial

/-! ## Runs -/

/-- At the start, with clusters there, all services are the controller's own. -/
def StartApt (cfg : Config) (s : State) (listed : Bool) : Prop :=
  s.clusters ≠ [] → ∀ key ∈ clusterFn listed s, Own cfg (World.start cfg s listed).state key

theorem start_inv_iff (cfg : Config) (s : State) (listed : Bool) :
    Inv cfg (World.start cfg s listed) ↔ StartApt cfg s listed := by
  have hnoted : Noted (World.start cfg s listed).state := by
    intro service hservice hannotated
    exact List.mem_map_of_mem (List.mem_filter.mpr ⟨hservice, hannotated⟩)
  refine Iff.trans ?_ (initialQueue_own_iff hnoted listed)
  constructor
  · exact fun h => h.queue
  · exact fun hqueue => ⟨hnoted, hqueue, fun _ _ hx => nomatch hx⟩

section Runs

variable (cfg : Config) (s : State) (listed : Bool) (es : List Event)

theorem runs_trace : ∃ es', trace (step cfg) (World.start cfg s listed) es' =
    .ok (runs cfg s listed es).moves :=
  Run.loop_moves_trace es _

theorem queue_own_iff :
    (Inv cfg (World.start cfg s listed) ∧ ∀ m ∈ (runs cfg s listed es).moves, Inv cfg m.after) ↔
      StartApt cfg s listed ∧ ∀ m ∈ (runs cfg s listed es).moves, Apt cfg m.before m.event := by
  rw [start_inv_iff]
  refine and_congr_right fun hstart => ?_
  obtain ⟨es', htrace⟩ := runs_trace cfg s listed es
  exact trace_keeps_iff (A := fun m => Apt cfg m.before m.event)
    (fun w e u w' hinv hstep => step_inv_iff hinv hstep) ((start_inv_iff cfg s listed).mpr hstart)
    htrace

/-- In a run in which noticed clusters meet only own services, no call touches what is not the
controller's. -/
theorem own_touched (hstart : StartApt cfg s listed)
    (hapt : ∀ m ∈ (runs cfg s listed es).moves, Apt cfg m.before m.event) :
    ∀ m ∈ (runs cfg s listed es).moves, ∀ key a, m.event = .call key a →
      OwnTouched cfg m.before.state m.after.state := by
  obtain ⟨hinv, hafter⟩ := (queue_own_iff cfg s listed es).mpr ⟨hstart, hapt⟩
  obtain ⟨es', htrace⟩ := runs_trace cfg s listed es
  intro m hm key a hevent
  have hbefore := trace_before htrace hinv hafter m hm
  have hstep := trace_step htrace m hm
  rw [hevent] at hstep
  exact (call_inv hbefore hstep).2

end Runs

/-! ## A cluster joins -/

def oneService (service : Service) (exports : Objects) : State where
  services := ⟨[service], List.pairwise_singleton _ _⟩
  clusters := []
  clients := .empty
  exports := exports
  imports := fun _ => .empty
  namespaces := fun _ => .empty
  annotated := []

def joins (key : Key) : List Event :=
  [.clusterCreated ⟨{ name := "c1" }, none⟩ true, .start key, .call key {}, .call key {},
    .call key {}]

def askingService : Service where
  ns := "default"
  name := "web"
  annotations := some (GoMap.empty.set autoCreateMCSAnnotation "true")

theorem own_touched_asking :
    ∃ m ∈ (runs ⟨[], ["kube-system"]⟩ (oneService askingService .empty) true
        (joins ("default", "web"))).moves,
      m.after.state.exports.objects = [("default", "web")] ∧
        OwnTouched ⟨[], ["kube-system"]⟩ m.before.state m.after.state := by
  refine ⟨_, List.mem_of_getElem? (i := 4) rfl, by decide +kernel, ?_⟩
  refine own_touched ⟨[], ["kube-system"]⟩ (oneService askingService .empty) true
    (joins ("default", "web")) (fun h => absurd rfl h) ?_ _ (List.mem_of_getElem? (i := 4) rfl)
    ("default", "web") {} rfl
  refine List.forall_mem_cons.mpr ⟨fun key hkey => ?_, ?_⟩
  · cases List.mem_singleton.mp hkey
    exact ⟨Or.inr (List.mem_singleton_self _),
      fun h => absurd (List.mem_singleton.mp h) (by decide)⟩
  · exact List.forall_mem_cons.mpr ⟨trivial, List.forall_mem_cons.mpr ⟨trivial,
      List.forall_mem_cons.mpr ⟨trivial, List.forall_mem_cons.mpr ⟨trivial,
        List.forall_mem_nil _⟩⟩⟩⟩

def plainService : Service := { ns := "default", name := "web" }

def systemService : Service := { ns := "kube-system", name := "dns" }

theorem joins_touches_foreign :
    (∃ m ∈ (runs ⟨[], ["kube-system"]⟩
        (oneService plainService ⟨[("default", "web")], List.pairwise_singleton _ _⟩) true
        (joins ("default", "web"))).moves,
      m.after.state.exports.objects = [] ∧
        ¬ OwnTouched ⟨[], ["kube-system"]⟩ m.before.state m.after.state) ∧
    ∃ m ∈ (runs ⟨["kube"], ["kube-system"]⟩ (oneService systemService .empty) true
        (joins ("kube-system", "dns"))).moves,
      m.after.state.exports.objects = [("kube-system", "dns")] ∧
        ¬ OwnTouched ⟨["kube"], ["kube-system"]⟩ m.before.state m.after.state := by
  refine ⟨⟨_, List.mem_of_getElem? (i := 4) rfl, by decide +kernel, fun h => ?_⟩,
    _, List.mem_of_getElem? (i := 4) rfl, by decide +kernel, fun h => ?_⟩
  · rcases h.exports ("default", "web") (by decide +kernel) (by decide +kernel) with hns | hnoted
    · revert hns
      decide +kernel
    · revert hnoted
      decide +kernel
  · have hsame := h.reservedExports ("kube-system", "dns") (List.mem_singleton_self _)
    revert hsame
    decide +kernel

end Kosmos.AutoMcs
