import Kosmos.Go.Update
import Kosmos.Mcs.LeafServices

/-!
# Exports and imports, call by call

Each reconcile cleans up and takes the finalizer off, or does its work and then puts it on.

A read that does not fail returns what is there; the listers of the root show what they like. A
write fails before or after it takes effect. An object in deletion goes when its last finalizer
does. Others do not set the marks of Kosmos. A change makes a request where the controllers watch
for it; so does a reconcile that ends with an error, for an import up to fifteen times, or is given
up by a panic or restart.
-/

namespace Kosmos.McsOwners

open Go Mcs

def serviceExportLabelKey : String := "kosmos.io/service-export"

abbrev Owner := ServiceImport

structure RootSlice where
  slice : EndpointSlice
  terminating : Bool := false
  deriving DecidableEq

def RootSlice.key (x : RootSlice) : Key := x.slice.key

def RootSlice.marked (x : RootSlice) : Bool :=
  hasAnnotation x.slice.annotations serviceExportLabelKey

def imported (annotations : GoMap String String) : Bool :=
  hasAnnotation annotations serviceImportLabelKey

structure Owners where
  store : Store ServiceImport.key
  held : ∀ o ∈ store.objects, o.terminating = true → o.finalizers ≠ []

namespace Owners

variable (owners : Owners)

def get? (k : Key) : Option Owner := owners.store.get? k

def settle (o : Owner) : Owners :=
  if h : o.terminating = true ∧ o.finalizers = [] then
    ⟨owners.store.remove o.key, fun x hx => owners.held x (Store.mem_remove hx)⟩
  else
    ⟨owners.store.overwrite o, by
      intro x hx hterminating
      rcases Store.mem_overwrite hx with rfl | hx
      · exact fun hnone => h ⟨hterminating, hnone⟩
      · exact owners.held x hx hterminating⟩

def put (x : InHand Owner) : Except CallError (Owner × Owners) :=
  match owners.get? x.value.key with
  | none => .error .notFound
  | some cur =>
    if ¬ x.Current cur then .error .conflict
    else if cur.terminating = true ∧ ∃ f ∈ x.value.finalizers, f ∉ cur.finalizers then
      .error (.other "no new finalizers can be added if the object is being deleted")
    else
      let new := { x.value with terminating := cur.terminating }
      .ok (new, owners.settle new)

def create (o : Owner) : Owners :=
  ⟨owners.store.insert { o with terminating := false }, by
    intro x hx hterminating
    rcases Store.mem_insert hx with rfl | hx
    · cases hterminating
    · exact owners.held x hx hterminating⟩

def delete (k : Key) : Owners :=
  match owners.get? k with
  | none => owners
  | some cur => owners.settle { cur with terminating := true }

def edit (k : Key) (annotations : GoMap String String) (finalizers : List String) : Owners :=
  match owners.get? k with
  | none => owners
  | some cur => owners.settle { cur with annotations := annotations, finalizers := finalizers }

end Owners

inductive Task where
  | serviceExport (key : Key)
  | serviceImport (leaf : String) (key : Key)
  deriving DecidableEq

def Task.key : Task → Key
  | .serviceExport key => key
  | .serviceImport _ key => key

structure Leaf where
  imports : Owners
  services : Store Service.key
  slices : Store EndpointSlice.key

structure State where
  exports : Owners
  slices : Store RootSlice.key
  leaves : String → Leaf

namespace State

variable (s : State)

def owners : Task → Owners
  | .serviceExport _ => s.exports
  | .serviceImport leaf _ => (s.leaves leaf).imports

def owner (t : Task) : Option Owner := (s.owners t).get? t.key

def setLeaf (leaf : String) (l : Leaf) : State :=
  { s with leaves := Function.update s.leaves leaf l }

def setOwners (t : Task) (owners : Owners) : State :=
  match t with
  | .serviceExport _ => { s with exports := owners }
  | .serviceImport leaf _ => s.setLeaf leaf { s.leaves leaf with imports := owners }

end State

inductive Op where
  | getOwner (t : Task)
  | updateOwner (t : Task) (x : InHand Owner)
  | listSlices (key : Key)
  | getSlice (key : Key)
  | updateSlice (x : InHand RootSlice)
  | rootService (key : Key)
  | rootSlices (key : Key)
  | getService (leaf : String) (key : Key)
  | createService (leaf : String) (service : Service)
  | updateService (leaf : String) (x : InHand Service)
  | deleteService (leaf : String) (key : Key)
  | deleteSlices (leaf : String) (key : Key)
  | createSlice (leaf : String) (eps : EndpointSlice)
  | getLeafSlice (leaf : String) (key : Key)
  | updateLeafSlice (leaf : String) (x : InHand EndpointSlice)

abbrev Op.Val : Op → Type
  | .getOwner _ => Owner
  | .updateOwner _ _ => Owner
  | .listSlices _ => List RootSlice
  | .getSlice _ => RootSlice
  | .updateSlice _ => RootSlice
  | .rootService _ => Service
  | .rootSlices _ => List EndpointSlice
  | .getService _ _ => Service
  | .createService _ _ => Unit
  | .updateService _ _ => Service
  | .deleteService _ _ => Unit
  | .deleteSlices _ _ => Unit
  | .createSlice _ _ => Unit
  | .getLeafSlice _ _ => EndpointSlice
  | .updateLeafSlice _ _ => EndpointSlice

abbrev Op.Res (op : Op) : Type := Except CallError op.Val

abbrev Program (α : Type) := Prog Op.Res α

abbrev Reconcile := Program (Option CallError)

abbrev ask (op : Op) : Program op.Res := Prog.ask op

structure Answer where
  read : Option Fault := none
  write : WriteReply := .done
  service : Option Service := none
  listed : List EndpointSlice := []

def Answer.reads {α : Type} (a : Answer) (x : Except CallError α) : Except CallError α :=
  match a.read with
  | some f => .error f.err
  | none => x

def found {α : Type} : Option α → Except CallError α
  | none => .error .notFound
  | some x => .ok x

def made {σ : Type} : Except ApiError σ → Except CallError (Unit × σ)
  | .error e => .error (callError e)
  | .ok s => .ok ((), s)

section Exec

variable (a : Answer) (s : State)

def atServices {α : Type} (leaf : String)
    (result : Except CallError (α × Store Service.key)) : Except CallError α × State :=
  let r := a.write.to result (s.leaves leaf).services
  (r.1, s.setLeaf leaf { s.leaves leaf with services := r.2 })

def atLeafSlices {α : Type} (leaf : String)
    (result : Except CallError (α × Store EndpointSlice.key)) : Except CallError α × State :=
  let r := a.write.to result (s.leaves leaf).slices
  (r.1, s.setLeaf leaf { s.leaves leaf with slices := r.2 })

def exec : (op : Op) → op.Res × State
  | .getOwner t => (a.reads (found (s.owner t)), s)
  | .updateOwner t x =>
    let r := a.write.to ((s.owners t).put x) (s.owners t)
    (r.1, s.setOwners t r.2)
  | .listSlices key =>
    (a.reads (.ok (s.slices.objects.filter fun x => isOfService key.1 key.2 x.slice)), s)
  | .getSlice key => (a.reads (found (s.slices.get? key)), s)
  | .updateSlice x =>
    let r := a.write.to (s.slices.put x) s.slices
    (r.1, { s with slices := r.2 })
  | .rootService key => (a.reads (found (a.service.filter fun x => x.key = key)), s)
  | .rootSlices key => (a.reads (.ok (a.listed.filter (isOfService key.1 key.2))), s)
  | .getService leaf key => (a.reads (found ((s.leaves leaf).services.get? key)), s)
  | .createService leaf service =>
    atServices a s leaf (made ((s.leaves leaf).services.create service))
  | .updateService leaf x => atServices a s leaf ((s.leaves leaf).services.put x)
  | .deleteService leaf key => atServices a s leaf (made ((s.leaves leaf).services.delete key))
  | .deleteSlices leaf key =>
    atLeafSlices a s leaf (.ok ((), (s.leaves leaf).slices.deleteAllOf (isOfService key.1 key.2)))
  | .createSlice leaf eps => atLeafSlices a s leaf (made ((s.leaves leaf).slices.create eps))
  | .getLeafSlice leaf key => (a.reads (found ((s.leaves leaf).slices.get? key)), s)
  | .updateLeafSlice leaf x => atLeafSlices a s leaf ((s.leaves leaf).slices.put x)

end Exec

structure Config where
  steps : Int
  ipFamilyType : String → IPFamilyType
  reservedNamespaces : List String

def Config.tries (cfg : Config) : Nat := defaultUpdateRetrySteps cfg.steps

variable (cfg : Config)

def updateOwner (t : Task) (modify : Owner → Owner) (x : InHand Owner) :
    Program (Option CallError × InHand Owner) :=
  retryUpdate (fun x => ask (.updateOwner t x)) (ask (.getOwner t)) modify cfg.tries none none x

def updateServiceExport (key : Key) := updateOwner cfg (.serviceExport key)

def updateServiceImport (leaf : String) (key : Key) := updateOwner cfg (.serviceImport leaf key)

def addFinalizer (o : Owner) : Owner :=
  if mcsFinalizer ∈ o.finalizers then o else { o with finalizers := o.finalizers ++ [mcsFinalizer] }

def ensureFinalizer (t : Task) (x : InHand Owner) : Reconcile :=
  if mcsFinalizer ∈ x.value.finalizers then pure none
  else do
    let r ← updateOwner cfg t addFinalizer x
    pure r.1

def removeFinalizer (t : Task) (x : InHand Owner) : Reconcile :=
  if mcsFinalizer ∉ x.value.finalizers then pure none
  else do
    let r ← updateOwner cfg t withoutFinalizer x
    pure r.1

def reconcileOwner (t : Task) (cleanup : Reconcile)
    (sync : InHand Owner → Program (Option CallError × InHand Owner)) : Reconcile := do
  match ← ask (.getOwner t) with
  | .error .notFound => pure none
  | .error err => pure (some err)
  | .ok owner =>
    if owner.terminating then
      match ← cleanup with
      | some err => pure (some err)
      | none => removeFinalizer cfg t (.fresh owner)
    else
      match ← sync (.fresh owner) with
      | (some err, _) => pure (some err)
      | (none, x) => ensureFinalizer cfg t x

def updateEndpointSlice (key : Key) (modify : RootSlice → RootSlice) (x : InHand RootSlice) :
    Program (Option CallError × InHand RootSlice) :=
  retryUpdate (fun x => ask (.updateSlice x)) (ask (.getSlice key)) modify cfg.tries none none x

def modifySlices (modify : RootSlice → RootSlice) : List RootSlice → Reconcile
  | [] => pure none
  | newEps :: rest =>
    if newEps.terminating then modifySlices modify rest
    else do
      match ← updateEndpointSlice cfg newEps.key modify (.fresh newEps) with
      | (some err, _) => pure (some err)
      | (none, _) => modifySlices modify rest

def modifySlicesOf (key : Key) (modify : RootSlice → RootSlice) : Reconcile := do
  match ← ask (.listSlices key) with
  | .error err => pure (some err)
  | .ok endpointSlices => modifySlices cfg modify endpointSlices

def withAnnotations (f : GoMap String String → GoMap String String) (x : RootSlice) : RootSlice :=
  { x with slice := { x.slice with annotations := f x.slice.annotations } }

def removeAnnotationOf (key : Key) : Reconcile :=
  modifySlicesOf cfg key (withAnnotations fun m => m.delete serviceExportLabelKey)

def syncServiceExport (key : Key) : Reconcile :=
  modifySlicesOf cfg key (withAnnotations fun m => m.set serviceExportLabelKey mcsLabelValue)

def reconcileExport (key : Key) : Reconcile :=
  reconcileOwner cfg (.serviceExport key) (removeAnnotationOf cfg key) fun x => do
    let err ← syncServiceExport cfg key
    pure (err, x)

def errOf {α : Type} : Except CallError α → Option CallError
  | .error e => some e
  | .ok _ => none

def createOrUpdateServiceInClient (leaf : String) (service : Service) : Reconcile := do
  match ← ask (.getService leaf service.key) with
  | .error .notFound =>
    let r ← ask (.createService leaf service)
    pure (errOf r)
  | .error err => pure (some err)
  | .ok oldService =>
    let r ← ask (.updateService leaf
      ⟨some oldService, { service with clusterIP := oldService.clusterIP }⟩)
    pure (errOf r)

def importServiceHandler (leaf : String) (rootService : Service) (si : Owner) : Reconcile := do
  let skip ← Prog.ofOutcome (checkServiceType (cfg.ipFamilyType leaf) rootService)
  if skip then pure none
  else
    let clientService ← Prog.ofOutcome (generateService (cfg.ipFamilyType leaf) rootService si)
    createOrUpdateServiceInClient leaf clientService

def updateLeafSlice (leaf : String) (newSlice : EndpointSlice) :
    Program (Option CallError × InHand EndpointSlice) :=
  retryUpdate (fun x => ask (.updateLeafSlice leaf x)) (ask (.getLeafSlice leaf newSlice.key)) id
    cfg.tries none none ⟨none, newSlice⟩

def createOrUpdateEndpointSliceInClient (leaf : String) (newSlice : EndpointSlice) :
    Reconcile := do
  match ← ask (.createSlice leaf newSlice) with
  | .ok _ => pure none
  | .error .alreadyExists =>
    let r ← updateLeafSlice cfg leaf newSlice
    pure r.1
  | .error err => pure (some err)

def importEndpointSliceHandler (leaf : String) (si : Owner) (eps : EndpointSlice) : Reconcile :=
  let eps := clearDisconnected si eps
  if mismatch (cfg.ipFamilyType leaf) eps then pure none
  else createOrUpdateEndpointSliceInClient cfg leaf (retainEndpointSlice eps si.name)

def importSlices (leaf : String) (si : Owner) : List EndpointSlice → Reconcile
  | [] => pure none
  | eps :: rest => do
    match ← importEndpointSliceHandler cfg leaf si eps with
    | some err => pure (some err)
    | none => importSlices leaf si rest

def withAddresses (epsList : List EndpointSlice) (si : Owner) : Owner :=
  { si with annotations := si.annotations.set serviceEndpointsKey (join (addressesOf epsList) ',') }

def syncServiceImport (leaf : String) (key : Key) (x : InHand Owner) :
    Program (Option CallError × InHand Owner) := do
  match ← ask (.rootService key) with
  | .error .notFound => pure (none, x)
  | .error err => pure (some err, x)
  | .ok rootService =>
    match ← importServiceHandler cfg leaf rootService x.value with
    | some err => pure (some err, x)
    | none =>
      match ← ask (.rootSlices key) with
      | .error err => pure (some err, x)
      | .ok epsList =>
        match ← importSlices cfg leaf x.value epsList with
        | some err => pure (some err, x)
        | none => updateServiceImport cfg leaf key (withAddresses epsList) x

def cleanupServiceAndEndpointSlice (leaf : String) (key : Key) : Reconcile := do
  match ← ask (.getService leaf key) with
  | .error .notFound => pure none
  | .error err => pure (some err)
  | .ok service =>
    if imported service.annotations = false then pure none
    else
      match ← ask (.deleteService leaf key) with
      | .error .notFound => pure none
      | .error err => pure (some err)
      | .ok _ =>
        match ← ask (.deleteSlices leaf key) with
        | .error .notFound => pure none
        | .error err => pure (some err)
        | .ok _ => pure none

def reconcileImport (leaf : String) (key : Key) : Reconcile :=
  reconcileOwner cfg (.serviceImport leaf key) (cleanupServiceAndEndpointSlice leaf key)
    (syncServiceImport cfg leaf key)

def reconcile : Task → Reconcile
  | .serviceExport key => reconcileExport cfg key
  | .serviceImport leaf key => reconcileImport cfg leaf key

section Alone

variable (s : State) (leaf : String)

def alone {α : Type} (x : Program α) : Outcome (α × State) := x.run (fun op s => exec {} s op) s

theorem atServices_made (result : Except ApiError Services) :
    let r := atServices {} s leaf (made result)
    let r' := answered .done result (s.leaves leaf).services
    errOf r.1 = r'.1 ∧ r.2 = s.setLeaf leaf { s.leaves leaf with services := r'.2 } := by
  cases result <;> exact ⟨rfl, rfl⟩

theorem createOrUpdateServiceInClient_alone (service : Service) :
    alone s (createOrUpdateServiceInClient leaf service) =
      let r := Mcs.createOrUpdateServiceInClient {} service (s.leaves leaf).services
      .ok (r.1, s.setLeaf leaf { s.leaves leaf with services := r.2 }) := by
  have hread : (exec {} s (.getService leaf service.key)).1 =
    found ((s.leaves leaf).services.get? service.key) := rfl
  unfold alone createOrUpdateServiceInClient Mcs.createOrUpdateServiceInClient
  rw [Prog.run_ask_bind, hread]
  cases hget : (s.leaves leaf).services.get? service.key with
  | none =>
    obtain ⟨herr, hstate⟩ := atServices_made s leaf ((s.leaves leaf).services.create service)
    exact congrArg₂ (fun err s => Except.ok (err, s)) herr hstate
  | some oldService =>
    let new := { service with clusterIP := oldService.clusterIP }
    have hnew : (s.leaves leaf).services.get? new.key = some oldService := hget
    obtain ⟨⟨x, services⟩, hput⟩ :=
      Store.put_of_current (x := ⟨some oldService, new⟩) hnew (.inr rfl)
    obtain ⟨-, hupdate, -⟩ := Store.put_eq_ok hput
    have hexec : exec {} s (.updateService leaf ⟨some oldService, new⟩) =
        (.ok x, s.setLeaf leaf { s.leaves leaf with services := services }) := by
      simp only [exec, hput]
      rfl
    show Except.ok (errOf (exec {} s (.updateService leaf ⟨some oldService, new⟩)).1,
      (exec {} s (.updateService leaf ⟨some oldService, new⟩)).2) = _
    rw [hexec]
    simp only [new] at hupdate
    simp only [hupdate]
    rfl

theorem cleanupServiceAndEndpointSlice_alone (key : Key) :
    alone s (cleanupServiceAndEndpointSlice leaf key) =
      let l := s.leaves leaf
      let r := Mcs.cleanupServiceAndEndpointSlice {} ⟨l.services, l.slices, l.imports.store⟩ key
      .ok (r.1, s.setLeaf leaf { l with services := r.2.services, slices := r.2.slices }) := by
  have hsame : s.setLeaf leaf (s.leaves leaf) = s := by rw [State.setLeaf, Function.update_eq_self]
  have hread : (exec {} s (.getService leaf key)).1 =
    found ((s.leaves leaf).services.get? key) := rfl
  unfold alone cleanupServiceAndEndpointSlice Mcs.cleanupServiceAndEndpointSlice
  rw [Prog.run_ask_bind, hread]
  cases hget : (s.leaves leaf).services.get? key with
  | none =>
    simp only [hget]
    exact congrArg (fun s => Except.ok (none, s)) hsame.symm
  | some service =>
    obtain ⟨services, hdelete⟩ : ∃ services, (s.leaves leaf).services.delete key = .ok services :=
      ⟨_, if_pos (Option.isSome_of_eq_some hget)⟩
    have hexec : exec {} s (.deleteService leaf key) =
        (.ok (), s.setLeaf leaf { s.leaves leaf with services := services }) := by
      simp only [exec, hdelete]
      rfl
    simp only [hget, found, hdelete]
    by_cases hown : imported service.annotations = false
    · rw [if_pos hown, if_pos (c := hasAnnotation _ _ = false) hown]
      exact congrArg (fun s => Except.ok (none, s)) hsame.symm
    · rw [if_neg hown, if_neg (c := hasAnnotation _ _ = false) hown, Prog.run_ask_bind]
      show Prog.run _ (match (exec {} s (.deleteService leaf key)).1 with
        | .error .notFound => _
        | .error err => _
        | .ok _ => _) (exec {} s (.deleteService leaf key)).2 = _
      rw [hexec]
      refine congrArg (fun s => Except.ok (none, s)) (?_ :
        (exec {} (s.setLeaf leaf _) (.deleteSlices leaf key)).2 = _)
      simp [exec, atLeafSlices, State.setLeaf, WriteReply.to, answered]

end Alone

structure World where
  state : State
  pool : GoMap Task Reconcile := .empty
  queue : List Task := []
  requeues : Task → Nat := fun _ => 0

inductive Event where
  | created (t : Task) (annotations : GoMap String String) (finalizers : List String)
  | deleted (t : Task)
  | edited (t : Task) (annotations : GoMap String String) (finalizers : List String)
  | slices (slices : Store RootSlice.key)
  | leaf (leaf : String) (services : Store Service.key) (slices : Store EndpointSlice.key)
  | request (t : Task)
  | start (t : Task)
  | call (t : Task) (a : Answer)
  | finish (t : Task)
  | crash (t : Task)

def addsNone {α : Type} (mark : α → Bool) (same : α → α → Bool) (old new : List α) : Bool :=
  new.all fun x => !mark x || old.any fun y => mark y && same x y

def sameSlice (x y : EndpointSlice) : Bool :=
  decide (x.key = y.key) && decide (x.labels.get? serviceKey = y.labels.get? serviceKey)

def sliceRequest (x : RootSlice) : Option Task :=
  if cfg.reservedNamespaces.contains x.slice.ns then none
  else some (.serviceExport (x.slice.ns, (x.slice.labels.get? serviceKey).getD ""))

def noticed (leaves : List String) (s s' : State) : List Task :=
  (s.exports.store.changed s'.exports.store).map .serviceExport ++
    (((s.slices.objects ++ s'.slices.objects).filter fun x =>
      x.key ∈ s.slices.changed s'.slices).filterMap (sliceRequest cfg)) ++
    leaves.flatMap fun leaf =>
      ((s.leaves leaf).imports.store.changed (s'.leaves leaf).imports.store).map
        (.serviceImport leaf)

def Task.leaves : Task → List String
  | .serviceExport _ => []
  | .serviceImport leaf _ => [leaf]

def World.moveTo (w : World) (leaves : List String) (state : State) : World :=
  { w with state := state, queue := noticed cfg leaves w.state state ++ w.queue }

def World.enqueue (w : World) (t : Task) : World := { w with queue := t :: w.queue }

def World.leave (w : World) (t : Task) (requeues : Nat) : World :=
  { w with pool := w.pool.delete t, requeues := Function.update w.requeues t requeues }

def maxRetries : Nat := 15

def World.again (w : World) : Task → Bool
  | .serviceExport _ => true
  | .serviceImport leaf key => decide (w.requeues (.serviceImport leaf key) < maxRetries)

def Task.newOwner (t : Task) (annotations : GoMap String String) (finalizers : List String) :
    Owner :=
  { ns := t.key.1, name := t.key.2, annotations := annotations, finalizers := finalizers }

def step (w : World) : Event → Outcome (Unit × World)
  | .created t annotations finalizers =>
    .ok ((), w.moveTo cfg t.leaves (w.state.setOwners t
      ((w.state.owners t).create (t.newOwner annotations finalizers))))
  | .deleted t =>
    .ok ((), w.moveTo cfg t.leaves (w.state.setOwners t ((w.state.owners t).delete t.key)))
  | .edited t annotations finalizers =>
    .ok ((), w.moveTo cfg t.leaves (w.state.setOwners t
      ((w.state.owners t).edit t.key annotations finalizers)))
  | .slices slices =>
    if addsNone RootSlice.marked (fun x y => sameSlice x.slice y.slice) w.state.slices.objects
        slices.objects then
      .ok ((), w.moveTo cfg [] { w.state with slices := slices })
    else .ok ((), w)
  | .leaf leaf services slices =>
    if addsNone (fun x => imported x.annotations) (fun x y => decide (x.key = y.key))
          (w.state.leaves leaf).services.objects services.objects &&
        addsNone (fun x => imported x.annotations) sameSlice
          (w.state.leaves leaf).slices.objects slices.objects then
      let state := w.state.setLeaf leaf ⟨(w.state.leaves leaf).imports, services, slices⟩
      .ok ((), { w with state := state })
    else .ok ((), w)
  | .request t => .ok ((), w.enqueue t)
  | .start t =>
    if t ∈ w.queue ∧ (w.pool.get? t).isNone then
      let queue := w.queue.filter fun t' => t' ≠ t
      .ok ((), { w with queue := queue, pool := w.pool.set t (reconcile cfg t) })
    else .ok ((), w)
  | .call t a =>
    match w.pool.get? t with
    | some (.call op next) =>
      let r := exec a w.state op
      let w' := w.moveTo cfg t.leaves r.2
      .ok ((), { w' with pool := w.pool.set t (next r.1) })
    | _ => .ok ((), w)
  | .finish t =>
    match w.pool.get? t with
    | some (.ret none) => .ok ((), w.leave t 0)
    | some (.ret (some _)) =>
      if w.again t then .ok ((), (w.leave t (w.requeues t + 1)).enqueue t)
      else .ok ((), w.leave t 0)
    | _ => .ok ((), w)
  | .crash t =>
    if (w.pool.get? t).isSome then .ok ((), (w.leave t 0).enqueue t) else .ok ((), w)

def runs (s : State) (es : List Event) : Run World Event Unit :=
  Run.loop (Run.once (step cfg)) es { state := s }

end Kosmos.McsOwners
