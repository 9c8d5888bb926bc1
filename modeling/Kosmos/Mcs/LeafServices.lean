import Kosmos.Mcs.AutoCreate
import Kosmos.Mcs.Finalizer
import Kosmos.Tree.RetryUpdate
import Kosmos.Tree.SyncResources

/-!
# Services of the root in the leaves, and services of the leaves

Three controllers write into the leaves, where a service of the leaf's own may have the name.

A visit is what one controller does to one leaf, or the write of an import's service or of one
slice; others change the leaf in between. Root and lister answer as they like.
-/

namespace Kosmos.LeafServices

open Go Kosmos.Tree Mcs

/-! ## Writes to one leaf -/

def retainSyncedSlice (original : EndpointSlice) (serviceName : String) : EndpointSlice :=
  { original with
    annotations := .empty
    labels := GoMap.empty.set serviceKey serviceName }

def namespaceErr (a : Answers) : Option CallError :=
  match a.createNamespace with
  | some .alreadyExists => none
  | err => err

/-! ## Visits -/

inductive Visit where
  | others (regs : Registries) (leaves : String → LeafState)
  | syncService (cluster : String) (service : Service) (a : Answers)
  | cleanUpService (cluster : String) (key : Key) (a : Answers)
  | syncEps (cluster : String) (eps : EndpointSlice) (serviceName : String) (a : Answers)
  | cleanUpEps (cluster : String) (key : Key) (a : Answers)
  | importService (leaf : String) (ipFamilyType : IPFamilyType) (rootService : Service)
      (si : ServiceImport) (a : Answers)
  | importSlice (leaf : String) (ipFamilyType : IPFamilyType) (eps : EndpointSlice)
      (si : ServiceImport) (a : Answers)
  | cleanupImport (leaf : String) (key : Key) (a : Answers)

structure World where
  regs : Registries
  leaves : String → LeafState

def ipFamilyTypeOf (lr : LeafResource) : IPFamilyType :=
  match lr.cluster.clusterLinkOptions with
  | some "ipv4" => .ipv4
  | some "ipv6" => .ipv6
  | _ => .all

abbrev LeafResult := Outcome (Option CallError × LeafState)

def atServices (leaf : LeafState) (r : Option CallError × Services) :
    Option CallError × LeafState :=
  (r.1, { leaf with services := r.2 })

def atSlices (leaf : LeafState) (r : Option CallError × Slices) : Option CallError × LeafState :=
  (r.1, { leaf with slices := r.2 })

def syncService (service : Service) (a : Answers) (ipFamilyType : IPFamilyType)
    (leaf : LeafState) : LeafResult :=
  match namespaceErr a with
  | some err => .ok (some err, leaf)
  | none => do
    match ← checkAndGenerate ipFamilyType service { ns := service.ns, name := service.name } with
    | none => pure (some (.other "IPFamilyPolicy does not match"), leaf)
    | some clientService =>
      pure (atServices leaf (createOrUpdateServiceInClient a clientService leaf.services))

def cleanUpService (key : Key) (a : Answers) (leaf : LeafState) : LeafResult :=
  let r := answered a.write (leaf.services.delete key) leaf.services
  .ok (atServices leaf (unlessGone r.1, r.2))

def syncEps (steps : Int) (eps : EndpointSlice) (serviceName : String) (a : Answers)
    (ipFamilyType : IPFamilyType) (leaf : LeafState) : LeafResult :=
  if mismatch ipFamilyType eps then .ok (none, leaf)
  else
    match namespaceErr a with
    | some err => .ok (some err, leaf)
    | none =>
      .ok (atSlices leaf
        (createOrUpdateSlice steps a (retainSyncedSlice eps serviceName) leaf.slices))

def cleanUpEps (key : Key) (a : Answers) (leaf : LeafState) : LeafResult :=
  let r := answered a.write (leaf.slices.delete key) leaf.slices
  .ok (atSlices leaf (unlessGone r.1, r.2))

def importService (ipFamilyType : IPFamilyType) (rootService : Service) (si : ServiceImport)
    (a : Answers) (leaf : LeafState) : LeafResult := do
  let r ← importServiceHandler ipFamilyType rootService si a leaf.services
  pure (atServices leaf r)

def importSlice (steps : Int) (ipFamilyType : IPFamilyType) (eps : EndpointSlice)
    (si : ServiceImport) (a : Answers) (leaf : LeafState) : LeafResult :=
  .ok (atSlices leaf (importEndpointSliceHandler steps ipFamilyType si a eps leaf.slices))

def cleanupImport (key : Key) (a : Answers) (leaf : LeafState) : LeafResult :=
  .ok (cleanupServiceAndEndpointSlice a leaf key)

def atLeaf (w : World) (leaf : String) (op : LeafState → LeafResult) :
    Outcome (Option CallError × World) := do
  let (err, leafState) ← op (w.leaves leaf)
  pure (err, { w with leaves := Function.update w.leaves leaf leafState })

def atCluster (w : World) (cluster : String) (op : IPFamilyType → LeafState → LeafResult) :
    Outcome (Option CallError × World) :=
  match getLeafResource w.regs.resourceMap cluster with
  | .error (.err msg) => .ok (some (.other msg), w)
  | .error stop => .error stop
  | .ok lr =>
    match leafClientResource w.regs.clientResourceMap lr with
    | .error (.err msg) => .ok (some (.other msg), w)
    | .error stop => .error stop
    | .ok lcr => atLeaf w lcr.cluster (op (ipFamilyTypeOf lr))

def visit (steps : Int) (w : World) : Visit → Outcome (Option CallError × World)
  | .others regs leaves => .ok (none, ⟨regs, leaves⟩)
  | .syncService cluster service a => atCluster w cluster (syncService service a)
  | .cleanUpService cluster key a => atCluster w cluster fun _ => cleanUpService key a
  | .syncEps cluster eps serviceName a => atCluster w cluster (syncEps steps eps serviceName a)
  | .cleanUpEps cluster key a => atCluster w cluster fun _ => cleanUpEps key a
  | .importService leaf ipFamilyType rootService si a =>
    atLeaf w leaf (importService ipFamilyType rootService si a)
  | .importSlice leaf ipFamilyType eps si a =>
    atLeaf w leaf (importSlice steps ipFamilyType eps si a)
  | .cleanupImport leaf key a => atLeaf w leaf (cleanupImport key a)

/-! ## Reconciles -/

abbrev RootAnswer (α : Type) := Except ApiError (α × Bool)

structure Orders where
  clusters : RangeOrder (String × LeafResource)
  actualClusters : RangeOrder (String × LeafClientResource)

def Orders.listClusters (o : Orders) (regs : Registries) : List String :=
  SyncResources.listClusters (o.clusters.visit regs.resourceMap.entries)

def Orders.listActualClusters (o : Orders) (regs : Registries) : List String :=
  Tree.listActualClusters (o.actualClusters.visit regs.clientResourceMap.entries)

abbrev LeafRun := Run World Visit (Option CallError)

def visits (steps : Int) (vs : List Visit) (w : World) : LeafRun :=
  Run.loop (Run.once (visit steps)) vs w

def reconcileService (steps : Int) (o : Orders) (key : Key) (root : RootAnswer Service)
    (answers : String → Answers) (w : World) : LeafRun :=
  let cleanUp := visits steps
    ((o.listClusters w.regs).map fun c => .cleanUpService c key (answers c)) w
  match root with
  | .error .notFound => cleanUp
  | .error _ => Run.idle w
  | .ok (_, true) => cleanUp
  | .ok (service, false) =>
    visits steps ((o.listActualClusters w.regs).map fun c => .syncService c service (answers c)) w

def hasAutoMCSAnnotation (service : Service) : Bool :=
  hasAnnotation service.annotations AutoMcs.autoCreateMCSAnnotation

def shouldEnqueueEps (cfg : AutoMcs.Config) (endpointSlice : EndpointSlice) : Bool :=
  if cfg.reservedNamespaces.contains endpointSlice.ns then false
  else AutoMcs.matchNamespace endpointSlice.ns cfg.autoCreateMCSPrefix

def reconcileEps (steps : Int) (cfg : AutoMcs.Config) (o : Orders) (key : Key)
    (root : RootAnswer EndpointSlice) (service : Except ApiError Service)
    (answers : String → Answers) (w : World) : LeafRun :=
  let cleanUp := visits steps
    ((o.listActualClusters w.regs).map fun c => .cleanUpEps c key (answers c)) w
  match root with
  | .error .notFound => cleanUp
  | .error _ => Run.idle w
  | .ok (_, true) => cleanUp
  | .ok (eps, false) =>
    match service with
    | .error _ => Run.idle w
    | .ok service =>
      if !(shouldEnqueueEps cfg eps || hasAutoMCSAnnotation service) then Run.idle w
      else
        let serviceName := (eps.labels.get? serviceKey).getD ""
        visits steps
          ((o.listClusters w.regs).map fun c => .syncEps c eps serviceName (answers c)) w

def reconcileImport (steps : Int) (leaf : String) (ipFamilyType : IPFamilyType) (key : Key)
    (lister : Except ApiError ServiceImport) (service : Except ApiError Service)
    (slices : List EndpointSlice) (a : Answers) (sliceAnswers : String → Answers) (w : World) :
    LeafRun :=
  match lister with
  | .error _ => Run.idle w
  | .ok si =>
    if si.terminating then visits steps [.cleanupImport leaf key a] w
    else
      match service with
      | .error _ => Run.idle w
      | .ok rootService =>
        Run.caught (Run.loop
          (Run.onceUnless (visit steps) fun err =>
            err.map fun _ => .err "sync serviceImport failed")
          (.importService leaf ipFamilyType rootService si a ::
            slices.map fun eps => .importSlice leaf ipFamilyType eps si (sliceAnswers eps.name)) w)

inductive Turn where
  | others (regs : Registries) (leaves : String → LeafState)
  | service (o : Orders) (key : Key) (root : RootAnswer Service) (answers : String → Answers)
  | eps (o : Orders) (key : Key) (root : RootAnswer EndpointSlice)
      (service : Except ApiError Service) (answers : String → Answers)
  | serviceImport (leaf : String) (ipFamilyType : IPFamilyType) (key : Key)
      (lister : Except ApiError ServiceImport) (service : Except ApiError Service)
      (slices : List EndpointSlice) (a : Answers) (sliceAnswers : String → Answers)

def turn (steps : Int) (cfg : AutoMcs.Config) : Turn → World → LeafRun
  | .others regs leaves => visits steps [.others regs leaves]
  | .service o key root answers => reconcileService steps o key root answers
  | .eps o key root service answers => reconcileEps steps cfg o key root service answers
  | .serviceImport leaf ipFamilyType key lister service slices a sliceAnswers =>
    reconcileImport steps leaf ipFamilyType key lister service slices a sliceAnswers

def turns (steps : Int) (cfg : AutoMcs.Config) (ts : List Turn) (w : World) : LeafRun :=
  Run.loop (turn steps cfg) ts w

/-! ## What is to be spared -/

/-- A service of the leaf's own. -/
def OwnService (s : Service) : Prop := hasAnnotation s.annotations serviceImportLabelKey = false

def OwnSlice (e : EndpointSlice) : Prop :=
  hasAnnotation e.annotations serviceImportLabelKey = false

/-- What is the leaf's own is as it was. -/
structure Spares (leaf leaf' : LeafState) : Prop where
  services : Store.Spares OwnService leaf.services leaf'.services
  slices : Store.Spares OwnSlice leaf.slices leaf'.slices

def SparesAll (w w' : World) : Prop := ∀ c, Spares (w.leaves c) (w'.leaves c)

/-! ## What a visit must find -/

def NoOwnService (leaf : LeafState) (key : Key) : Prop :=
  ∀ x, leaf.services.get? key = some x → ¬ OwnService x

def NoOwnSlice (leaf : LeafState) (key : Key) : Prop :=
  ∀ x, leaf.slices.get? key = some x → ¬ OwnSlice x

def again (t : TryAnswer) : Bool :=
  match t.update, t.get with
  | .refused .conflict, some .notFound => false
  | .refused .conflict, some _ => true
  | _, _ => false

def overwrites (updates : Nat → TryAnswer) : Nat → Nat → Bool
  | 0, _ => false
  | n + 1, i =>
    (updates i).update.takesEffect || (again (updates i) && overwrites updates n (i + 1))

def sliceOverwritten (steps : Int) (a : Answers) : Bool :=
  (match a.write with
    | .refused e => e = .alreadyExists
    | _ => true) &&
    overwrites a.updates (defaultUpdateRetrySteps steps) 0

/-- A slice of the leaf's own is written only if nothing changes. -/
def SliceApt (steps : Int) (a : Answers) (newSlice : EndpointSlice) (leaf : LeafState) : Prop :=
  sliceOverwritten steps a = true → ∀ x, leaf.slices.get? newSlice.key = some x → OwnSlice x →
    x = newSlice

section Apt

variable (leaf : LeafState) (a : Answers)

/-- The sync writes no service of the leaf's own. -/
def SyncServiceApt (service : Service) (ipFamilyType : IPFamilyType) : Prop :=
  namespaceErr a = none → checkServiceType ipFamilyType service = .ok false → a.get = none →
    a.write.takesEffect = true → NoOwnService leaf service.key

/-- The import writes no service of the leaf's own. -/
def ImportServiceApt (ipFamilyType : IPFamilyType) (rootService : Service) (si : ServiceImport) :
    Prop :=
  checkServiceType ipFamilyType rootService = .ok false → a.get = none →
    a.write.takesEffect = true → NoOwnService leaf (si.ns, rootService.name)

/-- The sync writes no slice of the leaf's own. -/
def SyncEpsApt (steps : Int) (eps : EndpointSlice) (serviceName : String)
    (ipFamilyType : IPFamilyType) : Prop :=
  mismatch ipFamilyType eps = false → namespaceErr a = none →
    SliceApt steps a (retainSyncedSlice eps serviceName) leaf

/-- The import writes no slice of the leaf's own. -/
def ImportSliceApt (steps : Int) (ipFamilyType : IPFamilyType) (eps : EndpointSlice)
    (si : ServiceImport) : Prop :=
  mismatch ipFamilyType (clearDisconnected si eps) = false →
    SliceApt steps a (retainEndpointSlice (clearDisconnected si eps) si.name) leaf

/-- The service is deleted only if it was imported. -/
def CleanupImportApt (key : Key) : Prop :=
  a.get = none → (∃ x, leaf.services.get? key = some x ∧ ¬ OwnService x) → a.write = .done →
    a.deleteSlices.takesEffect = true →
    ∀ e ∈ leaf.slices.objects, isOfService key.1 key.2 e = true → ¬ OwnSlice e

end Apt

/-- The visit comes to a leaf in which the condition holds. -/
def AtCluster (w : World) (cluster : String) (P : IPFamilyType → LeafState → Prop) : Prop :=
  ∀ lr lcr, getLeafResource w.regs.resourceMap cluster = .ok lr →
    leafClientResource w.regs.clientResourceMap lr = .ok lcr →
    P (ipFamilyTypeOf lr) (w.leaves lcr.cluster)

def Visit.Apt (steps : Int) (w : World) : Visit → Prop
  | .others _ _ => True
  | .syncService cluster service a =>
    AtCluster w cluster fun ipFamilyType leaf => SyncServiceApt leaf a service ipFamilyType
  | .cleanUpService cluster key a =>
    AtCluster w cluster fun _ leaf => a.write.takesEffect = true → NoOwnService leaf key
  | .syncEps cluster eps serviceName a =>
    AtCluster w cluster fun ipFamilyType leaf =>
      SyncEpsApt leaf a steps eps serviceName ipFamilyType
  | .cleanUpEps cluster key a =>
    AtCluster w cluster fun _ leaf => a.write.takesEffect = true → NoOwnSlice leaf key
  | .importService leaf ipFamilyType rootService si a =>
    ImportServiceApt (w.leaves leaf) a ipFamilyType rootService si
  | .importSlice leaf ipFamilyType eps si a =>
    ImportSliceApt (w.leaves leaf) a steps ipFamilyType eps si
  | .cleanupImport leaf key a => CleanupImportApt (w.leaves leaf) a key

/-! ## Slices that are updated -/

variable {a : Answers} {steps : Int} {updates : Nat → TryAnswer} {slices replaced : Slices}
  {newSlice x : EndpointSlice} {leaf leaf' : LeafState} {err : Option CallError}

theorem sliceTry_spec (updates : Nat → TryAnswer) (s : Tries) :
    (sliceTry updates s).2.slices =
        (answered (updates s.round).update (s.slices.update s.eps) s.slices).2 ∧
      ((sliceTry updates s).2.eps = s.eps ∨
        (sliceTry updates s).2.slices.get? s.eps.key = some (sliceTry updates s).2.eps) := by
  unfold sliceTry
  split
  next heq => exact ⟨by rw [heq], Or.inl rfl⟩
  next heq => exact ⟨by rw [heq], Or.inl rfl⟩
  next heq =>
    rw [heq]
    split
    · exact ⟨rfl, Or.inl rfl⟩
    · exact ⟨rfl, Or.inl rfl⟩
    · split
      · exact ⟨rfl, Or.inl rfl⟩
      next hget => exact ⟨rfl, Or.inr hget⟩

theorem sliceTry_settled {s : Tries} (h : s.slices = replaced ∧ s.eps ∈ s.slices.objects) :
    (sliceTry updates s).2.slices = replaced ∧
      (sliceTry updates s).2.eps ∈ (sliceTry updates s).2.slices.objects := by
  obtain ⟨rfl, hmem⟩ := h
  obtain ⟨hslices, heps⟩ := sliceTry_spec updates s
  have hsame : (sliceTry updates s).2.slices = s.slices := by
    rw [hslices, Store.update_of_mem hmem, answered_ok_snd, ite_self]
  refine ⟨hsame, ?_⟩
  rcases heps with hkept | hget
  · rw [hkept, hsame]
    exact hmem
  · exact (Store.get?_eq_some.mp hget).1

def tries (updates : Nat → TryAnswer) (n : Nat) (lastErr : Option CallError) (s : Tries) :
    Option CallError × Tries :=
  onError (fun e => decide (e = .conflict)) (sliceTry updates) n lastErr s

theorem tries_settled {eps : EndpointSlice} (hmem : eps ∈ slices.objects) (n i : Nat)
    (lastErr : Option CallError) :
    (tries updates n lastErr ⟨eps, i, slices⟩).2.slices = slices := by
  have hkeeps : ∀ s : Tries, s.slices = slices ∧ s.eps ∈ s.slices.objects →
      (sliceTry updates s).2.slices = slices ∧
        (sliceTry updates s).2.eps ∈ (sliceTry updates s).2.slices.objects := fun s hs =>
    sliceTry_settled hs
  exact (onError_keeps hkeeps n lastErr ⟨eps, i, slices⟩ ⟨rfl, hmem⟩).1

theorem tries_succ (n : Nat) (lastErr : Option CallError) (s : Tries) :
    (tries updates (n + 1) lastErr s).2.slices =
      if (sliceTry updates s).1 = some .conflict then
        (tries updates n (some .conflict) (sliceTry updates s).2).2.slices
      else (sliceTry updates s).2.slices := by
  cases htry : sliceTry updates s with
  | mk err s' =>
    cases err with
    | none => rw [tries, onError_of_nil htry, if_neg (by simp)]
    | some e =>
      rw [tries, onError_of_err htry]
      by_cases he : e = .conflict
      · rw [if_pos (decide_eq_true he), if_pos (congrArg some he), he]
        rfl
      · rw [if_neg (by simpa using he), if_neg (by simpa using he)]

theorem tries_succ_settled {n : Nat} {lastErr : Option CallError} {s : Tries}
    (h : (sliceTry updates s).2.eps ∈ (sliceTry updates s).2.slices.objects) :
    (tries updates (n + 1) lastErr s).2.slices = (sliceTry updates s).2.slices := by
  rw [tries_succ]
  split
  · exact tries_settled h n _ _
  · rfl

theorem sliceTry_written {i : Nat} (hupdate : slices.update newSlice = .ok replaced)
    (heffect : (updates i).update.takesEffect = true) :
    (sliceTry updates ⟨newSlice, i, slices⟩).2.slices = replaced ∧
      (sliceTry updates ⟨newSlice, i, slices⟩).2.eps ∈ replaced.objects := by
  obtain ⟨hslices, heps⟩ := sliceTry_spec updates ⟨newSlice, i, slices⟩
  rw [hupdate, answered_ok_snd, heffect, if_pos rfl] at hslices
  rw [hslices] at heps
  refine ⟨hslices, ?_⟩
  rcases heps with hkept | hget
  · rw [hkept]
    exact (Store.mem_update hupdate).mpr (Or.inl rfl)
  · exact (Store.get?_eq_some.mp hget).1

theorem sliceTry_again {i : Nat} (hupdate : slices.update newSlice = .ok replaced)
    (hagain : again (updates i) = true) :
    sliceTry updates ⟨newSlice, i, slices⟩ = (some .conflict, ⟨newSlice, i + 1, slices⟩) := by
  unfold sliceTry
  simp only [hupdate]
  revert hagain
  unfold again
  rcases updates i with ⟨_ | (_ | _ | _ | _) | e, _ | (_ | _ | _ | _)⟩ <;> simp [answered]

theorem sliceTry_left {i : Nat} (hget : slices.get? newSlice.key = some x)
    (hupdate : slices.update newSlice = .ok replaced)
    (heffect : (updates i).update.takesEffect = false) (hagain : again (updates i) = false) :
    (sliceTry updates ⟨newSlice, i, slices⟩).2.slices = slices ∧
      ((sliceTry updates ⟨newSlice, i, slices⟩).1 = some .conflict →
        (sliceTry updates ⟨newSlice, i, slices⟩).2.eps ∈ slices.objects) := by
  have hold : x ∈ slices.objects := (Store.get?_eq_some.mp hget).1
  unfold sliceTry
  simp only [hupdate]
  revert heffect hagain
  unfold again
  rcases updates i with ⟨_ | (_ | _ | _ | _) | e, _ | (_ | _ | _ | _)⟩ <;>
    simp [answered, WriteAnswer.takesEffect, hget, hold]

theorem tries_slices (hget : slices.get? newSlice.key = some x)
    (hupdate : slices.update newSlice = .ok replaced) :
    ∀ (n i : Nat) (lastErr : Option CallError),
      (tries updates n lastErr ⟨newSlice, i, slices⟩).2.slices =
        if overwrites updates n i then replaced else slices := by
  intro n
  induction n with
  | zero => exact fun i lastErr => rfl
  | succ n ih =>
    intro i lastErr
    cases heffect : (updates i).update.takesEffect with
    | true =>
      obtain ⟨hslices, hin⟩ := sliceTry_written hupdate heffect
      rw [tries_succ_settled (by rw [hslices]; exact hin), hslices, overwrites, heffect,
        Bool.true_or, if_pos rfl]
    | false =>
      rw [overwrites, heffect, Bool.false_or]
      cases hagain : again (updates i) with
      | true => rw [tries_succ, sliceTry_again hupdate hagain, if_pos rfl, ih, Bool.true_and]
      | false =>
        obtain ⟨hslices, hin⟩ := sliceTry_left hget hupdate heffect hagain
        rw [Bool.false_and, if_neg Bool.false_ne_true]
        by_cases hconflict : (sliceTry updates ⟨newSlice, i, slices⟩).1 = some .conflict
        · rw [tries_succ_settled (by rw [hslices]; exact hin hconflict), hslices]
        · rw [tries_succ, if_neg hconflict, hslices]

theorem sliceTry_others {key : Key} {others : List EndpointSlice}
    (hothers : ∀ y ∈ others, y.key ≠ key) {s : Tries}
    (h : (∀ y ∈ others, y ∈ s.slices.objects) ∧ s.eps.key = key) :
    (∀ y ∈ others, y ∈ (sliceTry updates s).2.slices.objects) ∧
      (sliceTry updates s).2.eps.key = key := by
  obtain ⟨hin, hkey⟩ := h
  obtain ⟨hslices, heps⟩ := sliceTry_spec updates s
  constructor
  · intro y hy
    rw [hslices]
    rcases answered_state (s := s.slices) (updates s.round).update (s.slices.update s.eps) with
      ⟨hsame, -⟩ | ⟨-, hok⟩
    · rw [hsame]
      exact hin y hy
    · exact (Store.mem_update hok).mpr (Or.inr ⟨hin y hy, hkey ▸ hothers y hy⟩)
  · rcases heps with hkept | hget
    · rw [hkept]
      exact hkey
    · exact (Store.get?_eq_some.mp hget).2.trans hkey

theorem createOrUpdateSlice_spares (hget : slices.get? newSlice.key = none) :
    Store.Spares OwnSlice slices (createOrUpdateSlice steps a newSlice slices).2 := by
  have hcreate : Store.Spares (fun _ => True) slices
      (answered a.write (slices.create newSlice) slices).2 := Store.spares_create a.write
  unfold createOrUpdateSlice
  split
  next slices' heq =>
    rw [heq] at hcreate
    have hkeeps : ∀ s : Tries,
        (∀ y ∈ slices.objects, y ∈ s.slices.objects) ∧ s.eps.key = newSlice.key →
          (∀ y ∈ slices.objects, y ∈ (sliceTry a.updates s).2.slices.objects) ∧
            (sliceTry a.updates s).2.eps.key = newSlice.key := fun s hs =>
      sliceTry_others (Store.get?_eq_none.mp hget) hs
    have htries : ∀ y ∈ slices.objects,
        y ∈ (updateEndpointSlice steps a.updates newSlice slices').2.slices.objects :=
      (onError_keeps hkeeps (defaultUpdateRetrySteps steps) none
        ⟨newSlice, 0, slices'⟩ ⟨fun y hy => hcreate y hy trivial, rfl⟩).1
    exact fun y hy _ => htries y hy
  · exact fun y hy _ => hcreate y hy trivial

theorem updateEndpointSlice_spares_iff (steps : Int) (updates : Nat → TryAnswer)
    (hget : slices.get? newSlice.key = some x) :
    Store.Spares OwnSlice slices
        (updateEndpointSlice steps updates newSlice slices).2.slices ↔
      (overwrites updates (defaultUpdateRetrySteps steps) 0 = true →
        ∀ y, slices.get? newSlice.key = some y → OwnSlice y → y = newSlice) := by
  obtain ⟨replaced, hupdate⟩ : ∃ replaced, slices.update newSlice = .ok replaced :=
    ⟨_, if_pos (Option.isSome_of_eq_some hget)⟩
  have hiff : Store.Spares OwnSlice slices replaced ↔
      ∀ y, slices.get? newSlice.key = some y → OwnSlice y → y = newSlice := by
    have hspares : Store.Spares OwnSlice slices
        (answered .done (slices.update newSlice) slices).2 ↔ _ := Store.spares_update .done
    rw [hupdate] at hspares
    exact hspares.trans ⟨fun h => h rfl, fun h _ => h⟩
  have htries : (updateEndpointSlice steps updates newSlice slices).2.slices = _ :=
    tries_slices hget hupdate (defaultUpdateRetrySteps steps) 0 none
  rw [htries, ← hiff]
  split
  next h => exact ⟨fun hs _ => hs, fun hs => hs h⟩
  next h => exact iff_of_true (.refl _ _) fun h' => absurd h' h

theorem createOrUpdateSlice_spares_iff :
    Store.Spares OwnSlice leaf.slices (createOrUpdateSlice steps a newSlice leaf.slices).2 ↔
      SliceApt steps a newSlice leaf := by
  unfold SliceApt
  cases hget : leaf.slices.get? newSlice.key with
  | none => exact iff_of_true (createOrUpdateSlice_spares hget) fun _ x hx => nomatch hx
  | some x =>
    have hcreate : leaf.slices.create newSlice = .error .alreadyExists := by
      obtain ⟨hmem, hkey⟩ := Store.get?_eq_some.mp hget
      exact dif_neg fun hfree => hfree x hmem hkey
    have hupdated := updateEndpointSlice_spares_iff steps a.updates hget
    rw [hget] at hupdated
    unfold createOrUpdateSlice sliceOverwritten
    rw [hcreate]
    cases hwrite : a.write with
    | done => simpa [answered, callError] using hupdated
    | lost e => simpa [answered, callError] using hupdated
    | refused e =>
      cases e with
      | alreadyExists => simpa [answered] using hupdated
      | conflict | notFound | other msg =>
        refine iff_of_true ?_ fun h => ?_
        · exact .refl _ _
        · cases h

/-! ## What a leaf is spared -/

theorem Spares.refl (leaf : LeafState) : Spares leaf leaf := ⟨.refl _ _, .refl _ _⟩

theorem spares_atServices {r : Option CallError × Services} :
    Spares leaf (atServices leaf r).2 ↔ Store.Spares OwnService leaf.services r.2 :=
  ⟨Spares.services, fun h => ⟨h, .refl _ _⟩⟩

theorem spares_atSlices {r : Option CallError × Slices} :
    Spares leaf (atSlices leaf r).2 ↔ Store.Spares OwnSlice leaf.slices r.2 :=
  ⟨Spares.slices, fun h => ⟨.refl _ _, h⟩⟩

section Leaf

variable {service : Service} {si : ServiceImport} {eps : EndpointSlice} {serviceName : String}
  {key : Key} {ipFamilyType : IPFamilyType} {r : Option CallError × LeafState}

theorem generateService_spec {clientService : Service}
    (h : generateService ipFamilyType service si = .ok clientService) :
    clientService.key = (si.ns, service.name) ∧
      clientService.annotations = GoMap.empty.set serviceImportLabelKey mcsLabelValue := by
  unfold generateService at h
  cases ipFamilyType with
  | all =>
    obtain ⟨policy, -, hpure⟩ := bind_eq_ok h
    cases hpure
    exact ⟨rfl, rfl⟩
  | ipv4 | ipv6 =>
    cases h
    exact ⟨rfl, rfl⟩

theorem createOrUpdateServiceInClient_spares_iff {services : Services} {clientService : Service}
    (hannotations :
      clientService.annotations = GoMap.empty.set serviceImportLabelKey mcsLabelValue) :
    Store.Spares OwnService services (createOrUpdateServiceInClient a clientService services).2 ↔
      (a.get = none → a.write.takesEffect = true →
        ∀ x, services.get? clientService.key = some x → ¬ OwnService x) := by
  have himported : ∀ clusterIP, ¬ OwnService { clientService with clusterIP := clusterIP } := by
    intro clusterIP hown
    simp only [OwnService, hannotations] at hown
    revert hown
    decide
  unfold createOrUpdateServiceInClient
  cases a.get with
  | some err => exact iff_of_true (.refl _ _) fun h => nomatch h
  | none =>
    cases hget : services.get? clientService.key with
    | none => exact iff_of_true (Store.spares_create _) fun _ _ x hx => nomatch hx
    | some oldService =>
      have hget' : services.get?
          (Service.key { clientService with clusterIP := oldService.clusterIP }) =
            some oldService := hget
      refine (Store.spares_update a.write).trans ?_
      rw [hget']
      constructor
      · exact fun h _ heffect x hx hown => himported _ (h heffect x hx hown ▸ hown)
      · exact fun h heffect x hx hown => absurd hown (h rfl heffect x hx)

theorem checkAndGenerate_eq_ok {r : Option Service}
    (h : checkAndGenerate ipFamilyType service si = .ok r) :
    (r = none ∧ checkServiceType ipFamilyType service = .ok true) ∨
      ∃ clientService, r = some clientService ∧
        checkServiceType ipFamilyType service = .ok false ∧
        generateService ipFamilyType service si = .ok clientService := by
  obtain ⟨skip, hcheck, h⟩ := bind_eq_ok h
  cases skip with
  | true =>
    cases h
    exact .inl ⟨rfl, hcheck⟩
  | false =>
    obtain ⟨clientService, hgenerate, h⟩ := bind_eq_ok h
    cases h
    exact .inr ⟨clientService, rfl, hcheck, hgenerate⟩

def writeService (refused : Option CallError) (a : Answers) (leaf : LeafState) :
    Option Service → Option CallError × LeafState
  | none => (refused, leaf)
  | some clientService =>
    atServices leaf (createOrUpdateServiceInClient a clientService leaf.services)

theorem importService_eq (ipFamilyType : IPFamilyType) (rootService : Service)
    (si : ServiceImport) (a : Answers) (leaf : LeafState) :
    importService ipFamilyType rootService si a leaf =
      (checkAndGenerate ipFamilyType rootService si).map (writeService none a leaf) := by
  unfold importService importServiceHandler
  rcases checkAndGenerate ipFamilyType rootService si with stop | _ | clientService <;> rfl

theorem syncService_eq (service : Service) (a : Answers) (ipFamilyType : IPFamilyType)
    (leaf : LeafState) (hns : namespaceErr a = none) :
    syncService service a ipFamilyType leaf =
      (checkAndGenerate ipFamilyType service { ns := service.ns, name := service.name }).map
        (writeService (some (.other "IPFamilyPolicy does not match")) a leaf) := by
  unfold syncService
  rw [hns]
  rcases checkAndGenerate ipFamilyType service _ with stop | _ | clientService <;> rfl

theorem generated_spares_iff {refused : Option CallError}
    (h : (checkAndGenerate ipFamilyType service si).map (writeService refused a leaf) = .ok r) :
    Spares leaf r.2 ↔
      (checkServiceType ipFamilyType service = .ok false → a.get = none →
        a.write.takesEffect = true → NoOwnService leaf (si.ns, service.name)) := by
  cases hgenerated : checkAndGenerate ipFamilyType service si with
  | error stop =>
    rw [hgenerated] at h
    cases h
  | ok generated =>
    rw [hgenerated] at h
    cases h
    rcases checkAndGenerate_eq_ok hgenerated with
      ⟨rfl, hcheck⟩ | ⟨clientService, rfl, hcheck, hgenerate⟩
    · refine iff_of_true (.refl leaf) fun hskip => ?_
      cases hcheck.symm.trans hskip
    · obtain ⟨hkey, hannotations⟩ := generateService_spec hgenerate
      rw [writeService, spares_atServices, createOrUpdateServiceInClient_spares_iff hannotations,
        hkey]
      exact ⟨fun hspares _ => hspares, fun hspares => hspares hcheck⟩

theorem importService_spares_iff
    (h : importService ipFamilyType service si a leaf = .ok r) :
    Spares leaf r.2 ↔ ImportServiceApt leaf a ipFamilyType service si :=
  generated_spares_iff (importService_eq ipFamilyType service si a leaf ▸ h)

theorem syncService_spares_iff (h : syncService service a ipFamilyType leaf = .ok r) :
    Spares leaf r.2 ↔ SyncServiceApt leaf a service ipFamilyType := by
  unfold SyncServiceApt
  cases hns : namespaceErr a with
  | some err =>
    rw [syncService, hns] at h
    cases h
    refine iff_of_true (.refl leaf) fun hnone => ?_
    cases hnone
  | none =>
    rw [syncService_eq service a ipFamilyType leaf hns] at h
    rw [generated_spares_iff h]
    exact ⟨fun hspares _ => hspares, fun hspares => hspares rfl⟩

theorem cleanUpService_spares_iff (h : cleanUpService key a leaf = .ok r) :
    Spares leaf r.2 ↔ (a.write.takesEffect = true → NoOwnService leaf key) := by
  cases h
  rw [spares_atServices]
  exact Store.spares_delete a.write

theorem syncEps_spares_iff (h : syncEps steps eps serviceName a ipFamilyType leaf = .ok r) :
    Spares leaf r.2 ↔ SyncEpsApt leaf a steps eps serviceName ipFamilyType := by
  unfold SyncEpsApt
  simp only [syncEps] at h
  split at h
  next hmismatch =>
    cases h
    refine iff_of_true (.refl leaf) fun hmatch => ?_
    rw [hmismatch] at hmatch
    cases hmatch
  next hmatch =>
    split at h
    next err herr =>
      cases h
      refine iff_of_true (.refl leaf) fun _ hnone => ?_
      rw [herr] at hnone
      cases hnone
    next hnone =>
      cases h
      rw [spares_atSlices, createOrUpdateSlice_spares_iff]
      exact ⟨fun hapt _ _ => hapt, fun hapt => hapt (Bool.eq_false_iff.mpr hmatch) hnone⟩

theorem cleanUpEps_spares_iff (h : cleanUpEps key a leaf = .ok r) :
    Spares leaf r.2 ↔ (a.write.takesEffect = true → NoOwnSlice leaf key) := by
  cases h
  rw [spares_atSlices]
  exact Store.spares_delete a.write

theorem importSlice_spares_iff (h : importSlice steps ipFamilyType eps si a leaf = .ok r) :
    Spares leaf r.2 ↔ ImportSliceApt leaf a steps ipFamilyType eps si := by
  cases h
  rw [spares_atSlices, importEndpointSliceHandler, ImportSliceApt]
  split
  next hmismatch =>
    refine iff_of_true (.refl _ _) fun hmatch => ?_
    cases hmismatch.symm.trans hmatch
  next hmatch =>
    rw [createOrUpdateSlice_spares_iff]
    exact ⟨fun hapt _ => hapt, fun hapt => hapt (Bool.eq_false_iff.mpr hmatch)⟩

theorem cleanupImport_spares_iff (h : cleanupImport key a leaf = .ok r) :
    Spares leaf r.2 ↔ CleanupImportApt leaf a key := by
  unfold CleanupImportApt
  simp only [cleanupImport, cleanupServiceAndEndpointSlice, Except.ok.injEq] at h
  split at h
  next err herr =>
    cases h
    refine iff_of_true (.refl leaf) fun hnone => ?_
    rw [herr] at hnone
    cases hnone
  next hnone =>
    split at h
    next hget =>
      cases h
      refine iff_of_true (.refl leaf) fun _ hsome => ?_
      obtain ⟨x, hx, -⟩ := hsome
      rw [hget] at hx
      cases hx
    next service hget =>
      split at h
      next hown =>
        cases h
        refine iff_of_true (.refl leaf) fun _ hsome => ?_
        obtain ⟨x, hx, himported⟩ := hsome
        rw [hget] at hx
        cases hx
        exact absurd hown himported
      next himported =>
        have hservices : Store.Spares OwnService leaf.services
            (answered a.write (leaf.services.delete key) leaf.services).2 := by
          refine (Store.spares_delete a.write).mpr fun _ x hx => ?_
          rw [hget] at hx
          cases hx
          exact himported
        obtain ⟨services, hdelete⟩ : ∃ services, leaf.services.delete key = .ok services :=
          ⟨_, if_pos (Option.isSome_of_eq_some hget)⟩
        rw [hdelete] at h hservices
        split at h
        next err herr =>
          cases h
          refine iff_of_true ⟨hservices, .refl _ _⟩ fun _ _ hdone => ?_
          rw [hdone] at herr
          cases herr
        next hdone =>
          have hwrite : a.write = .done := by
            revert hdone
            cases a.write <;> simp [answered]
          cases h
          constructor
          · intro hspares _ _ _
            exact (Store.spares_deleteAllOf a.deleteSlices).mp hspares.slices
          · intro hapt
            exact ⟨hservices, (Store.spares_deleteAllOf a.deleteSlices).mpr
              (hapt hnone ⟨service, hget, himported⟩ hwrite)⟩

end Leaf

/-! ## Runs -/

section Visits

variable {w w' : World} {cluster name : String}

theorem sparesAll_update (leafState : LeafState) :
    SparesAll w { w with leaves := Function.update w.leaves name leafState } ↔
      Spares (w.leaves name) leafState := by
  constructor
  · intro h
    simpa only [Function.update_self] using h name
  · intro h c
    by_cases hc : c = name
    · simpa only [hc, Function.update_self] using h
    · simpa only [Function.update_of_ne hc] using Spares.refl (w.leaves c)

theorem atLeaf_spares_iff {op : LeafState → LeafResult} {P : Prop}
    (hop : ∀ r, op (w.leaves name) = .ok r → (Spares (w.leaves name) r.2 ↔ P))
    (h : atLeaf w name op = .ok (err, w')) : SparesAll w w' ↔ P := by
  obtain ⟨⟨err', leafState⟩, hresult, hpure⟩ := bind_eq_ok h
  cases hpure
  rw [sparesAll_update]
  exact hop _ hresult

theorem atCluster_spares_iff {op : IPFamilyType → LeafState → LeafResult}
    {P : IPFamilyType → LeafState → Prop}
    (hop : ∀ t leaf r, op t leaf = .ok r → (Spares leaf r.2 ↔ P t leaf))
    (h : atCluster w cluster op = .ok (err, w')) : SparesAll w w' ↔ AtCluster w cluster P := by
  unfold AtCluster
  simp only [atCluster] at h
  split at h
  next msg hlr =>
    cases h
    exact iff_of_true (fun c => .refl _) fun lr lcr h => nomatch hlr.symm.trans h
  · cases h
  next lr hlr =>
    split at h
    next msg hlcr =>
      cases h
      refine iff_of_true (fun c => .refl _) fun lr' lcr h h' => ?_
      cases Except.ok.inj (hlr.symm.trans h)
      exact nomatch hlcr.symm.trans h'
    · cases h
    next lcr hlcr =>
      refine (atLeaf_spares_iff (fun r hr => hop _ _ r hr) h).trans ?_
      constructor
      · intro hP lr' lcr' h h'
        cases Except.ok.inj (hlr.symm.trans h)
        cases Except.ok.inj (hlcr.symm.trans h')
        exact hP
      · exact fun hP => hP lr lcr hlr hlcr

def Visit.ofController : Visit → Bool
  | .others _ _ => false
  | _ => true

theorem visit_spares_iff {v : Visit} (hv : v.ofController = true)
    (h : visit steps w v = .ok (err, w')) : SparesAll w w' ↔ v.Apt steps w := by
  unfold Visit.Apt
  cases v with
  | others => cases hv
  | syncService => exact atCluster_spares_iff (fun _ _ _ h => syncService_spares_iff h) h
  | cleanUpService => exact atCluster_spares_iff (fun _ _ _ h => cleanUpService_spares_iff h) h
  | syncEps => exact atCluster_spares_iff (fun _ _ _ h => syncEps_spares_iff h) h
  | cleanUpEps => exact atCluster_spares_iff (fun _ _ _ h => cleanUpEps_spares_iff h) h
  | importService => exact atLeaf_spares_iff (fun _ h => importService_spares_iff h) h
  | importSlice => exact atLeaf_spares_iff (fun _ h => importSlice_spares_iff h) h
  | cleanupImport => exact atLeaf_spares_iff (fun _ h => cleanupImport_spares_iff h) h

theorem visits_keeps (vs : List Visit) (w : World) :
    (visits steps vs w).Keeps (visit steps) fun _ => True :=
  Run.Keeps.loop (Run.Keeps.once fun _ _ _ _ _ _ => trivial) vs w trivial

theorem reconcileService_keeps (o : Orders) (key : Key) (root : RootAnswer Service)
    (answers : String → Answers) (w : World) :
    (reconcileService steps o key root answers w).Keeps (visit steps) fun _ => True := by
  unfold reconcileService
  split
  · exact visits_keeps _ w
  · exact Run.Keeps.idle trivial
  · exact visits_keeps _ w
  · exact visits_keeps _ w

theorem reconcileEps_keeps {cfg : AutoMcs.Config} (o : Orders) (key : Key)
    (root : RootAnswer EndpointSlice) (service : Except ApiError Service)
    (answers : String → Answers) (w : World) :
    (reconcileEps steps cfg o key root service answers w).Keeps (visit steps) fun _ => True := by
  unfold reconcileEps
  split
  · exact visits_keeps _ w
  · exact Run.Keeps.idle trivial
  · exact visits_keeps _ w
  · split
    · exact Run.Keeps.idle trivial
    · split
      · exact Run.Keeps.idle trivial
      · exact visits_keeps _ w

theorem reconcileImport_keeps (leaf : String) (ipFamilyType : IPFamilyType) (key : Key)
    (lister : Except ApiError ServiceImport) (service : Except ApiError Service)
    (slices : List EndpointSlice) (a : Answers) (sliceAnswers : String → Answers) (w : World) :
    (reconcileImport steps leaf ipFamilyType key lister service slices a sliceAnswers w).Keeps
      (visit steps) fun _ => True := by
  unfold reconcileImport
  split
  · exact Run.Keeps.idle trivial
  · split
    · exact visits_keeps _ w
    · split
      · exact Run.Keeps.idle trivial
      · exact (Run.Keeps.loop (Run.Keeps.onceUnless fun _ _ _ _ _ _ => trivial) _ w trivial).caught

theorem turn_keeps (steps : Int) (cfg : AutoMcs.Config) (t : Turn) (w : World) :
    (turn steps cfg t w).Keeps (visit steps) fun _ => True := by
  cases t with
  | others => exact visits_keeps _ w
  | service => exact reconcileService_keeps _ _ _ _ w
  | eps => exact reconcileEps_keeps _ _ _ _ _ w
  | serviceImport => exact reconcileImport_keeps _ _ _ _ _ _ _ _ w

end Visits

/-- What is the leaf's own is spared exactly if each visit finds a leaf that it is apt for. -/
theorem leaves_spared_iff (steps : Int) (cfg : AutoMcs.Config) (ts : List Turn) (w : World) :
    (∀ m ∈ (turns steps cfg ts w).moves, m.event.ofController = true →
      SparesAll m.before m.after) ↔
    ∀ m ∈ (turns steps cfg ts w).moves, m.event.ofController = true →
      m.event.Apt steps m.before := by
  have hkeeps : (turns steps cfg ts w).Keeps (visit steps) fun _ => True :=
    Run.Keeps.loop (fun t w _ => turn_keeps steps cfg t w) ts w trivial
  refine forall₂_congr fun m hm => forall_congr' fun hv => ?_
  exact visit_spares_iff hv (hkeeps.1 m hm).2

def ownService : Service := { ns := "default", name := "web", clusterIP := "10.9.0.9" }

def rootWeb : Service :=
  { ns := "default"
    name := "web"
    annotations := GoMap.empty.set AutoMcs.autoCreateMCSAnnotation "true"
    clusterIP := "10.0.0.1"
    ipFamilies := [.ipv4]
    ipFamilyPolicy := some .singleStack }

def ownLeaf : World where
  regs := SyncResources.oneLeaf
  leaves := fun _ => ⟨⟨[ownService], List.nodup_singleton _⟩, .empty, .empty⟩

theorem sync_overwrites_own :
    ∃ m ∈ (turns 5 ⟨[], []⟩ [.service ⟨.asWritten, .asWritten⟩ rootWeb.key (.ok (rootWeb, false))
        fun _ => {}] ownLeaf).moves,
      m.event.ofController = true ∧ ownService ∈ (m.before.leaves "c1").services.objects ∧
        OwnService ownService ∧
        (∀ x ∈ (m.after.leaves "c1").services.objects, ¬ OwnService x) ∧
        ¬ SparesAll m.before m.after := by
  have hafter : ∀ services : List Service, services.all (fun s =>
      hasAnnotation s.annotations serviceImportLabelKey) = true → ∀ x ∈ services, ¬ OwnService x :=
    fun services hall x hx hown => Bool.eq_false_iff.mp hown (List.all_eq_true.mp hall x hx)
  refine ⟨_, List.mem_of_getElem? (i := 0) rfl, rfl, List.mem_singleton_self _, rfl, ?_,
    fun h => ?_⟩
  · exact hafter _ rfl
  · exact hafter _ rfl _ ((h "c1").services _ (List.mem_singleton_self _) rfl) rfl

end Kosmos.LeafServices
