import Kosmos.Go.Retry
import Kosmos.Go.Strings
import Kosmos.Go.Trace

/-!
# Imported services: `syncServiceImport`

The slices of the root are copied to the leaf; none is deleted with its slice in the root.

The API of the leaf does as it is told, and nobody else writes to it.
-/

namespace Kosmos.Mcs

open Kosmos.Go

def serviceKey : String := "kubernetes.io/service-name"

def serviceImportLabelKey : String := "kosmos.io/service-import"

def mcsLabelValue : String := "ture"

def serviceEndpointsKey : String := "kosmos.io/address"

def disconnectedEndpointsKey : String := "kosmos.io/disconnected-address"

def mcsFinalizer : String := "kosmos.io/multi-cluster-service-finalizer"

inductive AddressType where
  | ipv4
  | ipv6
  | fqdn
  deriving DecidableEq

inductive IPFamilyType where
  | all
  | ipv4
  | ipv6
  deriving DecidableEq

inductive IPFamily where
  | ipv4
  | ipv6
  deriving DecidableEq

inductive IPFamilyPolicy where
  | singleStack
  | preferDualStack
  | requireDualStack
  deriving DecidableEq

structure ServicePort where
  name : String := ""
  protocol : String := "TCP"
  port : Nat
  nodePort : Nat := 0
  appProtocol : Option String := none
  targetPort : String := ""
  deriving DecidableEq

structure Service where
  ns : String
  name : String
  annotations : GoMap String String := .empty
  type : String := "ClusterIP"
  clusterIP : String := ""
  ports : List ServicePort := []
  ipFamilies : List IPFamily := []
  ipFamilyPolicy : Option IPFamilyPolicy := none
  externalTrafficPolicy : String := ""
  deriving DecidableEq

structure Endpoint where
  addresses : List String
  ne : addresses ≠ []
  deriving DecidableEq

structure EndpointPort where
  name : Option String := none
  protocol : Option String := none
  port : Option Nat := none
  appProtocol : Option String := none
  deriving DecidableEq

structure EndpointSlice where
  ns : String
  name : String
  annotations : GoMap String String := .empty
  labels : GoMap String String := .empty
  addressType : AddressType
  endpoints : List Endpoint
  ports : List EndpointPort := []
  deriving DecidableEq

structure ServiceImport where
  ns : String
  name : String
  annotations : GoMap String String := .empty
  finalizers : List String := []
  terminating : Bool := false
  deriving DecidableEq

abbrev Key := String × String

def Service.key (s : Service) : Key := (s.ns, s.name)

def EndpointSlice.key (e : EndpointSlice) : Key := (e.ns, e.name)

def ServiceImport.key (si : ServiceImport) : Key := (si.ns, si.name)

structure RootState where
  services : Store Service.key
  slices : Store EndpointSlice.key

structure LeafState where
  services : Store Service.key
  slices : Store EndpointSlice.key
  imports : Store ServiceImport.key

def hasAnnotation (annotations : GoMap String String) (key : String) : Bool :=
  (annotations.get? key).isSome

structure TryAnswer where
  update : WriteAnswer := .done
  get : Option CallError := none

structure Answers where
  createNamespace : Option CallError := none
  get : Option CallError := none
  write : WriteAnswer := .done
  updates : Nat → TryAnswer := fun _ => {}
  deleteSlices : WriteAnswer := .done

abbrev Services := Store Service.key

abbrev Slices := Store EndpointSlice.key

def clearEndpointSlice (slice : EndpointSlice) (disconnectedAddress : List String) :
    EndpointSlice :=
  { slice with
    endpoints := slice.endpoints.foldl (fun newEndpoints endpoint =>
      let newAddresses := endpoint.addresses.foldl (fun newAddresses address =>
        if address ∈ disconnectedAddress then newAddresses else newAddresses ++ [address]) []
      if h : newAddresses ≠ [] then newEndpoints ++ [⟨newAddresses, h⟩] else newEndpoints) [] }

def retainEndpointSlice (original : EndpointSlice) (serviceName : String) : EndpointSlice :=
  { original with
    annotations := GoMap.empty.set serviceImportLabelKey mcsLabelValue
    labels := GoMap.empty.set serviceKey serviceName }

structure Tries where
  eps : EndpointSlice
  round : Nat := 0
  slices : Slices

def sliceTry (updates : Nat → TryAnswer) (s : Tries) : Option CallError × Tries :=
  match answered (updates s.round).update (s.slices.update s.eps) s.slices with
  | (none, slices) => (none, ⟨s.eps, s.round + 1, slices⟩)
  | (some .notFound, slices) => (none, ⟨s.eps, s.round + 1, slices⟩)
  | (some updateErr, slices) =>
    match (updates s.round).get with
    | some .notFound => (none, ⟨s.eps, s.round + 1, slices⟩)
    | some _ => (some updateErr, ⟨s.eps, s.round + 1, slices⟩)
    | none =>
      match slices.get? s.eps.key with
      | none => (none, ⟨s.eps, s.round + 1, slices⟩)
      | some newEps => (some updateErr, ⟨newEps, s.round + 1, slices⟩)

def defaultUpdateRetrySteps (steps : Int) : Nat := if steps ≤ 0 then 5 else steps.toNat

def updateEndpointSlice (steps : Int) (updates : Nat → TryAnswer) (eps : EndpointSlice)
    (slices : Slices) : Option CallError × Tries :=
  retryOnConflict (defaultUpdateRetrySteps steps) (sliceTry updates) ⟨eps, 0, slices⟩

def createOrUpdateSlice (steps : Int) (a : Answers) (newSlice : EndpointSlice) (slices : Slices) :
    Option CallError × Slices :=
  match answered a.write (slices.create newSlice) slices with
  | (some .alreadyExists, slices) =>
    let (err, tries) := updateEndpointSlice steps a.updates newSlice slices
    (err, tries.slices)
  | result => result

def mismatch (ipFamilyType : IPFamilyType) (endpointSlice : EndpointSlice) : Bool :=
  decide ((endpointSlice.addressType = .ipv4 ∧ ipFamilyType = .ipv6) ∨
    (endpointSlice.addressType = .ipv6 ∧ ipFamilyType = .ipv4))

def clearDisconnected (serviceImport : ServiceImport) (endpointSlice : EndpointSlice) :
    EndpointSlice :=
  match serviceImport.annotations.get? disconnectedEndpointsKey with
  | some annotationValue => clearEndpointSlice endpointSlice (split annotationValue ',')
  | none => endpointSlice

def importEndpointSliceHandler (steps : Int) (ipFamilyType : IPFamilyType)
    (serviceImport : ServiceImport) (a : Answers) (endpointSlice : EndpointSlice)
    (slices : Slices) : Option CallError × Slices :=
  let endpointSlice := clearDisconnected serviceImport endpointSlice
  if mismatch ipFamilyType endpointSlice then (none, slices)
  else createOrUpdateSlice steps a (retainEndpointSlice endpointSlice serviceImport.name) slices

def checkServiceType (ipFamilyType : IPFamilyType) (service : Service) : Outcome Bool := do
  let policy ← deref service.ipFamilyPolicy
  if policy = .singleStack then
    let family ← index service.ipFamilies 0
    pure (decide ((family = .ipv6 ∧ ipFamilyType = .ipv4) ∨
      (family = .ipv4 ∧ ipFamilyType = .ipv6)))
  else pure false

def isServiceIPSet (service : Service) : Bool :=
  decide (service.clusterIP ≠ "None") && decide (service.clusterIP ≠ "")

def servicePorts (service : Service) : List ServicePort :=
  service.ports.map fun p => { p with targetPort := "" }

def generateService (ipFamilyType : IPFamilyType) (service : Service)
    (serviceImport : ServiceImport) : Outcome Service := do
  let ipFamilyPolicy ←
    match ipFamilyType with
    | .all => deref service.ipFamilyPolicy
    | _ => pure .singleStack
  pure { ns := serviceImport.ns
         name := service.name
         annotations := GoMap.empty.set serviceImportLabelKey mcsLabelValue
         type := service.type
         clusterIP := if isServiceIPSet service then "" else "None"
         ports := servicePorts service
         ipFamilies :=
           match ipFamilyType with
           | .all => service.ipFamilies
           | .ipv4 => [.ipv4]
           | .ipv6 => [.ipv6]
         ipFamilyPolicy := some ipFamilyPolicy
         externalTrafficPolicy := service.externalTrafficPolicy }

def checkAndGenerate (ipFamilyType : IPFamilyType) (service : Service)
    (serviceImport : ServiceImport) : Outcome (Option Service) := do
  if ← checkServiceType ipFamilyType service then pure none
  else
    let clientService ← generateService ipFamilyType service serviceImport
    pure (some clientService)

def createOrUpdateServiceInClient (a : Answers) (service : Service) (services : Services) :
    Option CallError × Services :=
  match a.get with
  | some err => (some err, services)
  | none =>
    match services.get? service.key with
    | none => answered a.write (services.create service) services
    | some oldService =>
      answered a.write (services.update { service with clusterIP := oldService.clusterIP }) services

def importServiceHandler (ipFamilyType : IPFamilyType) (rootService : Service)
    (serviceImport : ServiceImport) (a : Answers) (services : Services) :
    Outcome (Option CallError × Services) := do
  match ← checkAndGenerate ipFamilyType rootService serviceImport with
  | none => pure (none, services)
  | some clientService => pure (createOrUpdateServiceInClient a clientService services)

def slicesOf (slices : Store EndpointSlice.key) (ns name : String) : List EndpointSlice :=
  slices.objects.filter fun e => decide (e.ns = ns) && decide (e.labels.get? serviceKey = some name)

def addressesOf (slices : List EndpointSlice) : List String :=
  slices.flatMap fun eps => eps.endpoints.flatMap Endpoint.addresses

def updateServiceImport (imports : Store ServiceImport.key) (serviceImport : ServiceImport) :
    Store ServiceImport.key :=
  match imports.update serviceImport with
  | .ok imports => imports
  | .error _ => imports

def orFail {σ : Type} : Option CallError × σ → Outcome σ
  | (none, s) => .ok s
  | (some _, _) => .error (.err "sync serviceImport failed")

def syncServiceImport (steps : Int) (ipFamilyType : IPFamilyType) (root : RootState)
    (serviceImport : ServiceImport) (leaf : LeafState) : Outcome LeafState :=
  match root.services.get? (serviceImport.ns, serviceImport.name) with
  | none => .ok leaf
  | some rootService => do
    let services ← orFail (← importServiceHandler ipFamilyType rootService serviceImport {}
      leaf.services)
    let epsList := slicesOf root.slices serviceImport.ns serviceImport.name
    let slices ← epsList.foldlM (fun slices eps => orFail
      (importEndpointSliceHandler steps ipFamilyType serviceImport {} eps slices)) leaf.slices
    let addressString := join (addressesOf epsList) ','
    let synced := { serviceImport with
      annotations := serviceImport.annotations.set serviceEndpointsKey addressString }
    pure { services := services
           slices := slices
           imports := updateServiceImport leaf.imports synced }

def disconnected (serviceImport : ServiceImport) : List String :=
  match serviceImport.annotations.get? disconnectedEndpointsKey with
  | some annotationValue => split annotationValue ','
  | none => []

def connected (disconnectedAddress : List String) (e : Endpoint) : Option Endpoint :=
  if h : (e.addresses.filter fun a => a ∉ disconnectedAddress) ≠ [] then some ⟨_, h⟩ else none

def image (serviceImport : ServiceImport) (e : EndpointSlice) : EndpointSlice where
  ns := e.ns
  name := e.name
  annotations := GoMap.empty.set serviceImportLabelKey mcsLabelValue
  labels := GoMap.empty.set serviceKey serviceImport.name
  addressType := e.addressType
  endpoints := e.endpoints.filterMap (connected (disconnected serviceImport))
  ports := e.ports

/-- The leaf has the addresses of the slice. -/
def Allowed (ipFamilyType : IPFamilyType) (e : EndpointSlice) : Prop :=
  ¬ (e.addressType = .ipv4 ∧ ipFamilyType = .ipv6) ∧
    ¬ (e.addressType = .ipv6 ∧ ipFamilyType = .ipv4)

/-- A slice of the root that the leaf is to have. -/
def Current (ipFamilyType : IPFamilyType) (root : RootState) (serviceImport : ServiceImport)
    (e : EndpointSlice) : Prop :=
  e ∈ slicesOf root.slices serviceImport.ns serviceImport.name ∧ Allowed ipFamilyType e

/-- A slice of the leaf that is imported for the service. -/
def Imported (ns name : String) (e : EndpointSlice) : Prop :=
  e.ns = ns ∧ hasAnnotation e.annotations serviceImportLabelKey = true ∧
    e.labels.get? serviceKey = some name

/-- The imported slices are the images of those of the root. -/
def Mirrors (ipFamilyType : IPFamilyType) (root : RootState) (serviceImport : ServiceImport)
    (leaf : LeafState) : Prop :=
  ∀ x, (x ∈ leaf.slices.objects ∧ Imported serviceImport.ns serviceImport.name x) ↔
    ∃ e, Current ipFamilyType root serviceImport e ∧ x = image serviceImport e

/-- Each imported slice still has its slice in the root. -/
def NoneStale (ipFamilyType : IPFamilyType) (root : RootState) (serviceImport : ServiceImport)
    (leaf : LeafState) : Prop :=
  ∀ x ∈ leaf.slices.objects, Imported serviceImport.ns serviceImport.name x →
    ∃ e, Current ipFamilyType root serviceImport e ∧ e.name = x.name

section Slice

variable {steps : Int} {ipFamilyType : IPFamilyType} {serviceImport : ServiceImport}

theorem foldl_addresses (d addresses : List String) :
    addresses.foldl (fun newAddresses address =>
        if address ∈ d then newAddresses else newAddresses ++ [address]) [] =
      addresses.filter fun a => a ∉ d := by
  have hloop : ∀ (l acc : List String), l.foldl (fun newAddresses address =>
      if address ∈ d then newAddresses else newAddresses ++ [address]) acc =
        acc ++ l.filter fun a => a ∉ d := by
    intro l
    induction l with
    | nil => simp
    | cons a l ih =>
      intro acc
      rw [List.foldl_cons, ih]
      by_cases ha : a ∈ d <;> simp [ha]
  exact hloop addresses []

theorem clearEndpointSlice_eq (slice : EndpointSlice) (d : List String) :
    clearEndpointSlice slice d =
      { slice with endpoints := slice.endpoints.filterMap (connected d) } := by
  have hloop : ∀ (l acc : List Endpoint), l.foldl (fun newEndpoints endpoint =>
      let newAddresses := endpoint.addresses.foldl (fun newAddresses address =>
        if address ∈ d then newAddresses else newAddresses ++ [address]) []
      if h : newAddresses ≠ [] then newEndpoints ++ [⟨newAddresses, h⟩] else newEndpoints) acc =
        acc ++ l.filterMap (connected d) := by
    intro l
    induction l with
    | nil => simp
    | cons e l ih =>
      intro acc
      rw [List.foldl_cons, ih, List.filterMap_cons]
      simp only [foldl_addresses, connected]
      split
      · simp
      · simp
  unfold clearEndpointSlice
  rw [hloop]
  rfl

theorem connected_nil (e : Endpoint) : connected [] e = some e := by
  obtain ⟨addresses, hne⟩ := e
  have hall : (addresses.filter fun a => a ∉ ([] : List String)) = addresses :=
    List.filter_eq_self.mpr fun _ _ => by simp
  simp [connected, dif_pos hne]

theorem clearDisconnected_eq (e : EndpointSlice) :
    clearDisconnected serviceImport e =
      { e with endpoints := e.endpoints.filterMap (connected (disconnected serviceImport)) } := by
  unfold clearDisconnected disconnected
  cases serviceImport.annotations.get? disconnectedEndpointsKey with
  | some v => exact clearEndpointSlice_eq e _
  | none =>
    have hall : e.endpoints.filterMap (connected []) = e.endpoints := by
      rw [List.filterMap_congr (g := some) fun e _ => connected_nil e]
      exact List.filterMap_some
    simp only [hall]

theorem defaultUpdateRetrySteps_pos (steps : Int) : 0 < defaultUpdateRetrySteps steps := by
  unfold defaultUpdateRetrySteps
  split <;> omega

theorem updateEndpointSlice_done {eps : EndpointSlice} {slices slices' : Slices}
    (h : slices.update eps = .ok slices') :
    updateEndpointSlice steps (fun _ => {}) eps slices = (none, ⟨eps, 1, slices'⟩) := by
  obtain ⟨n, hn⟩ := Nat.exists_eq_add_one.mpr (defaultUpdateRetrySteps_pos steps)
  rw [updateEndpointSlice, retryOnConflict, hn]
  exact onError_of_nil (by simp [sliceTry, h, answered]) n none

theorem createOrUpdateSlice_done (steps : Int) (newSlice : EndpointSlice) (slices : Slices) :
    ∃ slices', createOrUpdateSlice steps {} newSlice slices = (none, slices') ∧
      ∀ x, x ∈ slices'.objects ↔ x = newSlice ∨ (x ∈ slices.objects ∧ x.key ≠ newSlice.key) := by
  unfold createOrUpdateSlice
  rcases slices.create_or_update newSlice with
    ⟨slices', hcreate, hmem⟩ | ⟨hcreate, slices', hupdate, hmem⟩
  · rw [hcreate]
    exact ⟨slices', rfl, hmem⟩
  · rw [hcreate]
    exact ⟨slices', by simp [answered, callError, updateEndpointSlice_done hupdate], hmem⟩

theorem mismatch_iff {e : EndpointSlice} :
    mismatch ipFamilyType e = true ↔ ¬ Allowed ipFamilyType e := by
  rw [mismatch, decide_eq_true_iff, Allowed, ← not_or, not_not]

theorem importEndpointSliceHandler_done (steps : Int) (ipFamilyType : IPFamilyType)
    (serviceImport : ServiceImport) (e : EndpointSlice) (slices : Slices) :
    ∃ slices', importEndpointSliceHandler steps ipFamilyType serviceImport {} e slices =
        (none, slices') ∧
      ∀ x, x ∈ slices'.objects ↔ (Allowed ipFamilyType e ∧ x = image serviceImport e) ∨
        (x ∈ slices.objects ∧ (Allowed ipFamilyType e → x.key ≠ e.key)) := by
  unfold importEndpointSliceHandler
  rw [clearDisconnected_eq]
  simp only
  split
  next hmismatch =>
    have hnot : ¬ Allowed ipFamilyType e := mismatch_iff.mp hmismatch
    exact ⟨slices, rfl, fun x => by simp [hnot]⟩
  next hmatch =>
    have hallowed : Allowed ipFamilyType e := not_not.mp (mismatch_iff.not.mp hmatch)
    obtain ⟨slices', hok, hmem⟩ := createOrUpdateSlice_done steps (image serviceImport e) slices
    refine ⟨slices', hok, fun x => ?_⟩
    rw [hmem]
    simp only [hallowed, true_and, forall_const]
    rfl

theorem importSlices_spec {l : List EndpointSlice} (hnd : (l.map EndpointSlice.key).Nodup) :
    ∀ slices : Slices, ∃ slices',
      l.foldlM (fun slices eps =>
        orFail (importEndpointSliceHandler steps ipFamilyType serviceImport {} eps slices))
          slices = .ok slices' ∧
      ∀ x, x ∈ slices'.objects ↔
        (∃ e ∈ l, Allowed ipFamilyType e ∧ x = image serviceImport e) ∨
        (x ∈ slices.objects ∧ ∀ e ∈ l, Allowed ipFamilyType e → x.key ≠ e.key) := by
  induction l with
  | nil => exact fun slices => ⟨slices, rfl, fun x => by simp⟩
  | cons e l ih =>
    intro slices
    rw [List.map_cons, List.nodup_cons] at hnd
    obtain ⟨slices₁, hfirst, hmem₁⟩ :=
      importEndpointSliceHandler_done steps ipFamilyType serviceImport e slices
    obtain ⟨slices₂, hrest, hmem₂⟩ := ih hnd.2 slices₁
    refine ⟨slices₂, ?_, fun x => ?_⟩
    · rw [List.foldlM_cons, hfirst]
      exact hrest
    · rw [hmem₂, hmem₁, List.exists_mem_cons_iff, List.forall_mem_cons]
      constructor
      · intro h
        rcases h with himage | ⟨himage | ⟨hx, hkey⟩, hkeys⟩
        · exact Or.inl (Or.inr himage)
        · exact Or.inl (Or.inl himage)
        · exact Or.inr ⟨hx, hkey, hkeys⟩
      · intro h
        rcases h with (⟨hallowed, heq⟩ | himage) | ⟨hx, hkey, hkeys⟩
        · refine Or.inr ⟨Or.inl ⟨hallowed, heq⟩, fun e' he' _ hkey => hnd.1 ?_⟩
          rw [heq] at hkey
          exact List.mem_map.mpr ⟨e', he', hkey.symm⟩
        · exact Or.inl himage
        · exact Or.inr ⟨Or.inr ⟨hx, hkey⟩, hkeys⟩

end Slice

section Sync

variable {steps : Int} {ipFamilyType : IPFamilyType} {serviceImport : ServiceImport}
  {root : RootState} {leaf leaf' : LeafState}

theorem sync_slices
    (h : syncServiceImport steps ipFamilyType root serviceImport leaf = .ok leaf')
    (hservice : (root.services.get? (serviceImport.ns, serviceImport.name)).isSome = true)
    (x : EndpointSlice) :
    x ∈ leaf'.slices.objects ↔
      (∃ e, Current ipFamilyType root serviceImport e ∧ x = image serviceImport e) ∨
      (x ∈ leaf.slices.objects ∧
        ∀ e, Current ipFamilyType root serviceImport e → x.key ≠ e.key) := by
  obtain ⟨rootService, hroot⟩ := Option.isSome_iff_exists.mp hservice
  unfold syncServiceImport at h
  simp only [hroot] at h
  obtain ⟨written, _, h⟩ := bind_eq_ok h
  obtain ⟨services, _, h⟩ := bind_eq_ok h
  obtain ⟨slices, hslices, h⟩ := bind_eq_ok h
  cases h
  have hnd : ((slicesOf root.slices serviceImport.ns serviceImport.name).map
      EndpointSlice.key).Nodup :=
    root.slices.nodup.sublist (List.filter_sublist.map _)
  obtain ⟨slices', hok, hmem⟩ := importSlices_spec hnd leaf.slices
  rw [hok] at hslices
  cases hslices
  rw [hmem]
  simp [Current, and_assoc]

theorem imported_image {e : EndpointSlice} (h : Current ipFamilyType root serviceImport e) :
    Imported serviceImport.ns serviceImport.name (image serviceImport e) := by
  have hns := (List.mem_filter.mp h.1).2
  rw [Bool.and_eq_true, decide_eq_true_iff] at hns
  refine ⟨hns.1, ?_, ?_⟩
  · rw [image, hasAnnotation, GoMap.get?_set_self]
    rfl
  · rw [image, GoMap.get?_set_self]

theorem ns_of_current {e : EndpointSlice} (h : Current ipFamilyType root serviceImport e) :
    e.ns = serviceImport.ns :=
  (imported_image h).1

theorem sync_mirrors_iff
    (h : syncServiceImport steps ipFamilyType root serviceImport leaf = .ok leaf')
    (hservice : (root.services.get? (serviceImport.ns, serviceImport.name)).isSome = true) :
    Mirrors ipFamilyType root serviceImport leaf' ↔
      NoneStale ipFamilyType root serviceImport leaf := by
  constructor
  · intro hmirrors x hx himported
    by_contra hstale
    have hkeys : ∀ e, Current ipFamilyType root serviceImport e → x.key ≠ e.key :=
      fun e he hkey => hstale ⟨e, he, (Prod.ext_iff.mp hkey).2.symm⟩
    have hstays := (sync_slices h hservice x).mpr (Or.inr ⟨hx, hkeys⟩)
    obtain ⟨e, he, heq⟩ := (hmirrors x).mp ⟨hstays, himported⟩
    exact hkeys e he (by rw [heq]; rfl)
  · intro hnone x
    rw [sync_slices h hservice]
    constructor
    · intro ⟨hx, himported⟩
      refine hx.resolve_right fun ⟨hx, hkeys⟩ => ?_
      obtain ⟨e, he, hname⟩ := hnone x hx himported
      exact hkeys e he (Prod.ext (himported.1.trans (ns_of_current he).symm) hname.symm)
    · intro ⟨e, he, heq⟩
      rw [heq]
      exact ⟨Or.inl ⟨e, he, rfl⟩, imported_image he⟩

end Sync

structure World where
  root : RootState
  leaf : LeafState

inductive Event where
  | rootChanged (root : RootState)
  | sync (serviceImport : ServiceImport)

def step (steps : Int) (ipFamilyType : IPFamilyType) (w : World) : Event → Outcome (Unit × World)
  | .rootChanged root => pure ((), { w with root := root })
  | .sync serviceImport => do
    let leaf ← syncServiceImport steps ipFamilyType w.root serviceImport w.leaf
    pure ((), { w with leaf := leaf })

def runs (steps : Int) (ipFamilyType : IPFamilyType) (es : List Event) (w : World) :
    Run World Event Unit :=
  Run.loop (Run.once (step steps ipFamilyType)) es w

/-- A sync of a service that is in the root. -/
def SyncOf (m : Move World Event Unit) (serviceImport : ServiceImport) : Prop :=
  m.event = .sync serviceImport ∧
    (m.before.root.services.get? (serviceImport.ns, serviceImport.name)).isSome = true

/-- The imported slices are those of the root exactly if no sync finds one that has lost its slice
in the root. -/
theorem runs_mirror_iff (steps : Int) (ipFamilyType : IPFamilyType) (es : List Event)
    (w : World) :
    (∀ m ∈ (runs steps ipFamilyType es w).moves, ∀ serviceImport, SyncOf m serviceImport →
      Mirrors ipFamilyType m.before.root serviceImport m.after.leaf) ↔
    ∀ m ∈ (runs steps ipFamilyType es w).moves, ∀ serviceImport, SyncOf m serviceImport →
      NoneStale ipFamilyType m.before.root serviceImport m.before.leaf := by
  have hkeeps : (runs steps ipFamilyType es w).Keeps (step steps ipFamilyType) fun _ => True :=
    Run.Keeps.loop (Run.Keeps.once fun _ _ _ _ _ _ => trivial) es w trivial
  refine forall₂_congr fun m hm => forall₂_congr fun serviceImport hsync => ?_
  have hstep := (hkeeps.1 m hm).2
  rw [hsync.1] at hstep
  obtain ⟨leaf', hleaf, hafter⟩ := bind_eq_ok hstep
  have hafter : { m.before with leaf := leaf' } = m.after :=
    (Prod.ext_iff.mp (Except.ok.inj hafter)).2
  rw [← hafter]
  exact sync_mirrors_iff hleaf hsync.2

def webService : Service where
  ns := "default"
  name := "web"
  clusterIP := "10.96.0.1"
  ipFamilies := [.ipv4]
  ipFamilyPolicy := some .singleStack

def webSlice (name address : String) : EndpointSlice where
  ns := "default"
  name := name
  labels := GoMap.empty.set serviceKey "web"
  addressType := .ipv4
  endpoints := [⟨[address], List.cons_ne_nil _ _⟩]

def webImport : ServiceImport where
  ns := "default"
  name := "web"

def rootWith (slice : EndpointSlice) : RootState where
  services := ⟨[webService], List.nodup_singleton _⟩
  slices := ⟨[slice], List.nodup_singleton _⟩

def freshLeaf : LeafState where
  services := .empty
  slices := .empty
  imports := ⟨[webImport], List.nodup_singleton _⟩

def sliceReplaced : List Event :=
  [.sync webImport, .rootChanged (rootWith (webSlice "web-2" "10.1.0.2")), .sync webImport]

theorem removedSlice_stays :
    ∃ m ∈ (runs 5 .all sliceReplaced ⟨rootWith (webSlice "web-1" "10.1.0.1"), freshLeaf⟩).moves,
      SyncOf m webImport ∧
        m.before.root.slices.objects.map EndpointSlice.name = ["web-2"] ∧
        m.after.leaf.slices.objects.map EndpointSlice.name = ["web-1", "web-2"] ∧
        ¬ Mirrors .all m.before.root webImport m.after.leaf := by
  refine ⟨_, List.mem_of_getElem? (i := 2) rfl, ⟨rfl, by decide +kernel⟩, by decide +kernel,
    by decide +kernel, fun h => ?_⟩
  obtain ⟨e, ⟨he, _⟩, heq⟩ :=
    (h _).mp ⟨List.mem_cons_self, rfl, by decide +kernel, by decide +kernel⟩
  rw [List.mem_singleton.mp (List.mem_filter.mp he).1] at heq
  exact absurd (congrArg EndpointSlice.name heq) (by decide +kernel)

end Kosmos.Mcs
