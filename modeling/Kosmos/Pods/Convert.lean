import Kosmos.Go.Completes
import Kosmos.Pods.Fit
import Kosmos.Tree.SyncResources

/-!
# Converting pods, and what their volumes need

`ConvertPod` by a policy; the lookups of secrets, config maps and claims; `GetUpdatedPod`.

A write to a nil map panics like a read through a nil pointer.
-/

namespace Kosmos.Pods

open Kosmos.Go Kosmos.Tree

/-! ## What the volumes need -/

def secretRefName (source : Option StorageVolumeSource) : Outcome (List String) := do
  let source ← deref source
  let secretRef ← deref source.secretRef
  pure [secretRef.name]

def volumeSecrets (v : Volume) : Outcome (List String) :=
  if v.secret ≠ none then do
    let secret ← deref v.secret
    pure [secret.secretName]
  else if v.cephFS ≠ none then secretRefName v.cephFS
  else if v.cinder ≠ none then secretRefName v.cinder
  else if v.rbd ≠ none then secretRefName v.rbd
  else pure []

def getSecrets (pod : Pod) : Outcome (List String × List String) := do
  let secretNames ← pod.spec.volumes.elems.foldlM (fun secretNames v => do
    let names ← volumeSecrets v
    pure (secretNames ++ names)) []
  pure (secretNames, pod.spec.imagePullSecrets.elems.map LocalObjectReference.name)

def configmapTurn (st : List String × List Volume) (turn : Volume × Nat) :
    Outcome (List String × List Volume) :=
  let (v, i) := turn
  if v.configMap = none then pure st
  else do
    let configMap ← deref v.configMap
    let cmNames := st.1 ++ [configMap.name]
    if configMap.name = SyncResources.rootCAConfigMapName then do
      let volume ← index st.2 i
      let _ ← deref volume.configMap
      pure (cmNames, st.2.set i { volume with configMap := some ⟨SyncResources.masterRooTCAName⟩ })
    else pure (cmNames, st.2)

def getConfigmaps (pod : Pod) : Outcome (List String × Pod) := do
  let (cmNames, volumes) ←
    pod.spec.volumes.elems.zipIdx.foldlM configmapTurn ([], pod.spec.volumes.elems)
  pure (cmNames, { pod with
    spec := { pod.spec with volumes := pod.spec.volumes.map fun _ => volumes } })

def getPVCs (pod : Pod) : Outcome (List String) :=
  pod.spec.volumes.elems.foldlM (fun cmNames v =>
    if v.persistentVolumeClaim = none then pure cmNames
    else do
      let claim ← deref v.persistentVolumeClaim
      pure (cmNames ++ [claim.claimName])) []

def dependencies (pod : Pod) :
    Outcome ((List String × List String) × List String × List String × Pod) := do
  let secrets ← getSecrets pod
  let (configMaps, pod) ← getConfigmaps pod
  let pvcs ← getPVCs pod
  pure (secrets, configMaps, pvcs, pod)

/-! ## Policies -/

inductive ConvertType where
  | add
  | remove
  | replace
  | other (text : String)
  deriving DecidableEq

structure Converter (α : Type) where
  convertType : ConvertType
  value : α

abbrev SchedulerNameConverter := Converter String
abbrev NodeNameConverter := Converter String
abbrev NodeSelectorConverter := Converter (Slice (String × String))
abbrev TolerationConverter := Converter (Slice Toleration)
abbrev AffinityConverter := Converter (Option Affinity)
abbrev TopologySpreadConstraintsConverter := Converter (Slice String)
abbrev HostAliasesConverter := Converter (Slice HostAlias)

structure Converters where
  schedulerNameConverter : Option SchedulerNameConverter := none
  nodeNameConverter : Option NodeNameConverter := none
  nodeSelectorConverter : Option NodeSelectorConverter := none
  tolerationConverter : Option TolerationConverter := none
  affinityConverter : Option AffinityConverter := none
  topologySpreadConstraintsConverter : Option TopologySpreadConstraintsConverter := none
  hostAliasesConverter : Option HostAliasesConverter := none

structure ConvertPolicy where
  name : String
  converters : Option Converters := none

def convertField {α : Type} [DecidableEq α] (empty : α) (converter : Option (Converter α))
    (field : α) : α :=
  match converter with
  | none => field
  | some converter =>
    match converter.convertType with
    | .add => if field = empty then converter.value else field
    | .remove => empty
    | .replace => converter.value
    | .other _ => field

def convertSchedulerName (spec : PodSpec) (converter : Option SchedulerNameConverter) : PodSpec :=
  { spec with schedulerName := convertField "" converter spec.schedulerName }

def convertNodeName (spec : PodSpec) (converter : Option NodeNameConverter) : PodSpec :=
  { spec with nodeName := convertField "" converter spec.nodeName }

def convertToleration (spec : PodSpec) (converter : Option TolerationConverter) : PodSpec :=
  { spec with tolerations := convertField none converter spec.tolerations }

def convertNodeSelector (spec : PodSpec) (converter : Option NodeSelectorConverter) : PodSpec :=
  { spec with nodeSelector := convertField none converter spec.nodeSelector }

def convertAffinity (spec : PodSpec) (converter : Option AffinityConverter) : PodSpec :=
  { spec with affinity := convertField none converter spec.affinity }

def convertTopologySpreadConstraints (spec : PodSpec)
    (converter : Option TopologySpreadConstraintsConverter) : PodSpec :=
  match converter with
  | none => spec
  | some converter =>
    match converter.convertType with
    | .add =>
      if spec.affinity = none then { spec with topologySpreadConstraints := converter.value }
      else spec
    | .remove => { spec with topologySpreadConstraints := none }
    | .replace => { spec with topologySpreadConstraints := converter.value }
    | .other _ => spec

def convertHostAliases (spec : PodSpec) (converter : Option HostAliasesConverter) : PodSpec :=
  { spec with hostAliases := convertField none converter spec.hostAliases }

def convertSpec (spec : PodSpec) (converters : Converters) : PodSpec :=
  let spec := convertSchedulerName spec converters.schedulerNameConverter
  let spec := convertNodeName spec converters.nodeNameConverter
  let spec := convertNodeSelector spec converters.nodeSelectorConverter
  let spec := convertToleration spec converters.tolerationConverter
  let spec := convertAffinity spec converters.affinityConverter
  let spec := convertTopologySpreadConstraints spec converters.topologySpreadConstraintsConverter
  convertHostAliases spec converters.hostAliasesConverter

def kosmosConvertLabels : String := "kosmos-io/convert-policy"

def firstNonEmpty (policies : List ConvertPolicy) : Option ConvertPolicy :=
  policies.find? fun po => po.converters.isSome

def applyPolicy (pod : Pod) (choose : ConvertPolicy) : Outcome Pod := do
  let annotations ← deref pod.annotations
  let converters ← deref choose.converters
  pure { pod with
    annotations := some (annotations.set kosmosConvertLabels choose.name)
    spec := convertSpec pod.spec converters }

def convertPod (pod : Pod) (cpcp pcp : List ConvertPolicy) : Outcome Pod :=
  if cpcp.isEmpty && pcp.isEmpty then pure pod
  else if !cpcp.isEmpty then
    match firstNonEmpty cpcp with
    | none => pure pod
    | some clusterScopeChoose => applyPolicy pod clusterScopeChoose
  else
    match firstNonEmpty pcp with
    | none => pure pod
    | some nsScopeChoose => applyPolicy pod nsScopeChoose

def chosen (cpcp pcp : List ConvertPolicy) : Option ConvertPolicy :=
  firstNonEmpty (if cpcp.isEmpty then pcp else cpcp)

theorem convertPod_eq (pod : Pod) (cpcp pcp : List ConvertPolicy) :
    convertPod pod cpcp pcp =
      match chosen cpcp pcp with
      | none => pure pod
      | some choose => applyPolicy pod choose := by
  unfold convertPod chosen
  cases cpcp with
  | nil =>
    cases pcp with
    | nil => rfl
    | cons po pcp => rfl
  | cons po cpcp => rfl

def convertedConstraints (affinity : Option Affinity)
    (converter : Option TopologySpreadConstraintsConverter) (constraints : Slice String) :
    Slice String :=
  match converter with
  | none => constraints
  | some converter =>
    match converter.convertType with
    | .add => if affinity = none then converter.value else constraints
    | .remove => none
    | .replace => converter.value
    | .other _ => constraints

theorem convertTopologySpreadConstraints_eq (spec : PodSpec)
    (converter : Option TopologySpreadConstraintsConverter) :
    convertTopologySpreadConstraints spec converter =
      { spec with
        topologySpreadConstraints :=
          convertedConstraints spec.affinity converter spec.topologySpreadConstraints } := by
  unfold convertTopologySpreadConstraints convertedConstraints
  cases converter with
  | none => rfl
  | some converter =>
    obtain ⟨convertType, value⟩ := converter
    cases convertType with
    | add =>
      by_cases haffinity : spec.affinity = none
      · simp only [if_pos haffinity]
      · simp only [if_neg haffinity]
    | remove => rfl
    | replace => rfl
    | other text => rfl

theorem convertSpec_eq (spec : PodSpec) (c : Converters) :
    convertSpec spec c =
      let affinity := convertField none c.affinityConverter spec.affinity
      { spec with
        schedulerName := convertField "" c.schedulerNameConverter spec.schedulerName
        nodeName := convertField "" c.nodeNameConverter spec.nodeName
        nodeSelector := convertField none c.nodeSelectorConverter spec.nodeSelector
        tolerations := convertField none c.tolerationConverter spec.tolerations
        affinity
        topologySpreadConstraints :=
          convertedConstraints affinity c.topologySpreadConstraintsConverter
            spec.topologySpreadConstraints
        hostAliases := convertField none c.hostAliasesConverter spec.hostAliases } := by
  simp only [convertSpec, convertTopologySpreadConstraints_eq]
  rfl

theorem applyPolicy_eq {pod : Pod} {choose : ConvertPolicy} {annotations : Labels}
    {converters : Converters} (h : pod.annotations = some annotations)
    (hconverters : choose.converters = some converters) :
    applyPolicy pod choose = .ok { pod with
      annotations := some (annotations.set kosmosConvertLabels choose.name)
      spec := convertSpec pod.spec converters } := by
  unfold applyPolicy
  rw [h, hconverters]
  rfl

theorem converters_of_chosen {cpcp pcp : List ConvertPolicy} {choose : ConvertPolicy}
    (h : chosen cpcp pcp = some choose) : ∃ converters, choose.converters = some converters :=
  Option.isSome_iff_exists.mp
    (List.find?_some (p := fun po : ConvertPolicy => po.converters.isSome) h)

/-! ## Whether the calls return -/

section Panics

variable {json : Json} {o : LabelOrder} {pod root leaf : Pod} {ignoreLabels : Slice String}
  {leafMode : LeafMode} {nodeSelector : NodeSelector} {cpcp pcp : List ConvertPolicy}

/-- A volume of a kind that `GetSecrets` looks into names a secret. -/
def SecretGiven (v : Volume) : Prop :=
  v.secret = none → ∀ source, (v.cephFS <|> v.cinder <|> v.rbd) = some source →
    source.secretRef ≠ none

theorem completes_volumeSecrets (v : Volume) : Completes (volumeSecrets v) ↔ SecretGiven v := by
  have href : ∀ source : StorageVolumeSource,
      Completes (secretRefName (some source)) ↔ source.secretRef ≠ none := by
    intro source
    show Completes (deref source.secretRef >>= fun secretRef => pure [secretRef.name]) ↔ _
    exact (completes_bind_of_rest fun secretRef => completes_ok _).trans completes_deref
  unfold volumeSecrets SecretGiven
  cases v.secret with
  | some secret => simp [deref]
  | none =>
    cases v.cephFS with
    | some cephFS => simp [href]
    | none =>
      cases v.cinder with
      | some cinder => simp [href]
      | none =>
        cases v.rbd with
        | some rbd => simp [href]
        | none => simp

theorem completes_getSecrets :
    Completes (getSecrets pod) ↔ ∀ v ∈ pod.spec.volumes.elems, SecretGiven v := by
  refine (completes_bind_of_rest fun secretNames => completes_ok _).trans ?_
  refine completes_foldlM fun secretNames v _ => ?_
  exact (completes_bind_of_rest fun names => completes_ok _).trans (completes_volumeSecrets v)

def withMasterCA (v : Volume) : Volume :=
  if v.configMap = some ⟨SyncResources.rootCAConfigMapName⟩ then
    { v with configMap := some ⟨SyncResources.masterRooTCAName⟩ }
  else v

def configmapName (v : Volume) : Option String := v.configMap.map ConfigMapVolumeSource.name

theorem configmapTurn_eq (names : List String) (done vs : List Volume) (v : Volume) :
    configmapTurn (names, done ++ v :: vs) (v, done.length) =
      .ok (names ++ (configmapName v).toList, done ++ withMasterCA v :: vs) := by
  unfold configmapTurn configmapName withMasterCA
  cases hcm : v.configMap with
  | none => simp [hcm]
  | some configMap =>
    obtain ⟨name⟩ := configMap
    by_cases hname : name = SyncResources.rootCAConfigMapName
    · simp [hname, hcm, index]
    · simp [hname, hcm]

theorem foldlM_configmapTurn : ∀ (vs done : List Volume) (names : List String),
    (vs.zipIdx done.length).foldlM configmapTurn (names, done ++ vs) =
      .ok (names ++ vs.filterMap configmapName, done ++ vs.map withMasterCA)
  | [], done, names => by simp
  | v :: vs, done, names => by
    have hrest := foldlM_configmapTurn vs (done ++ [withMasterCA v])
      (names ++ (configmapName v).toList)
    rw [List.zipIdx_cons, List.foldlM_cons, configmapTurn_eq, ok_bind]
    simp only [List.length_append, List.length_singleton, List.append_assoc,
      List.singleton_append] at hrest
    rw [hrest]
    cases hname : configmapName v with
    | none => simp [hname]
    | some name => simp [hname]

theorem getConfigmaps_eq (pod : Pod) :
    getConfigmaps pod = .ok (pod.spec.volumes.elems.filterMap configmapName, { pod with
      spec := { pod.spec with
        volumes := pod.spec.volumes.map fun vs => vs.map withMasterCA } }) := by
  have hloop := foldlM_configmapTurn pod.spec.volumes.elems [] []
  simp only [List.length_nil, List.nil_append] at hloop
  unfold getConfigmaps
  rw [hloop, ok_bind]
  cases hvs : pod.spec.volumes with
  | none => rfl
  | some vs => rfl

theorem completes_getPVCs : Completes (getPVCs pod) := by
  have hloop : Completes (getPVCs pod) ↔ ∀ v ∈ pod.spec.volumes.elems, True := by
    refine completes_foldlM fun cmNames v _ => iff_of_true ?_ trivial
    cases v.persistentVolumeClaim with
    | none => simp
    | some claim => simp
  exact hloop.mpr fun _ _ => trivial

theorem completes_dependencies :
    Completes (dependencies pod) ↔ ∀ v ∈ pod.spec.volumes.elems, SecretGiven v := by
  rw [← completes_getSecrets]
  refine completes_bind_of_rest fun secrets => ?_
  rw [getConfigmaps_eq, ok_bind]
  exact (completes_bind_of_rest fun pvcs => completes_ok _).mpr completes_getPVCs

theorem completes_leafAffinity {rootAffinity affinity : Option Affinity} :
    Completes (leafAffinity o leafMode nodeSelector rootAffinity affinity) ↔
      (leafMode = .party → nodeSelector.labelSelector ≠ none) := by
  unfold leafAffinity
  by_cases hparty : leafMode = .party
  · rw [if_pos hparty, forall_prop_of_true hparty, ← completes_deref]
    refine (completes_bind_of_rest fun fitted => completes_ok _).trans ?_
    exact completes_bind_of_rest fun labelSelector => completes_ok _
  · rw [if_neg hparty]
    exact iff_of_true (completes_ok _) fun h => absurd h hparty

theorem completes_fitPod :
    Completes (fitPod json o pod ignoreLabels leafMode nodeSelector) ↔
      (leafMode = .party → nodeSelector.labelSelector ≠ none) :=
  (completes_bind_of_rest fun _ => completes_ok _).trans completes_leafAffinity

theorem completes_updateContainers {orig update : Slice Container} :
    Completes (updateContainers orig update) ↔ orig.elems.length ≤ update.elems.length := by
  rw [updateContainers_eq]
  split
  next h => exact iff_of_true (completes_ok _) h
  next h => exact iff_of_false (not_completes_error _) h

theorem completes_getUpdatedPod :
    Completes (getUpdatedPod json o leaf root ignoreLabels leafMode nodeSelector) ↔
      Covers root leaf ∧ (leafMode = .party → nodeSelector.labelSelector ≠ none) := by
  have hcalls : Completes (getUpdatedPod json o leaf root ignoreLabels leafMode nodeSelector) ↔
      Completes (updateContainers leaf.spec.initContainers root.spec.initContainers) ∧
      Completes (updateContainers leaf.spec.containers root.spec.containers) ∧
      Completes
        (leafAffinity o leafMode nodeSelector root.spec.affinity leaf.spec.affinity) :=
    completes_bind_iff fun initContainers _ => completes_bind_iff fun containers _ =>
      completes_bind_of_rest fun affinity => completes_ok _
  rw [hcalls, completes_updateContainers, completes_updateContainers, completes_leafAffinity,
    Covers, and_assoc]

def leafPod (json : Json) (o : LabelOrder) (pod : Pod) (ignoreLabels : Slice String)
    (leafMode : LeafMode) (nodeSelector : NodeSelector) (cpcp pcp : List ConvertPolicy) :
    Outcome Pod := do
  let basicPod ← fitPod json o pod ignoreLabels leafMode nodeSelector
  convertPod basicPod cpcp pcp

theorem annotations_of_fitPod {basicPod : Pod}
    (h : fitPod json o pod ignoreLabels leafMode nodeSelector = .ok basicPod) :
    ∃ annotations, basicPod.annotations = some annotations := by
  obtain ⟨affinity, -, hpod⟩ := bind_eq_ok h
  cases hpod
  exact ⟨_, rfl⟩

theorem volumes_of_fitPod {basicPod : Pod}
    (h : fitPod json o pod ignoreLabels leafMode nodeSelector = .ok basicPod) :
    ∀ v ∈ basicPod.spec.volumes.elems, v ∈ pod.spec.volumes.elems := by
  obtain ⟨affinity, -, hpod⟩ := bind_eq_ok h
  cases hpod
  exact fun v hv => (List.mem_filter.mp hv).1

theorem convertPod_volumes {annotations : Labels} (h : pod.annotations = some annotations) :
    ∃ converted, convertPod pod cpcp pcp = .ok converted ∧
      converted.spec.volumes = pod.spec.volumes := by
  rw [convertPod_eq]
  cases hchosen : chosen cpcp pcp with
  | none => exact ⟨pod, rfl, rfl⟩
  | some choose =>
    obtain ⟨converters, hconverters⟩ := converters_of_chosen hchosen
    refine ⟨_, applyPolicy_eq h hconverters, ?_⟩
    rw [convertSpec_eq]

/-- Every call on the way of a pod to a leaf, and of its updates, returns. -/
structure NeverPanics (json : Json) (root leaf : Pod) (ignoreLabels : Slice String)
    (leafMode : LeafMode) (nodeSelector : NodeSelector) (cpcp pcp : List ConvertPolicy) :
    Prop where
  lookups : Completes (dependencies root)
  created : ∀ o, Completes
    (leafPod json o root ignoreLabels leafMode nodeSelector cpcp pcp)
  createdLookups : ∀ o pod,
    leafPod json o root ignoreLabels leafMode nodeSelector cpcp pcp = .ok pod →
      Completes (dependencies pod)
  updated : ∀ o, Completes
    (getUpdatedPod json o leaf root ignoreLabels leafMode nodeSelector)

/-- What the pods, the mode and the selector must be like for that. -/
structure Guarded (root leaf : Pod) (leafMode : LeafMode) (nodeSelector : NodeSelector) :
    Prop where
  secrets : ∀ v ∈ root.spec.volumes.elems, SecretGiven v
  selector : leafMode = .party → nodeSelector.labelSelector ≠ none
  containers : Covers root leaf

/-- No call on the way of a pod panics exactly if its volumes, the mode and the selector are
guarded. -/
theorem neverPanics_iff (json : Json) (root leaf : Pod) (ignoreLabels : Slice String)
    (leafMode : LeafMode) (nodeSelector : NodeSelector) (cpcp pcp : List ConvertPolicy) :
    NeverPanics json root leaf ignoreLabels leafMode nodeSelector cpcp pcp ↔
      Guarded root leaf leafMode nodeSelector := by
  constructor
  · intro h
    have hupdated := completes_getUpdatedPod.mp (h.updated .asWritten)
    exact ⟨completes_dependencies.mp h.lookups, hupdated.2, hupdated.1⟩
  · intro h
    refine ⟨completes_dependencies.mpr h.secrets, fun o => ?_, fun o pod hpod => ?_,
      fun o => completes_getUpdatedPod.mpr ⟨h.containers, h.selector⟩⟩
    · obtain ⟨basicPod, hfit⟩ := completes_fitPod.mpr h.selector
      obtain ⟨annotations, hannotations⟩ := annotations_of_fitPod hfit
      obtain ⟨converted, hconvert, -⟩ := convertPod_volumes hannotations
      refine ⟨converted, ?_⟩
      unfold leafPod
      rw [hfit, ok_bind, hconvert]
    · obtain ⟨basicPod, hfit, hconvert⟩ := bind_eq_ok hpod
      obtain ⟨annotations, hannotations⟩ := annotations_of_fitPod hfit
      obtain ⟨converted, hconverted, hvolumes⟩ := convertPod_volumes hannotations
      cases hconvert.symm.trans hconverted
      rw [completes_dependencies, hvolumes]
      exact fun v hv => h.secrets v (volumes_of_fitPod hfit v hv)

def cephPod : Pod where
  name := "db"
  spec := {
    volumes := some [{ name := "data", cephFS := some {} }]
    containers := some [{ name := "db", image := "db:1" }] }

def meshedPod : Pod where
  name := "db"
  spec := {
    volumes := some [{ name := "data", cephFS := some {} }]
    containers := some
      [{ name := "db", image := "db:1" }, { name := "proxy", image := "proxy:1" }] }

theorem cephPod_panics :
    getSecrets cephPod = .error (.panic .nilDeref) ∧
      (∀ json o, fitPod json o cephPod none .party {} = .error (.panic .nilDeref)) ∧
      ∀ json o,
        getUpdatedPod json o meshedPod cephPod none .all {} = .error (.panic .indexOutOfRange) :=
  ⟨rfl, fun _ _ => rfl, fun _ _ => rfl⟩

end Panics

/-! ## Whether the converters keep to their fields -/

/-- A pod as it was decoded: with annotations, and empty lists nil. -/
structure Decoded (pod : Pod) : Prop where
  annotations : pod.annotations ≠ none
  nodeSelector : pod.spec.nodeSelector ≠ some []
  tolerations : pod.spec.tolerations ≠ some []
  topologySpreadConstraints : pod.spec.topologySpreadConstraints ≠ some []
  hostAliases : pod.spec.hostAliases ≠ some []

structure DecodedPod extends Pod where
  decoded : Decoded toPod

def NoElems {α : Type} (s : Slice α) : Prop := s.elems = []

/-- What a converter makes of its field, `new` from `old`; `Empty` is to have no content. -/
def ConvertedBy {α : Type} (empty : α) (Empty : α → Prop) (converter : Option (Converter α))
    (old new : α) : Prop :=
  match converter with
  | none => new = old
  | some converter =>
    match converter.convertType with
    | .add => (Empty old → new = converter.value) ∧ (¬ Empty old → new = old)
    | .remove => new = empty
    | .replace => new = converter.value
    | .other _ => new = old

def converterOf {α : Type} (choose : Option ConvertPolicy)
    (field : Converters → Option (Converter α)) : Option (Converter α) :=
  (choose.bind ConvertPolicy.converters).bind field

/-- Each field is converted by its own converter, and the rest of the pod stays. -/
structure ConvertedRight (pod : Pod) (choose : Option ConvertPolicy) (converted : Pod) :
    Prop where
  schedulerName : ConvertedBy "" (· = "") (converterOf choose Converters.schedulerNameConverter)
    pod.spec.schedulerName converted.spec.schedulerName
  nodeName : ConvertedBy "" (· = "") (converterOf choose Converters.nodeNameConverter)
    pod.spec.nodeName converted.spec.nodeName
  nodeSelector : ConvertedBy none NoElems
    (converterOf choose Converters.nodeSelectorConverter)
    pod.spec.nodeSelector converted.spec.nodeSelector
  tolerations : ConvertedBy none NoElems (converterOf choose Converters.tolerationConverter)
    pod.spec.tolerations converted.spec.tolerations
  affinity : ConvertedBy none (· = none) (converterOf choose Converters.affinityConverter)
    pod.spec.affinity converted.spec.affinity
  topologySpreadConstraints : ConvertedBy none NoElems
    (converterOf choose Converters.topologySpreadConstraintsConverter)
    pod.spec.topologySpreadConstraints converted.spec.topologySpreadConstraints
  hostAliases : ConvertedBy none NoElems
    (converterOf choose Converters.hostAliasesConverter)
    pod.spec.hostAliases converted.spec.hostAliases
  annotations : converted.annotations = pod.annotations.map fun annotations =>
    match choose with
    | none => annotations
    | some choose => annotations.set kosmosConvertLabels choose.name
  rest : converted = { pod with
    annotations := converted.annotations
    spec := { pod.spec with
      schedulerName := converted.spec.schedulerName
      nodeName := converted.spec.nodeName
      nodeSelector := converted.spec.nodeSelector
      tolerations := converted.spec.tolerations
      affinity := converted.spec.affinity
      topologySpreadConstraints := converted.spec.topologySpreadConstraints
      hostAliases := converted.spec.hostAliases } }

/-- The affinity tells what the added constraints would. -/
def SpreadUndisturbed (pod : Pod) (choose : Option ConvertPolicy) : Prop :=
  ∀ converter, converterOf choose Converters.topologySpreadConstraintsConverter = some converter →
    converter.convertType = .add →
      (convertField none (converterOf choose Converters.affinityConverter) pod.spec.affinity =
          none ↔ pod.spec.topologySpreadConstraints = none) ∨
      converter.value = pod.spec.topologySpreadConstraints

section Converters

variable {α : Type}

theorem noElems_iff {s : Slice α} (h : s ≠ some []) : NoElems s ↔ s = none := by
  cases s with
  | none => exact iff_of_true rfl rfl
  | some l =>
    refine iff_of_false (fun hl => h ?_) (Option.some_ne_none l)
    exact congrArg some hl

theorem convertedBy_convertField [DecidableEq α] {empty old : α} {Empty : α → Prop}
    {converter : Option (Converter α)} (hempty : Empty old ↔ old = empty) :
    ConvertedBy empty Empty converter old (convertField empty converter old) := by
  cases converter with
  | none => exact rfl
  | some converter =>
    obtain ⟨convertType, value⟩ := converter
    cases convertType with
    | add => exact ⟨fun h => if_pos (hempty.mp h), fun h => if_neg fun hold => h (hempty.mpr hold)⟩
    | remove => exact rfl
    | replace => exact rfl
    | other text => exact rfl

theorem convertedBy_convertedConstraints {affinity : Option Affinity} {old : Slice String}
    {converter : Option TopologySpreadConstraintsConverter} (hold : old ≠ some []) :
    ConvertedBy none NoElems converter old (convertedConstraints affinity converter old) ↔
      ∀ c, converter = some c → c.convertType = .add →
        (affinity = none ↔ old = none) ∨ c.value = old := by
  cases converter with
  | none => exact iff_of_true rfl fun c hc => absurd hc.symm (Option.some_ne_none c)
  | some converter =>
    simp only [Option.some.injEq, forall_eq']
    obtain ⟨convertType, value⟩ := converter
    cases convertType with
    | add =>
      show (NoElems old → (if affinity = none then value else old) = value) ∧
        (¬ NoElems old → (if affinity = none then value else old) = old) ↔ _
      rw [noElems_iff hold, forall_prop_of_true rfl]
      by_cases haffinity : affinity = none
      · by_cases hnone : old = none
        · simp [haffinity, hnone]
        · simp [haffinity, hnone]
      · by_cases hnone : old = none
        · simp [haffinity, hnone, eq_comm]
        · simp [haffinity, hnone]
    | remove => exact iff_of_true rfl (by simp)
    | replace => exact iff_of_true rfl (by simp)
    | other text => exact iff_of_true rfl (by simp)

variable {pod : Pod} {choose : ConvertPolicy} {annotations : Labels} {converters : Converters}

theorem converterOf_some (h : choose.converters = some converters)
    (field : Converters → Option (Converter α)) :
    converterOf (some choose) field = field converters := by
  simp [converterOf, h]

theorem convertedRight_applied (hdecoded : Decoded pod)
    (hannotations : pod.annotations = some annotations)
    (hconverters : choose.converters = some converters) :
    ConvertedRight pod (some choose) { pod with
        annotations := some (annotations.set kosmosConvertLabels choose.name)
        spec := convertSpec pod.spec converters } ↔
      ConvertedBy none NoElems converters.topologySpreadConstraintsConverter
        pod.spec.topologySpreadConstraints
        (convertedConstraints (convertField none converters.affinityConverter pod.spec.affinity)
          converters.topologySpreadConstraintsConverter pod.spec.topologySpreadConstraints) := by
  rw [convertSpec_eq]
  constructor
  · intro h
    have hspread := h.topologySpreadConstraints
    rw [converterOf_some hconverters] at hspread
    exact hspread
  · intro hspread
    constructor
    case schedulerName =>
      rw [converterOf_some hconverters]
      exact convertedBy_convertField Iff.rfl
    case nodeName =>
      rw [converterOf_some hconverters]
      exact convertedBy_convertField Iff.rfl
    case nodeSelector =>
      rw [converterOf_some hconverters]
      exact convertedBy_convertField (noElems_iff hdecoded.nodeSelector)
    case tolerations =>
      rw [converterOf_some hconverters]
      exact convertedBy_convertField (noElems_iff hdecoded.tolerations)
    case affinity =>
      rw [converterOf_some hconverters]
      exact convertedBy_convertField Iff.rfl
    case topologySpreadConstraints =>
      rw [converterOf_some hconverters]
      exact hspread
    case hostAliases =>
      rw [converterOf_some hconverters]
      exact convertedBy_convertField (noElems_iff hdecoded.hostAliases)
    case annotations => rw [hannotations, Option.map_some]
    case rest => rfl

/-- `ConvertPod` converts every field as it should exactly if the affinity does not mislead the
constraints. -/
theorem convertedRight_iff (pod : DecodedPod) (cpcp pcp : List ConvertPolicy) :
    (∃ converted, convertPod pod.toPod cpcp pcp = .ok converted ∧
        ConvertedRight pod.toPod (chosen cpcp pcp) converted) ↔
      SpreadUndisturbed pod.toPod (chosen cpcp pcp) := by
  obtain ⟨pod, hdecoded⟩ := pod
  obtain ⟨annotations, hannotations⟩ := Option.ne_none_iff_exists'.mp hdecoded.annotations
  rw [convertPod_eq]
  cases hchosen : chosen cpcp pcp with
  | none =>
    refine iff_of_true ⟨pod, rfl, ?_⟩ fun converter h => absurd h.symm (Option.some_ne_none _)
    exact ⟨rfl, rfl, rfl, rfl, rfl, rfl, rfl, (Option.map_id' ..).symm, rfl⟩
  | some choose =>
    obtain ⟨converters, hconverters⟩ := converters_of_chosen hchosen
    have hone : ∀ {P : Pod → Prop} {converted : Pod},
        (∃ r, (Except.ok converted : Outcome Pod) = .ok r ∧ P r) ↔ P converted := by
      simp
    simp only [applyPolicy_eq hannotations hconverters]
    rw [hone, convertedRight_applied hdecoded hannotations hconverters,
      convertedBy_convertedConstraints hdecoded.topologySpreadConstraints]
    unfold SpreadUndisturbed
    rw [converterOf_some hconverters, converterOf_some hconverters]

def zonedPod : DecodedPod where
  name := "web"
  annotations := some .empty
  spec := { topologySpreadConstraints := some ["topology.kubernetes.io/zone"] }
  decoded := by constructor <;> simp

def spreadPolicy : ConvertPolicy where
  name := "spread"
  converters := some {
    topologySpreadConstraintsConverter := some ⟨.add, some ["kubernetes.io/hostname"]⟩ }

theorem zonedPod_overwritten :
    (convertPod zonedPod.toPod [spreadPolicy] []).map
          (fun converted => converted.spec.topologySpreadConstraints) =
        .ok (some ["kubernetes.io/hostname"]) ∧
      ¬ ∃ converted, convertPod zonedPod.toPod [spreadPolicy] [] = .ok converted ∧
        ConvertedRight zonedPod.toPod (chosen [spreadPolicy] []) converted := by
  refine ⟨rfl, ?_⟩
  rintro ⟨converted, hconvert, hright⟩
  cases hconvert
  have hkept := hright.topologySpreadConstraints.2 (List.cons_ne_nil _ _)
  exact absurd hkept (by decide)

end Converters

end Kosmos.Pods
