import Kosmos.Go.Json
import Kosmos.Tree.LeafResource

/-!
# Leaf pods: `FitPod` and `GetUpdatedPod`

The leaf pod is made once, and worked out again for every update (`updateAgrees_iff`).

Of `encoding/json` the model has `Marshal` of a map, and any decoder that reads back what it wrote
(`Json`). Parts of a pod that are only copied or compared are texts.
-/

namespace Kosmos.Pods

open Kosmos.Go Kosmos.Tree

/-! ## Pods -/

abbrev Labels := GoMap String String

structure NodeSelectorRequirement where
  key : String
  operator : String
  values : List String
  deriving DecidableEq

structure NodeSelectorTerm where
  matchExpressions : List NodeSelectorRequirement
  deriving DecidableEq

structure NodeAffinity where
  required : Option (Slice NodeSelectorTerm) := none
  preferred : Slice String := none
  deriving DecidableEq

structure Affinity where
  nodeAffinity : Option NodeAffinity := none
  podAffinity : Option String := none
  podAntiAffinity : Option String := none
  deriving DecidableEq

structure Toleration where
  key : String := ""
  value : String := ""
  effect : String := ""
  deriving DecidableEq

structure LocalObjectReference where
  name : String
  deriving DecidableEq

structure SecretVolumeSource where
  secretName : String
  deriving DecidableEq

structure ConfigMapVolumeSource where
  name : String
  deriving DecidableEq

structure PersistentVolumeClaimVolumeSource where
  claimName : String
  deriving DecidableEq

structure StorageVolumeSource where
  secretRef : Option LocalObjectReference := none
  deriving DecidableEq

structure Volume where
  name : String
  source : String := ""
  secret : Option SecretVolumeSource := none
  configMap : Option ConfigMapVolumeSource := none
  persistentVolumeClaim : Option PersistentVolumeClaimVolumeSource := none
  cephFS : Option StorageVolumeSource := none
  cinder : Option StorageVolumeSource := none
  rbd : Option StorageVolumeSource := none
  deriving DecidableEq

structure VolumeMount where
  name : String
  mountPath : String := ""
  deriving DecidableEq

structure Container where
  name : String
  image : String
  volumeMounts : Slice VolumeMount := none
  deriving DecidableEq

structure HostAlias where
  ip : String
  hostnames : List String := []
  deriving DecidableEq

structure PodSpec where
  volumes : Slice Volume := none
  initContainers : Slice Container := none
  containers : Slice Container := none
  nodeSelector : Slice (String × String) := none
  tolerations : Slice Toleration := none
  topologySpreadConstraints : Slice String := none
  affinity : Option Affinity := none
  schedulerName : String := ""
  nodeName : String := ""
  activeDeadlineSeconds : Option Int := none
  terminationGracePeriodSeconds : Option Int := none
  imagePullSecrets : Slice LocalObjectReference := none
  hostAliases : Slice HostAlias := none
  deriving DecidableEq

structure Pod where
  ns : String := "default"
  name : String
  uid : Nat := 0
  resourceVersion : String := ""
  ownerReferences : List String := []
  labels : Option Labels := none
  annotations : Option Labels := none
  deletionTimestamp : Option Nat := none
  deletionGracePeriodSeconds : Option Int := none
  spec : PodSpec := {}
  status : String := ""

def kosmosPodLabel : String := "kosmos-io/pod"

def kosmosSelectorKey : String := "kosmos.io/cluster-selector"

def kosmosTrippedLabels : String := "kosmos-io/tripped"

def kosmosSchedulerName : String := "kosmos-scheduler"

def valueOf (m : Option Labels) (k : String) : String := (m.bind fun m => m.get? k).getD ""

def isKosmosPod (pod : Pod) : Bool := valueOf pod.labels kosmosPodLabel = "true"

/-! ## JSON -/

structure ClustersNodeSelection where
  nodeSelector : Slice (String × String) := none
  affinity : Option Affinity := none
  tolerations : Slice Toleration := none
  topologySpreadConstraints : Slice String := none

def marshalLabels (m : Labels) : String :=
  marshalObject ((m.entries.insertionSort fun a b => a.1 ≤ b.1).map fun e => (e.1, .str e.2))

structure Json where
  unmarshalLabels : String → Option Labels
  unmarshalSelection : String → Option ClustersNodeSelection
  unmarshal_marshal : ∀ m, ∃ m', unmarshalLabels (marshalLabels m) = some m' ∧ m'.Same m

theorem marshalLabels_inj {m m' : Labels} (h : marshalLabels m = marshalLabels m') :
    m.Same m' := by
  have hsorted := List.map_injective_iff.mpr
    (fun (a b : String × String) (hab : (a.1, Scalar.str a.2) = (b.1, Scalar.str b.2)) => by
      rw [Prod.mk.injEq, Scalar.str.injEq] at hab
      exact Prod.ext hab.1 hab.2) (marshalObject_inj h)
  have hperm : m.entries.Perm m'.entries := by
    refine (List.perm_insertionSort (fun a b => a.1 ≤ b.1) m.entries).symm.trans ?_
    rw [hsorted]
    exact List.perm_insertionSort _ m'.entries
  intro k
  apply Option.ext
  intro v
  rw [GoMap.get?_eq_some, GoMap.get?_eq_some]
  exact hperm.mem_iff

theorem Json.nonempty : Nonempty Json := by
  classical
  refine ⟨⟨fun text => if h : ∃ m, marshalLabels m = text then some h.choose else none,
    fun _ => none, fun m => ?_⟩⟩
  have hm : ∃ m', marshalLabels m' = marshalLabels m := ⟨m, rfl⟩
  exact ⟨hm.choose, dif_pos hm, marshalLabels_inj hm.choose_spec⟩

abbrev LabelOrder := RangeOrder (String × String)

/-! ## Labels -/

def fitLabel (st : Labels × Labels) (key : String) : Labels × Labels :=
  let value := (st.1.get? key).getD ""
  if value = "" then st else (st.1.delete key, st.2.set key value)

def fitLabels (labels : Labels) (ignoreLabels : Slice String) : Labels × Option Labels :=
  match ignoreLabels with
  | none => (labels, none)
  | some keys =>
    let (labels, trippedLabels) := keys.foldl fitLabel (labels, .empty)
    (labels, some trippedLabels)

def recoverLabels (json : Json) (labels annotations : Option Labels) : Outcome (Option Labels) :=
  let trippedLabels := valueOf annotations kosmosTrippedLabels
  if trippedLabels = "" then .ok labels
  else
    match json.unmarshalLabels trippedLabels with
    | none => .ok labels
    | some trippedLabelsMap =>
      match labels with
      | some labels => .ok (some (labels.setAll trippedLabelsMap.entries))
      -- a write to a nil map
      | none => if trippedLabelsMap.entries = [] then .ok none else .error (.panic .nilDeref)

/-! ## Fitting a pod -/

def convertAnnotations (json : Json) (annotations : Option Labels) :
    Option ClustersNodeSelection :=
  let val := valueOf annotations kosmosSelectorKey
  if val = "" then none else json.unmarshalSelection val

def dropEmptyAffinity (affinity : Option Affinity) : Option Affinity :=
  affinity.bind fun a =>
    let nodeAffinity := a.nodeAffinity.filter fun n => n.required.isSome || n.preferred.isSome
    if nodeAffinity.isNone ∧ a.podAffinity.isNone ∧ a.podAntiAffinity.isNone then none
    else some { a with nodeAffinity }

def recoverSelectors (spec : PodSpec) (cns : Option ClustersNodeSelection) : PodSpec :=
  match cns with
  | some cns =>
    { spec with
      nodeSelector := cns.nodeSelector
      tolerations := cns.tolerations
      topologySpreadConstraints := cns.topologySpreadConstraints
      affinity := dropEmptyAffinity <|
        match spec.affinity with
        | none => cns.affinity
        | some a =>
          match cns.affinity.bind Affinity.nodeAffinity with
          | some n =>
            match a.nodeAffinity with
            | some own => some { a with nodeAffinity := some { own with required := n.required } }
            | none => some { a with nodeAffinity := some n }
          | none => some { a with nodeAffinity := none } }
  | none =>
    { spec with
      nodeSelector := none
      tolerations := none
      topologySpreadConstraints := none
      affinity := dropEmptyAffinity <| spec.affinity.map fun a =>
        { a with nodeAffinity := a.nodeAffinity.map fun n => { n with required := none } } }

def defaultToken : String := "default-token"

def fitContainer (c : Container) : Container :=
  { c with
    volumeMounts :=
      appended (c.volumeMounts.elems.filter fun v => ¬ hasPrefix v.name defaultToken) }

def fitContainers (containers : Slice Container) : Slice Container :=
  appended (containers.elems.map fitContainer)

def nodeSelectorTerm (o : LabelOrder) (labelSelector : LabelSelector) : NodeSelectorTerm where
  matchExpressions :=
    ((o.visit labelSelector.matchLabels).map fun e => ⟨e.1, "In", [e.2]⟩) ++
      labelSelector.matchExpressions.map fun item => ⟨item.key, item.operator, item.values⟩

def withTerms (affinity : Option Affinity) (terms : List NodeSelectorTerm) : Affinity :=
  match affinity with
  | none => { nodeAffinity := some { required := some (some terms) } }
  | some cpAffinity =>
    match cpAffinity.nodeAffinity with
    | none => { cpAffinity with nodeAffinity := some { required := some (some terms) } }
    | some nodeAffinity =>
      { cpAffinity with nodeAffinity := some { nodeAffinity with required := some (some terms) } }

def fitNodeAffinity (o : LabelOrder) (affinity : Option Affinity) (nodeSelector : NodeSelector) :
    Outcome Affinity := do
  let labelSelector ← deref nodeSelector.labelSelector
  pure (withTerms affinity [nodeSelectorTerm o labelSelector])

def leafAffinity (o : LabelOrder) (leafMode : LeafMode) (nodeSelector : NodeSelector)
    (rootAffinity affinity : Option Affinity) : Outcome (Option Affinity) :=
  if leafMode = .party then do
    let affinity ← fitNodeAffinity o rootAffinity nodeSelector
    pure (some affinity)
  else pure affinity

def fullLabels (pod : Pod) : Labels := (pod.labels.getD .empty).set kosmosPodLabel "true"

def leafAnnotations (annotations : Labels) (tripped : Option Labels) : Labels :=
  match tripped with
  | some tripped => annotations.set kosmosTrippedLabels (marshalLabels tripped)
  | none => annotations

def fitPod (json : Json) (o : LabelOrder) (pod : Pod) (ignoreLabels : Slice String)
    (leafMode : LeafMode) (nodeSelector : NodeSelector) : Outcome Pod := do
  let spec := recoverSelectors pod.spec (convertAnnotations json pod.annotations)
  let affinity ← leafAffinity o leafMode nodeSelector pod.spec.affinity spec.affinity
  let (labels, tripped) := fitLabels (fullLabels pod) ignoreLabels
  pure
    { pod with
      uid := 0
      resourceVersion := ""
      ownerReferences := []
      labels := some labels
      annotations := some (leafAnnotations (pod.annotations.getD .empty) tripped)
      spec :=
        { spec with
          volumes := some (pod.spec.volumes.elems.filter fun v => ¬ hasPrefix v.name defaultToken)
          containers := fitContainers pod.spec.containers
          initContainers := fitContainers pod.spec.initContainers
          affinity
          schedulerName :=
            if pod.spec.schedulerName = kosmosSchedulerName then "" else pod.spec.schedulerName
          nodeName := if leafMode = .node then pod.spec.nodeName else "" }
      status := "" }

/-! ## Updating a leaf pod -/

def updateImages : List Container → List Container → Outcome (List Container)
  | [], _ => pure []
  | _ :: _, [] => .error (.panic .indexOutOfRange)
  | c :: orig, u :: update => do
    let rest ← updateImages orig update
    pure ({ c with image := u.image } :: rest)

def updateContainers (orig update : Slice Container) : Outcome (Slice Container) :=
  match orig with
  | none => pure none
  | some orig => do
    let orig ← updateImages orig update.elems
    pure (some orig)

def getUpdatedPod (json : Json) (o : LabelOrder) (orig update : Pod) (ignoreLabels : Slice String)
    (leafMode : LeafMode) (nodeSelector : NodeSelector) : Outcome Pod := do
  let initContainers ← updateContainers orig.spec.initContainers update.spec.initContainers
  let containers ← updateContainers orig.spec.containers update.spec.containers
  let annotations := update.annotations.getD .empty
  let tolerations :=
    if valueOf orig.annotations kosmosSelectorKey ≠
        valueOf update.annotations kosmosSelectorKey then
      match convertAnnotations json update.annotations with
      | some cns => cns.tolerations
      | none => orig.spec.tolerations
    else orig.spec.tolerations
  let affinity ← leafAffinity o leafMode nodeSelector update.spec.affinity orig.spec.affinity
  pure
    { orig with
      labels := some (fitLabels (fullLabels update) ignoreLabels).1
      annotations := some annotations
      spec :=
        { orig.spec with
          initContainers
          containers
          tolerations
          affinity
          activeDeadlineSeconds := update.spec.activeDeadlineSeconds } }

def mapEqual : Option Labels → Option Labels → Bool
  | none, none => true
  | some m, some m' =>
    (m.entries.all fun e => m'.get? e.1 = some e.2) &&
      m'.entries.all fun e => m.get? e.1 = some e.2
  | _, _ => false

def podToUpdate (json : Json) (o : LabelOrder) (rootPod leafPod : Pod)
    (ignoreLabels : Slice String) (leafMode : LeafMode) (nodeSelector : NodeSelector) :
    Outcome (Option Pod) :=
  if ¬ isKosmosPod leafPod then pure none
  else do
    let leafPod := { leafPod with
      labels := leafPod.labels.map fun labels => (fitLabels labels ignoreLabels).1 }
    let podCopy ← getUpdatedPod json o leafPod rootPod ignoreLabels leafMode nodeSelector
    if leafPod.spec = podCopy.spec ∧ mapEqual leafPod.annotations podCopy.annotations ∧
        mapEqual leafPod.labels podCopy.labels then pure none
    else pure (some podCopy)

/-! ## When creation and update agree -/

/-- The pod is as it was, in the eyes of `UpdatePodInLeafCluster`. -/
structure Unchanged (leafPod updated : Pod) : Prop where
  spec : updated.spec = leafPod.spec
  annotations : ∃ m m', leafPod.annotations = some m ∧ updated.annotations = some m' ∧ m.Same m'
  labels : ∃ m m', leafPod.labels = some m ∧ updated.labels = some m' ∧ m.Same m'

section Agree

variable (json : Json) (pod : Pod) (ignoreLabels : Slice String) (leafMode : LeafMode)
  (nodeSelector : NodeSelector)

/-- The created pod is not changed by an update, and keeps the labels of the root pod. -/
structure UpdateAgrees : Prop where
  unchanged : ∀ o o' leafPod, fitPod json o pod ignoreLabels leafMode nodeSelector = .ok leafPod →
    ∃ updated, getUpdatedPod json o' leafPod pod ignoreLabels leafMode nodeSelector = .ok updated ∧
      Unchanged leafPod updated
  quiet : ∀ o o' leafPod, fitPod json o pod ignoreLabels leafMode nodeSelector = .ok leafPod →
    podToUpdate json o' pod leafPod ignoreLabels leafMode nodeSelector = .ok none
  recoverable : ∀ o (os : List LabelOrder) leafPod,
    fitPod json o pod ignoreLabels leafMode nodeSelector = .ok leafPod →
    ∃ last, os.foldlM (fun leafPod o' =>
        getUpdatedPod json o' leafPod pod ignoreLabels leafMode nodeSelector) leafPod = .ok last ∧
      ∃ labels, recoverLabels json last.labels last.annotations = .ok (some labels) ∧
        labels.Same (fullLabels pod)

/-- What the root pod and the leaf must be like for that. -/
structure Steady : Prop where
  ordered : leafMode = .party → ∀ labelSelector, nodeSelector.labelSelector = some labelSelector →
    ∀ a ∈ labelSelector.matchLabels, ∀ b ∈ labelSelector.matchLabels, a = b
  marked : ∀ tripped, (fitLabels (fullLabels pod) ignoreLabels).2 = some tripped →
    (pod.annotations.getD .empty).get? kosmosTrippedLabels = some (marshalLabels tripped)
  own : ignoreLabels = none → valueOf pod.annotations kosmosTrippedLabels ≠ "" →
    ∀ tripped, json.unmarshalLabels (valueOf pod.annotations kosmosTrippedLabels) = some tripped →
      ∀ k v, tripped.get? k = some v → (fullLabels pod).get? k = some v

end Agree

section Labels

variable {labels : Labels} {keys : List String} {ignoreLabels : Slice String} {k : String}

def Tripped (labels : Labels) (keys : List String) (k : String) : Prop :=
  k ∈ keys ∧ (labels.get? k).getD "" ≠ ""

theorem fitLabel_of_empty {st : Labels × Labels} (h : (st.1.get? k).getD "" = "") :
    fitLabel st k = st := by
  rw [fitLabel]
  simp [h]

theorem fitLabel_of_value {st : Labels × Labels} (h : (st.1.get? k).getD "" ≠ "") :
    fitLabel st k = (st.1.delete k, st.2.set k ((st.1.get? k).getD "")) := by
  rw [fitLabel]
  simp [h]

instance (labels : Labels) (keys : List String) (k : String) : Decidable (Tripped labels keys k) :=
  inferInstanceAs (Decidable (_ ∧ _))

theorem foldl_fitLabel (keys : List String) (st : Labels × Labels) (k : String) :
    (keys.foldl fitLabel st).1.get? k = (if Tripped st.1 keys k then none else st.1.get? k) ∧
      (keys.foldl fitLabel st).2.get? k =
        if Tripped st.1 keys k then st.1.get? k else st.2.get? k := by
  induction keys generalizing st with
  | nil => simp [Tripped]
  | cons key rest ih =>
    rw [List.foldl_cons]
    by_cases hvalue : (st.1.get? key).getD "" = ""
    · have hcons : Tripped st.1 (key :: rest) k ↔ Tripped st.1 rest k := by
        rw [Tripped, List.mem_cons, or_and_right]
        exact or_iff_right fun h => h.2 (h.1 ▸ hvalue)
      rw [fitLabel_of_empty hvalue, (ih st).1, (ih st).2]
      simp only [hcons, and_self]
    · -- the label goes over, and is not there for the rest of the loop
      obtain ⟨h1, h2⟩ := ih (st.1.delete key, st.2.set key ((st.1.get? key).getD ""))
      rw [fitLabel_of_value hvalue, h1, h2]
      by_cases hk : k = key
      · subst hk
        have hsome : st.1.get? k = some ((st.1.get? k).getD "") := by
          cases hget : st.1.get? k with
          | none =>
            rw [hget] at hvalue
            exact absurd rfl hvalue
          | some v => rfl
        simp [Tripped, GoMap.get?_delete, hvalue, ← hsome]
      · simp [Tripped, GoMap.get?_delete, GoMap.get?_set, hk]

theorem fitLabels_some (labels : Labels) (keys : List String) :
    fitLabels labels (some keys) =
      ((keys.foldl fitLabel (labels, .empty)).1, some (keys.foldl fitLabel (labels, .empty)).2) :=
  rfl

theorem setAll_fitLabels {tripped tripped' : Labels}
    (h : (fitLabels labels ignoreLabels).2 = some tripped) (hsame : tripped'.Same tripped) :
    ((fitLabels labels ignoreLabels).1.setAll tripped'.entries).Same labels := by
  cases ignoreLabels with
  | none => cases h
  | some keys =>
    rw [fitLabels_some] at h ⊢
    have htripped := Option.some.inj h
    intro k
    rw [GoMap.get?_setAll, hsame k, ← htripped]
    rw [(foldl_fitLabel keys (labels, .empty) k).1, (foldl_fitLabel keys (labels, .empty) k).2]
    split
    · exact Option.or_none
    · rfl

theorem fitLabels_fitLabels (labels : Labels) (ignoreLabels : Slice String) :
    (fitLabels (fitLabels labels ignoreLabels).1 ignoreLabels).1 =
      (fitLabels labels ignoreLabels).1 := by
  cases ignoreLabels with
  | none => rfl
  | some keys =>
    simp only [fitLabels_some]
    have hempty : ∀ key ∈ keys,
        (((keys.foldl fitLabel (labels, .empty)).1).get? key).getD "" = "" := by
      intro key hkey
      rw [(foldl_fitLabel keys (labels, .empty) key).1]
      split
      · rfl
      next ht =>
        by_contra hne
        exact ht ⟨hkey, hne⟩
    have hloop : ∀ (rest : List String) (st : Labels × Labels),
        (∀ key ∈ rest, (st.1.get? key).getD "" = "") → rest.foldl fitLabel st = st := by
      intro rest st
      induction rest with
      | nil => intro _; rfl
      | cons key rest ih =>
        intro h
        rw [List.foldl_cons, fitLabel_of_empty (h key List.mem_cons_self)]
        exact ih fun key' hkey' => h key' (List.mem_cons_of_mem _ hkey')
    rw [hloop keys (_, .empty) hempty]

theorem mapEqual_some {m m' : Labels} : mapEqual (some m) (some m') = true ↔ m.Same m' :=
  GoMap.deepEqual_iff

end Labels

theorem updateImages_eq :
    ∀ orig update : List Container, updateImages orig update =
      if orig.length ≤ update.length then
        .ok (orig.zipWith (fun c u => { c with image := u.image }) update)
      else .error (.panic .indexOutOfRange)
  | [], _ => by simp [updateImages]
  | _ :: _, [] => rfl
  | c :: orig, u :: update => by
    simp only [updateImages, updateImages_eq orig update, List.length_cons,
      Nat.add_le_add_iff_right, List.zipWith_cons_cons]
    split <;> rfl

theorem updateContainers_eq (orig update : Slice Container) :
    updateContainers orig update =
      if orig.elems.length ≤ update.elems.length then
        .ok (orig.map fun orig =>
          orig.zipWith (fun c u => { c with image := u.image }) update.elems)
      else .error (.panic .indexOutOfRange) := by
  cases orig with
  | none => rfl
  | some orig =>
    rw [updateContainers, updateImages_eq, Slice.elems_some]
    split <;> rfl

theorem updateContainers_fitContainers (containers : Slice Container) :
    updateContainers (fitContainers containers) containers = .ok (fitContainers containers) := by
  unfold fitContainers
  cases hcs : containers.elems with
  | nil => rfl
  | cons c cs =>
    have himages : ∀ cs : List Container,
        (cs.map fitContainer).zipWith (fun c u => { c with image := u.image }) cs =
          cs.map fitContainer := by
      intro cs
      rw [List.zipWith_map_left, List.zipWith_self]
      rfl
    show updateContainers (some ((c :: cs).map fitContainer)) containers = _
    rw [updateContainers_eq, hcs]
    simp only [Slice.elems_some, List.length_map, le_refl, if_true, Option.map_some, himages]
    rfl

theorem withTerms_injective {affinity : Option Affinity} {terms terms' : List NodeSelectorTerm}
    (h : withTerms affinity terms = withTerms affinity terms') : terms = terms' := by
  have hrequired := congrArg (fun a => a.nodeAffinity.bind NodeAffinity.required) h
  unfold withTerms at hrequired
  split at hrequired
  · exact Option.some.inj (Option.some.inj hrequired)
  · split at hrequired
    · exact Option.some.inj (Option.some.inj hrequired)
    · exact Option.some.inj (Option.some.inj hrequired)

theorem eq_of_perm_of_forall_eq {α : Type} {l l₁ l₂ : List α} (h : ∀ a ∈ l, ∀ b ∈ l, a = b)
    (h₁ : l₁.Perm l) (h₂ : l₂.Perm l) : l₁ = l₂ := by
  cases l with
  | nil => rw [h₁.eq_nil, h₂.eq_nil]
  | cons a l =>
    have hrep : a :: l = List.replicate (l.length + 1) a :=
      List.eq_replicate_iff.mpr ⟨rfl, fun b hb => h b hb a List.mem_cons_self⟩
    rw [hrep] at h₁ h₂
    rw [List.perm_replicate.mp h₁, List.perm_replicate.mp h₂]

theorem nodeSelectorTerm_orders {labelSelector : LabelSelector}
    (h : ∀ o o', nodeSelectorTerm o labelSelector = nodeSelectorTerm o' labelSelector) :
    ∀ a ∈ labelSelector.matchLabels, ∀ b ∈ labelSelector.matchLabels, a = b := by
  intro a ha b hb
  have hterm := h (RangeOrder.first _ a ha) (RangeOrder.first _ b hb)
  have hhead := congrArg (fun term => term.matchExpressions.head?) hterm
  simp only [nodeSelectorTerm, RangeOrder.first, if_true, List.map_cons, List.cons_append,
    List.head?_cons, Option.some.injEq, NodeSelectorRequirement.mk.injEq, List.cons.injEq,
    and_true, true_and] at hhead
  exact Prod.ext hhead.1 hhead.2

section LeafPods

variable {json : Json} {o o' : LabelOrder} {pod leafPod updated : Pod} {ignoreLabels : Slice String}
  {leafMode : LeafMode} {nodeSelector : NodeSelector}

/-- What a leaf pod has from its root pod, at creation and after every update. -/
structure Follows (pod leafPod : Pod) : Prop where
  containers : leafPod.spec.containers = fitContainers pod.spec.containers
  initContainers : leafPod.spec.initContainers = fitContainers pod.spec.initContainers
  activeDeadlineSeconds : leafPod.spec.activeDeadlineSeconds = pod.spec.activeDeadlineSeconds
  selection : valueOf leafPod.annotations kosmosSelectorKey =
    valueOf pod.annotations kosmosSelectorKey

theorem leafAffinity_ok (hmode : leafMode = .party → nodeSelector.labelSelector.isSome)
    (o : LabelOrder) (rootAffinity affinity : Option Affinity) :
    ∃ a, leafAffinity o leafMode nodeSelector rootAffinity affinity = .ok a := by
  unfold leafAffinity
  split
  next hparty =>
    obtain ⟨labelSelector, hsome⟩ := Option.isSome_iff_exists.mp (hmode hparty)
    rw [fitNodeAffinity, hsome]
    exact ⟨_, rfl⟩
  · exact ⟨_, rfl⟩

theorem leafAffinity_eq_error {rootAffinity affinity : Option Affinity} {stop : Stop} :
    leafAffinity o leafMode nodeSelector rootAffinity affinity = .error stop ↔
      leafMode = .party ∧ nodeSelector.labelSelector = none ∧ stop = .panic .nilDeref := by
  unfold leafAffinity fitNodeAffinity
  by_cases hparty : leafMode = .party
  · rw [if_pos hparty]
    cases hsel : nodeSelector.labelSelector with
    | none => simp [deref, bind, Except.bind, hparty, eq_comm]
    | some labelSelector => simp [deref, bind, Except.bind, pure, Except.pure]
  · rw [if_neg hparty]
    simp [pure, Except.pure, hparty]

theorem fitPod_eq_error {stop : Stop} :
    fitPod json o pod ignoreLabels leafMode nodeSelector = .error stop ↔
      leafMode = .party ∧ nodeSelector.labelSelector = none ∧ stop = .panic .nilDeref := by
  unfold fitPod
  rw [bind_eq_error, leafAffinity_eq_error]
  refine ⟨fun h => h.resolve_right ?_, Or.inl⟩
  intro ⟨a, _, h⟩
  cases h

/-- The leaf pod has no more containers than the root pod. -/
def Covers (rootPod leafPod : Pod) : Prop :=
  leafPod.spec.initContainers.elems.length ≤ rootPod.spec.initContainers.elems.length ∧
    leafPod.spec.containers.elems.length ≤ rootPod.spec.containers.elems.length

instance (rootPod leafPod : Pod) : Decidable (Covers rootPod leafPod) :=
  inferInstanceAs (Decidable (_ ∧ _))

theorem podToUpdate_nilDeref {rootPod : Pod} (hkosmos : isKosmosPod leafPod = true) :
    podToUpdate json o rootPod leafPod ignoreLabels leafMode nodeSelector =
        .error (.panic .nilDeref) ↔
      Covers rootPod leafPod ∧ leafMode = .party ∧ nodeSelector.labelSelector = none := by
  rw [podToUpdate, if_neg (not_not.mpr hkosmos), bind_eq_error, getUpdatedPod, updateContainers_eq,
    updateContainers_eq, Covers]
  split
  next hinit =>
    split
    next hcont =>
      rw [ok_bind, ok_bind, bind_eq_error, leafAffinity_eq_error]
      refine ⟨fun h => ?_, fun h => .inl (.inl ⟨h.2.1, h.2.2, rfl⟩)⟩
      rcases h with (h | ⟨_, _, h⟩) | ⟨_, _, h⟩
      · exact ⟨⟨hinit, hcont⟩, h.1, h.2.1⟩
      · cases h
      · split at h <;> cases h
    next hcont =>
      refine ⟨fun h => ?_, fun h => absurd h.1.2 hcont⟩
      rcases h with h | ⟨_, h, _⟩ <;> cases h
  next hinit =>
    refine ⟨fun h => ?_, fun h => absurd h.1.1 hinit⟩
    rcases h with h | ⟨_, h, _⟩ <;> cases h

theorem valueOf_leafAnnotations (pod : Pod) (tripped : Option Labels) :
    valueOf (some (leafAnnotations (pod.annotations.getD .empty) tripped)) kosmosSelectorKey =
      valueOf pod.annotations kosmosSelectorKey := by
  have hroot : valueOf (some (pod.annotations.getD .empty)) kosmosSelectorKey =
      valueOf pod.annotations kosmosSelectorKey := by
    cases pod.annotations <;> rfl
  rw [← hroot]
  unfold leafAnnotations
  split
  · show (GoMap.get? (GoMap.set _ _ _) _).getD "" = (GoMap.get? _ _).getD ""
    rw [GoMap.get?_set, if_neg (by decide)]
  · rfl

theorem fitPod_eq_ok
    (h : fitPod json o pod ignoreLabels leafMode nodeSelector = .ok leafPod) :
    Follows pod leafPod ∧
    leafPod.labels = some (fitLabels (fullLabels pod) ignoreLabels).1 ∧
    leafPod.annotations = some (leafAnnotations (pod.annotations.getD .empty)
      (fitLabels (fullLabels pod) ignoreLabels).2) ∧
    ∃ affinity, leafAffinity o leafMode nodeSelector pod.spec.affinity affinity =
      .ok leafPod.spec.affinity := by
  obtain ⟨a, ha, h⟩ := bind_eq_ok h
  cases h
  exact ⟨⟨rfl, rfl, by cases convertAnnotations json pod.annotations <;> rfl,
    valueOf_leafAnnotations pod _⟩, rfl, rfl, _, ha⟩

theorem getUpdatedPod_follows (json : Json) (o : LabelOrder) (ignoreLabels : Slice String)
    (hf : Follows pod leafPod)
    (hmode : leafMode = .party → nodeSelector.labelSelector.isSome) :
    ∃ affinity, leafAffinity o leafMode nodeSelector pod.spec.affinity leafPod.spec.affinity =
        .ok affinity ∧
      getUpdatedPod json o leafPod pod ignoreLabels leafMode nodeSelector = .ok { leafPod with
        labels := some (fitLabels (fullLabels pod) ignoreLabels).1
        annotations := some (pod.annotations.getD .empty)
        spec := { leafPod.spec with affinity } } := by
  obtain ⟨a, ha⟩ := leafAffinity_ok hmode o pod.spec.affinity leafPod.spec.affinity
  refine ⟨a, ha, ?_⟩
  unfold getUpdatedPod
  rw [hf.containers, hf.initContainers, updateContainers_fitContainers,
    updateContainers_fitContainers, ok_bind, ok_bind, if_neg (not_not.mpr hf.selection), ha,
    ok_bind, ← hf.activeDeadlineSeconds]
  simp only [← hf.containers, ← hf.initContainers]
  rfl

theorem updates_follow (json : Json)
    (hmode : leafMode = .party → nodeSelector.labelSelector.isSome) :
    ∀ (os : List LabelOrder) (leafPod : Pod), Follows pod leafPod →
      ∃ last, os.foldlM (fun leafPod o' =>
          getUpdatedPod json o' leafPod pod ignoreLabels leafMode nodeSelector) leafPod = .ok last ∧
        (last = leafPod ∨
          last.labels = some (fitLabels (fullLabels pod) ignoreLabels).1 ∧
          last.annotations = some (pod.annotations.getD .empty)) := by
  intro os
  induction os with
  | nil => exact fun leafPod _ => ⟨leafPod, rfl, Or.inl rfl⟩
  | cons o os ih =>
    intro leafPod hf
    obtain ⟨affinity, -, hupdated⟩ := getUpdatedPod_follows json o ignoreLabels hf hmode
    obtain ⟨last, hlast, hsame⟩ := ih _ (⟨hf.containers, hf.initContainers,
      hf.activeDeadlineSeconds, by cases pod.annotations <;> rfl⟩ : Follows pod { leafPod with
        labels := some (fitLabels (fullLabels pod) ignoreLabels).1
        annotations := some (pod.annotations.getD .empty)
        spec := { leafPod.spec with affinity } })
    refine ⟨last, ?_, Or.inr ?_⟩
    · rw [List.foldlM_cons, hupdated]
      exact hlast
    · rcases hsame with rfl | hsame
      · exact ⟨rfl, rfl⟩
      · exact hsame

theorem marshalLabels_ne_empty (m : Labels) : marshalLabels m ≠ "" := by
  intro h
  have hlist := congrArg String.toList h
  rw [marshalLabels, marshalObject, String.toList_ofList] at hlist
  cases hlist

theorem recoverLabels_marked {annotations tripped : Labels}
    (hmarked : annotations.get? kosmosTrippedLabels = some (marshalLabels tripped))
    (htripped : (fitLabels (fullLabels pod) ignoreLabels).2 = some tripped) :
    ∃ labels, recoverLabels json (some (fitLabels (fullLabels pod) ignoreLabels).1)
        (some annotations) = .ok (some labels) ∧ labels.Same (fullLabels pod) := by
  obtain ⟨tripped', hread, hsame⟩ := json.unmarshal_marshal tripped
  refine ⟨_, ?_, setAll_fitLabels htripped hsame⟩
  have hvalue : valueOf (some annotations) kosmosTrippedLabels = marshalLabels tripped := by
    show (annotations.get? kosmosTrippedLabels).getD "" = _
    rw [hmarked]
    rfl
  unfold recoverLabels
  simp only [hvalue, if_neg (marshalLabels_ne_empty tripped), hread]

theorem recoverLabels_own :
    (∃ labels, recoverLabels json (some (fullLabels pod)) (some (pod.annotations.getD .empty)) =
        .ok (some labels) ∧ labels.Same (fullLabels pod)) ↔
      (valueOf pod.annotations kosmosTrippedLabels ≠ "" →
        ∀ tripped, json.unmarshalLabels (valueOf pod.annotations kosmosTrippedLabels) =
          some tripped → ∀ k v, tripped.get? k = some v → (fullLabels pod).get? k = some v) := by
  have hroot : valueOf (some (pod.annotations.getD .empty)) kosmosTrippedLabels =
      valueOf pod.annotations kosmosTrippedLabels := by
    cases pod.annotations <;> rfl
  unfold recoverLabels
  simp only [hroot]
  by_cases hempty : valueOf pod.annotations kosmosTrippedLabels = ""
  · simp only [hempty, if_true]
    exact ⟨fun _ hne => absurd rfl hne, fun _ => ⟨_, rfl, GoMap.Same.refl _⟩⟩
  · simp only [if_neg hempty]
    cases hread : json.unmarshalLabels (valueOf pod.annotations kosmosTrippedLabels) with
    | none =>
      exact ⟨fun _ _ tripped htripped => absurd htripped (by simp),
        fun _ => ⟨_, rfl, GoMap.Same.refl _⟩⟩
    | some tripped =>
      simp only
      constructor
      · rintro ⟨labels, hok, hsame⟩ _ tripped' htripped k v hk
        cases htripped
        have hlabels : (fullLabels pod).setAll tripped.entries = labels :=
          Option.some.inj (Except.ok.inj hok)
        rw [← hsame k, ← hlabels, GoMap.get?_setAll, hk]
        rfl
      · intro hown
        refine ⟨_, rfl, fun k => ?_⟩
        rw [GoMap.get?_setAll]
        cases hk : tripped.get? k with
        | none => rfl
        | some v => exact (hown hempty tripped rfl k v hk).symm

theorem podToUpdate_of_unchanged
    (hfit : fitPod json o pod ignoreLabels leafMode nodeSelector = .ok leafPod)
    (hupdated : getUpdatedPod json o' leafPod pod ignoreLabels leafMode nodeSelector = .ok updated)
    (h : Unchanged leafPod updated) :
    podToUpdate json o' pod leafPod ignoreLabels leafMode nodeSelector = .ok none := by
  obtain ⟨-, hlabels, -⟩ := fitPod_eq_ok hfit
  have hagain : leafPod.labels.map (fun labels => (fitLabels labels ignoreLabels).1) =
      leafPod.labels := by
    rw [hlabels, Option.map_some, fitLabels_fitLabels]
  unfold podToUpdate
  split
  · rfl
  · obtain ⟨m, m', hm, hm', hannotations⟩ := h.annotations
    obtain ⟨l, l', hl, hl', hlabels'⟩ := h.labels
    simp only [hagain, hupdated, ok_bind]
    rw [if_pos]
    · rfl
    · refine ⟨h.spec.symm, ?_, ?_⟩
      · rw [hm, hm']
        exact mapEqual_some.mpr hannotations
      · rw [hl, hl']
        exact mapEqual_some.mpr hlabels'

theorem Steady.unchanged (hmode : leafMode = .party → nodeSelector.labelSelector.isSome)
    (o' : LabelOrder) (hsteady : Steady json pod ignoreLabels leafMode nodeSelector)
    (hfit : fitPod json o pod ignoreLabels leafMode nodeSelector = .ok leafPod) :
    ∃ updated, getUpdatedPod json o' leafPod pod ignoreLabels leafMode nodeSelector = .ok updated ∧
      Unchanged leafPod updated := by
  obtain ⟨hfollows, hlabels, hannotations, affinity₀, haffinity₀⟩ := fitPod_eq_ok hfit
  obtain ⟨affinity, haffinity, hupdated⟩ :=
    getUpdatedPod_follows json o' ignoreLabels hfollows hmode
  refine ⟨_, hupdated, ⟨?_, ⟨_, _, hannotations, rfl, ?_⟩, ⟨_, _, hlabels, rfl, GoMap.Same.refl _⟩⟩⟩
  · -- the affinity is the one it was created with
    have hsame : affinity = leafPod.spec.affinity := by
      unfold leafAffinity at haffinity haffinity₀
      split at haffinity
      next hparty =>
        obtain ⟨labelSelector, hsome⟩ := Option.isSome_iff_exists.mp (hmode hparty)
        rw [if_pos hparty] at haffinity₀
        simp only [fitNodeAffinity, hsome, deref_some, ok_bind, pure_eq_ok,
          Except.ok.injEq] at haffinity haffinity₀
        rw [← haffinity, ← haffinity₀]
        have horder := eq_of_perm_of_forall_eq (hsteady.ordered hparty labelSelector hsome)
          (o'.perm labelSelector.matchLabels) (o.perm labelSelector.matchLabels)
        rw [nodeSelectorTerm, nodeSelectorTerm, horder]
      · cases haffinity
        rfl
    rw [hsame]
  · intro k
    unfold leafAnnotations
    split
    next tripped htripped =>
      rw [GoMap.get?_set]
      split
      next hk => rw [hk, hsteady.marked tripped htripped]
      · rfl
    · rfl

theorem Steady.recoverable (hmode : leafMode = .party → nodeSelector.labelSelector.isSome)
    (hsteady : Steady json pod ignoreLabels leafMode nodeSelector) (os : List LabelOrder)
    (hfit : fitPod json o pod ignoreLabels leafMode nodeSelector = .ok leafPod) :
    ∃ last, os.foldlM (fun leafPod o' =>
        getUpdatedPod json o' leafPod pod ignoreLabels leafMode nodeSelector) leafPod = .ok last ∧
      ∃ labels, recoverLabels json last.labels last.annotations = .ok (some labels) ∧
        labels.Same (fullLabels pod) := by
  obtain ⟨hfollows, hlabels, hannotations, -⟩ := fitPod_eq_ok hfit
  obtain ⟨last, hlast, hend⟩ := updates_follow json hmode os leafPod hfollows
  refine ⟨last, hlast, ?_⟩
  cases hign : ignoreLabels with
  | none =>
    -- nothing was taken off, at creation or later
    rw [hign] at hlabels hannotations hend
    have hstate : last.labels = some (fullLabels pod) ∧
        last.annotations = some (pod.annotations.getD .empty) := by
      rcases hend with rfl | hend
      · exact ⟨hlabels, hannotations⟩
      · exact hend
    rw [hstate.1, hstate.2]
    exact recoverLabels_own.mpr (hsteady.own hign)
  | some keys =>
    have htripped : (fitLabels (fullLabels pod) ignoreLabels).2 =
        some (keys.foldl fitLabel (fullLabels pod, .empty)).2 := by
      rw [hign]
      rfl
    rcases hend with rfl | ⟨hlast₁, hlast₂⟩
    · rw [hlabels, hannotations, htripped]
      exact recoverLabels_marked (GoMap.get?_set_self _ _ _) htripped
    · rw [hlast₁, hlast₂]
      exact recoverLabels_marked (hsteady.marked _ htripped) htripped

end LeafPods

/-- Creation and update of the leaf pod agree exactly when the root pod and the leaf are steady. -/
theorem updateAgrees_iff (json : Json) (pod : Pod) (ignoreLabels : Slice String)
    (leafMode : LeafMode) (nodeSelector : NodeSelector)
    (hmode : leafMode = .party → nodeSelector.labelSelector.isSome) :
    UpdateAgrees json pod ignoreLabels leafMode nodeSelector ↔
      Steady json pod ignoreLabels leafMode nodeSelector := by
  constructor
  · intro h
    have hfit : ∀ o, ∃ leafPod,
        fitPod json o pod ignoreLabels leafMode nodeSelector = .ok leafPod := by
      intro o
      obtain ⟨a, ha⟩ := leafAffinity_ok hmode o pod.spec.affinity
        (recoverSelectors pod.spec (convertAnnotations json pod.annotations)).affinity
      exact ⟨_, by rw [fitPod, ha]; rfl⟩
    refine ⟨fun hparty labelSelector hsome => nodeSelectorTerm_orders fun o o' => ?_,
      fun tripped htripped => ?_, fun hnone => recoverLabels_own.mp ?_⟩
    · obtain ⟨leafPod, hleaf⟩ := hfit o
      obtain ⟨updated, hupdated, hsame⟩ := h.unchanged o o' leafPod hleaf
      obtain ⟨hfollows, -, -, affinity₀, haffinity₀⟩ := fitPod_eq_ok hleaf
      obtain ⟨affinity, haffinity, heq⟩ :=
        getUpdatedPod_follows json o' ignoreLabels hfollows hmode
      have hspec := hsame.spec
      rw [← Except.ok.inj (heq.symm.trans hupdated)] at hspec
      have haff : affinity = leafPod.spec.affinity := congrArg PodSpec.affinity hspec
      rw [leafAffinity, if_pos hparty, fitNodeAffinity, hsome] at haffinity haffinity₀
      rw [← haff] at haffinity₀
      have hterms := Option.some.inj (Except.ok.inj (haffinity₀.trans haffinity.symm))
      exact (List.cons.inj (withTerms_injective hterms)).1
    · obtain ⟨leafPod, hleaf⟩ := hfit .asWritten
      obtain ⟨updated, hupdated, hsame⟩ := h.unchanged .asWritten .asWritten leafPod hleaf
      obtain ⟨hfollows, -, hannotations, -⟩ := fitPod_eq_ok hleaf
      obtain ⟨affinity, -, heq⟩ :=
        getUpdatedPod_follows json .asWritten ignoreLabels hfollows hmode
      obtain ⟨m, m', hm, hm', hmaps⟩ := hsame.annotations
      rw [← Except.ok.inj (heq.symm.trans hupdated)] at hm'
      rw [hannotations, htripped] at hm
      have hkey := hmaps kosmosTrippedLabels
      rw [← Option.some.inj hm, ← Option.some.inj hm', leafAnnotations,
        GoMap.get?_set_self] at hkey
      exact hkey.symm
    · obtain ⟨leafPod, hleaf⟩ := hfit .asWritten
      obtain ⟨-, hlabels, hannotations, -⟩ := fitPod_eq_ok hleaf
      obtain ⟨last, hlast, hrecovered⟩ := h.recoverable .asWritten [] leafPod hleaf
      cases hlast
      rw [hlabels, hannotations, hnone] at hrecovered
      exact hrecovered
  · intro hsteady
    refine ⟨fun o o' leafPod hfit => hsteady.unchanged hmode o' hfit, fun o o' leafPod hfit => ?_,
      fun o os leafPod hfit => hsteady.recoverable hmode os hfit⟩
    obtain ⟨updated, hupdated, hsame⟩ := hsteady.unchanged hmode o' hfit
    exact podToUpdate_of_unchanged hfit hupdated hsame

def setupIgnoreLabels : Slice String := some (split "" ',')

def markedPod : Pod where
  name := "web"
  labels := some (GoMap.empty.set "app" "web")
  annotations := some (GoMap.empty.set kosmosTrippedLabels (marshalLabels .empty))

def zoneSelector : NodeSelector where
  labelSelector := some { matchLabels := [("zone", "a")] }

theorem markedPod_agrees :
    ∃ json, Steady json markedPod setupIgnoreLabels .party zoneSelector ∧
      UpdateAgrees json markedPod setupIgnoreLabels .party zoneSelector := by
  obtain ⟨json⟩ := Json.nonempty
  have hsteady : Steady json markedPod setupIgnoreLabels .party zoneSelector := by
    refine ⟨fun _ labelSelector hsome => ?_, fun tripped htripped => ?_, nofun⟩
    · cases hsome
      decide
    · cases htripped
      decide
  exact ⟨json, hsteady,
    (updateAgrees_iff json markedPod setupIgnoreLabels .party zoneSelector fun _ => rfl).mpr
      hsteady⟩

def plainPod : Pod where
  name := "web"
  labels := some (GoMap.empty.set "app" "web")

theorem plainPod_updated :
    ∃ json, ¬ UpdateAgrees json plainPod setupIgnoreLabels .all {} := by
  obtain ⟨json⟩ := Json.nonempty
  refine ⟨json, fun h => ?_⟩
  obtain ⟨updated, hupdated, hsame⟩ := h.unchanged .asWritten .asWritten _ rfl
  cases hupdated
  obtain ⟨m, m', hm, hm', hmaps⟩ := hsame.annotations
  cases hm
  cases hm'
  exact absurd (hmaps kosmosTrippedLabels) (by decide)

end Kosmos.Pods
