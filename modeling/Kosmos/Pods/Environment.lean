import Kosmos.Go.Completes
import Kosmos.Pods.ServiceEnv

/-!
# The environment of a container: `populateContainerEnvironment`

Variables are resolved in the root and written down, and the kubelet of the leaf expands them once
more.

The kubelet has the objects of the root. Fields of the pod (`fieldRef`) are left out.
-/

namespace Kosmos.Environment

open Kosmos.Go

/-! ## Containers and what they refer to -/

inductive ReadError where
  | notFound
  | failed (msg : String)

structure EnvResourceManager where
  getConfigMap : String → String → Except ReadError Env
  getSecret : String → String → Except ReadError Env
  listServices : Except String (List Service)

inductive SourceKind where
  | configmap
  | secret
  deriving DecidableEq

def SourceKind.text : SourceKind → String
  | .configmap => "configmap"
  | .secret => "secret"

def EnvResourceManager.get (rm : EnvResourceManager) (kind : SourceKind) (name ns : String) :
    Except ReadError Env :=
  match kind with
  | .configmap => rm.getConfigMap name ns
  | .secret => rm.getSecret name ns

structure EnvFromSource where
  keyPrefix : Bytes := []
  kind : SourceKind
  name : String
  optional : Option Bool := none
  deriving DecidableEq

structure ResourceFieldSelector where
  containerName : String := ""
  resource : String
  divisor : String := ""
  deriving DecidableEq

inductive EnvVarSource where
  | keyRef (kind : SourceKind) (name : String) (key : Bytes) (optional : Option Bool)
  | resourceFieldRef (selector : ResourceFieldSelector)
  deriving DecidableEq

structure EnvVar where
  name : Bytes
  value : Bytes := []
  valueFrom : Option EnvVarSource := none
  deriving DecidableEq

def literal (e : Bytes × Bytes) : EnvVar := { name := e.1, value := e.2 }

structure Container where
  envFrom : List EnvFromSource := []
  env : List EnvVar := []
  deriving DecidableEq

structure Pod where
  ns : String
  enableServiceLinks : Option Bool := none

structure Orders where
  data : RangeOrder (Bytes × Bytes)
  services : RangeOrder (Bytes × Service)
  svcEnv : RangeOrder (Bytes × Bytes)
  env : RangeOrder (Bytes × Bytes)

def isLetter (c : UInt8) : Bool := (0x41 ≤ c && c ≤ 0x5A) || (0x61 ≤ c && c ≤ 0x7A)

def isDigit (c : UInt8) : Bool := 0x30 ≤ c && c ≤ 0x39

def isNameStart (c : UInt8) : Bool := c = 0x2D || c = 0x2E || c = 0x5F || isLetter c

def isEnvVarName (value : Bytes) : Bool :=
  match value with
  | [] => false
  | c :: rest =>
    isNameStart c && rest.all (fun c => isNameStart c || isDigit c) &&
      value ≠ ascii "." && !(ascii "..").isPrefixOf value

/-! ## The environment in the root -/

section Root

variable (rm : EnvResourceManager) (orders : Orders) (pod : Pod)

def keyTurn (keyPrefix : Bytes) (res : Env) (e : Bytes × Bytes) : Env :=
  let key := keyPrefix ++ e.1
  if isEnvVarName key then res.set key e.2 else res

def fetchError (envFrom : EnvFromSource) : ReadError → String
  | .notFound => envFrom.kind.text ++ " \"" ++ envFrom.name ++ "\" not found"
  | .failed msg => "failed to fetch " ++ envFrom.kind.text ++ " \"" ++ envFrom.name ++ "\": " ++ msg

def envFromTurn (res : Env) (envFrom : EnvFromSource) : Outcome Env :=
  match rm.get envFrom.kind envFrom.name pod.ns with
  | .error err =>
    if envFrom.optional = some true then pure res else .error (.err (fetchError envFrom err))
  | .ok data => pure ((orders.data.visit data.entries).foldl (keyTurn envFrom.keyPrefix) res)

def makeEnvironmentMapBasedOnEnvFrom (container : Container) : Outcome Env :=
  container.envFrom.foldlM (envFromTurn rm orders pod) .empty

inductive Found where
  | value (v : Bytes)
  | nothing
  | failed

def keyRefValue (kind : SourceKind) (name : String) (key : Bytes) (optional : Option Bool) :
    Found :=
  match rm.get kind name pod.ns with
  | .error _ => if optional = some true then .nothing else .failed
  | .ok data =>
    match data.get? key with
    | some v => .value v
    | none => if optional = some true then .nothing else .failed

def getEnvironmentVariableValueWithValueFrom : EnvVarSource → Found
  | .keyRef kind name key optional => keyRefValue rm pod kind name key optional
  -- a TODO in the source
  | .resourceFieldRef _ => .nothing

def getEnvironmentVariableValue (mapping : Bytes → Bytes) (env : EnvVar) : Found :=
  match env.valueFrom with
  | some source => getEnvironmentVariableValueWithValueFrom rm pod source
  | none => .value (expand env.value mapping)

def envTurn (svcEnv : Env) (st : Env × List EnvVar) (env : EnvVar) : Env × List EnvVar :=
  match getEnvironmentVariableValue rm pod (mappingFuncFor [st.1, svcEnv]) env with
  | .value v => (st.1.set env.name v, st.2)
  | .nothing => st
  | .failed => (st.1, st.2 ++ [env])

def appendTurn (res : Env) (e : Bytes × Bytes) : Env :=
  if (res.get? e.1).isSome then res else res.set e.1 e.2

def serviceEnv : Outcome Env :=
  match rm.listServices with
  | .error msg => .error (.err msg)
  | .ok services =>
    getServiceEnvVarMap orders.services services pod.ns (pod.enableServiceLinks.getD true)

def makeEnvironmentMap (container : Container) (res : Env) : Outcome (Env × List EnvVar) := do
  let svcEnv ← serviceEnv rm orders pod
  let (res, keys) := container.env.foldl (envTurn rm pod svcEnv) (res, [])
  pure ((orders.svcEnv.visit svcEnv.entries).foldl appendTurn res, keys)

def populateContainerEnvironment (container : Container) : Outcome Container := do
  let tmpEnv ← makeEnvironmentMapBasedOnEnvFrom rm orders pod container
  let (tmpEnv, envs) ← makeEnvironmentMap rm orders pod container tmpEnv
  let res := (orders.env.visit tmpEnv.entries).map literal
  pure { envFrom := [], env := res ++ envs }

end Root

/-! ## The environment as the kubelet resolves it -/

section Kubelet

variable (rm : EnvResourceManager) (pod : Pod) (resources : ResourceFieldSelector → Option Bytes)

abbrev Definition := Bytes × Template Bytes UInt8

def textDefinition (e : Bytes × Bytes) : Definition := (e.1, [.text e.2])

def envFromEntries (envFrom : EnvFromSource) (data : List (Bytes × Bytes)) :
    List (Bytes × Bytes) :=
  (data.map fun e => (envFrom.keyPrefix ++ e.1, e.2)).filter fun e => isEnvVarName e.1

def envFromDefinitions (envFrom : EnvFromSource) : List Definition :=
  match rm.get envFrom.kind envFrom.name pod.ns with
  | .ok data => (envFromEntries envFrom data.entries).map textDefinition
  | .error _ => []

def envTemplate (env : EnvVar) : Option (Template Bytes UInt8) :=
  match env.valueFrom with
  | none => some (template env.value)
  | some (.keyRef kind name key _) =>
    match rm.get kind name pod.ns with
    | .ok data => (data.get? key).map fun v => [.text v]
    | .error _ => none
  | some (.resourceFieldRef selector) => (resources selector).map fun v => [.text v]

def envDefinition (env : EnvVar) : Option Definition :=
  (envTemplate rm pod resources env).map fun t => (env.name, t)

def definitions (container : Container) : List Definition :=
  container.envFrom.flatMap (envFromDefinitions rm pod) ++
    container.env.filterMap (envDefinition rm pod resources)

def serviceOr (svcEnv : Env) (name : Bytes) : Bytes :=
  (svcEnv.get? name).getD (syntaxWrap name)

def resolved (svcEnv : Env) (container : Container) (x : Bytes) : Option Bytes :=
  (resolve (serviceOr svcEnv) (definitions rm pod resources container) x).or (svcEnv.get? x)

/-- The container declares the variable, by itself or in an object that is there. -/
def Declared (container : Container) (x : Bytes) : Prop :=
  x ∈ (container.envFrom.flatMap (envFromDefinitions rm pod)).map Prod.fst ∨
    x ∈ container.env.map EnvVar.name

end Kubelet

/-! ## What the root computes -/

variable (res : Env) (envFrom : EnvFromSource)

section Computes

variable {rm : EnvResourceManager} {orders : Orders} {pod : Pod} {svcEnv : Env}
  {resources : ResourceFieldSelector → Option Bytes} {base : Bytes → Bytes}

theorem mappingFuncFor_eq (svcEnv : Env) :
    mappingFuncFor [res, svcEnv] = fun k => (res.get? k).getD (serviceOr svcEnv k) := by
  funext k
  unfold mappingFuncFor serviceOr
  cases hres : res.get? k with
  | some v => simp [hres]
  | none =>
    cases hsvc : svcEnv.get? k with
    | some v => simp [hres, hsvc]
    | none => simp [hres, hsvc]

theorem get?_set_eq_define (k : Bytes) (t : Template Bytes UInt8) :
    (res.set k (t.eval fun k => (res.get? k).getD (base k))).get? =
      define base res.get? (k, t) := by
  funext x
  rw [GoMap.get?_set]
  unfold define
  rw [Function.update_apply]

theorem get?_set_text (e : Bytes × Bytes) :
    (res.set e.1 e.2).get? = define base res.get? (textDefinition e) := by
  have htext : Template.eval (fun k => (res.get? k).getD (base k)) [.text e.2] = e.2 := by simp
  have h : _ = define base res.get? (textDefinition e) := get?_set_eq_define res e.1 [.text e.2]
  rwa [htext] at h

theorem get?_keyTurns (l : List (Bytes × Bytes)) (res : Env) :
    (l.foldl (keyTurn envFrom.keyPrefix) res).get? =
      resolveFrom base res.get? ((envFromEntries envFrom l).map textDefinition) := by
  induction l generalizing res with
  | nil => rfl
  | cons e l ih =>
    rw [List.foldl_cons, ih]
    unfold keyTurn envFromEntries
    rw [List.map_cons, List.filter_cons]
    by_cases hname : isEnvVarName (envFrom.keyPrefix ++ e.1) = true
    · rw [if_pos hname, if_pos hname]
      exact congrArg (resolveFrom base · _) (get?_set_text res (envFrom.keyPrefix ++ e.1, e.2))
    · rw [if_neg hname, if_neg hname]

theorem nodup_envFromEntries (data : Env) :
    ((envFromEntries envFrom data.entries).map Prod.fst).Nodup := by
  have hkeys := data.nodup.map (List.append_right_injective envFrom.keyPrefix)
  rw [List.map_map] at hkeys
  refine List.Nodup.sublist (List.filter_sublist.map _) ?_
  rw [List.map_map]
  exact hkeys

theorem get?_envFromTurn {res res' : Env} {envFrom : EnvFromSource}
    (h : envFromTurn rm orders pod res envFrom = .ok res') :
    res'.get? = resolveFrom base res.get? (envFromDefinitions rm pod envFrom) := by
  unfold envFromTurn at h
  unfold envFromDefinitions
  cases hget : rm.get envFrom.kind envFrom.name pod.ns with
  | error err =>
    by_cases hoptional : envFrom.optional = some true
    · simp only [hget, if_pos hoptional] at h
      cases h
      rfl
    · simp only [hget, if_neg hoptional] at h
      cases h
  | ok data =>
    rw [hget] at h
    cases h
    rw [get?_keyTurns]
    refine resolveFrom_perm ?_ ?_ ?_
    · exact (((orders.data.perm data.entries).map _).filter _).map _
    · rw [List.map_map]
      exact nodup_envFromEntries envFrom data
    · intro d hd
      obtain ⟨e, -, rfl⟩ := List.mem_map.mp hd
      rfl

theorem get?_envFromTurns : ∀ {l : List EnvFromSource} {res res' : Env},
    l.foldlM (envFromTurn rm orders pod) res = .ok res' →
      res'.get? = resolveFrom base res.get? (l.flatMap (envFromDefinitions rm pod))
  | [], res, res', h => by
    cases h
    rfl
  | envFrom :: l, res, res', h => by
    rw [List.foldlM_cons] at h
    obtain ⟨res₁, hturn, hrest⟩ := bind_eq_ok h
    rw [get?_envFromTurns hrest, get?_envFromTurn hturn, List.flatMap_cons, resolveFrom_append]

theorem get?_envTurn (st : Env × List EnvVar) (env : EnvVar) :
    (envTurn rm pod svcEnv st env).1.get? =
      resolveFrom (serviceOr svcEnv) st.1.get?
        (envDefinition rm pod (fun _ => none) env).toList := by
  unfold envTurn getEnvironmentVariableValue envDefinition envTemplate
  cases hfrom : env.valueFrom with
  | none =>
    show (st.1.set env.name (expand env.value (mappingFuncFor [st.1, svcEnv]))).get? = _
    rw [expand_eq, mappingFuncFor_eq]
    exact get?_set_eq_define st.1 env.name (template env.value)
  | some source =>
    cases source with
    | resourceFieldRef selector => rfl
    | keyRef kind name key optional =>
      unfold getEnvironmentVariableValueWithValueFrom keyRefValue
      cases hget : rm.get kind name pod.ns with
      | error err =>
        by_cases hoptional : optional = some true
        · simp [hget, hoptional, resolveFrom]
        · simp [hget, hoptional, resolveFrom]
      | ok data =>
        cases hkey : data.get? key with
        | some v =>
          simp only [hget, hkey]
          exact get?_set_text st.1 (env.name, v)
        | none =>
          by_cases hoptional : optional = some true
          · simp [hget, hkey, hoptional, resolveFrom]
          · simp [hget, hkey, hoptional, resolveFrom]

theorem get?_envTurns (l : List EnvVar) (st : Env × List EnvVar) :
    (l.foldl (envTurn rm pod svcEnv) st).1.get? =
      resolveFrom (serviceOr svcEnv) st.1.get?
        (l.filterMap (envDefinition rm pod fun _ => none)) := by
  induction l generalizing st with
  | nil => rfl
  | cons env l ih =>
    rw [List.foldl_cons, ih, get?_envTurn, ← resolveFrom_append]
    cases hdef : envDefinition rm pod (fun _ => none) env with
    | none => rw [List.filterMap_cons_none hdef, Option.toList_none, List.nil_append]
    | some d => rw [List.filterMap_cons_some hdef, Option.toList_some, List.singleton_append]

theorem envDefinition_of_failed {mapping : Bytes → Bytes} {env : EnvVar}
    (h : getEnvironmentVariableValue rm pod mapping env = .failed) :
    envDefinition rm pod resources env = none := by
  unfold getEnvironmentVariableValue at h
  unfold envDefinition envTemplate
  cases hfrom : env.valueFrom with
  | none =>
    rw [hfrom] at h
    cases h
  | some source =>
    rw [hfrom] at h
    cases source with
    | resourceFieldRef selector => cases h
    | keyRef kind name key optional =>
      unfold getEnvironmentVariableValueWithValueFrom keyRefValue at h
      cases hget : rm.get kind name pod.ns with
      | error err => simp [hget]
      | ok data =>
        cases hkey : data.get? key with
        | none => simp [hget, hkey]
        | some v =>
          simp only [hget, hkey] at h
          cases h

theorem envDefinition_of_mem_envTurns (l : List EnvVar) (st : Env × List EnvVar)
    (hst : ∀ env ∈ st.2, envDefinition rm pod resources env = none) :
    ∀ env ∈ (l.foldl (envTurn rm pod svcEnv) st).2,
      envDefinition rm pod resources env = none := by
  induction l generalizing st with
  | nil => exact hst
  | cons env l ih =>
    refine ih _ ?_
    unfold envTurn
    split
    · exact hst
    · exact hst
    next hfailed =>
      intro env' henv'
      rcases List.mem_append.mp henv' with hold | hnew
      · exact hst env' hold
      · rw [List.mem_singleton.mp hnew]
        exact envDefinition_of_failed hfailed

theorem get?_appendTurns_eq_some {l : List (Bytes × Bytes)} (hnodup : (l.map Prod.fst).Nodup)
    (res : Env) (x v : Bytes) :
    (l.foldl appendTurn res).get? x = some v ↔
      res.get? x = some v ∨ (res.get? x = none ∧ (x, v) ∈ l) := by
  induction l generalizing res with
  | nil => simp
  | cons e l ih =>
    rw [List.map_cons, List.nodup_cons] at hnodup
    rw [List.foldl_cons, ih hnodup.2]
    unfold appendTurn
    obtain ⟨k, w⟩ := e
    have hfresh : ∀ v, (k, v) ∉ l := fun v hv =>
      hnodup.1 (List.mem_map.mpr ⟨(k, v), hv, rfl⟩)
    cases hk : res.get? k with
    | some old =>
      rw [if_pos Option.isSome_some]
      by_cases hx : x = k
      · simp [hx, hk]
      · simp [hx]
    | none =>
      rw [if_neg (by simp), GoMap.get?_set]
      by_cases hx : x = k
      · simp [hx, hk, hfresh, eq_comm]
      · simp [hx]

theorem get?_appendTurns (order : RangeOrder (Bytes × Bytes)) (res svcEnv : Env) (x : Bytes) :
    ((order.visit svcEnv.entries).foldl appendTurn res).get? x =
      (res.get? x).or (svcEnv.get? x) := by
  have hperm := order.perm svcEnv.entries
  have hnodup := (hperm.map Prod.fst).nodup_iff.mpr svcEnv.nodup
  apply Option.ext
  intro v
  rw [get?_appendTurns_eq_some hnodup, hperm.mem_iff, Option.or_eq_some_iff,
    ← GoMap.get?_eq_some (m := svcEnv)]

theorem get?_makeEnvironmentMap {container : Container} {res R : Env} {keys : List EnvVar}
    (hsvc : serviceEnv rm orders pod = .ok svcEnv)
    (hfrom : makeEnvironmentMapBasedOnEnvFrom rm orders pod container = .ok res)
    (h : makeEnvironmentMap rm orders pod container res = .ok (R, keys)) (x : Bytes) :
    R.get? x = resolved rm pod (fun _ => none) svcEnv container x := by
  unfold makeEnvironmentMap at h
  rw [hsvc, ok_bind] at h
  cases h
  rw [get?_appendTurns, get?_envTurns, get?_envFromTurns hfrom, ← resolveFrom_append]
  rfl

end Computes

/-! ## Whether the leaf has the same environment -/

section Preserved

variable (rm : EnvResourceManager) (pod : Pod) (resources : ResourceFieldSelector → Bytes)
  (container : Container)

def original (svcEnv : Env) (x : Bytes) : Option Bytes :=
  resolved rm pod (fun selector => some (resources selector)) svcEnv container x

def written (svcEnv : Env) (x : Bytes) : Option Bytes :=
  resolved rm pod (fun _ => none) svcEnv container x

/-- In every order, the declared variables have the values they had. -/
def Preserved : Prop :=
  ∀ orders svcEnv container', serviceEnv rm orders pod = .ok svcEnv →
    populateContainerEnvironment rm orders pod container = .ok container' →
    ∀ x, Declared rm pod container x →
      original rm pod resources container' svcEnv x = original rm pod resources container svcEnv x

/-- The objects for `envFrom` are there, unless they are optional. -/
def MandatoryThere : Prop :=
  ∀ envFrom ∈ container.envFrom,
    envFrom.optional = some true ∨ ∃ data, rm.get envFrom.kind envFrom.name pod.ns = .ok data

/-- The variable comes through a second expansion, in any order. -/
structure Survives (svcEnv : Env) (x : Bytes) : Prop where
  kept : written rm pod container svcEnv x = none →
    original rm pod resources container svcEnv x = none
  value : ∀ v, written rm pod container svcEnv x = some v →
    original rm pod resources container svcEnv x = some (expand v (serviceOr svcEnv))
  others : ∀ v, written rm pod container svcEnv x = some v →
    ∀ a ∈ (template v).refs, a ≠ x → ∀ w, original rm pod resources container svcEnv a = some w →
      w = serviceOr svcEnv a

end Preserved

section Orders

variable {rm : EnvResourceManager} {orders : Orders} {pod : Pod} {svcEnv : Env}
  {resources : ResourceFieldSelector → Bytes} {container : Container}

theorem declared_of_mem_definitions {resources : ResourceFieldSelector → Option Bytes} {x : Bytes}
    (h : x ∈ (definitions rm pod resources container).map Prod.fst) :
    Declared rm pod container x := by
  unfold definitions at h
  rw [List.map_append, List.mem_append] at h
  refine h.imp_right fun h => ?_
  obtain ⟨d, hd, rfl⟩ := List.mem_map.mp h
  obtain ⟨env, henv, hdef⟩ := List.mem_filterMap.mp hd
  obtain ⟨t, -, rfl⟩ := Option.map_eq_some_iff.mp hdef
  exact List.mem_map_of_mem henv

theorem resolved_of_not_declared {resources : ResourceFieldSelector → Option Bytes} {x : Bytes}
    (h : ¬ Declared rm pod container x) :
    resolved rm pod resources svcEnv container x = svcEnv.get? x := by
  unfold resolved resolve
  rw [resolveFrom_of_not_mem fun hmem => h (declared_of_mem_definitions hmem), Option.none_or]

def literalDefinition (e : Bytes × Bytes) : Definition := (e.1, template e.2)

theorem resolved_written {l : List (Bytes × Bytes)} {keys : List EnvVar}
    {resources : ResourceFieldSelector → Option Bytes}
    (hkeys : ∀ env ∈ keys, envDefinition rm pod resources env = none) (x : Bytes) :
    resolved rm pod resources svcEnv { env := l.map literal ++ keys } x =
      (resolve (serviceOr svcEnv) (l.map literalDefinition) x).or (svcEnv.get? x) := by
  have hdefs : definitions rm pod resources { env := l.map literal ++ keys } =
      l.map literalDefinition := by
    unfold definitions
    rw [List.flatMap_nil, List.nil_append, List.filterMap_append,
      List.filterMap_eq_nil_iff.mpr hkeys, List.append_nil, List.filterMap_map,
      ← List.filterMap_eq_map]
    rfl
  unfold resolved
  rw [hdefs]

structure WrittenMap (rm : EnvResourceManager) (pod : Pod) (container : Container)
    (svcEnv R : Env) : Prop where
  plain : ∀ k v, svcEnv.get? k = some v → operator ∉ v
  get : ∀ x, R.get? x = written rm pod container svcEnv x

namespace WrittenMap

variable {R : Env} {x : Bytes}

theorem mem_names :
    x ∈ (R.entries.map literalDefinition).map Prod.fst ↔ ∃ v, R.get? x = some v := by
  rw [← Option.isSome_iff_exists, GoMap.isSome_get?, List.map_map]
  rfl

theorem nodup_names (R : Env) : ((R.entries.map literalDefinition).map Prod.fst).Nodup := by
  rw [List.map_map]
  exact R.nodup

theorem mem_entries {e : Bytes × Bytes} (he : e ∈ R.entries) : R.get? e.1 = some e.2 :=
  GoMap.get?_eq_some.mpr he

theorem exists_resolve (svcEnv : Env) {l : List Definition}
    (hl : l.Perm (R.entries.map literalDefinition)) {v : Bytes} (hv : R.get? x = some v) :
    ∃ m, resolve (serviceOr svcEnv) l x = some ((template v).eval m) := by
  have hnodup := (hl.map Prod.fst).nodup_iff.mpr (nodup_names R)
  exact exists_resolveFrom hnodup (literalDefinition (x, v))
    (hl.mem_iff.mpr (List.mem_map_of_mem (GoMap.get?_eq_some.mp hv)))

def target (rm : EnvResourceManager) (pod : Pod) (resources : ResourceFieldSelector → Bytes)
    (container : Container) (svcEnv : Env) (x : Bytes) : Bytes :=
  (original rm pod resources container svcEnv x).getD []

def EveryOrder (rm : EnvResourceManager) (pod : Pod) (resources : ResourceFieldSelector → Bytes)
    (container : Container) (svcEnv R : Env) : Prop :=
  ∀ l : List Definition, l.Perm (R.entries.map literalDefinition) →
    ∀ x, Declared rm pod container x →
      (resolve (serviceOr svcEnv) l x).or (svcEnv.get? x) =
        original rm pod resources container svcEnv x

variable (h : WrittenMap rm pod container svcEnv R)
include h

theorem service_none (hx : R.get? x = none) : svcEnv.get? x = none := by
  rw [h.get] at hx
  exact (Option.or_eq_none_iff.mp hx).2

theorem get_of_not_declared (hx : ¬ Declared rm pod container x) : R.get? x = svcEnv.get? x :=
  (h.get x).trans (resolved_of_not_declared hx)

section NotDeclared

variable (hx : ¬ Declared rm pod container x) {v : Bytes} (hv : R.get? x = some v)
include hx hv

theorem target_of_not_declared :
    target rm pod resources container svcEnv x = v := by
  rw [h.get_of_not_declared hx] at hv
  unfold target original
  rw [resolved_of_not_declared hx, hv, Option.getD_some]

theorem serviceOr_of_not_declared : serviceOr svcEnv x = v := by
  rw [h.get_of_not_declared hx] at hv
  rw [serviceOr, hv, Option.getD_some]

theorem plain_of_not_declared : operator ∉ v :=
  h.plain x v ((h.get_of_not_declared hx).symm.trans hv)

end NotDeclared

theorem settled
    (hs : ∀ x, Declared rm pod container x → Survives rm pod resources container svcEnv x) :
    Settled (serviceOr svcEnv) (R.entries.map literalDefinition)
      (target rm pod resources container svcEnv) := by
  have htarget : ∀ {x v}, Declared rm pod container x → R.get? x = some v →
      original rm pod resources container svcEnv x = some (expand v (serviceOr svcEnv)) :=
    fun hx hv => (hs _ hx).value _ ((h.get _).symm.trans hv)
  constructor
  · intro d hd
    obtain ⟨e, he, rfl⟩ := List.mem_map.mp hd
    by_cases hx : Declared rm pod container e.1
    · show (template e.2).eval (serviceOr svcEnv) = target rm pod resources container svcEnv e.1
      rw [target, htarget hx (mem_entries he), Option.getD_some, expand_eq]
    · have hplain := h.plain_of_not_declared hx (mem_entries he)
      exact (eval_template_plain hplain _).trans
        (h.target_of_not_declared hx (mem_entries he)).symm
  · intro d hd a ha hne hmem
    obtain ⟨e, he, rfl⟩ := List.mem_map.mp hd
    obtain ⟨w, hw⟩ := mem_names.mp hmem
    by_cases hx : Declared rm pod container e.1
    · by_cases hdeclared : Declared rm pod container a
      · have horiginal := htarget hdeclared hw
        rw [target, horiginal, Option.getD_some]
        exact (hs e.1 hx).others e.2 ((h.get _).symm.trans (mem_entries he)) a ha hne _ horiginal
      · rw [h.target_of_not_declared hdeclared hw, h.serviceOr_of_not_declared hdeclared hw]
    · rw [literalDefinition,
        refs_template_plain (h.plain_of_not_declared hx (mem_entries he))] at ha
      cases ha

theorem everyOrder_of_survives
    (hs : ∀ x, Declared rm pod container x → Survives rm pod resources container svcEnv x) :
    EveryOrder rm pod resources container svcEnv R := by
  intro l hl x hx
  cases hv : R.get? x with
  | none =>
    have hnot : x ∉ l.map Prod.fst := by
      rw [(hl.map Prod.fst).mem_iff, mem_names, hv]
      simp
    rw [resolve, resolveFrom_of_not_mem hnot, Option.none_or, h.service_none hv]
    exact ((hs x hx).kept ((h.get x).symm.trans hv)).symm
  | some v =>
    have hmem : literalDefinition (x, v) ∈ R.entries.map literalDefinition :=
      List.mem_map_of_mem (GoMap.get?_eq_some.mp hv)
    have hresolve : resolve (serviceOr svcEnv) l x =
        some (target rm pod resources container svcEnv x) :=
      (everyOrder_iff (nodup_names R)).mpr (h.settled hs) l hl _ hmem
    have horiginal := (hs x hx).value v ((h.get x).symm.trans hv)
    rw [hresolve, target, horiginal]
    rfl

variable (hall : EveryOrder rm pod resources container svcEnv R)
include hall

theorem resolve_eq_target {l : List Definition} (hl : l.Perm (R.entries.map literalDefinition))
    {v : Bytes} (hv : R.get? x = some v) :
    resolve (serviceOr svcEnv) l x = some (target rm pod resources container svcEnv x) := by
  obtain ⟨m, hm⟩ := exists_resolve svcEnv hl hv
  by_cases hx : Declared rm pod container x
  · have horiginal := hall l hl x hx
    rw [hm, Option.some_or] at horiginal
    rw [hm, target, ← horiginal, Option.getD_some]
  · rw [hm, h.target_of_not_declared hx hv, eval_template_plain (h.plain_of_not_declared hx hv)]

theorem settled_of_everyOrder :
    Settled (serviceOr svcEnv) (R.entries.map literalDefinition)
      (target rm pod resources container svcEnv) := by
  refine (everyOrder_iff (nodup_names R)).mp fun l hl d hd => ?_
  obtain ⟨e, he, rfl⟩ := List.mem_map.mp hd
  exact h.resolve_eq_target hall hl (mem_entries he)

theorem original_eq_none (hv : R.get? x = none) :
    original rm pod resources container svcEnv x = none := by
  by_cases hx : Declared rm pod container x
  · have hnot : x ∉ (R.entries.map literalDefinition).map Prod.fst := by
      rw [mem_names, hv]
      simp
    have horiginal := hall _ (List.Perm.refl _) x hx
    rw [resolve, resolveFrom_of_not_mem hnot, Option.none_or, h.service_none hv] at horiginal
    exact horiginal.symm
  · exact (resolved_of_not_declared hx).trans (h.service_none hv)

theorem survives_of_everyOrder (hx : Declared rm pod container x) :
    Survives rm pod resources container svcEnv x := by
  have hsettled := h.settled_of_everyOrder hall
  have hmem : ∀ {v}, written rm pod container svcEnv x = some v →
      literalDefinition (x, v) ∈ R.entries.map literalDefinition :=
    fun hv => List.mem_map_of_mem (GoMap.get?_eq_some.mp ((h.get x).trans hv))
  refine ⟨fun hv => h.original_eq_none hall ((h.get x).trans hv), fun v hv => ?_,
    fun v hv a ha hne w hw => ?_⟩
  · have hvalue : (template v).eval (serviceOr svcEnv) =
        target rm pod resources container svcEnv x := hsettled.value _ (hmem hv)
    rw [expand_eq, hvalue, ← hall _ (List.Perm.refl _) x hx,
      h.resolve_eq_target hall (List.Perm.refl _) ((h.get x).trans hv), Option.some_or]
  · cases ha' : R.get? a with
    | none =>
      rw [h.original_eq_none hall ha'] at hw
      cases hw
    | some w' =>
      have hbase := hsettled.others _ (hmem hv) a ha hne (mem_names.mpr ⟨w', ha'⟩)
      rw [target, hw, Option.getD_some] at hbase
      exact hbase

end WrittenMap

theorem completes_envFromTurn : Completes (envFromTurn rm orders pod res envFrom) ↔
      envFrom.optional = some true ∨
        ∃ data, rm.get envFrom.kind envFrom.name pod.ns = .ok data := by
  unfold envFromTurn
  cases hget : rm.get envFrom.kind envFrom.name pod.ns with
  | error err =>
    by_cases hoptional : envFrom.optional = some true
    · simp [hoptional]
    · simp [hoptional]
  | ok data => simp

theorem completes_envFrom :
    Completes (makeEnvironmentMapBasedOnEnvFrom rm orders pod container) ↔
      MandatoryThere rm pod container :=
  completes_foldlM fun res envFrom _ => completes_envFromTurn res envFrom

theorem mandatoryThere_of_populate {container' : Container}
    (h : populateContainerEnvironment rm orders pod container = .ok container') :
    MandatoryThere rm pod container := by
  obtain ⟨res, hfrom, -⟩ := bind_eq_ok h
  exact completes_envFrom.mp ⟨res, hfrom⟩

theorem populate_of_mandatoryThere (hsvc : serviceEnv rm orders pod = .ok svcEnv)
    (hthere : MandatoryThere rm pod container) :
    ∃ R keys, WrittenMap rm pod container svcEnv R ∧
      (∀ resources, ∀ env ∈ keys, envDefinition rm pod resources env = none) ∧
      ∀ order, populateContainerEnvironment rm { orders with env := order } pod container =
        .ok { env := (order.visit R.entries).map literal ++ keys } := by
  obtain ⟨res, hfrom⟩ := completes_envFrom.mpr hthere
  have hmap : ∃ R keys, makeEnvironmentMap rm orders pod container res = .ok (R, keys) ∧
      ∀ resources, ∀ env ∈ keys, envDefinition rm pod resources env = none := by
    unfold makeEnvironmentMap
    rw [hsvc, ok_bind]
    exact ⟨_, _, rfl, fun resources => envDefinition_of_mem_envTurns _ _ (by simp)⟩
  obtain ⟨R, keys, hR, hkeys⟩ := hmap
  refine ⟨R, keys, ⟨fun k v hv => ?_, get?_makeEnvironmentMap hsvc hfrom hR⟩, hkeys,
    fun order => ?_⟩
  · unfold serviceEnv at hsvc
    split at hsvc
    · cases hsvc
    · exact operator_not_mem_of_getServiceEnvVarMap hsvc hv
  · show (makeEnvironmentMapBasedOnEnvFrom rm orders pod container >>= fun tmpEnv =>
      makeEnvironmentMap rm orders pod container tmpEnv >>= _) = _
    rw [hfrom, ok_bind, hR, ok_bind]
    rfl

theorem preserved_of_survives
    (h : MandatoryThere rm pod container → ∀ orders svcEnv, serviceEnv rm orders pod = .ok svcEnv →
      ∀ x, Declared rm pod container x → Survives rm pod resources container svcEnv x) :
    Preserved rm pod resources container := by
  intro orders svcEnv container' hsvc hpopulated x hx
  have hthere := mandatoryThere_of_populate hpopulated
  obtain ⟨R, keys, hR, hkeys, hpopulate⟩ := populate_of_mandatoryThere hsvc hthere
  cases hpopulated.symm.trans (hpopulate orders.env)
  refine (resolved_written (hkeys _) x).trans ?_
  exact hR.everyOrder_of_survives (h hthere orders svcEnv hsvc) _
    ((orders.env.perm R.entries).map _) x hx

/-- The environment is preserved exactly if every variable comes through a second expansion. -/
theorem preserved_iff (rm : EnvResourceManager) (pod : Pod)
    (resources : ResourceFieldSelector → Bytes) (container : Container) :
    Preserved rm pod resources container ↔
      (MandatoryThere rm pod container → ∀ orders svcEnv, serviceEnv rm orders pod = .ok svcEnv →
        ∀ x, Declared rm pod container x → Survives rm pod resources container svcEnv x) := by
  refine ⟨fun h hthere orders svcEnv hsvc x hx => ?_, preserved_of_survives⟩
  obtain ⟨R, keys, hR, hkeys, hpopulate⟩ := populate_of_mandatoryThere hsvc hthere
  refine hR.survives_of_everyOrder (fun l hl y hy => ?_) hx
  obtain ⟨order, rfl⟩ := RangeOrder.exists_visit_map hl
  rw [← resolved_written (hkeys _) y]
  exact h { orders with env := order } svcEnv _ hsvc (hpopulate order) y hy

def vault : EnvResourceManager where
  getConfigMap _ _ := .error .notFound
  getSecret _ _ := .ok (GoMap.empty.set (ascii "password") (ascii "pa$$word"))
  listServices := .ok []

def app : Container where
  env := [
    { name := ascii "PASSWORD"
      valueFrom := some (.keyRef .secret "app" (ascii "password") none) },
    { name := ascii "MEMORY", valueFrom := some (.resourceFieldRef ⟨"", "limits.memory", "1Mi"⟩) }]

def writtenApp : Container where
  env := [{ name := ascii "PASSWORD", value := ascii "pa$$word" }]

theorem app_changed :
    populateContainerEnvironment vault ⟨.asWritten, .asWritten, .asWritten, .asWritten⟩
        { ns := "default" } app = .ok writtenApp ∧
      original vault { ns := "default" } (fun _ => ascii "512") app .empty (ascii "PASSWORD") =
        some (ascii "pa$$word") ∧
      original vault { ns := "default" } (fun _ => ascii "512") writtenApp .empty
        (ascii "PASSWORD") = some (ascii "pa$word") ∧
      original vault { ns := "default" } (fun _ => ascii "512") app .empty (ascii "MEMORY") =
        some (ascii "512") ∧
      original vault { ns := "default" } (fun _ => ascii "512") writtenApp .empty
        (ascii "MEMORY") = none := by
  refine ⟨?_, ?_, ?_, ?_, ?_⟩
  · decide +kernel
  · decide +kernel
  · decide +kernel
  · decide +kernel
  · decide +kernel

end Orders

end Kosmos.Environment
