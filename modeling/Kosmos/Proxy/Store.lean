import Kosmos.Go.Store
import Kosmos.Go.Strings

/-!
# The store of the proxy

`Get`, `List` and `Watch` each restrict the namespaces in a way of their own (`isolated_iff`).
-/

namespace Kosmos.Proxy

open Go

/-! ## The cached namespaces -/

structure MultiNamespace where
  isAll : Bool
  namespaces : List String
  nodup : namespaces.Nodup

namespace MultiNamespace

def newMultiNamespace : MultiNamespace := ⟨false, [], List.nodup_nil⟩

def hasAll (n : MultiNamespace) (ns : List String) : Bool := ns.all fun x => x ∈ n.namespaces

def add (n : MultiNamespace) (ns : List String) : MultiNamespace :=
  if ns.length = 0 then ⟨true, [], List.nodup_nil⟩
  else if n.isAll || n.hasAll ns then n
  else ⟨n.isAll, insertAll n.namespaces ns, nodup_insertAll n.nodup⟩

def contains (n : MultiNamespace) (ns : List String) : Bool := n.isAll || n.hasAll ns

def single (n : MultiNamespace) : Option String :=
  if n.isAll || n.namespaces.length ≠ 1 then none else n.namespaces.head?

theorem contains_singleton {n : MultiNamespace} {x : String} :
    n.contains [x] = true ↔ n.isAll = true ∨ x ∈ n.namespaces := by
  simp [contains, hasAll]

theorem single_eq_some {n : MultiNamespace} {ns : String} :
    n.single = some ns ↔ n.isAll = false ∧ n.namespaces = [ns] := by
  unfold single
  cases n.isAll with
  | true => simp
  | false =>
    match n.namespaces with
    | [] => simp
    | [x] => simp
    | x :: y :: rest => simp

theorem contains_add {n : MultiNamespace} {ns : List String} {x : String} :
    (n.add ns).contains [x] = true ↔ ns = [] ∨ n.contains [x] = true ∨ x ∈ ns := by
  unfold add
  split
  next hnil => simp [contains_singleton, List.length_eq_zero_iff.mp hnil]
  next hne =>
    have hcons : ns ≠ [] := fun hnil => hne (by rw [hnil, List.length_nil])
    split
    next hin =>
      -- what is added is selected already
      rw [Bool.or_eq_true, hasAll, List.all_eq_true] at hin
      rw [contains_singleton]
      constructor
      · exact fun h => Or.inr (Or.inl h)
      · rintro (h | h | h)
        · exact absurd h hcons
        · exact h
        · exact hin.imp id fun hall => of_decide_eq_true (hall x h)
    · rw [contains_singleton, contains_singleton, mem_insertAll, or_assoc]
      exact ⟨Or.inr, fun h => h.resolve_left hcons⟩

theorem mem_namespaces_add {n : MultiNamespace} {ns : List String} {x : String}
    (h : x ∈ (n.add ns).namespaces) : x ∈ n.namespaces ∨ x ∈ ns := by
  unfold add at h
  split at h
  · cases h
  · split at h
    · exact Or.inl h
    · exact mem_insertAll.mp h

end MultiNamespace

open MultiNamespace

structure Name where
  val : String
  ne : val ≠ ""

structure Namespace extends Name where
  plain : '/' ∉ val.toList

def selection (calls : List (List Name)) : MultiNamespace :=
  calls.foldl (fun n ns => n.add (ns.map Name.val)) newMultiNamespace

/-- A namespace is cached if a call named it, or if a call named none. -/
def Cached (calls : List (List Name)) (ns : String) : Prop :=
  ∃ call ∈ calls, call = [] ∨ ns ∈ call.map Name.val

instance (calls : List (List Name)) (ns : String) : Decidable (Cached calls ns) :=
  inferInstanceAs (Decidable (∃ call ∈ calls, call = [] ∨ ns ∈ call.map Name.val))

theorem contains_foldl_add (calls : List (List Name)) (n : MultiNamespace) (x : String) :
    (calls.foldl (fun n ns => n.add (ns.map Name.val)) n).contains [x] = true ↔
      n.contains [x] = true ∨ Cached calls x := by
  induction calls generalizing n with
  | nil => simp [Cached]
  | cons call calls ih =>
    rw [List.foldl_cons, ih, contains_add, List.map_eq_nil_iff, Cached, Cached,
      List.exists_mem_cons_iff, or_left_comm, or_assoc]

theorem contains_selection {calls : List (List Name)} {x : String} :
    (selection calls).contains [x] = true ↔ Cached calls x := by
  have hnew : ¬ newMultiNamespace.contains [x] = true := by
    simp [contains_singleton, newMultiNamespace]
  rw [selection, contains_foldl_add]
  exact or_iff_right hnew

theorem selection_ne (calls : List (List Name)) : ∀ x ∈ (selection calls).namespaces, x ≠ "" := by
  suffices h : ∀ n : MultiNamespace, (∀ x ∈ n.namespaces, x ≠ "") →
      ∀ x ∈ (calls.foldl (fun n ns => n.add (ns.map Name.val)) n).namespaces, x ≠ "" from
    h newMultiNamespace fun x hx => nomatch hx
  induction calls with
  | nil => exact fun n hn => hn
  | cons call calls ih =>
    intro n hn
    refine ih _ fun x hx => ?_
    rcases mem_namespaces_add hx with hold | hnew
    · exact hn x hold
    · obtain ⟨name, -, rfl⟩ := List.mem_map.mp hnew
      exact name.ne

/-! ## The objects and the control plane -/

structure Unstructured (β : Type) where
  ns : String
  name : String
  managedFields : Slice String
  content : β
  deriving DecidableEq

inductive Arg (β : Type) where
  | pointer (o : Unstructured β)
  | value (o : Unstructured β)
  | status (msg : String)

variable {β : Type}

def accessor : Arg β → Option (Unstructured β)
  | .pointer o => some o
  | .value _ => none
  | .status _ => none

def Arg.held (o : Unstructured β) : Arg β → Unstructured β
  | .pointer o' => o'
  | .value o' => o'
  | .status _ => o

structure Population (β : Type) where
  store : Go.Store fun o : Unstructured β => (o.ns, o.name)
  named : ∀ o ∈ store.objects, o.ns ≠ "" ∧ o.name ≠ ""

inductive EventType where
  | added
  | modified
  | deleted
  | error
  deriving DecidableEq

structure Event (β : Type) where
  type : EventType
  object : Arg β

inductive Notice (β : Type) where
  | change (type : EventType) (o : Unstructured β)
  | failure (msg : String)

def Notice.event : Notice β → Event β
  | .change type o => ⟨type, .pointer o⟩
  | .failure msg => ⟨.error, .status msg⟩

structure Resource (β : Type) where
  answer : Except ApiError (Population β)
  ns : String

def inNamespace (ns : String) (o : Unstructured β) : Bool := ns = "" || o.ns = ns

namespace Resource

def list (r : Resource β) : Except ApiError (List (Unstructured β)) :=
  r.answer.map fun p => p.store.objects.filter (inNamespace r.ns)

def get (r : Resource β) (name : String) : Except ApiError (Unstructured β) :=
  match r.answer with
  | .error e => .error e
  | .ok p =>
    match p.store.get? (r.ns, name) with
    | some o => .ok o
    | none => .error .notFound

def Sends (r : Resource β) : Notice β → Bool
  | .change _ o => inNamespace r.ns o
  | .failure _ => true

def watch (r : Resource β) (notices : List (Notice β)) : Except ApiError (List (Event β)) :=
  r.answer.map fun _ => (notices.filter r.Sends).map Notice.event

end Resource

/-! ## The store -/

structure Store (β : Type) where
  namespaces : MultiNamespace
  newClientFunc : Except ApiError (Except ApiError (Population β))
  keyPrefix : String

def setEmptyManagedFields (obj : Arg β) : Arg β :=
  match accessor obj with
  | some o => if o.managedFields.isSome then .pointer { o with managedFields := none } else obj
  | none => obj

def objectFilter (ns : MultiNamespace) (o : Arg β) : Bool :=
  match accessor o with
  | some o => ns.contains [o.ns]
  | none => true

structure NSFilter (β : Type) where
  reqNS : String
  objFilter : Option (Arg β → Bool)
  shortCircuit : Bool

def filterNS (cached : MultiNamespace) (request : String) : NSFilter β :=
  if cached.isAll then ⟨request, none, false⟩
  else
    match cached.single with
    | some ns => if request = "" ∨ request = ns then ⟨ns, none, false⟩ else ⟨"", none, true⟩
    | none =>
      if request = "" then ⟨"", some (objectFilter cached), false⟩
      else if cached.contains [request] then ⟨request, none, false⟩
      else ⟨"", none, true⟩

namespace Store

def client (s : Store β) (ns : String) : Except ApiError (Resource β) :=
  s.newClientFunc.map fun answer => ⟨answer, ns⟩

def splitKey (s : Store β) (key : String) : String × String :=
  let k := trimPrefix key s.keyPrefix
  let k := trimPrefix k "/"
  let parts := splitN2 k '/'
  (parts.1, parts.2.getD "")

def get (s : Store β) (key : String) : Except ApiError (Unstructured β) :=
  let parts := s.splitKey key
  let ns := if parts.2 = "" then "" else parts.1
  let name := if parts.2 = "" then parts.1 else parts.2
  if ns ≠ "" ∧ s.namespaces.contains [ns] = false then .error .notFound
  else do
    let client ← s.client ns
    let obj ← client.get name
    return (setEmptyManagedFields (.pointer obj)).held obj

def listed (objFilter : Option (Arg β → Bool)) (items : List (Unstructured β)) :
    List (Unstructured β) :=
  -- the items are given by value
  let items := items.map fun obj => (setEmptyManagedFields (.value obj)).held obj
  let filteredItems :=
    match objFilter with
    | some f => items.filter fun obj => f (.pointer obj)
    | none => []
  if filteredItems.length > 0 then filteredItems else items

def list (s : Store β) (key : String) : Except ApiError (List (Unstructured β)) :=
  let filter : NSFilter β := filterNS s.namespaces (s.splitKey key).1
  if filter.shortCircuit then .ok []
  else do
    let client ← s.client filter.reqNS
    match client.list with
    | .error .notFound => .ok []
    | .error e => .error e
    | .ok objects => .ok (listed filter.objFilter objects)

def watched (objFilter : Option (Arg β → Bool)) (e : Event β) : Option (Event β) :=
  let e := { e with object := setEmptyManagedFields e.object }
  match objFilter with
  | some f => if f e.object then some e else none
  | none => some e

def watch (s : Store β) (key : String) (notices : List (Notice β)) :
    Except ApiError (List (Event β)) :=
  let filter : NSFilter β := filterNS s.namespaces (s.splitKey key).1
  if filter.shortCircuit then .ok []
  else do
    let client ← s.client filter.reqNS
    let events ← client.watch notices
    return events.filterMap (watched filter.objFilter)

end Store

/-! ## Keys -/

def listKey (keyPrefix : String) : Option Namespace → String
  | none => keyPrefix
  | some ns => keyPrefix ++ ("/" ++ ns.val)

def getKey (keyPrefix : String) (ns : Namespace) (name : String) : String :=
  keyPrefix ++ ("/" ++ (ns.val ++ "/" ++ name))

def requested : Option Namespace → String
  | none => ""
  | some ns => ns.val

theorem splitKey_listKey (s : Store β) (r : Option Namespace) :
    s.splitKey (listKey s.keyPrefix r) = (requested r, "") := by
  cases r with
  | none =>
    have hself : trimPrefix s.keyPrefix s.keyPrefix = "" := by
      have h := trimPrefix_append s.keyPrefix ""
      rwa [String.append_empty] at h
    have hslash : trimPrefix "" "/" = "" := by decide
    simp only [Store.splitKey, listKey, requested, hself, hslash]
    decide
  | some ns =>
    simp [Store.splitKey, listKey, requested, trimPrefix_append, splitN2_of_not_mem ns.plain]

theorem splitKey_getKey (s : Store β) (ns : Namespace) (name : String) :
    s.splitKey (getKey s.keyPrefix ns name) = (ns.val, name) := by
  have hsplit : splitN2 (ns.val ++ "/" ++ name) '/' = (ns.val, some name) :=
    splitN2_append (t := name) ns.plain
  simp [Store.splitKey, getKey, trimPrefix_append, hsplit]

/-! ## What a request is answered with -/

def inScope (cached : MultiNamespace) (request : String) (o : Unstructured β) : Bool :=
  cached.contains [o.ns] && inNamespace request o

theorem filterNS_cases (cached : MultiNamespace) (request : String)
    (hne : ∀ x ∈ cached.namespaces, x ≠ "") :
    (filterNS cached request = (⟨"", none, true⟩ : NSFilter β) ∧
      ∀ o : Unstructured β, inScope cached request o = false) ∨
    (∃ ns, filterNS cached request = (⟨ns, none, false⟩ : NSFilter β) ∧
      ∀ o : Unstructured β, inNamespace ns o = inScope cached request o) ∨
    (filterNS cached request = (⟨"", some (objectFilter cached), false⟩ : NSFilter β) ∧
      request = "" ∧ cached.isAll = false ∧ cached.single = none) := by
  unfold filterNS
  split
  next hall =>
    have hcontains : ∀ x, cached.contains [x] = true := fun x =>
      contains_singleton.mpr (Or.inl hall)
    exact Or.inr (Or.inl ⟨request, rfl, fun o => by rw [inScope, hcontains, Bool.true_and]⟩)
  next hall =>
    split
    next ns hsingle =>
      obtain ⟨hfalse, hns⟩ := single_eq_some.mp hsingle
      have hcontains : ∀ x, cached.contains [x] = decide (x = ns) := by
        intro x
        rw [Bool.eq_iff_iff, contains_singleton, hns, hfalse]
        simp
      have hnsne : ns ≠ "" := hne ns (hns ▸ List.mem_singleton_self ns)
      split
      next hreq =>
        refine Or.inr (Or.inl ⟨ns, rfl, fun o => ?_⟩)
        rw [inScope, hcontains]
        rcases hreq with rfl | rfl <;> simp [inNamespace, hnsne]
      next hreq =>
        rw [not_or] at hreq
        refine Or.inl ⟨rfl, fun o => ?_⟩
        rw [inScope, hcontains, inNamespace, decide_eq_false hreq.1, Bool.false_or,
          Bool.and_eq_false_iff, decide_eq_false_iff_not, decide_eq_false_iff_not]
        exact or_iff_not_imp_left.mpr fun h heq => hreq.2 (heq ▸ not_not.mp h)
    next hsingle =>
      split
      next hreq => exact Or.inr (Or.inr ⟨rfl, hreq, Bool.eq_false_iff.mpr hall, hsingle⟩)
      next hreq =>
        split
        next hin =>
          refine Or.inr (Or.inl ⟨request, rfl, fun o => ?_⟩)
          rw [inScope, inNamespace, decide_eq_false hreq, Bool.false_or]
          by_cases hns : o.ns = request
          · rw [hns, hin, Bool.true_and]
          · rw [decide_eq_false hns, Bool.and_false]
        next hin =>
          refine Or.inl ⟨rfl, fun o => ?_⟩
          rw [inScope, inNamespace, decide_eq_false hreq, Bool.false_or, Bool.and_eq_false_iff,
            decide_eq_false_iff_not]
          exact or_iff_not_imp_right.mpr fun h => by
            rw [not_not.mp h]
            exact Bool.eq_false_iff.mpr hin

def proxyStore (keyPrefix : String) (calls : List (List Name)) (p : Population β) : Store β where
  namespaces := selection calls
  newClientFunc := .ok (.ok p)
  keyPrefix := keyPrefix

/-- No namespace is the only one that is cached. -/
def NotSingle (calls : List (List Name)) : Prop := ¬ ∃ ns, ∀ x, Cached calls x ↔ x = ns

/-- All namespaces are requested, and `List` filters everything away. -/
def FilteredAway (calls : List (List Name)) (p : Population β) (request : Option Namespace) :
    Prop :=
  request = none ∧ NotSingle calls ∧ ∀ o ∈ p.store.objects, ¬ Cached calls o.ns

theorem listed_none (items : List (Unstructured β)) : Store.listed none items = items := by
  simp [Store.listed, setEmptyManagedFields, accessor, Arg.held]

theorem listed_objectFilter (cached : MultiNamespace) (items : List (Unstructured β)) :
    Store.listed (some (objectFilter cached)) items =
      if ∃ o ∈ items, cached.contains [o.ns] = true then
        items.filter fun o => cached.contains [o.ns]
      else items := by
  have hitems : items.map (fun obj => (setEmptyManagedFields (.value obj)).held obj) = items := by
    simp [setEmptyManagedFields, accessor, Arg.held]
  simp [Store.listed, hitems, objectFilter, accessor]

variable {keyPrefix : String} {calls : List (List Name)} {p : Population β}
  {request : Option Namespace}

theorem notSingle_of_single_eq_none (hall : (selection calls).isAll = false)
    (hsingle : (selection calls).single = none) : NotSingle calls := by
  rintro ⟨ns, hns⟩
  have hmem : ∀ x, x ∈ (selection calls).namespaces ↔ x = ns := by
    intro x
    rw [← hns, ← contains_selection, contains_singleton, hall]
    simp
  have hlist : (selection calls).namespaces = [ns] := by
    have hnodup := (selection calls).nodup
    match hl : (selection calls).namespaces, hmem with
    | [], hmem => exact absurd ((hmem ns).mpr rfl) (List.not_mem_nil)
    | [x], hmem => rw [(hmem x).mp (List.mem_singleton_self x)]
    | x :: y :: rest, hmem =>
      have hx := (hmem x).mp List.mem_cons_self
      have hy := (hmem y).mp (List.mem_cons_of_mem x List.mem_cons_self)
      rw [hl, hx, hy] at hnodup
      exact absurd List.mem_cons_self (List.nodup_cons.mp hnodup).1
  rw [single_eq_some.mpr ⟨hall, hlist⟩] at hsingle
  cases hsingle

def Shows (calls : List (List Name)) (request : Option Namespace) (o : Unstructured β) : Bool :=
  Cached calls o.ns && request.all fun ns => o.ns = ns.val

theorem inScope_selection :
    inScope (β := β) (selection calls) (requested request) = Shows calls request := by
  funext o
  have hcached : (selection calls).contains [o.ns] = decide (Cached calls o.ns) := by
    rw [Bool.eq_iff_iff, contains_selection, decide_eq_true_iff]
  rw [inScope, Shows, hcached]
  cases request with
  | none => simp [inNamespace, requested]
  | some ns => rw [inNamespace, requested, decide_eq_false ns.ne, Bool.false_or, Option.all_some]

theorem list_eq (h : ¬ FilteredAway calls p request) :
    (proxyStore keyPrefix calls p).list (listKey keyPrefix request) =
      .ok (p.store.objects.filter (Shows calls request)) := by
  rw [← inScope_selection]
  have hkey := splitKey_listKey (proxyStore keyPrefix calls p) request
  rw [show (proxyStore keyPrefix calls p).keyPrefix = keyPrefix from rfl] at hkey
  unfold Store.list
  rw [hkey]
  rcases filterNS_cases (β := β) (selection calls) (requested request) (selection_ne calls) with
    ⟨hf, hnone⟩ | ⟨ns, hf, hns⟩ | ⟨hf, hreq, hall, hsingle⟩
  · simp [proxyStore, hf, hnone]
  · simp [proxyStore, hf, Store.client, Resource.list, listed_none, funext hns, Except.map, bind,
      Except.bind]
  · have hnone : request = none := by
      cases request with
      | none => rfl
      | some ns => exact absurd hreq ns.ne
    have hsome : ∃ o ∈ p.store.objects, (selection calls).contains [o.ns] = true := by
      by_contra hno
      refine h ⟨hnone, notSingle_of_single_eq_none hall hsingle, fun o ho hc => hno ⟨o, ho, ?_⟩⟩
      exact contains_selection.mpr hc
    have hscope : inScope (selection calls) (requested request) =
        fun o : Unstructured β => (selection calls).contains [o.ns] := by
      funext o
      simp [inScope, hreq, inNamespace]
    simp [proxyStore, hf, Store.client, Resource.list, listed_objectFilter, Except.map, bind,
      Except.bind, inNamespace, hsome, hscope]

theorem single_eq_none_of_notSingle (h : NotSingle calls) : (selection calls).single = none := by
  by_contra hsome
  obtain ⟨ns, hns⟩ := Option.ne_none_iff_exists'.mp hsome
  obtain ⟨hall, hlist⟩ := single_eq_some.mp hns
  refine h ⟨ns, fun x => ?_⟩
  rw [← contains_selection, contains_singleton, hall, hlist]
  simp

theorem list_of_filteredAway (h : FilteredAway calls p request) :
    (proxyStore keyPrefix calls p).list (listKey keyPrefix request) = .ok p.store.objects := by
  obtain ⟨rfl, hsingle, hnone⟩ := h
  have hkey := splitKey_listKey (proxyStore keyPrefix calls p) none
  rw [show (proxyStore keyPrefix calls p).keyPrefix = keyPrefix from rfl] at hkey
  unfold Store.list
  rw [hkey]
  have hno : ¬ ∃ o ∈ p.store.objects, (selection calls).contains [o.ns] = true :=
    fun ⟨o, ho, hc⟩ => hnone o ho (contains_selection.mp hc)
  cases hall : (selection calls).isAll with
  | true => simp [proxyStore, filterNS, hall, Store.client, Resource.list, listed_none, Except.map,
      bind, Except.bind, requested, inNamespace]
  | false => simp [proxyStore, filterNS, hall, single_eq_none_of_notSingle hsingle, requested,
      Store.client, Resource.list, listed_objectFilter, hno, Except.map, bind, Except.bind,
      inNamespace]

/-! ## Watch and Get -/

def Event.change? (e : Event β) : Option (EventType × Unstructured β) :=
  (accessor e.object).map fun o => (e.type, o)

def changes (events : List (Event β)) : List (EventType × Unstructured β) :=
  events.filterMap Event.change?

def Notice.change? : Notice β → Option (EventType × Unstructured β)
  | .change type o => some (type, o)
  | .failure _ => none

def Unstructured.withoutManagedFields (o : Unstructured β) : Unstructured β :=
  { o with managedFields := none }

theorem setEmptyManagedFields_pointer (o : Unstructured β) :
    setEmptyManagedFields (.pointer o) = .pointer o.withoutManagedFields := by
  simp only [setEmptyManagedFields, accessor]
  split
  · rfl
  next h =>
    have hnone : o.managedFields = none := Option.not_isSome_iff_eq_none.mp h
    rw [Unstructured.withoutManagedFields, ← hnone]

def shown (calls : List (List Name)) (request : Option Namespace) (notices : List (Notice β)) :
    List (EventType × Unstructured β) :=
  ((notices.filterMap Notice.change?).filter fun c => Shows calls request c.2).map
    fun c => (c.1, c.2.withoutManagedFields)

variable (objFilter : Option (Arg β → Bool))

theorem watched_pointer (type : EventType) (o : Unstructured β) :
    (Store.watched objFilter ⟨type, .pointer o⟩).bind Event.change? =
      if objFilter.all fun f => f (.pointer o.withoutManagedFields) then
        some (type, o.withoutManagedFields)
      else none := by
  simp only [Store.watched, setEmptyManagedFields_pointer]
  cases objFilter with
  | none => rfl
  | some f =>
    cases h : f (.pointer o.withoutManagedFields) <;> simp [h, Event.change?, accessor]

theorem watched_status (type : EventType) (msg : String) :
    (Store.watched objFilter ⟨type, .status msg⟩).bind Event.change? = none := by
  simp only [Store.watched, setEmptyManagedFields, accessor]
  cases objFilter with
  | none => rfl
  | some f => cases h : f (.status msg) <;> simp [h, Event.change?, accessor]

theorem changes_watched (r : Resource β)
    (hscope : ∀ o : Unstructured β, Shows calls request o = (inNamespace r.ns o && objFilter.all
      fun f => f (.pointer o.withoutManagedFields))) (notices : List (Notice β)) :
    changes (((notices.filter r.Sends).map Notice.event).filterMap (Store.watched objFilter)) =
      shown calls request notices := by
  -- both sides look at the notices one by one
  rw [changes, shown, List.filterMap_filterMap, List.filterMap_map, List.filterMap_filter,
    List.filter_filterMap, List.map_filterMap]
  refine List.filterMap_congr fun notice _ => ?_
  cases notice with
  | failure msg =>
    rw [Resource.Sends, if_pos rfl, Function.comp_apply, Notice.event, watched_status]
    rfl
  | change type o =>
    rw [Resource.Sends, Function.comp_apply, Notice.event, watched_pointer, Notice.change?,
      Option.filter_some, hscope]
    cases inNamespace r.ns o with
    | false => rfl
    | true =>
      rw [if_pos rfl, Bool.true_and, apply_ite (Option.map _)]
      rfl

theorem watch_eq (keyPrefix : String) (calls : List (List Name)) (p : Population β)
    (request : Option Namespace) (notices : List (Notice β)) :
    ∃ events, (proxyStore keyPrefix calls p).watch (listKey keyPrefix request) notices =
        .ok events ∧ changes events = shown calls request notices := by
  have hkey := splitKey_listKey (proxyStore keyPrefix calls p) request
  rw [show (proxyStore keyPrefix calls p).keyPrefix = keyPrefix from rfl] at hkey
  unfold Store.watch
  rw [hkey]
  rcases filterNS_cases (β := β) (selection calls) (requested request) (selection_ne calls) with
    ⟨hf, hnone⟩ | ⟨ns, hf, hns⟩ | ⟨hf, hreq, -, -⟩
  · have hshows : Shows (β := β) calls request = fun _ => false := by
      rw [← inScope_selection]
      exact funext hnone
    exact ⟨[], by simp [proxyStore, hf], by simp [changes, shown, hshows]⟩
  · refine ⟨((notices.filter (Resource.mk (.ok p) ns).Sends).map Notice.event).filterMap
      (Store.watched none), by simp [proxyStore, hf, Store.client, Resource.watch, Except.map,
        bind, Except.bind, pure, Except.pure], ?_⟩
    exact changes_watched none _ (fun o => by
      rw [← inScope_selection, ← hns, Option.all_none, Bool.and_true]) notices
  · refine ⟨((notices.filter (Resource.mk (.ok p) "").Sends).map Notice.event).filterMap
      (Store.watched (some (objectFilter (selection calls)))), by simp [proxyStore, hf,
        Store.client, Resource.watch, Except.map, bind, Except.bind, pure, Except.pure], ?_⟩
    refine changes_watched _ _ (fun o => ?_) notices
    rw [← inScope_selection, inScope, hreq, Bool.and_comm]
    rfl

theorem get_isOk_iff (keyPrefix : String) (calls : List (List Name)) (p : Population β)
    (ns : Namespace) (name : String) :
    (∃ o, (proxyStore keyPrefix calls p).get (getKey keyPrefix ns name) = .ok o) ↔
      Cached calls ns.val ∧ ∃ o ∈ p.store.objects, o.ns = ns.val ∧ o.name = name := by
  have hkey := splitKey_getKey (proxyStore keyPrefix calls p) ns name
  rw [show (proxyStore keyPrefix calls p).keyPrefix = keyPrefix from rfl] at hkey
  unfold Store.get
  rw [hkey]
  simp only [proxyStore, Store.client, Except.map, bind, Except.bind, Resource.get]
  by_cases hname : name = ""
  · -- the namespace is then read as the name of an object without one, and there is none
    have hget : p.store.get? ("", ns.val) = none :=
      Go.Store.get?_eq_none.mpr fun o ho heq => (p.named o ho).1 (congrArg Prod.fst heq)
    simp only [hname, if_true, ne_eq, not_true_eq_false, false_and, if_false, hget]
    constructor
    · rintro ⟨o, ho⟩
      cases ho
    · rintro ⟨-, o, ho, -, hempty⟩
      exact absurd hempty (p.named o ho).2
  · simp only [hname, if_false, ne_eq, ns.ne, not_false_eq_true, true_and]
    rw [← contains_selection]
    cases hc : (selection calls).contains [ns.val] with
    | false => simp
    | true =>
      cases hget : p.store.get? (ns.val, name) with
      | none =>
        have hno := Go.Store.get?_eq_none.mp hget
        simpa [pure, Except.pure] using hno
      | some o =>
        obtain ⟨ho, hkey⟩ := Go.Store.get?_eq_some.mp hget
        rw [Prod.mk.injEq] at hkey
        simpa [pure, Except.pure] using ⟨o, ho, hkey⟩

/-! ## Isolation -/

/-- What is cached and requested is shown, without the managed fields. -/
structure Isolated (keyPrefix : String) (calls : List (List Name)) (p : Population β)
    (request : Option Namespace) : Prop where
  list : (proxyStore keyPrefix calls p).list (listKey keyPrefix request) =
    .ok ((p.store.objects.filter (Shows calls request)).map Unstructured.withoutManagedFields)
  watch : ∀ notices : List (Notice β), ∃ events,
    (proxyStore keyPrefix calls p).watch (listKey keyPrefix request) notices = .ok events ∧
      changes events = shown calls request notices
  get : ∀ ns name, request = some ns →
    ((∃ o, (proxyStore keyPrefix calls p).get (getKey keyPrefix ns name) = .ok o) ↔
      ∃ items, (proxyStore keyPrefix calls p).list (listKey keyPrefix request) = .ok items ∧
        ∃ o ∈ items, o.ns = ns.val ∧ o.name = name)

/-- No object in scope has managed fields or is filtered away. -/
def Harmless (calls : List (List Name)) (p : Population β) (request : Option Namespace) : Prop :=
  (∀ o ∈ p.store.objects, Shows calls request o = true → o.managedFields = none) ∧
  (FilteredAway calls p request → p.store.objects = [])

theorem map_withoutManagedFields_eq_self {l : List (Unstructured β)} :
    l = l.map Unstructured.withoutManagedFields ↔ ∀ o ∈ l, o.managedFields = none := by
  constructor
  · intro h o ho
    rw [h] at ho
    obtain ⟨o', -, rfl⟩ := List.mem_map.mp ho
    rfl
  · intro h
    conv_lhs => rw [← List.map_id l]
    refine List.map_congr_left fun o ho => ?_
    rw [Unstructured.withoutManagedFields, ← h o ho, id]

theorem filter_shows_of_filteredAway (h : FilteredAway calls p request) :
    p.store.objects.filter (Shows calls request) = [] := by
  refine List.filter_eq_nil_iff.mpr fun o ho hshows => h.2.2 o ho ?_
  rw [Shows, Bool.and_eq_true, decide_eq_true_iff] at hshows
  exact hshows.1

theorem list_isolated_iff :
    (proxyStore keyPrefix calls p).list (listKey keyPrefix request) =
        .ok ((p.store.objects.filter (Shows calls request)).map
          Unstructured.withoutManagedFields) ↔
      Harmless calls p request := by
  by_cases haway : FilteredAway calls p request
  · rw [list_of_filteredAway haway, filter_shows_of_filteredAway haway, List.map_nil,
      Except.ok.injEq]
    constructor
    · intro hnil
      exact ⟨fun o ho => absurd (hnil ▸ ho) List.not_mem_nil, fun _ => hnil⟩
    · exact fun h => h.2 haway
  · rw [list_eq haway, Except.ok.injEq, map_withoutManagedFields_eq_self]
    constructor
    · intro h
      exact ⟨fun o ho hs => h o (List.mem_filter.mpr ⟨ho, hs⟩), fun h => absurd h haway⟩
    · intro h o ho
      obtain ⟨hmem, hs⟩ := List.mem_filter.mp ho
      exact h.1 o hmem hs

theorem get_iff_listed (keyPrefix : String) (calls : List (List Name)) (p : Population β)
    (ns : Namespace) (name : String) :
    (∃ o, (proxyStore keyPrefix calls p).get (getKey keyPrefix ns name) = .ok o) ↔
      ∃ items, (proxyStore keyPrefix calls p).list (listKey keyPrefix (some ns)) = .ok items ∧
        ∃ o ∈ items, o.ns = ns.val ∧ o.name = name := by
  have hnot : ¬ FilteredAway calls p (some ns) := fun h => nomatch h.1
  rw [get_isOk_iff, list_eq hnot]
  constructor
  · rintro ⟨hc, o, ho, hns, hname⟩
    refine ⟨_, rfl, o, List.mem_filter.mpr ⟨ho, ?_⟩, hns, hname⟩
    rw [Shows, Option.all_some, hns, decide_eq_true hc, decide_eq_true rfl, Bool.and_self]
  · rintro ⟨items, hitems, o, ho, hns, hname⟩
    cases hitems
    obtain ⟨hmem, hs⟩ := List.mem_filter.mp ho
    rw [Shows, Bool.and_eq_true, decide_eq_true_iff, hns] at hs
    exact ⟨hs.1, o, hmem, hns, hname⟩

/-- The proxy isolates the cached namespaces exactly if what it shows is harmless. -/
theorem isolated_iff (keyPrefix : String) (calls : List (List Name)) (p : Population β)
    (request : Option Namespace) :
    Isolated keyPrefix calls p request ↔ Harmless calls p request := by
  constructor
  · exact fun h => list_isolated_iff.mp h.list
  · intro h
    refine ⟨list_isolated_iff.mpr h, watch_eq keyPrefix calls p request, ?_⟩
    rintro ns name rfl
    exact get_iff_listed keyPrefix calls p ns name

def strayPopulation : Population Unit where
  store := ⟨[⟨"kube-system", "token", none, ()⟩], by decide⟩
  named := by decide

def twoNamespaces : List (List Name) := [[⟨"a", by decide⟩], [⟨"b", by decide⟩]]

theorem list_gives_stray_away :
    (proxyStore "/core/v1/secrets" twoNamespaces strayPopulation).list "/core/v1/secrets" =
        .ok strayPopulation.store.objects ∧
      ¬ Isolated "/core/v1/secrets" twoNamespaces strayPopulation none := by
  have hlist : (proxyStore "/core/v1/secrets" twoNamespaces strayPopulation).list
      "/core/v1/secrets" = .ok strayPopulation.store.objects := by decide +kernel
  refine ⟨hlist, fun h => ?_⟩
  have hshould := h.list
  rw [listKey, hlist, Except.ok.injEq] at hshould
  revert hshould
  decide +kernel

end Kosmos.Proxy
