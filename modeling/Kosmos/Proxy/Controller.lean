import Kosmos.Proxy.Store
import Mathlib.Data.List.Perm.Subperm

/-!
# Which resources the proxy caches

A sync merges the selectors of all objects, and stops and starts caches.

The rest mapper is any pair of functions, one for each sync.
-/

namespace Kosmos.Proxy

open Go MultiNamespace

/-! ## Objects -/

structure GroupVersionKind where
  group : String
  version : String
  kind : String
  deriving DecidableEq

structure GroupVersionResource where
  group : String
  version : String
  resource : String
  deriving DecidableEq

structure ResourceCacheSelector where
  apiVersion : String
  kind : String
  namespaces : List String

structure ResourceCache where
  resourceCacheSelectors : List ResourceCacheSelector

structure RESTMapping where
  resource : GroupVersionResource
  namespaced : Bool

structure RESTMapper where
  restMapping : (group kind version : String) → Except String RESTMapping
  kindFor : GroupVersionResource → Except String GroupVersionKind

def parseGroupVersion (gv : String) : Option (String × String) :=
  if gv = "" ∨ gv = "/" then some ("", "")
  else
    match split gv '/' with
    | [version] => some ("", version)
    | [group, version] => some (group, version)
    | _ => none

def fromAPIVersionAndKind (apiVersion kind : String) : GroupVersionKind :=
  match parseGroupVersion apiVersion with
  | some (group, version) => ⟨group, version, kind⟩
  | none => ⟨"", "", kind⟩

def getGroupVersionResource (restMapper : RESTMapper) (gvk : GroupVersionKind) :
    Except String GroupVersionResource := do
  let restMapping ← restMapper.restMapping gvk.group gvk.kind gvk.version
  return restMapping.resource

def MultiNamespace.equal (n another : MultiNamespace) : Bool :=
  if n.isAll ≠ another.isAll then false
  else if n.isAll && another.isAll then true
  else decide (n.namespaces.length = another.namespaces.length) && n.hasAll another.namespaces

/-! ## The store -/

structure RunningCache where
  kind : GroupVersionKind
  namespaced : Bool
  namespaces : MultiNamespace

inductive CacheOp where
  | stop (gvr : GroupVersionResource)
  | start (gvr : GroupVersionResource)
  deriving DecidableEq

structure ClusterCache where
  cache : GoMap GroupVersionResource RunningCache
  journal : List CacheOp

def newClusterCache : ClusterCache := ⟨.empty, []⟩

abbrev Resources := GoMap GroupVersionResource MultiNamespace

structure Sync where
  listErr : Option String := none
  resourceCaches : List ResourceCache
  restMapper : RESTMapper
  newErr : GroupVersionResource → Option String := fun _ => none
  cacheOrder : RangeOrder (GroupVersionResource × RunningCache) := .asWritten
  resourceOrder : RangeOrder (GroupVersionResource × MultiNamespace) := .asWritten

def stays (resources : Resources) (gvr : GroupVersionResource) (rc : RunningCache) : Bool :=
  match resources.get? gvr with
  | none => false
  | some namespaces => rc.namespaces.equal namespaces

def removeCache (resources : Resources) (c : ClusterCache)
    (e : GroupVersionResource × RunningCache) : ClusterCache :=
  if stays resources e.1 e.2 then c
  else { cache := c.cache.delete e.1, journal := c.journal ++ [.stop e.1] }

def newResourceCache (s : Sync) (gvr : GroupVersionResource) (namespaces : MultiNamespace) :
    Except String RunningCache := do
  let kind ← s.restMapper.kindFor gvr
  let mapping ← s.restMapper.restMapping kind.group kind.kind kind.version
  match s.newErr gvr with
  | some err => .error err
  | none => .ok ⟨kind, mapping.namespaced, namespaces⟩

def addCaches (s : Sync) :
    List (GroupVersionResource × MultiNamespace) → ClusterCache → Option String × ClusterCache
  | [], c => (none, c)
  | (gvr, namespaces) :: rest, c =>
    if (c.cache.get? gvr).isSome then addCaches s rest c
    else
      match newResourceCache s gvr namespaces with
      | .error err => (some err, c)
      | .ok rc =>
        addCaches s rest
          { cache := c.cache.set gvr rc, journal := c.journal ++ [.start gvr] }

def updateCache (s : Sync) (resources : Resources) (c : ClusterCache) :
    Option String × ClusterCache :=
  let c := (s.cacheOrder.visit c.cache.entries).foldl (removeCache resources) c
  addCaches s (s.resourceOrder.visit resources.entries) c

/-! ## The sync -/

def addSelector (restMapper : RESTMapper) (cachedResources : Resources)
    (selector : ResourceCacheSelector) : Resources :=
  match getGroupVersionResource restMapper
      (fromAPIVersionAndKind selector.apiVersion selector.kind) with
  | .error _ => cachedResources
  | .ok gvr =>
    let nsSelector := (cachedResources.get? gvr).getD newMultiNamespace
    cachedResources.set gvr (nsSelector.add selector.namespaces)

def cachedResources (restMapper : RESTMapper) (resourceCaches : List ResourceCache) : Resources :=
  resourceCaches.foldl
    (fun m resourceCache => resourceCache.resourceCacheSelectors.foldl (addSelector restMapper) m)
    .empty

def syncResourceCache (s : Sync) (c : ClusterCache) : Option String × ClusterCache :=
  match s.listErr with
  | some err => (some err, c)
  | none => updateCache s (cachedResources s.restMapper s.resourceCaches) c

def afterSyncs (history : List Sync) : ClusterCache :=
  history.foldl (fun c s => (syncResourceCache s c).2) newClusterCache

/-! ## What is selected -/

section Selection

variable (restMapper : RESTMapper) (selectors : List ResourceCacheSelector)

def selectorsOf (resourceCaches : List ResourceCache) : List ResourceCacheSelector :=
  resourceCaches.flatMap ResourceCache.resourceCacheSelectors

def selected (gvr : GroupVersionResource) : List (List String) :=
  selectors.filterMap fun selector =>
    if getGroupVersionResource restMapper
        (fromAPIVersionAndKind selector.apiVersion selector.kind) = .ok gvr
    then some selector.namespaces else none

end Selection

/-- The selection is the union of the lists; an empty one stands for all. -/
structure Describes (n : MultiNamespace) (lists : List (List String)) : Prop where
  all : n.isAll = true ↔ [] ∈ lists
  union : n.isAll = false → ∀ ns, ns ∈ n.namespaces ↔ ∃ list ∈ lists, ns ∈ list

/-- The two select the same namespaces. -/
def MultiNamespace.Same (n n' : MultiNamespace) : Prop :=
  n.isAll = n'.isAll ∧ (n.isAll = false → ∀ ns, ns ∈ n.namespaces ↔ ns ∈ n'.namespaces)

/-- Exactly the selected resources are cached, each with its namespaces. -/
structure CachesExactly (c : ClusterCache) (restMapper : RESTMapper)
    (selectors : List ResourceCacheSelector) : Prop where
  resources : ∀ gvr, (c.cache.get? gvr).isSome = true ↔ selected restMapper selectors gvr ≠ []
  namespaces : ∀ gvr rc, c.cache.get? gvr = some rc →
    Describes rc.namespaces (selected restMapper selectors gvr)

/-- The caches of two stores are alike. -/
def SameCaches (c c' : ClusterCache) : Prop :=
  ∀ gvr, Option.Rel (fun rc rc' => rc.kind = rc'.kind ∧ rc.namespaced = rc'.namespaced ∧
    rc.namespaces.Same rc'.namespaces) (c.cache.get? gvr) (c'.cache.get? gvr)

/-- The cache of a resource was neither stopped nor started. -/
def Untouched (c c' : ClusterCache) (gvr : GroupVersionResource) : Prop :=
  c'.cache.get? gvr = c.cache.get? gvr ∧
    ∃ ops, c'.journal = c.journal ++ ops ∧ CacheOp.stop gvr ∉ ops ∧ CacheOp.start gvr ∉ ops

/-- Two syncs that find the same, in some other order. -/
structure SameInput (s s' : Sync) : Prop where
  listErr : s.listErr = s'.listErr
  restMapper : s.restMapper = s'.restMapper
  newErr : s.newErr = s'.newErr
  selectors : (selectorsOf s.resourceCaches).Perm (selectorsOf s'.resourceCaches)

/-! ## Merging selections -/

theorem describes_new : Describes newMultiNamespace [] where
  all := by simp [newMultiNamespace]
  union := fun _ ns => by simp [newMultiNamespace]

variable {n : MultiNamespace} {lists : List (List String)} {n' : MultiNamespace}
  {resourceCaches : List ResourceCache} {rc : RunningCache}

theorem Describes.add (h : Describes n lists) (list : List String) :
    Describes (n.add list) (lists ++ [list]) := by
  have hunion : ∀ ns, (∃ l ∈ lists ++ [list], ns ∈ l) ↔ (∃ l ∈ lists, ns ∈ l) ∨ ns ∈ list := by
    simp [or_and_right, exists_or]
  unfold MultiNamespace.add
  split
  next hnil =>
    have hnil : list = [] := List.length_eq_zero_iff.mp hnil
    refine ⟨?_, fun hall => absurd hall Bool.false_ne_true.symm⟩
    simp [hnil]
  next hne =>
    have hne : list ≠ [] := fun hnil => hne (by rw [hnil, List.length_nil])
    have hlists : [] ∈ lists ++ [list] ↔ [] ∈ lists := by
      rw [List.mem_append, List.mem_singleton]
      exact or_iff_left hne.symm
    split
    next hin =>
      refine ⟨h.all.trans hlists.symm, fun hall ns => ?_⟩
      -- what is added is in the set already
      rw [hall, Bool.false_or, hasAll, List.all_eq_true] at hin
      rw [hunion, ← h.union hall]
      exact (or_iff_left_of_imp fun hns => of_decide_eq_true (hin ns hns)).symm
    next hout =>
      have hall : n.isAll = false := by
        cases hisAll : n.isAll with
        | false => rfl
        | true => exact absurd (by rw [hisAll]; rfl) hout
      refine ⟨h.all.trans hlists.symm, fun _ ns => ?_⟩
      rw [mem_insertAll, h.union hall, hunion]

theorem Describes.same {lists' : List (List String)} (h : Describes n lists)
    (h' : Describes n' lists') (hperm : lists.Perm lists') : n.Same n' := by
  have hall : n.isAll = n'.isAll := by
    rw [Bool.eq_iff_iff, h.all, h'.all]
    exact hperm.mem_iff
  refine ⟨hall, fun hno ns => ?_⟩
  rw [h.union hno, h'.union (hall ▸ hno)]
  exact exists_congr fun l => and_congr_left' hperm.mem_iff

theorem Describes.of_same (h : Describes n' lists) (hsame : n.Same n') : Describes n lists where
  all := by rw [hsame.1, h.all]
  union := fun hno ns => (hsame.2 hno ns).trans (h.union (hsame.1 ▸ hno) ns)

theorem equal_iff_same : n.equal n' = true ↔ n.Same n' := by
  unfold MultiNamespace.equal MultiNamespace.Same
  by_cases hall : n.isAll = n'.isAll
  · rw [if_neg (not_not.mpr hall), ← hall]
    cases hno : n.isAll with
    | true => simp
    | false =>
      simp only [Bool.and_self, Bool.false_eq_true, if_false, Bool.and_eq_true,
        decide_eq_true_eq, hasAll, List.all_eq_true, true_and, forall_const]
      constructor
      · rintro ⟨hlen, hsub⟩ ns
        have hperm : n'.namespaces.Perm n.namespaces :=
          (List.subperm_of_subset n'.nodup hsub).perm_of_length_le hlen.le
        exact hperm.mem_iff.symm
      · intro h
        have hperm : n.namespaces.Perm n'.namespaces := by
          rw [List.perm_ext_iff_of_nodup n.nodup n'.nodup]
          exact h
        exact ⟨hperm.length_eq, fun ns hns => (h ns).mpr hns⟩
  · rw [if_pos hall]
    exact iff_of_false Bool.false_ne_true fun h => hall h.1

/-! ## The merged map -/

section Merge

variable (restMapper : RESTMapper)

theorem cachedResources_eq (resourceCaches : List ResourceCache) :
    cachedResources restMapper resourceCaches =
      (selectorsOf resourceCaches).foldl (addSelector restMapper) .empty :=
  List.foldl_flatMap.symm

theorem selected_append (l l' : List ResourceCacheSelector) (gvr : GroupVersionResource) :
    selected restMapper (l ++ l') gvr =
      selected restMapper l gvr ++ selected restMapper l' gvr :=
  List.filterMap_append

theorem foldl_addSelector_spec (selectors : List ResourceCacheSelector)
    (gvr : GroupVersionResource) :
    match (selectors.foldl (addSelector restMapper) .empty).get? gvr with
    | none => selected restMapper selectors gvr = []
    | some n => selected restMapper selectors gvr ≠ [] ∧
        Describes n (selected restMapper selectors gvr) := by
  induction selectors using List.reverseRecOn with
  | nil => rfl
  | append_singleton selectors selector ih =>
    rw [List.foldl_append, List.foldl_cons, List.foldl_nil, selected_append]
    generalize selectors.foldl (addSelector restMapper) .empty = m at ih
    unfold addSelector
    cases hgvr : getGroupVersionResource restMapper
        (fromAPIVersionAndKind selector.apiVersion selector.kind) with
    | error err =>
      have hnone : selected restMapper [selector] gvr = [] := by simp [selected, hgvr]
      rw [hnone, List.append_nil]
      exact ih
    | ok gvr' =>
      by_cases heq : gvr = gvr'
      · have hone : selected restMapper [selector] gvr = [selector.namespaces] := by
          simp [selected, hgvr, heq]
        simp only [heq, GoMap.get?_set_self] at ih hone ⊢
        rw [hone]
        refine ⟨List.append_ne_nil_of_right_ne_nil _ (List.cons_ne_nil _ _), ?_⟩
        cases hget : m.get? gvr' with
        | none =>
          rw [hget] at ih
          rw [ih]
          exact describes_new.add _
        | some n =>
          rw [hget] at ih
          exact ih.2.add _
      · have hnone : selected restMapper [selector] gvr = [] := by
          simp [selected, hgvr, Ne.symm heq]
        simp only [GoMap.get?_set_of_ne _ _ heq]
        rw [hnone, List.append_nil]
        exact ih

variable {restMapper}

theorem get?_cachedResources {gvr : GroupVersionResource} :
    ((cachedResources restMapper resourceCaches).get? gvr).isSome = true ↔
      selected restMapper (selectorsOf resourceCaches) gvr ≠ [] := by
  have h := foldl_addSelector_spec restMapper (selectorsOf resourceCaches) gvr
  rw [← cachedResources_eq] at h
  split at h
  next hnone => simp [hnone, h]
  next hsome => simp [hsome, h.1]

theorem cachedResources_describes {gvr : GroupVersionResource}
    (hget : (cachedResources restMapper resourceCaches).get? gvr = some n) :
    Describes n (selected restMapper (selectorsOf resourceCaches) gvr) := by
  have h := foldl_addSelector_spec restMapper (selectorsOf resourceCaches) gvr
  rw [← cachedResources_eq, hget] at h
  exact h.2

end Merge

/-! ## The loops of `UpdateCache` -/

section Loops

variable {s : Sync} {resources : Resources} {c : ClusterCache} {gvr : GroupVersionResource}

theorem get?_foldl_removeCache (l : List (GroupVersionResource × RunningCache))
    (c : ClusterCache) :
    (l.foldl (removeCache resources) c).cache.get? gvr =
      if l.any fun e => e.1 = gvr && !stays resources e.1 e.2 then none
      else c.cache.get? gvr := by
  induction l generalizing c with
  | nil => simp
  | cons e l ih =>
    rw [List.foldl_cons, ih, List.any_cons]
    unfold removeCache
    cases hstays : stays resources e.1 e.2 with
    | true => rw [Bool.not_true, Bool.and_false, Bool.false_or, if_pos rfl]
    | false =>
      rw [Bool.not_false, Bool.and_true, if_neg Bool.false_ne_true, GoMap.get?_delete]
      by_cases hkey : gvr = e.1
      · rw [if_pos hkey, ite_self, decide_eq_true hkey.symm, Bool.true_or, if_pos rfl]
      · rw [if_neg hkey, decide_eq_false (Ne.symm hkey), Bool.false_or]

theorem journal_foldl_removeCache (resources : Resources)
    (l : List (GroupVersionResource × RunningCache)) (c : ClusterCache) :
    (l.foldl (removeCache resources) c).journal =
      c.journal ++ (l.filter fun e => !stays resources e.1 e.2).map fun e => .stop e.1 := by
  induction l generalizing c with
  | nil => simp
  | cons e l ih =>
    rw [List.foldl_cons, ih]
    unfold removeCache
    cases hstays : stays resources e.1 e.2 with
    | true => simp [hstays]
    | false => simp [hstays]

def removed (s : Sync) (resources : Resources) (c : ClusterCache) : ClusterCache :=
  (s.cacheOrder.visit c.cache.entries).foldl (removeCache resources) c

theorem get?_removed :
    (removed s resources c).cache.get? gvr =
      (c.cache.get? gvr).filter (stays resources gvr) := by
  unfold removed
  rw [get?_foldl_removeCache, (s.cacheOrder.perm c.cache.entries).any_eq]
  cases hget : c.cache.get? gvr with
  | none => rw [Option.filter_none, ite_self]
  | some rc =>
    -- the map has one cache for each resource
    have hany : (c.cache.entries.any fun e => e.1 = gvr && !stays resources e.1 e.2) =
        !stays resources gvr rc := by
      rw [Bool.eq_iff_iff, List.any_eq_true]
      constructor
      · rintro ⟨e, he, hgone⟩
        rw [Bool.and_eq_true, decide_eq_true_eq] at hgone
        obtain ⟨rfl, hgone⟩ := hgone
        have hrc : some e.2 = some rc := (GoMap.get?_eq_some.mpr he).symm.trans hget
        rwa [Option.some.inj hrc] at hgone
      · intro hgone
        exact ⟨(gvr, rc), GoMap.get?_eq_some.mp hget, by simp [hgone]⟩
    rw [hany]
    cases hstays : stays resources gvr rc with
    | false => simp [Option.filter, hstays]
    | true => simp [Option.filter, hstays]

section Added

variable (l : List (GroupVersionResource × MultiNamespace)) (c : ClusterCache)

theorem get?_addCaches_of_some (h : c.cache.get? gvr = some rc) :
    (addCaches s l c).2.cache.get? gvr = some rc := by
  induction l generalizing c with
  | nil => exact h
  | cons e l ih =>
    unfold addCaches
    split
    · exact ih c h
    next habsent =>
      split
      · exact h
      · apply ih
        rw [GoMap.get?_set_of_ne _ _ _, h]
        rintro rfl
        exact habsent (by rw [h]; rfl)

theorem journal_addCaches :
    ∃ ops, (addCaches s l c).2.journal = c.journal ++ ops ∧
      ∀ op ∈ ops, ∃ gvr, op = .start gvr ∧ c.cache.get? gvr = none := by
  induction l generalizing c with
  | nil => exact ⟨[], (List.append_nil _).symm, fun op hop => absurd hop List.not_mem_nil⟩
  | cons e l ih =>
    unfold addCaches
    split
    · exact ih c
    next habsent =>
      split
      · exact ⟨[], (List.append_nil _).symm, fun op hop => absurd hop List.not_mem_nil⟩
      next rc _ =>
        have habsent : c.cache.get? e.1 = none := by simpa using habsent
        obtain ⟨ops, hjournal, hops⟩ := ih
          { cache := c.cache.set e.1 rc, journal := c.journal ++ [.start e.1] }
        refine ⟨.start e.1 :: ops, hjournal.trans (List.append_assoc _ _ _), ?_⟩
        rintro op (_ | ⟨_, hop⟩)
        · exact ⟨e.1, rfl, habsent⟩
        · obtain ⟨gvr, rfl, hgvr⟩ := hops op hop
          refine ⟨gvr, rfl, ?_⟩
          by_cases hkey : gvr = e.1
          · rw [hkey, habsent]
          · rwa [GoMap.get?_set_of_ne _ _ hkey] at hgvr

theorem addCaches_eq_none_iff (hnodup : (l.map Prod.fst).Nodup) :
    (addCaches s l c).1 = none ↔
      ∀ e ∈ l, c.cache.get? e.1 = none → ∃ rc, newResourceCache s e.1 e.2 = .ok rc := by
  induction l generalizing c with
  | nil => exact iff_of_true rfl fun e he => absurd he List.not_mem_nil
  | cons e l ih =>
    rw [List.map_cons, List.nodup_cons] at hnodup
    rw [List.forall_mem_cons]
    unfold addCaches
    split
    next hthere =>
      rw [ih c hnodup.2]
      refine (and_iff_right fun hnone => ?_).symm
      rw [hnone] at hthere
      cases hthere
    next habsent =>
      have habsent : c.cache.get? e.1 = none := by simpa using habsent
      split
      next err hnew => simp [habsent, hnew]
      next rc hnew =>
        rw [ih _ hnodup.2]
        refine Iff.trans (forall₂_congr fun e' he' => ?_)
          (and_iff_right fun _ => ⟨rc, hnew⟩).symm
        have hkey : e'.1 ≠ e.1 := fun h => hnodup.1 (h ▸ List.mem_map_of_mem he')
        rw [GoMap.get?_set_of_ne _ _ hkey]

theorem get?_addCaches (hnil : (addCaches s l c).1 = none) :
    (addCaches s l c).2.cache.get? gvr = (c.cache.get? gvr).or
      ((l.find? fun e => e.1 = gvr).bind fun e => (newResourceCache s gvr e.2).toOption) := by
  induction l generalizing c with
  | nil => simp [addCaches]
  | cons e l ih =>
    unfold addCaches at hnil ⊢
    rw [List.find?_cons]
    split at hnil
    next hthere =>
      rw [if_pos hthere, ih c hnil]
      by_cases hkey : e.1 = gvr
      · obtain ⟨rc, hrc⟩ := Option.isSome_iff_exists.mp (hkey ▸ hthere)
        simp [hrc]
      · simp [hkey]
    next hthere =>
      rw [if_neg hthere]
      cases hnew : newResourceCache s e.1 e.2 with
      | error err =>
        rw [hnew] at hnil
        cases hnil
      | ok rc =>
        rw [hnew] at hnil
        rw [ih _ hnil]
        by_cases hkey : e.1 = gvr
        · subst hkey
          simp [GoMap.get?_set_self, hnew, Except.toOption, Option.not_isSome_iff_eq_none.mp hthere]
        · rw [GoMap.get?_set_of_ne _ _ (Ne.symm hkey)]
          simp [hkey]

end Added

end Loops

/-! ## The caches after an update -/

section Update

variable {s : Sync} {resources : Resources} {c : ClusterCache} {gvr : GroupVersionResource}

theorem nodup_visit (s : Sync) (resources : Resources) :
    ((s.resourceOrder.visit resources.entries).map Prod.fst).Nodup :=
  ((s.resourceOrder.perm _).map Prod.fst).nodup_iff.mpr resources.nodup

theorem updateCache_eq_none_iff :
    (updateCache s resources c).1 = none ↔
      ∀ gvr n, resources.get? gvr = some n → (removed s resources c).cache.get? gvr = none →
        ∃ rc, newResourceCache s gvr n = .ok rc := by
  show (addCaches s _ (removed s resources c)).1 = none ↔ _
  rw [addCaches_eq_none_iff _ _ (nodup_visit s resources), Prod.forall]
  simp only [(s.resourceOrder.perm _).mem_iff, GoMap.get?_eq_some]

theorem get?_updateCache (hnil : (updateCache s resources c).1 = none) :
    (updateCache s resources c).2.cache.get? gvr =
      match resources.get? gvr with
      | none => none
      | some n =>
        ((removed s resources c).cache.get? gvr).or (newResourceCache s gvr n).toOption := by
  have hsecond : (updateCache s resources c).2.cache.get? gvr = _ := get?_addCaches _ _ hnil
  rw [hsecond]
  cases hget : resources.get? gvr with
  | none =>
    have hgone : (removed s resources c).cache.get? gvr = none := by
      rw [get?_removed]
      cases c.cache.get? gvr with
      | none => rfl
      | some rc => simp [Option.filter, stays, hget]
    have hfind : (s.resourceOrder.visit resources.entries).find? (·.1 = gvr) = none := by
      rw [find?_key_eq_none]
      rintro e he rfl
      rw [GoMap.get?_eq_some.mpr ((s.resourceOrder.perm _).mem_iff.mp he)] at hget
      cases hget
    rw [hfind, Option.bind_none, Option.or_none]
    exact hgone
  | some n =>
    have hfind : (s.resourceOrder.visit resources.entries).find? (·.1 = gvr) = some (gvr, n) :=
      (find?_key_eq_some (nodup_visit s resources)).mpr
        ⟨(s.resourceOrder.perm _).mem_iff.mpr (GoMap.get?_eq_some.mp hget), rfl⟩
    rw [hfind]
    rfl

theorem updateCache_untouched (hget : c.cache.get? gvr = some rc)
    (hstays : stays resources gvr rc = true) : Untouched c (updateCache s resources c).2 gvr := by
  have hkept : (removed s resources c).cache.get? gvr = some rc := by
    rw [get?_removed, hget]
    simp [Option.filter, hstays]
  obtain ⟨started, hjournal, hstarted⟩ := journal_addCaches (s := s)
    (s.resourceOrder.visit resources.entries) (removed s resources c)
  have hstopped := journal_foldl_removeCache resources (s.cacheOrder.visit c.cache.entries) c
  refine ⟨(get?_addCaches_of_some _ _ hkept).trans hget.symm, _,
    hjournal.trans (by rw [removed, hstopped, List.append_assoc]), ?_, ?_⟩
  · rw [List.mem_append, List.mem_map]
    rintro (⟨e, he, hop⟩ | hop)
    · -- the map has one cache for the resource, and it stays
      rw [List.mem_filter, (s.cacheOrder.perm _).mem_iff] at he
      have hkey : e.1 = gvr := CacheOp.stop.inj hop
      have hrc : c.cache.get? gvr = some e.2 := GoMap.get?_eq_some.mpr (hkey ▸ he.1)
      rw [Option.some.inj (hrc.symm.trans hget), hkey, hstays] at he
      exact absurd he.2 Bool.false_ne_true
    · obtain ⟨gvr', hop, -⟩ := hstarted _ hop
      cases hop
  · rw [List.mem_append, List.mem_map]
    rintro (⟨e, -, hop⟩ | hop)
    · cases hop
    · obtain ⟨gvr', hop, hnone⟩ := hstarted _ hop
      rw [← CacheOp.start.inj hop, hkept] at hnone
      cases hnone

end Update

/-! ## Another order -/

theorem MultiNamespace.Same.symm (h : n.Same n') : n'.Same n :=
  ⟨h.1.symm, fun hno ns => (h.2 (h.1.trans hno) ns).symm⟩

theorem MultiNamespace.Same.trans {n'' : MultiNamespace} (h : n.Same n') (h' : n'.Same n'') :
    n.Same n'' :=
  ⟨h.1.trans h'.1, fun hno ns => (h.2 hno ns).trans (h'.2 (h.1.symm.trans hno) ns)⟩

theorem isSome_eq_of_rel {α β : Type} {r : α → β → Prop} {a : Option α} {b : Option β}
    (h : Option.Rel r a b) : a.isSome = b.isSome := by
  cases h with
  | none => rfl
  | some => rfl

theorem MultiNamespace.Same.refl (n : MultiNamespace) : n.Same n :=
  ⟨rfl, fun _ _ => Iff.rfl⟩

def SameResources (resources resources' : Resources) : Prop :=
  ∀ gvr, Option.Rel MultiNamespace.Same (resources.get? gvr) (resources'.get? gvr)

section Order

variable {s s' : Sync}

theorem cachedResources_same (h : SameInput s s') :
    SameResources (cachedResources s.restMapper s.resourceCaches)
      (cachedResources s'.restMapper s'.resourceCaches) := by
  intro gvr
  have hperm : (selected s.restMapper (selectorsOf s.resourceCaches) gvr).Perm
      (selected s'.restMapper (selectorsOf s'.resourceCaches) gvr) := by
    rw [← h.restMapper]
    exact h.selectors.filterMap _
  have hsome : ((cachedResources s.restMapper s.resourceCaches).get? gvr).isSome =
      ((cachedResources s'.restMapper s'.resourceCaches).get? gvr).isSome := by
    rw [Bool.eq_iff_iff, get?_cachedResources, get?_cachedResources]
    exact not_congr ⟨fun hnil => (hnil ▸ hperm).symm.eq_nil, fun hnil => (hnil ▸ hperm).eq_nil⟩
  cases hget : (cachedResources s.restMapper s.resourceCaches).get? gvr with
  | none =>
    rw [hget, Option.isSome_none, eq_comm, Option.isSome_eq_false_iff, Option.isNone_iff_eq_none]
      at hsome
    rw [hsome]
    exact Option.Rel.none
  | some n =>
    rw [hget, Option.isSome_some, eq_comm, Option.isSome_iff_exists] at hsome
    obtain ⟨n', hget'⟩ := hsome
    rw [hget']
    exact Option.Rel.some
      ((cachedResources_describes hget).same (cachedResources_describes hget') hperm)

theorem stays_congr {resources resources' : Resources} {gvr : GroupVersionResource}
    (h : Option.Rel MultiNamespace.Same (resources.get? gvr) (resources'.get? gvr)) :
    stays resources gvr = stays resources' gvr := by
  funext rc
  unfold stays
  generalize resources.get? gvr = n at h ⊢
  generalize resources'.get? gvr = n' at h ⊢
  cases h with
  | none => rfl
  | some hsame =>
    rw [Bool.eq_iff_iff, equal_iff_same, equal_iff_same]
    exact ⟨fun hn => hn.trans hsame, fun hn => hn.trans hsame.symm⟩

theorem newResourceCache_congr (hmapper : s.restMapper = s'.restMapper)
    (hnew : s.newErr = s'.newErr) (gvr : GroupVersionResource) (n n' : MultiNamespace) :
    newResourceCache s' gvr n' =
      (newResourceCache s gvr n).map fun rc => { rc with namespaces := n' } := by
  unfold newResourceCache
  rw [← hmapper, ← hnew]
  cases s.restMapper.kindFor gvr with
  | error err => rfl
  | ok kind =>
    show (s.restMapper.restMapping kind.group kind.kind kind.version >>= _) =
      Except.map _ (s.restMapper.restMapping kind.group kind.kind kind.version >>= _)
    cases s.restMapper.restMapping kind.group kind.kind kind.version with
    | error err => rfl
    | ok mapping =>
      cases s.newErr gvr with
      | none => rfl
      | some err => rfl

theorem newResourceCache_namespaces {gvr : GroupVersionResource}
    (h : newResourceCache s gvr n = .ok rc) : rc.namespaces = n := by
  have hself : newResourceCache s gvr n = _ := newResourceCache_congr rfl rfl gvr n n
  rw [h] at hself
  exact congrArg RunningCache.namespaces (Except.ok.inj hself)

theorem addCaches_congr (h : SameInput s s') {l l' : List (GroupVersionResource × MultiNamespace)}
    (hl : List.Forall₂ (fun e e' => e.1 = e'.1 ∧ e.2.Same e'.2) l l') :
    ∀ {c c' : ClusterCache}, SameCaches c c' →
      (addCaches s l c).1 = (addCaches s' l' c').1 ∧
        SameCaches (addCaches s l c).2 (addCaches s' l' c').2 := by
  induction hl with
  | nil => exact fun hc => ⟨rfl, hc⟩
  | @cons e e' l l' he _ ih =>
    intro c c' hc
    obtain ⟨gvr, n⟩ := e
    obtain ⟨gvr', n'⟩ := e'
    obtain ⟨rfl, hn⟩ := he
    unfold addCaches
    rw [isSome_eq_of_rel (hc gvr), newResourceCache_congr h.restMapper h.newErr gvr n n']
    split
    · exact ih hc
    · cases hnew : newResourceCache s gvr n with
      | error err => exact ⟨rfl, hc⟩
      | ok rc =>
        apply ih
        intro gvr'
        show Option.Rel _ ((c.cache.set gvr rc).get? gvr') ((c'.cache.set gvr _).get? gvr')
        by_cases hkey : gvr' = gvr
        · rw [hkey, GoMap.get?_set_self, GoMap.get?_set_self]
          exact Option.Rel.some ⟨rfl, rfl, newResourceCache_namespaces hnew ▸ hn⟩
        · rw [GoMap.get?_set_of_ne _ _ hkey, GoMap.get?_set_of_ne _ _ hkey]
          exact hc gvr'

variable {resources resources' : Resources}

theorem exists_visit_same (o : RangeOrder (GroupVersionResource × MultiNamespace))
    (hrel : SameResources resources resources') :
    ∃ o' : RangeOrder (GroupVersionResource × MultiNamespace),
      List.Forall₂ (fun e e' => e.1 = e'.1 ∧ e.2.Same e'.2)
        (o.visit resources.entries) (o'.visit resources'.entries) := by
  let counterpart (e : GroupVersionResource × MultiNamespace) :
      GroupVersionResource × MultiNamespace := (e.1, (resources'.get? e.1).getD e.2)
  have hcounterpart : ∀ e ∈ resources.entries,
      counterpart e ∈ resources'.entries ∧ e.2.Same (counterpart e).2 := by
    intro e he
    have h := hrel e.1
    rw [GoMap.get?_eq_some.mpr he] at h
    generalize hget : resources'.get? e.1 = n' at h
    cases h with
    | some hsame =>
      show (e.1, (resources'.get? e.1).getD e.2) ∈ _ ∧ e.2.Same ((resources'.get? e.1).getD e.2)
      rw [hget]
      exact ⟨GoMap.get?_eq_some.mp hget, hsame⟩
  have hperm : ((o.visit resources.entries).map counterpart).Perm resources'.entries := by
    refine ((o.perm _).map counterpart).trans ?_
    have hkeys : (resources.entries.map counterpart).map Prod.fst = resources.keys := by
      rw [List.map_map]
      rfl
    rw [List.perm_ext_iff_of_nodup (List.Nodup.of_map Prod.fst (hkeys ▸ resources.nodup))
      (List.Nodup.of_map _ resources'.nodup)]
    intro e'
    rw [List.mem_map]
    constructor
    · rintro ⟨e, he, rfl⟩
      exact (hcounterpart e he).1
    · intro he'
      have hsome := isSome_eq_of_rel (hrel e'.1)
      have hget' : resources'.get? e'.1 = some e'.2 := GoMap.get?_eq_some.mpr he'
      rw [hget', Option.isSome_some, Option.isSome_iff_exists] at hsome
      obtain ⟨n, hget⟩ := hsome
      refine ⟨(e'.1, n), GoMap.get?_eq_some.mp hget, ?_⟩
      show (e'.1, (resources'.get? e'.1).getD n) = e'
      rw [hget', Option.getD_some]
  obtain ⟨o', ho'⟩ := RangeOrder.exists_visit hperm
  refine ⟨o', ?_⟩
  rw [ho', List.forall₂_map_right_iff, List.forall₂_same]
  intro e he
  exact ⟨rfl, (hcounterpart e ((o.perm _).mem_iff.mp he)).2⟩

theorem removed_congr (s s' : Sync) (c : ClusterCache)
    (hrel : SameResources resources resources')
    (gvr : GroupVersionResource) :
    (removed s resources c).cache.get? gvr = (removed s' resources' c).cache.get? gvr := by
  rw [get?_removed, get?_removed, stays_congr (hrel gvr)]

theorem sameCaches_of_get?_eq {c c' : ClusterCache}
    (h : ∀ gvr, c.cache.get? gvr = c'.cache.get? gvr) : SameCaches c c' := by
  intro gvr
  rw [h gvr]
  cases c'.cache.get? gvr with
  | none => exact Option.Rel.none
  | some rc => exact Option.Rel.some ⟨rfl, rfl, MultiNamespace.Same.refl _⟩

theorem updateCache_eq_none_congr (h : SameInput s s') (c : ClusterCache)
    (hrel : SameResources resources resources') :
    (updateCache s resources c).1 = none ↔ (updateCache s' resources' c).1 = none := by
  rw [updateCache_eq_none_iff, updateCache_eq_none_iff]
  refine forall_congr' fun gvr => ?_
  rw [removed_congr s s' c hrel gvr]
  have hgvr := hrel gvr
  generalize resources.get? gvr = n at hgvr
  generalize resources'.get? gvr = n' at hgvr
  cases hgvr with
  | none => simp
  | @some n n' hsame =>
    simp only [Option.some.injEq, forall_eq']
    rw [newResourceCache_congr h.restMapper h.newErr gvr n n']
    cases newResourceCache s gvr n with
    | error err => simp [Except.map]
    | ok rc => simp [Except.map]

theorem updateCache_same (h : SameInput s s') (c : ClusterCache)
    (hrel : SameResources resources resources')
    (hnil : (updateCache s resources c).1 = none) :
    SameCaches (updateCache s resources c).2 (updateCache s' resources' c).2 := by
  intro gvr
  rw [get?_updateCache hnil, get?_updateCache ((updateCache_eq_none_congr h c hrel).mp hnil),
    removed_congr s s' c hrel gvr]
  have hgvr := hrel gvr
  generalize resources.get? gvr = n at hgvr
  generalize resources'.get? gvr = n' at hgvr
  cases hgvr with
  | none => exact Option.Rel.none
  | @some n n' hsame =>
    cases (removed s' resources' c).cache.get? gvr with
    | some rc => exact Option.Rel.some ⟨rfl, rfl, MultiNamespace.Same.refl _⟩
    | none =>
      show Option.Rel _ (newResourceCache s gvr n).toOption (newResourceCache s' gvr n').toOption
      rw [newResourceCache_congr h.restMapper h.newErr gvr n n']
      cases hnew : newResourceCache s gvr n with
      | error err => exact Option.Rel.none
      | ok rc => exact Option.Rel.some ⟨rfl, rfl, newResourceCache_namespaces hnew ▸ hsame⟩

end Order

/-! ## The sync -/

theorem syncResourceCache_of_listErr {s : Sync} {err : String} (h : s.listErr = some err)
    (c : ClusterCache) : syncResourceCache s c = (some err, c) := by
  rw [syncResourceCache, h]

theorem syncResourceCache_of_listed {s : Sync} (h : s.listErr = none) (c : ClusterCache) :
    syncResourceCache s c =
      updateCache s (cachedResources s.restMapper s.resourceCaches) c := by
  rw [syncResourceCache, h]

theorem cachesExactly_sync {s : Sync} {c : ClusterCache}
    (hnil : (syncResourceCache s c).1 = none) :
    CachesExactly (syncResourceCache s c).2 s.restMapper (selectorsOf s.resourceCaches) := by
  cases hlist : s.listErr with
  | some err =>
    rw [syncResourceCache_of_listErr hlist] at hnil
    cases hnil
  | none =>
    rw [syncResourceCache_of_listed hlist] at hnil ⊢
    have hnew := updateCache_eq_none_iff.mp hnil
    constructor
    · intro gvr
      rw [get?_updateCache hnil, ← get?_cachedResources]
      cases hget : (cachedResources s.restMapper s.resourceCaches).get? gvr with
      | none => rfl
      | some n =>
        simp only [Option.isSome_some, iff_true]
        cases hthere : (removed s (cachedResources s.restMapper s.resourceCaches) c).cache.get?
            gvr with
        | some rc => rfl
        | none =>
          obtain ⟨rc, hrc⟩ := hnew gvr n hget hthere
          rw [hrc]
          rfl
    · intro gvr rc hrc
      rw [get?_updateCache hnil] at hrc
      cases hget : (cachedResources s.restMapper s.resourceCaches).get? gvr with
      | none =>
        rw [hget] at hrc
        cases hrc
      | some n =>
        apply (cachedResources_describes hget).of_same
        simp only [hget] at hrc
        cases hthere : (removed s (cachedResources s.restMapper s.resourceCaches) c).cache.get?
            gvr with
        | some rc' =>
          rw [hthere, Option.some_or, Option.some.injEq] at hrc
          rw [get?_removed, Option.filter_eq_some_iff, stays, hget] at hthere
          rw [← hrc]
          exact equal_iff_same.mp hthere.2
        | none =>
          obtain ⟨rc', hrc'⟩ := hnew gvr n hget hthere
          rw [hthere, hrc'] at hrc
          have hrc : some rc' = some rc := hrc
          rw [← Option.some.inj hrc, newResourceCache_namespaces hrc']
          exact MultiNamespace.Same.refl n

theorem untouched_sync {s : Sync} {c : ClusterCache} {gvr : GroupVersionResource}
    (hget : c.cache.get? gvr = some rc)
    (hselected : selected s.restMapper (selectorsOf s.resourceCaches) gvr ≠ [])
    (hsame : Describes rc.namespaces (selected s.restMapper (selectorsOf s.resourceCaches) gvr)) :
    Untouched c (syncResourceCache s c).2 gvr := by
  cases hlist : s.listErr with
  | some err =>
    rw [syncResourceCache_of_listErr hlist]
    exact ⟨rfl, [], (List.append_nil _).symm, List.not_mem_nil, List.not_mem_nil⟩
  | none =>
    rw [syncResourceCache_of_listed hlist]
    apply updateCache_untouched hget
    obtain ⟨n, hn⟩ := Option.isSome_iff_exists.mp (get?_cachedResources.mpr hselected)
    rw [stays, hn]
    exact equal_iff_same.mpr (hsame.same (cachedResources_describes hn) (List.Perm.refl _))

section Outcome

variable {s s' : Sync} (h : SameInput s s') (c : ClusterCache)
include h

theorem syncResourceCache_eq_none_congr :
    (syncResourceCache s c).1 = none ↔ (syncResourceCache s' c).1 = none := by
  cases hlist : s.listErr with
  | some err =>
    rw [syncResourceCache_of_listErr hlist, syncResourceCache_of_listErr (h.listErr ▸ hlist)]
  | none =>
    rw [syncResourceCache_of_listed hlist, syncResourceCache_of_listed (h.listErr ▸ hlist)]
    exact updateCache_eq_none_congr h c (cachedResources_same h)

theorem sameCaches_sync (hnil : (syncResourceCache s c).1 = none) :
    SameCaches (syncResourceCache s c).2 (syncResourceCache s' c).2 := by
  cases hlist : s.listErr with
  | some err =>
    rw [syncResourceCache_of_listErr hlist] at hnil
    cases hnil
  | none =>
    rw [syncResourceCache_of_listed hlist] at hnil ⊢
    rw [syncResourceCache_of_listed (h.listErr ▸ hlist)]
    exact updateCache_same h c (cachedResources_same h) hnil

theorem exists_order_sync :
    ∃ o, (syncResourceCache s c).1 = (syncResourceCache { s' with resourceOrder := o } c).1 ∧
      SameCaches (syncResourceCache s c).2
        (syncResourceCache { s' with resourceOrder := o } c).2 := by
  cases hlist : s.listErr with
  | some err =>
    refine ⟨s'.resourceOrder, ?_⟩
    rw [syncResourceCache_of_listErr hlist, syncResourceCache_of_listErr (h.listErr ▸ hlist)]
    exact ⟨rfl, sameCaches_of_get?_eq fun _ => rfl⟩
  | none =>
    have hrel := cachedResources_same h
    obtain ⟨o, ho⟩ := exists_visit_same s.resourceOrder hrel
    refine ⟨o, ?_⟩
    rw [syncResourceCache_of_listed hlist,
      syncResourceCache_of_listed (s := { s' with resourceOrder := o }) (h.listErr ▸ hlist)]
    have h' : SameInput s { s' with resourceOrder := o } :=
      ⟨h.listErr, h.restMapper, h.newErr, h.selectors⟩
    exact addCaches_congr h' ho (sameCaches_of_get?_eq (removed_congr s _ c hrel))

end Outcome

/-- After any history, a sync that returns nil leaves exactly the selected caches, in any order, and
those that stay untouched. -/
theorem syncResourceCache_exact (history : List Sync) (s : Sync) :
    ((syncResourceCache s (afterSyncs history)).1 = none →
      CachesExactly (syncResourceCache s (afterSyncs history)).2 s.restMapper
        (selectorsOf s.resourceCaches)) ∧
    (∀ s', SameInput s s' →
      ((syncResourceCache s (afterSyncs history)).1 = none ↔
        (syncResourceCache s' (afterSyncs history)).1 = none) ∧
      ((syncResourceCache s (afterSyncs history)).1 = none →
        SameCaches (syncResourceCache s (afterSyncs history)).2
          (syncResourceCache s' (afterSyncs history)).2) ∧
      ∃ o, (syncResourceCache s (afterSyncs history)).1 =
          (syncResourceCache { s' with resourceOrder := o } (afterSyncs history)).1 ∧
        SameCaches (syncResourceCache s (afterSyncs history)).2
          (syncResourceCache { s' with resourceOrder := o } (afterSyncs history)).2) ∧
    ∀ gvr rc, (afterSyncs history).cache.get? gvr = some rc →
      selected s.restMapper (selectorsOf s.resourceCaches) gvr ≠ [] →
      Describes rc.namespaces (selected s.restMapper (selectorsOf s.resourceCaches) gvr) →
      Untouched (afterSyncs history) (syncResourceCache s (afterSyncs history)).2 gvr := by
  refine ⟨cachesExactly_sync, fun s' h => ?_, fun gvr rc => untouched_sync⟩
  exact ⟨syncResourceCache_eq_none_congr h _, sameCaches_sync h _, exists_order_sync h _⟩

end Kosmos.Proxy
