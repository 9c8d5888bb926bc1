import Kosmos.Api.Resources
import Kosmos.Tree.Registries

/-!
# ConfigMaps and Secrets in the leaves: `SyncResourcesReconciler`

Copies carry the global annotation, and an object without it is the leaf's own.

The root answers every `Get` as it likes. Nobody else changes the leaf in a visit: an update of an
old version is refused.
-/

namespace Kosmos.SyncResources

open Go Resources Kosmos.Tree

inductive SyncKind where
  | configMap
  | secret
  deriving DecidableEq

structure Object where
  kind : SyncKind
  ns : String
  name : String
  labels : GoMap String String := .empty
  annotations : Annotations := none
  data : GoMap String String := .empty
  binaryData : GoMap String String := .empty
  stringData : GoMap String String := .empty
  type : String := ""
  terminating : Bool := false

abbrev ObjectKey := SyncKind × String × String

def Object.key (x : Object) : ObjectKey := (x.kind, x.ns, x.name)

abbrev Leaf := Store Object.key

def serviceAccountNameKey : String := "kubernetes.io/service-account.name"

def defaultServiceAccountName : String := "default"

def rootCAConfigMapName : String := "kube-root-ca.crt"

def masterRooTCAName : String := "master-root-ca.crt"

def updateConfigMap (old new : Object) : Object :=
  { old with labels := new.labels, data := new.data, binaryData := new.binaryData }

def updateSecret (old new : Object) : Object :=
  { old with
    labels := new.labels
    data := new.data
    stringData := new.stringData
    type :=
      if readMap old.annotations serviceAccountNameKey = some defaultServiceAccountName then
        "Opaque"
      else new.type }

def latest (old new : Object) : Object :=
  match old.kind with
  | .configMap => updateConfigMap old new
  | .secret => updateSecret old new

structure Answers where
  rootGet : Except ApiError Object
  leafGet : Option String := none
  convert : Option String := none
  write : WriteAnswer := .done

structure Request where
  kind : SyncKind
  ns : String
  name : String

def Request.memberResourceName (req : Request) : String :=
  if req.kind = .configMap ∧ req.name = rootCAConfigMapName then masterRooTCAName else req.name

def Request.leafKey (req : Request) : ObjectKey := (req.kind, req.ns, req.memberResourceName)

def deleteInLeaf (req : Request) (answers : Answers) (leaf : Leaf) : Option CallError × Leaf :=
  match answered answers.write (leaf.delete req.leafKey) leaf with
  | (some .notFound, leaf) => (none, leaf)
  | result => result

def syncResource (req : Request) (answers : Answers) (leaf : Leaf) :
    Outcome (Option CallError × Leaf) :=
  match answers.rootGet with
  | .error .notFound =>
    match answers.leafGet with
    | some _ => .error (.panic .nilDeref)
    | none =>
      match leaf.get? req.leafKey with
      | none => .ok (none, leaf)
      | some _ => .ok (deleteInLeaf req answers leaf)
  | .error e => .ok (some (callError e), leaf)
  | .ok obj =>
    if obj.terminating then .ok (deleteInLeaf req answers leaf)
    else
      match answers.leafGet with
      | some msg => .ok (some (.other msg), leaf)
      | none =>
        match leaf.get? req.leafKey with
        | none => .ok (none, leaf)
        | some old =>
          match answers.convert with
          | some msg => .ok (some (.other msg), leaf)
          | none =>
            if isObjectUnstructuredGlobal old.annotations = false then .ok (none, leaf)
            else .ok (answered answers.write (leaf.update (latest old obj)) leaf)

abbrev Leaves := String → Leaf

def hasCluster (resourceMap : GoMap String LeafResource) (clusterName : String) : Bool :=
  resourceMap.entries.any fun e => e.1 = clusterName

def listClusters (visited : List (String × LeafResource)) : List String :=
  (visited.map Prod.fst).filter fun k => k ≠ ""

structure Visit where
  cluster : String
  answers : Answers

def Visit.client (regs : Registries) (v : Visit) : Option (Outcome LeafClientResource) :=
  if hasCluster regs.resourceMap v.cluster then
    some (do
      let lr ← getLeafResource regs.resourceMap v.cluster
      leafClientResource regs.clientResourceMap lr)
  else none

def visit (regs : Registries) (req : Request) (leaves : Leaves) (v : Visit) :
    Outcome (Option String × Leaves) :=
  match v.client regs with
  | none => .ok (none, leaves)
  | some (.error (.err msg)) => .ok (some msg, leaves)
  | some (.error (.panic p)) => .error (.panic p)
  | some (.ok lcr) => do
    let (err, leaf) ← syncResource req v.answers (leaves lcr.cluster)
    pure (err.map fun _ => "sync resource", Function.update leaves lcr.cluster leaf)

def visits (regs : Registries) (req : Request) (answers : String → Answers)
    (clusters : List String) (leaves : Leaves) : Run Leaves Visit (Option String) :=
  Run.loop (Run.onceUnless (visit regs req) fun err => err.map Stop.err)
    (clusters.map fun cluster => ⟨cluster, answers cluster⟩) leaves

def reconcile (regs : Registries) (req : Request) (order : RangeOrder (String × LeafResource))
    (rootGet : Except ApiError Object) (answers : String → Answers) (leaves : Leaves) :
    Run Leaves Visit (Option String) :=
  match rootGet with
  | .error .notFound =>
    visits regs req answers (listClusters (order.visit regs.resourceMap.entries)) leaves
  | .error _ => Run.idle leaves
  | .ok rootobj => visits regs req answers (listResourceClusters rootobj.annotations) leaves

def Object.Global (x : Object) : Prop := isObjectUnstructuredGlobal x.annotations = true

instance (x : Object) : Decidable x.Global :=
  inferInstanceAs (Decidable (isObjectUnstructuredGlobal x.annotations = true))

/-- The objects without the annotation are as they were. -/
def Spares (leaf leaf' : Leaf) : Prop := ∀ x ∈ leaf.objects, ¬ x.Global → x ∈ leaf'.objects

/-- The visit deletes what the leaf has under the name. -/
def Answers.Deletes (answers : Answers) : Prop :=
  answers.write.takesEffect = true ∧
    ((answers.rootGet = .error .notFound ∧ answers.leafGet = none) ∨
      ∃ obj, answers.rootGet = .ok obj ∧ obj.terminating = true)

def OnlyCopy (req : Request) (leaf : Leaf) : Prop :=
  ∀ x, leaf.get? req.leafKey = some x → x.Global

variable {req : Request} {answers : Answers} {leaf leaf' : Leaf} {err : Option CallError}

theorem spares_refl (leaf : Leaf) : Spares leaf leaf := fun _ hx _ => hx

theorem deleteInLeaf_spares_iff :
    Spares leaf (deleteInLeaf req answers leaf).2 ↔
      (answers.write.takesEffect = true → OnlyCopy req leaf) := by
  have hstate : (deleteInLeaf req answers leaf).2 =
      (answered answers.write (leaf.delete req.leafKey) leaf).2 := by
    unfold deleteInLeaf
    split
    next heq => rw [heq]
    · rfl
  rw [hstate]
  refine (Store.spares_delete answers.write).trans ?_
  simp [OnlyCopy]

theorem latest_key (old new : Object) : (latest old new).key = old.key := by
  unfold latest Object.key
  cases h : old.kind <;> simp [updateConfigMap, updateSecret, h]

theorem update_spares {old obj : Object} (hold : leaf.get? req.leafKey = some old)
    (hglobal : old.Global) :
    Spares leaf (answered answers.write (leaf.update (latest old obj)) leaf).2 := by
  refine (Store.spares_update answers.write).mpr fun _ x hx hnot => ?_
  rw [latest_key, (Store.get?_eq_some.mp hold).2, hold] at hx
  cases hx
  exact absurd hglobal hnot

theorem deletes_iff_of_error {e : ApiError} (hroot : answers.rootGet = .error e) :
    answers.Deletes ↔
      answers.write.takesEffect = true ∧ e = .notFound ∧ answers.leafGet = none := by
  simp [Answers.Deletes, hroot]

theorem deletes_iff_of_ok {obj : Object} (hroot : answers.rootGet = .ok obj) :
    answers.Deletes ↔ answers.write.takesEffect = true ∧ obj.terminating = true := by
  simp [Answers.Deletes, hroot]

theorem syncResource_spares {obj : Object} (hroot : answers.rootGet = .ok obj)
    (hterm : obj.terminating = false) (h : syncResource req answers leaf = .ok (err, leaf')) :
    Spares leaf leaf' := by
  unfold syncResource at h
  simp only [hroot, hterm, Bool.false_eq_true, if_false] at h
  split at h
  · cases h
    exact spares_refl leaf
  · split at h
    · cases h
      exact spares_refl leaf
    next old hold =>
      split at h
      · cases h
        exact spares_refl leaf
      · split at h
        · cases h
          exact spares_refl leaf
        next hglobal =>
          have hleaf : (answered answers.write (leaf.update (latest old obj)) leaf).2 = leaf' :=
            congrArg Prod.snd (Except.ok.inj h)
          rw [← hleaf]
          exact update_spares hold (Bool.not_eq_false _ |>.mp hglobal)

theorem syncResource_spares_iff (h : syncResource req answers leaf = .ok (err, leaf')) :
    Spares leaf leaf' ↔ (answers.Deletes → OnlyCopy req leaf) := by
  cases hroot : answers.rootGet with
  | error e =>
    rw [deletes_iff_of_error hroot]
    unfold syncResource at h
    split at h
    next hgone =>
      -- the object of the root is gone
      cases Except.error.inj (hroot.symm.trans hgone)
      split at h
      · cases h
      next hget =>
        split at h
        next hnone =>
          cases h
          refine iff_of_true (spares_refl leaf) fun _ x hx => ?_
          rw [hnone] at hx
          cases hx
        · have hleaf : (deleteInLeaf req answers leaf).2 = leaf' :=
            congrArg Prod.snd (Except.ok.inj h)
          rw [← hleaf, deleteInLeaf_spares_iff]
          exact ⟨fun hall hdel => hall hdel.1, fun hall heffect => hall ⟨heffect, rfl, hget⟩⟩
    next e' hne herror =>
      cases h
      cases Except.error.inj (hroot.symm.trans herror)
      exact iff_of_true (spares_refl leaf) fun hdel => absurd hdel.2.1 hne
    next obj hok =>
      rw [hroot] at hok
      cases hok
  | ok obj =>
    rw [deletes_iff_of_ok hroot]
    cases hterm : obj.terminating with
    | false =>
      exact iff_of_true (syncResource_spares hroot hterm h) fun hdel => Bool.noConfusion hdel.2
    | true =>
      simp only [syncResource, hroot, hterm, if_true] at h
      have hleaf : (deleteInLeaf req answers leaf).2 = leaf' :=
        congrArg Prod.snd (Except.ok.inj h)
      rw [← hleaf, deleteInLeaf_spares_iff]
      exact ⟨fun hall hdel => hall hdel.1, fun hall heffect => hall ⟨heffect, rfl⟩⟩

def SparesAll (leaves leaves' : Leaves) : Prop := ∀ c, Spares (leaves c) (leaves' c)

/-- The visit deletes copies only. -/
def Visit.Apt (regs : Registries) (req : Request) (leaves : Leaves) (v : Visit) : Prop :=
  ∀ lcr, v.client regs = some (.ok lcr) → v.answers.Deletes → OnlyCopy req (leaves lcr.cluster)

theorem visit_spares_iff {regs : Registries} {leaves leaves' : Leaves} {v : Visit}
    {r : Option String} (h : visit regs req leaves v = .ok (r, leaves')) :
    SparesAll leaves leaves' ↔ v.Apt regs req leaves := by
  unfold visit at h
  unfold Visit.Apt
  split at h
  next hclient =>
    cases h
    refine iff_of_true (fun c => spares_refl (leaves c)) fun lcr hlcr => ?_
    rw [hclient] at hlcr
    cases hlcr
  next msg hclient =>
    cases h
    refine iff_of_true (fun c => spares_refl (leaves c)) fun lcr hlcr => ?_
    rw [hclient] at hlcr
    cases hlcr
  · cases h
  next lcr hclient =>
    obtain ⟨⟨err, leaf⟩, hsync, h⟩ := bind_eq_ok h
    cases h
    have hiff := syncResource_spares_iff hsync
    have hapt : (∀ lcr', v.client regs = some (.ok lcr') → v.answers.Deletes →
        OnlyCopy req (leaves lcr'.cluster)) ↔
          (v.answers.Deletes → OnlyCopy req (leaves lcr.cluster)) := by
      rw [hclient]
      constructor
      · exact fun h => h lcr rfl
      · rintro h lcr' heq
        cases heq
        exact h
    rw [hapt, ← hiff]
    constructor
    · intro hall
      have hhere := hall lcr.cluster
      rwa [Function.update_self] at hhere
    · intro hhere c
      by_cases hc : c = lcr.cluster
      · rw [hc, Function.update_self]
        exact hhere
      · rw [Function.update_of_ne hc]
        exact spares_refl (leaves c)

theorem reconcile_keeps (regs : Registries) (req : Request)
    (order : RangeOrder (String × LeafResource)) (rootGet : Except ApiError Object)
    (answers : String → Answers) (leaves : Leaves) :
    (reconcile regs req order rootGet answers leaves).Keeps (visit regs req) fun _ => True := by
  have hvisits : ∀ clusters,
      (visits regs req answers clusters leaves).Keeps (visit regs req) fun _ => True := by
    intro clusters
    exact Run.Keeps.loop (Run.Keeps.onceUnless fun _ _ _ _ _ _ => trivial) _ leaves trivial
  unfold reconcile
  split
  · exact hvisits _
  · exact Run.Keeps.idle trivial
  · exact hvisits _

/-- A reconcile spares the objects without the annotation exactly if each visit that deletes finds a
copy. -/
theorem reconcile_spares_iff (regs : Registries) (req : Request)
    (order : RangeOrder (String × LeafResource)) (rootGet : Except ApiError Object)
    (answers : String → Answers) (leaves : Leaves) :
    (∀ m ∈ (reconcile regs req order rootGet answers leaves).moves, SparesAll m.before m.after) ↔
      ∀ m ∈ (reconcile regs req order rootGet answers leaves).moves,
        m.event.Apt regs req m.before :=
  forall₂_congr fun m hm =>
    visit_spares_iff ((reconcile_keeps regs req order rootGet answers leaves).1 m hm).2

def oneLeaf : Registries where
  resourceMap := GoMap.empty.set "c1" ⟨⟨"c1", [], false, [], some "all", some {}⟩, []⟩
  clientResourceMap := GoMap.empty.set "c1" ⟨"c1"⟩

def ownConfigMap : Object := { kind := .configMap, ns := "default", name := "app" }

theorem reconcile_deletes_own :
    ∃ m ∈ (reconcile oneLeaf ⟨.configMap, "default", "app"⟩ .asWritten (.error .notFound)
        (fun _ => { rootGet := .error .notFound }) fun _ => ⟨[ownConfigMap], by decide⟩).moves,
      ownConfigMap ∈ (m.before "c1").objects ∧ ¬ ownConfigMap.Global ∧
        (m.after "c1").objects = [] ∧ ¬ SparesAll m.before m.after := by
  refine ⟨_, List.mem_of_getElem? (i := 0) rfl, List.mem_singleton_self _, by decide, rfl, ?_⟩
  intro h
  have hgone := h "c1" ownConfigMap (List.mem_singleton_self _) (by decide)
  cases hgone

/-- The object has the labels and data of the root's. -/
structure UpToDate (old obj x : Object) : Prop where
  labels : x.labels = obj.labels
  data : x.data = obj.data
  binaryData : old.kind = .configMap → x.binaryData = obj.binaryData
  stringData : old.kind = .secret → x.stringData = obj.stringData
  type : old.kind = .secret → x.type =
    if readMap old.annotations serviceAccountNameKey = some defaultServiceAccountName then
      "Opaque" else obj.type

theorem upToDate_latest (old obj : Object) : UpToDate old obj (latest old obj) := by
  unfold latest
  cases hkind : old.kind with
  | configMap =>
    have hnot : old.kind ≠ .secret := by simp [hkind]
    exact ⟨rfl, rfl, fun _ => rfl, fun h => absurd h hnot, fun h => absurd h hnot⟩
  | secret =>
    have hnot : old.kind ≠ .configMap := by simp [hkind]
    exact ⟨rfl, rfl, fun h => absurd h hnot, fun _ => rfl, fun _ => rfl⟩

/-- The root has no object, or one that is being deleted. -/
def Answers.RootGone (answers : Answers) : Prop :=
  answers.rootGet = .error .notFound ∨ ∃ obj, answers.rootGet = .ok obj ∧ obj.terminating = true

inductive Settled (req : Request) (answers : Answers) (leaf leaf' : Leaf) : Prop where
  | absent (h : leaf.get? req.leafKey = none)
  | reportedAbsent (hgone : answers.RootGone) (h : answers.write = .refused .notFound)
  | foreign (x : Object) (hx : leaf.get? req.leafKey = some x) (h : ¬ x.Global)
  | updated (obj old x : Object) (hroot : answers.rootGet = .ok obj)
      (hterm : obj.terminating = false) (hold : leaf.get? req.leafKey = some old)
      (hx : leaf'.get? req.leafKey = some x) (h : UpToDate old obj x)
  | deleted (hgone : answers.RootGone) (h : leaf'.get? req.leafKey = none)

def leafGetError (req : Request) (answers : Answers) (leaf : Leaf) : Option CallError :=
  match answers.leafGet with
  | some msg => some (.other msg)
  | none => if (leaf.get? req.leafKey).isSome then none else some .notFound

def calls (req : Request) (answers : Answers) (leaf : Leaf) : List (Option CallError) :=
  let leafGet := leafGetError req answers leaf
  let delete := (answered answers.write (leaf.delete req.leafKey) leaf).1
  match answers.rootGet with
  | .error .notFound => some .notFound :: leafGet :: if leafGet = none then [delete] else []
  | .error e => [some (callError e)]
  | .ok obj =>
    if obj.terminating then [none, delete]
    else
      match answers.leafGet, leaf.get? req.leafKey with
      | none, some old =>
        none :: leafGet :: answers.convert.map .other ::
          if answers.convert = none ∧ old.Global then
            [(answered answers.write (leaf.update (latest old obj)) leaf).1]
          else []
      | _, _ => [none, leafGet]

/-- The sync returns nil for one of the reasons only, and otherwise the error. -/
def OutcomeRight (req : Request) (answers : Answers) (leaf : Leaf) : Prop :=
  ∃ r leaf', syncResource req answers leaf = .ok (r, leaf') ∧
    (r = none → Settled req answers leaf leaf') ∧
    ∀ e, some e ∈ calls req answers leaf → e ≠ .notFound → r = some e

theorem deleteInLeaf_settled (hgone : answers.RootGone)
    (hnil : (deleteInLeaf req answers leaf).1 = none) :
    Settled req answers leaf (deleteInLeaf req answers leaf).2 := by
  by_cases hrefused : answers.write = .refused .notFound
  · exact .reportedAbsent hgone hrefused
  · refine .deleted hgone ?_
    have hdelete := get?_answered_delete (s := leaf) (k := req.leafKey) hrefused
    unfold deleteInLeaf at hnil ⊢
    split at hnil
    next leaf' heq =>
      rw [heq] at hdelete
      exact (hdelete (Or.inr rfl) req.leafKey).trans (if_pos rfl)
    · exact (hdelete (Or.inl hnil) req.leafKey).trans (if_pos rfl)

theorem deleteInLeaf_reports {e : CallError} (hne : e ≠ .notFound)
    (h : (answered answers.write (leaf.delete req.leafKey) leaf).1 = some e) :
    (deleteInLeaf req answers leaf).1 = some e := by
  unfold deleteInLeaf
  split
  next leaf' heq =>
    rw [heq] at h
    exact absurd (Option.some.inj h).symm hne
  · exact h

theorem outcomeRight_of_gone (hroot : answers.rootGet = .error .notFound)
    (hget : answers.leafGet = none) : OutcomeRight req answers leaf := by
  cases hold : leaf.get? req.leafKey with
  | none =>
    refine ⟨none, leaf, by simp [syncResource, hroot, hget, hold], fun _ => .absent hold, ?_⟩
    intro e he hne
    simp only [calls, leafGetError, hroot, hget, hold, Option.isSome_none, Bool.false_eq_true,
      if_false, reduceCtorEq, List.mem_cons, Option.some.injEq, List.not_mem_nil, or_false] at he
    rcases he with rfl | rfl
    · exact absurd rfl hne
    · exact absurd rfl hne
  | some old =>
    refine ⟨(deleteInLeaf req answers leaf).1, (deleteInLeaf req answers leaf).2,
      by simp [syncResource, hroot, hget, hold], deleteInLeaf_settled (Or.inl hroot), ?_⟩
    intro e he hne
    simp only [calls, leafGetError, hroot, hget, hold, Option.isSome_some, if_true,
      List.mem_cons, Option.some.injEq, reduceCtorEq, List.not_mem_nil, or_false, false_or] at he
    rcases he with rfl | he
    · exact absurd rfl hne
    · exact deleteInLeaf_reports hne he.symm

theorem outcomeRight_of_reported {e : CallError}
    (hsync : syncResource req answers leaf = .ok (some e, leaf'))
    (hcalls : ∀ e', some e' ∈ calls req answers leaf → e' = e) :
    OutcomeRight req answers leaf := by
  refine ⟨some e, leaf', hsync, fun hnil => absurd hnil (Option.some_ne_none e), ?_⟩
  intro e' he' _
  rw [hcalls e' he']

theorem outcomeRight_of_rootError {e : ApiError} (hroot : answers.rootGet = .error e)
    (hne : e ≠ .notFound) : OutcomeRight req answers leaf := by
  have hsync : syncResource req answers leaf = .ok (some (callError e), leaf) := by
    unfold syncResource
    split
    next h => exact absurd (Except.error.inj (hroot.symm.trans h)) hne
    next h => rw [Except.error.inj (hroot.symm.trans h)]
    next h => simp [hroot] at h
  have hcalls : calls req answers leaf = [some (callError e)] := by
    unfold calls
    split
    next h => exact absurd (Except.error.inj (hroot.symm.trans h)) hne
    next h => rw [Except.error.inj (hroot.symm.trans h)]
    next h => simp [hroot] at h
  refine outcomeRight_of_reported hsync fun e' he' => ?_
  rw [hcalls, List.mem_singleton] at he'
  exact Option.some.inj he'

theorem outcomeRight_of_terminating {obj : Object} (hroot : answers.rootGet = .ok obj)
    (hterm : obj.terminating = true) : OutcomeRight req answers leaf := by
  refine ⟨(deleteInLeaf req answers leaf).1, (deleteInLeaf req answers leaf).2,
    by simp [syncResource, hroot, hterm], deleteInLeaf_settled (Or.inr ⟨obj, hroot, hterm⟩), ?_⟩
  intro e he hne
  simp only [calls, hroot, hterm, if_true, List.mem_cons, reduceCtorEq, List.not_mem_nil,
    or_false, false_or] at he
  exact deleteInLeaf_reports hne he.symm

theorem outcomeRight_of_present {obj : Object} (hroot : answers.rootGet = .ok obj)
    (hterm : obj.terminating = false) : OutcomeRight req answers leaf := by
  cases hget : answers.leafGet with
  | some msg =>
    have hsync : syncResource req answers leaf = .ok (some (.other msg), leaf) := by
      simp [syncResource, hroot, hterm, hget]
    refine outcomeRight_of_reported hsync fun e he => ?_
    simpa [calls, leafGetError, hroot, hterm, hget] using he
  | none =>
    cases hold : leaf.get? req.leafKey with
    | none =>
      refine ⟨none, leaf, by simp [syncResource, hroot, hterm, hget, hold],
        fun _ => .absent hold, ?_⟩
      intro e he hne
      simp only [calls, leafGetError, hroot, hterm, hget, hold, Bool.false_eq_true, if_false,
        Option.isSome_none, List.mem_cons, Option.some.injEq, reduceCtorEq, List.not_mem_nil,
        or_false, false_or] at he
      exact absurd he hne
    | some old =>
      cases hconvert : answers.convert with
      | some msg =>
        have hsync : syncResource req answers leaf = .ok (some (.other msg), leaf) := by
          simp [syncResource, hroot, hterm, hget, hold, hconvert]
        refine outcomeRight_of_reported hsync fun e he => ?_
        simpa [calls, leafGetError, hroot, hterm, hget, hold, hconvert] using he
      | none =>
        by_cases hglobal : old.Global
        · refine ⟨(answered answers.write (leaf.update (latest old obj)) leaf).1,
            (answered answers.write (leaf.update (latest old obj)) leaf).2, ?_, ?_, ?_⟩
          · have hnot : isObjectUnstructuredGlobal old.annotations ≠ false := by
              rw [show isObjectUnstructuredGlobal old.annotations = true from hglobal]
              exact Bool.false_ne_true.symm
            simp [syncResource, hroot, hterm, hget, hold, hconvert, hnot]
          · intro hnil
            have hupdate := answered_nil (Prod.ext hnil rfl)
            have hkey : (latest old obj).key = req.leafKey :=
              (latest_key old obj).trans (Store.get?_eq_some.mp hold).2
            refine .updated obj old (latest old obj) hroot hterm hold ?_ (upToDate_latest old obj)
            rw [Store.get?_update hupdate, if_pos hkey.symm]
          · intro e he _
            simpa [calls, leafGetError, hroot, hterm, hget, hold, hconvert, hglobal, eq_comm]
              using he
        · have hnot : isObjectUnstructuredGlobal old.annotations = false :=
            Bool.not_eq_true _ |>.mp hglobal
          refine ⟨none, leaf, by simp [syncResource, hroot, hterm, hget, hold, hconvert, hnot],
            fun _ => .foreign old hold hglobal, ?_⟩
          intro e he
          simp [calls, leafGetError, hroot, hterm, hget, hold, hconvert, hglobal] at he

/-- The sync is right unless the root's object is gone and `Get` of the leaf fails: then it panics.
-/
theorem syncResource_right_iff (req : Request) (answers : Answers) (leaf : Leaf) :
    OutcomeRight req answers leaf ↔
      ¬ (answers.rootGet = .error .notFound ∧ ∃ msg, answers.leafGet = some msg) := by
  constructor
  · rintro ⟨r, leaf', hsync, -⟩ ⟨hroot, msg, hget⟩
    simp [syncResource, hroot, hget] at hsync
  · intro hnot
    cases hroot : answers.rootGet with
    | error e =>
      by_cases hgone : e = .notFound
      · rw [hgone] at hroot
        apply outcomeRight_of_gone hroot
        exact Option.eq_none_iff_forall_ne_some.mpr fun msg hget => hnot ⟨hroot, msg, hget⟩
      · exact outcomeRight_of_rootError hroot hgone
    | ok obj =>
      cases hterm : obj.terminating with
      | true => exact outcomeRight_of_terminating hroot hterm
      | false => exact outcomeRight_of_present hroot hterm

def leafTimesOut : Answers := { rootGet := .error .notFound, leafGet := some "timeout" }

theorem syncResource_timeout :
    syncResource ⟨.configMap, "default", "app"⟩ leafTimesOut ⟨[ownConfigMap], by decide⟩ =
        .error (.panic .nilDeref) ∧
      ¬ OutcomeRight ⟨.configMap, "default", "app"⟩ leafTimesOut
        ⟨[ownConfigMap], by decide⟩ := by
  refine ⟨rfl, ?_⟩
  rintro ⟨r, leaf', hsync, -⟩
  cases hsync

end Kosmos.SyncResources
