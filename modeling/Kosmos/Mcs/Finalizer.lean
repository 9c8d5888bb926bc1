import Kosmos.Mcs.ServiceImport

/-!
# The end of an import: `cleanupServiceAndEndpointSlice` and the finalizer

The finalizer goes when a cleanup returns nil, which it also does without the service.

A call does what it says, or reports that nothing was found, or fails, with or without having taken
effect.
-/

namespace Kosmos.Mcs

open Kosmos.Go

inductive Reply where
  | done
  | notFound
  | failed (tookEffect : Bool)
  deriving DecidableEq

def failed (tookEffect : Bool) : WriteAnswer :=
  if tookEffect then .lost (.other "failed") else .refused (.other "failed")

def Reply.err : Reply → Option CallError
  | .done => none
  | .notFound => some .notFound
  | .failed _ => some (.other "failed")

def Reply.answer : Reply → WriteAnswer
  | .done => .done
  | .notFound => .refused .notFound
  | .failed tookEffect => Mcs.failed tookEffect

inductive UpdateReply where
  | done
  | notFound
  | conflict
  | failed (tookEffect : Bool)
  deriving DecidableEq

def UpdateReply.answer : UpdateReply → WriteAnswer
  | .done => .done
  | .notFound => .refused .notFound
  | .conflict => .refused .conflict
  | .failed tookEffect => Mcs.failed tookEffect

structure UpdateCall where
  update : UpdateReply := .done
  get : Reply := .done

structure Calls where
  lister : Reply := .done
  getService : Reply := .done
  deleteService : Reply := .done
  deleteSlices : Reply := .done
  updates : Nat → UpdateCall := fun _ => {}

def Calls.answers (calls : Calls) : Answers where
  get := calls.getService.err
  write := calls.deleteService.answer
  deleteSlices := calls.deleteSlices.answer

def isOfService (ns name : String) (e : EndpointSlice) : Bool :=
  decide (e.ns = ns) && decide (e.labels.get? serviceKey = some name)

def unlessGone : Option CallError → Option CallError
  | some .notFound => none
  | err => err

def cleanupServiceAndEndpointSlice (a : Answers) (leaf : LeafState) (key : Key) :
    Option CallError × LeafState :=
  match a.get with
  | some err => (unlessGone (some err), leaf)
  | none =>
    match leaf.services.get? key with
    | none => (none, leaf)
    | some service =>
      if hasAnnotation service.annotations serviceImportLabelKey = false then (none, leaf)
      else
        let r := answered a.write (leaf.services.delete key) leaf.services
        let leaf := { leaf with services := r.2 }
        match r.1 with
        | some err => (unlessGone (some err), leaf)
        | none =>
          let r := answered a.deleteSlices
            (.ok (leaf.slices.deleteAllOf (isOfService key.1 key.2))) leaf.slices
          (unlessGone r.1, { leaf with slices := r.2 })

def withoutFinalizer (si : ServiceImport) : ServiceImport :=
  { si with finalizers := si.finalizers.filter fun f => f ≠ mcsFinalizer }

def LeafState.storeImport (leaf : LeafState) (si : ServiceImport) : LeafState :=
  if si.terminating = true ∧ si.finalizers = [] then
    match leaf.imports.delete si.key with
    | .ok imports => { leaf with imports := imports }
    | .error _ => leaf
  else { leaf with imports := updateServiceImport leaf.imports si }

structure Updating where
  si : ServiceImport
  round : Nat := 0
  leaf : LeafState

def finalizerTry (updates : Nat → UpdateCall) (s : Updating) : Option CallError × Updating :=
  let modified := withoutFinalizer s.si
  let r := answered (updates s.round).update.answer (.ok (s.leaf.storeImport modified)) s.leaf
  match r.1 with
  | none => (none, ⟨modified, s.round + 1, r.2⟩)
  | some .notFound => (none, ⟨modified, s.round + 1, r.2⟩)
  | some updateErr =>
    match (updates s.round).get, r.2.imports.get? s.si.key with
    | .done, some newImport => (some updateErr, ⟨newImport, s.round + 1, r.2⟩)
    | .done, none => (none, ⟨modified, s.round + 1, r.2⟩)
    | .notFound, _ => (none, ⟨modified, s.round + 1, r.2⟩)
    | .failed _, _ => (some updateErr, ⟨modified, s.round + 1, r.2⟩)

def removeFinalizer (steps : Int) (calls : Calls) (leaf : LeafState) (si : ServiceImport) :
    Option CallError × LeafState :=
  if mcsFinalizer ∉ si.finalizers then (none, leaf)
  else
    let (err, s) := retryOnConflict (defaultUpdateRetrySteps steps) (finalizerTry calls.updates)
      ⟨si, 0, leaf⟩
    (err, s.leaf)

def ensureFinalizer (leaf : LeafState) (si : ServiceImport) : LeafState :=
  if mcsFinalizer ∈ si.finalizers then leaf
  else leaf.storeImport { si with finalizers := si.finalizers ++ [mcsFinalizer] }

def reconcile (ipFamilyType : IPFamilyType) (steps : Int) (calls : Calls) (w : World)
    (ns name : String) : Outcome (Option CallError × World) :=
  match calls.lister with
  | .failed _ => pure (some (.other "failed"), w)
  | .notFound => pure (none, w)
  | .done =>
    match w.leaf.imports.get? (ns, name) with
    | none => pure (none, w)
    | some si =>
      if si.terminating then
        match cleanupServiceAndEndpointSlice calls.answers w.leaf (ns, name) with
        | (some err, leaf) => pure (some err, { w with leaf := leaf })
        | (none, leaf) =>
          let (err, leaf) := removeFinalizer steps calls leaf si
          pure (err, { w with leaf := leaf })
      else do
        let leaf ← syncServiceImport steps ipFamilyType w.root si w.leaf
        let si := (leaf.imports.get? (ns, name)).getD si
        pure (none, { w with leaf := ensureFinalizer leaf si })

inductive Turn where
  | rootChanged (root : RootState)
  | reconcile (ns name : String) (calls : Calls)

def turn (ipFamilyType : IPFamilyType) (steps : Int) (w : World) :
    Turn → Outcome (Option CallError × World)
  | .rootChanged root => pure (none, { w with root := root })
  | .reconcile ns name calls => reconcile ipFamilyType steps calls w ns name

def turns (ipFamilyType : IPFamilyType) (steps : Int) (ts : List Turn) (w : World) :
    Run World Turn (Option CallError) :=
  Run.loop (Run.once (turn ipFamilyType steps)) ts w

section Right

variable (leaf : LeafState) (ns name : String)

/-- The leaf has no imported service of the name. -/
def NoImportedService : Prop :=
  ∀ s ∈ leaf.services.objects, s.key = (ns, name) →
    hasAnnotation s.annotations serviceImportLabelKey = false

def NoImportedSlice : Prop := ∀ e ∈ leaf.slices.objects, ¬ Imported ns name e

/-- Nothing that was imported for the name is left. -/
def Clean : Prop := NoImportedService leaf ns name ∧ NoImportedSlice leaf ns name

/-- An import that is being deleted and has the finalizer. -/
def Held : Prop :=
  ∃ si, leaf.imports.get? (ns, name) = some si ∧ si.terminating = true ∧
    mcsFinalizer ∈ si.finalizers

/-- The attempt finds the imported service and deletes it. -/
def DeletesService (calls : Calls) : Prop :=
  calls.getService = .done ∧
    (∃ s, leaf.services.get? (ns, name) = some s ∧
      hasAnnotation s.annotations serviceImportLabelKey = true) ∧
    calls.deleteService = .done

/-- The attempt deletes the slices and the service, where they were imported. -/
def CleansUp (calls : Calls) : Prop :=
  (DeletesService leaf ns name calls ∧ calls.deleteSlices = .done) ∨
    (NoImportedSlice leaf ns name ∧
      (DeletesService leaf ns name calls ∨ NoImportedService leaf ns name))

end Right

/-- The reconcile takes the finalizer from an import in deletion. -/
def RemovesFinalizer (m : Move World Turn (Option CallError)) (ns name : String) (calls : Calls) :
    Prop :=
  m.event = .reconcile ns name calls ∧ Held m.before.leaf ns name ∧
    ∀ si, m.after.leaf.imports.get? (ns, name) = some si → mcsFinalizer ∉ si.finalizers

section Attempt

variable {leaf leaf' : LeafState} {ns name : String} {calls : Calls} {steps : Int}
  {ipFamilyType : IPFamilyType}

theorem noImportedService_delete {services : Services}
    (h : leaf.services.delete (ns, name) = .ok services) :
    NoImportedService { leaf with services := services } ns name :=
  fun _ hs hkey => absurd hkey ((Store.mem_delete h).mp hs).2

theorem noImportedSlice_deleteAllOf {services : Services} :
    NoImportedSlice { leaf with
      services := services, slices := leaf.slices.deleteAllOf (isOfService ns name) } ns name := by
  rintro e he ⟨hns, _, hlabel⟩
  have hgone := (Store.mem_deleteAllOf.mp he).2
  rw [isOfService, decide_eq_true hns, decide_eq_true hlabel] at hgone
  cases hgone

theorem cleanup_cases
    (h : cleanupServiceAndEndpointSlice calls.answers leaf (ns, name) = (none, leaf')) :
    (¬ DeletesService leaf ns name calls ∧ leaf' = leaf) ∨
      (DeletesService leaf ns name calls ∧ NoImportedService leaf' ns name ∧
        ((calls.deleteSlices ≠ .done ∧ leaf'.slices = leaf.slices) ∨
          (calls.deleteSlices = .done ∧ NoImportedSlice leaf' ns name))) := by
  simp only [cleanupServiceAndEndpointSlice, Calls.answers] at h
  cases hget : calls.getService with
  | failed tookEffect =>
    rw [hget] at h
    cases h
  | notFound =>
    rw [hget] at h
    cases h
    refine .inl ⟨fun hdeletes => ?_, rfl⟩
    cases hget.symm.trans hdeletes.1
  | done =>
    simp only [hget, Reply.err] at h
    cases hservice : leaf.services.get? (ns, name) with
    | none =>
      rw [hservice] at h
      cases h
      refine .inl ⟨?_, rfl⟩
      rintro ⟨_, ⟨s, hs, _⟩, _⟩
      cases hservice.symm.trans hs
    | some service =>
      obtain ⟨services, hdelete⟩ : ∃ services, leaf.services.delete (ns, name) = .ok services :=
        ⟨_, if_pos (Option.isSome_of_eq_some hservice)⟩
      simp only [hservice, hdelete] at h
      split at h
      next hforeign =>
        cases h
        refine .inl ⟨?_, rfl⟩
        rintro ⟨_, ⟨s, hs, himported⟩, _⟩
        cases hservice.symm.trans hs
        cases hforeign.symm.trans himported
      next hmanaged =>
        cases hreply : calls.deleteService with
        | failed tookEffect =>
          rw [hreply] at h
          cases tookEffect <;> cases h
        | notFound =>
          rw [hreply] at h
          cases h
          refine .inl ⟨fun hdeletes => ?_, rfl⟩
          cases hreply.symm.trans hdeletes.2.2
        | done =>
          simp only [hreply, Reply.answer, answered] at h
          refine .inr ⟨⟨hget, ⟨service, hservice, Bool.not_eq_false _ ▸ hmanaged⟩, hreply⟩, ?_⟩
          cases hslices : calls.deleteSlices with
          | failed tookEffect =>
            rw [hslices] at h
            cases tookEffect <;> cases h
          | notFound =>
            rw [hslices] at h
            cases h
            exact ⟨noImportedService_delete hdelete, .inl ⟨by simp, rfl⟩⟩
          | done =>
            rw [hslices] at h
            cases h
            exact ⟨noImportedService_delete hdelete, .inr ⟨rfl, noImportedSlice_deleteAllOf⟩⟩

theorem cleanup_clean_iff
    (h : cleanupServiceAndEndpointSlice calls.answers leaf (ns, name) = (none, leaf')) :
    Clean leaf' ns name ↔ CleansUp leaf ns name calls := by
  rcases cleanup_cases h with
    ⟨hnot, rfl⟩ | ⟨hdeletes, hservice, ⟨hslices, hsame⟩ | ⟨hslices, hgone⟩⟩
  · rw [CleansUp, iff_false_intro hnot, false_and, false_or, false_or, and_comm, Clean]
  · rw [Clean, and_iff_right hservice, NoImportedSlice, hsame]
    constructor
    · exact fun hslice => Or.inr ⟨hslice, Or.inl hdeletes⟩
    · rintro (⟨_, hdone⟩ | ⟨hslice, _⟩)
      · exact absurd hdone hslices
      · exact hslice
  · exact iff_of_true ⟨hservice, hgone⟩ (Or.inl ⟨hdeletes, hslices⟩)

theorem cleanup_imports {a : Answers} {key : Key} :
    (cleanupServiceAndEndpointSlice a leaf key).2.imports = leaf.imports := by
  unfold cleanupServiceAndEndpointSlice
  split
  · rfl
  · split
    · rfl
    · split
      · rfl
      · dsimp only
        split
        · rfl
        · rfl

def SameResources (leaf leaf' : LeafState) : Prop :=
  leaf'.services = leaf.services ∧ leaf'.slices = leaf.slices

theorem SameResources.refl (leaf : LeafState) : SameResources leaf leaf := ⟨rfl, rfl⟩

theorem SameResources.clean_iff (h : SameResources leaf leaf') :
    Clean leaf' ns name ↔ Clean leaf ns name := by
  rw [Clean, Clean, NoImportedService, NoImportedService, NoImportedSlice, NoImportedSlice,
    h.1, h.2]

theorem storeImport_same (leaf : LeafState) (si : ServiceImport) :
    SameResources leaf (leaf.storeImport si) := by
  unfold LeafState.storeImport
  split
  · split
    · exact ⟨rfl, rfl⟩
    · exact ⟨rfl, rfl⟩
  · exact ⟨rfl, rfl⟩

theorem finalizerTry_same (updates : Nat → UpdateCall) {s : Updating}
    (h : SameResources leaf s.leaf) : SameResources leaf (finalizerTry updates s).2.leaf := by
  have hwrite : SameResources leaf (answered (updates s.round).update.answer
      (.ok (s.leaf.storeImport (withoutFinalizer s.si))) s.leaf).2 := by
    rw [answered_ok_snd]
    split
    · exact ⟨(storeImport_same _ _).1.trans h.1, (storeImport_same _ _).2.trans h.2⟩
    · exact h
  unfold finalizerTry
  dsimp only
  split
  · exact hwrite
  · exact hwrite
  · split <;> exact hwrite

theorem removeFinalizer_same (leaf : LeafState) (si : ServiceImport) :
    SameResources leaf (removeFinalizer steps calls leaf si).2 := by
  unfold removeFinalizer
  split
  · exact .refl leaf
  · exact onError_keeps (I := fun s : Updating => SameResources leaf s.leaf)
      (fun _ => finalizerTry_same calls.updates) _ none ⟨si, 0, leaf⟩ (.refl leaf)

theorem reconcile_deleting {w w' : World} {err : Option CallError} {si : ServiceImport}
    (hsi : w.leaf.imports.get? (ns, name) = some si) (hterminating : si.terminating = true)
    (h : reconcile ipFamilyType steps calls w ns name = .ok (err, w')) :
    w'.leaf.imports = w.leaf.imports ∨
      ∃ leaf, cleanupServiceAndEndpointSlice calls.answers w.leaf (ns, name) = (none, leaf) ∧
        w'.leaf = (removeFinalizer steps calls leaf si).2 := by
  unfold reconcile at h
  simp only [hsi, hterminating, if_true] at h
  split at h
  · cases h; exact Or.inl rfl
  · cases h; exact Or.inl rfl
  · have himports : (cleanupServiceAndEndpointSlice calls.answers w.leaf (ns, name)).2.imports =
        w.leaf.imports := cleanup_imports
    split at h
    next err leaf hcleanup =>
      cases h
      rw [hcleanup] at himports
      exact Or.inl himports
    next leaf hcleanup =>
      cases h
      exact Or.inr ⟨leaf, hcleanup, rfl⟩

theorem removes_clean_iff {m : Move World Turn (Option CallError)}
    (hstep : turn ipFamilyType steps m.before m.event = .ok (m.result, m.after))
    (hremoves : RemovesFinalizer m ns name calls) :
    Clean m.after.leaf ns name ↔ CleansUp m.before.leaf ns name calls := by
  obtain ⟨hevent, ⟨si, hsi, hterminating, hheld⟩, hgone⟩ := hremoves
  rw [hevent] at hstep
  rcases reconcile_deleting hsi hterminating hstep with hsame | ⟨leaf, hcleanup, hafter⟩
  · rw [hsame] at hgone
    exact absurd hheld (hgone si hsi)
  · rw [hafter, (removeFinalizer_same leaf si).clean_iff]
    exact cleanup_clean_iff hcleanup

end Attempt

/-- The finalizer is removed only from a clean leaf exactly if each reconcile that removes it has
cleaned up. -/
theorem turns_clean_iff (ipFamilyType : IPFamilyType) (steps : Int) (ts : List Turn) (w : World) :
    (∀ m ∈ (turns ipFamilyType steps ts w).moves, ∀ ns name calls,
      RemovesFinalizer m ns name calls → Clean m.after.leaf ns name) ↔
    ∀ m ∈ (turns ipFamilyType steps ts w).moves, ∀ ns name calls,
      RemovesFinalizer m ns name calls → CleansUp m.before.leaf ns name calls := by
  have hkeeps : (turns ipFamilyType steps ts w).Keeps (turn ipFamilyType steps) fun _ => True :=
    Run.Keeps.loop (Run.Keeps.once fun _ _ _ _ _ _ => trivial) ts w trivial
  refine forall₂_congr fun m hm => forall₃_congr fun ns name calls => ?_
  exact forall_congr' fun hremoves => removes_clean_iff (hkeeps.1 m hm).2 hremoves

def importedService : Service where
  ns := "default"
  name := "web"
  annotations := GoMap.empty.set serviceImportLabelKey mcsLabelValue

def deletedImport : World where
  root := ⟨.empty, .empty⟩
  leaf :=
    { services := ⟨[importedService], List.nodup_singleton _⟩
      slices := ⟨[image webImport (webSlice "web-1" "10.1.0.1")], List.nodup_singleton _⟩
      imports := ⟨[{ webImport with terminating := true, finalizers := [mcsFinalizer] }],
        List.nodup_singleton _⟩ }

def failsOnce : List Turn :=
  [.reconcile "default" "web" { deleteSlices := .failed false }, .reconcile "default" "web" {}]

theorem failsOnce_leaves_slice :
    ∃ m ∈ (turns .all 5 failsOnce deletedImport).moves,
      RemovesFinalizer m "default" "web" {} ∧
        m.after.leaf.slices.objects.map EndpointSlice.name = ["web-1"] ∧
        ¬ Clean m.after.leaf "default" "web" := by
  refine ⟨_, List.mem_of_getElem? (i := 1) rfl, ⟨rfl, ⟨_, rfl, rfl, by decide +kernel⟩, ?_⟩,
    by decide +kernel, fun h => ?_⟩
  · intro si hsi
    cases hsi
  · exact h.2 _ List.mem_cons_self ⟨rfl, by decide +kernel, by decide +kernel⟩

end Kosmos.Mcs
