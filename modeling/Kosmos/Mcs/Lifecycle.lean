import Kosmos.Mcs.Reconciles

/-!
# Exports and imports from beginning to end

The runs of the world, call by call: a step keeps the tasks safe (`step_inv`).
-/

namespace Kosmos.McsOwners

open Go Mcs

variable {t t' : Task} {s s' : State} {p : Place} {a : Answer}

theorem has_of_addsNone {α : Type} {key : α → Key} {mark q : α → Bool} {same : α → α → Bool}
    {old new : Store key} {j : Key} (h : addsNone mark same old.objects new.objects = true)
    (hq : ∀ x, q x = true → mark x = true)
    (hsame : ∀ x y, same x y = true → q x = true → mark y = true → key y = key x ∧ q y = true)
    (hnew : new.Has q j) : old.Has q j := by
  obtain ⟨x, hx, rfl, hqx⟩ := Store.has_iff_mem.mp hnew
  have hmarked := List.all_eq_true.mp h x hx
  rw [hq x hqx, Bool.not_true, Bool.false_or, List.any_eq_true] at hmarked
  obtain ⟨y, hy, hmark⟩ := hmarked
  obtain ⟨hmark, hxy⟩ := Bool.and_eq_true_iff.mp hmark
  obtain ⟨hkey, hqy⟩ := hsame x y hxy hqx hmark
  exact Store.has_iff_mem.mpr ⟨y, hy, hkey, hqy⟩

theorem sameSlice_spec {x y : EndpointSlice} {k : Key} (h : sameSlice x y = true)
    (hof : isOfService k.1 k.2 x = true) : y.key = x.key ∧ isOfService k.1 k.2 y = true := by
  simp only [sameSlice, isOfService, Bool.and_eq_true, decide_eq_true_eq] at h hof ⊢
  exact ⟨h.1.symm, (congrArg Prod.fst h.1).symm.trans hof.1, h.2.symm.trans hof.2⟩

theorem rely_slices {slices : Store RootSlice.key}
    (h : addsNone RootSlice.marked (fun x y => sameSlice x.slice y.slice) s.slices.objects
      slices.objects = true) (t : Task) : Rely t s { s with slices := slices } := by
  refine Rely.of_owner (by cases t <;> rfl) fun p hp => ?_
  cases t with
  | serviceImport leaf k => cases p <;> exact hp
  | serviceExport k =>
    cases p with
    | service => exact hp
    | slice j =>
      refine has_of_addsNone h (fun x hx => (Bool.and_eq_true_iff.mp hx).2) ?_ hp
      intro x y hxy hx hy
      obtain ⟨hkey, hof⟩ := sameSlice_spec hxy (Bool.and_eq_true_iff.mp hx).1
      exact ⟨hkey, Bool.and_eq_true_iff.mpr ⟨hof, hy⟩⟩

theorem rely_leaf {leaf : String} {services : Store Service.key} {slices : Store EndpointSlice.key}
    (hservices : addsNone (fun x => imported x.annotations) (fun x y => decide (x.key = y.key))
      (s.leaves leaf).services.objects services.objects = true)
    (hslices : addsNone (fun x => imported x.annotations) sameSlice
      (s.leaves leaf).slices.objects slices.objects = true) (t : Task) :
    Rely t s (s.setLeaf leaf ⟨(s.leaves leaf).imports, services, slices⟩) := by
  refine Rely.of_owner (owner_setLeaf rfl) fun p hp => ?_
  rcases remains_setLeaf hp with hold | ⟨k, rfl, ⟨rfl, hhas⟩ | ⟨j, rfl, hhas⟩⟩
  · exact hold
  · exact has_of_addsNone hservices (fun x hx => hx)
      (fun x y hxy _ hy => ⟨(of_decide_eq_true hxy).symm, hy⟩) hhas
  · refine has_of_addsNone hslices (fun x hx => (Bool.and_eq_true_iff.mp hx).2) ?_ hhas
    intro x y hxy hx hy
    obtain ⟨hkey, hof⟩ := sameSlice_spec hxy (Bool.and_eq_true_iff.mp hx).1
    exact ⟨hkey, Bool.and_eq_true_iff.mpr ⟨hof, hy⟩⟩

section Owned

variable {owners : Owners}

theorem rely_setOwners_ne (howners : ∀ k, k ≠ t.key → owners.get? k = (s.owners t).get? k)
    (hne : t' ≠ t) : Rely t' s (s.setOwners t owners) :=
  Rely.of_owner (owner_setOwners_ne hne howners) fun _ => remains_setOwners.mp

theorem rely_setOwners_self
    (hself : ∀ o, s.owner t = some o → ∃ o', owners.get? t.key = some o' ∧
      (o.terminating = true → o'.terminating = true)) : Rely t s (s.setOwners t owners) := by
  refine ⟨fun h => ?_, fun h => ?_, fun _ => remains_setOwners.mp⟩
  · obtain ⟨o, ho⟩ := Option.isSome_iff_exists.mp h
    obtain ⟨o', ho', -⟩ := hself o ho
    rw [Exists, owner_setOwners_self, ho']
    rfl
  · obtain ⟨o, ho, hterminating⟩ := h
    obtain ⟨o', ho', hkeeps⟩ := hself o ho
    exact ⟨o', owner_setOwners_self.trans ho', hkeeps hterminating⟩

theorem rely_create (annotations : GoMap String String) (finalizers : List String) (t' : Task) :
    Rely t' s (s.setOwners t ((s.owners t).create (t.newOwner annotations finalizers))) := by
  have hget : ∀ k, ((s.owners t).create (t.newOwner annotations finalizers)).get? k =
      if k = t.key ∧ (s.owners t).get? k = none then
        some { t.newOwner annotations finalizers with terminating := false }
      else (s.owners t).get? k := fun k => Store.get?_insert k
  by_cases hne : t' = t
  · cases hne
    refine rely_setOwners_self fun o ho => ⟨o, ?_, id⟩
    rw [hget, if_neg fun h => nomatch h.2.symm.trans ho]
    exact ho
  · refine rely_setOwners_ne (fun k hk => ?_) hne
    rw [hget, if_neg fun h => hk h.1]

end Owned

/-- All objects are safe, and each program is at an assertion that keeps them so. -/
structure Inv (w : World) : Prop where
  safe : ∀ t, Safe t w.state
  pool : Covered rules (fun t _ => Safe t) w.state w.pool

variable {cfg : Config} {w w' : World} {e : Event} {u : Unit}

theorem Inv.others (h : Inv w) {state : State} {queue : List Task}
    (hrely : ∀ t, Rely t w.state state ∨ (w.pool.get? t = none ∧ Safe t state)) :
    Inv { w with state := state, queue := queue } := by
  refine ⟨fun t => ?_, h.pool.others fun t x hx => ?_⟩
  · rcases hrely t with hr | ⟨-, hsafe⟩
    · exact hr.safe (h.safe t)
    · exact hsafe
  · refine (hrely t).resolve_right fun hidle => ?_
    exact nomatch (GoMap.get?_eq_some.mpr hx).symm.trans hidle.1

theorem settle_rely {o o' : Owner} (howner : w.state.owner t = some o) (hkey : o'.key = o.key)
    (hterminating : o.terminating = true → o'.terminating = true)
    (hloss : o'.terminating = true → o'.finalizers = [] → AptLoss w t) (t' : Task) :
    Rely t' w.state (w.state.setOwners t ((w.state.owners t).settle o')) ∨
      (w.pool.get? t' = none ∧
        Safe t' (w.state.setOwners t ((w.state.owners t).settle o'))) := by
  have hkey' : o'.key = t.key := hkey.trans (key_of_owner howner)
  have hsome : ((w.state.owners t).get? o'.key).isSome = true := by
    rw [hkey']
    exact Option.isSome_of_eq_some howner
  by_cases hne : t' = t
  · cases hne
    by_cases hgoes : o'.terminating = true ∧ o'.finalizers = []
    · obtain ⟨hclean, hidle⟩ := hloss hgoes.1 hgoes.2
      exact Or.inr ⟨hidle, Or.inr (clean_setOwners.mpr hclean)⟩
    · refine Or.inl (rely_setOwners_self fun o₁ ho₁ => ⟨o', ?_, ?_⟩)
      · rw [get?_settle hsome, if_pos hkey'.symm, if_neg hgoes]
      · cases Option.some.inj (howner.symm.trans ho₁)
        exact hterminating
  · refine Or.inl (rely_setOwners_ne (fun k hk => ?_) hne)
    rw [get?_settle hsome, if_neg (hkey' ▸ hk)]

theorem rely_same (t t' : Task) : Rely t' s (s.setOwners t (s.owners t)) := by
  by_cases hne : t' = t
  · cases hne
    exact rely_setOwners_self fun o ho => ⟨o, ho, id⟩
  · exact rely_setOwners_ne (fun _ _ => rfl) hne

theorem apt_deleted (h : ∀ o, w.state.owner t = some o → mcsFinalizer ∈ o.finalizers) :
    Apt w (.deleted t) := by
  intro o ho hnone
  have hheld := h o ho
  rw [hnone] at hheld
  cases hheld

theorem deleted_inv (h : Inv w) (hapt : Apt w (.deleted t))
    (hstep : step cfg w (.deleted t) = .ok (u, w')) : Inv w' := by
  cases hstep
  refine h.others fun t' => ?_
  unfold Owners.delete
  split
  · exact Or.inl (rely_same t t')
  next cur hcur =>
    refine settle_rely hcur ?_ ?_ ?_ t'
    · rfl
    · exact fun _ => rfl
    · exact fun _ hnone => hapt cur hcur hnone

theorem edited_inv {annotations : GoMap String String} {finalizers : List String} (h : Inv w)
    (hapt : Apt w (.edited t annotations finalizers))
    (hstep : step cfg w (.edited t annotations finalizers) = .ok (u, w')) : Inv w' := by
  cases hstep
  refine h.others fun t' => ?_
  unfold Owners.edit
  split
  · exact Or.inl (rely_same t t')
  next cur hcur =>
    refine settle_rely hcur ?_ ?_ ?_ t'
    · rfl
    · exact id
    · exact fun hterminating hnone => hapt ⟨cur, hcur, hterminating⟩ hnone

theorem call_inv {a : Answer} (h : Inv w) (hapt : Apt w (.call t a))
    (hstep : step cfg w (.call t a) = .ok (u, w')) : Inv w' := by
  simp only [step] at hstep
  split at hstep
  next op next hget =>
    cases hstep
    have hop := h.pool.allowed hget
    have hanswers : (rules t).answers op w.state (exec a w.state op).1 (exec a w.state op).2 :=
      ⟨a, hapt op next hget, rfl⟩
    refine ⟨fun t' => ?_, h.pool.answer hget hanswers fun t' x _ hne => exec_rely hop hne⟩
    by_cases hne : t' = t
    · cases hne
      exact exec_safe hop (h.safe _)
    · exact (exec_rely hop hne).safe (h.safe t')
  · cases hstep
    exact h

theorem Inv.leave (h : Inv w) (t : Task) (requeues : Nat) : Inv (w.leave t requeues) :=
  ⟨h.safe, h.pool.finish⟩

theorem Inv.enqueue (h : Inv w) (t : Task) : Inv (w.enqueue t) := ⟨h.safe, h.pool⟩

theorem finish_inv (h : Inv w) (hstep : step cfg w (.finish t) = .ok (u, w')) : Inv w' := by
  simp only [step] at hstep
  split at hstep
  · cases hstep
    exact h.leave t 0
  · split at hstep
    · cases hstep
      exact (h.leave t _).enqueue t
    · cases hstep
      exact h.leave t 0
  · cases hstep
    exact h

theorem step_inv (h : Inv w) (hapt : Apt w e) (hstep : step cfg w e = .ok (u, w')) : Inv w' := by
  cases e with
  | created t annotations finalizers =>
    cases hstep
    exact h.others fun t' => Or.inl (rely_create annotations finalizers t')
  | deleted t => exact deleted_inv h hapt hstep
  | edited t annotations finalizers => exact edited_inv h hapt hstep
  | slices slices =>
    simp only [step] at hstep
    split at hstep
    next hnone =>
      cases hstep
      exact h.others fun t => Or.inl (rely_slices hnone t)
    · cases hstep
      exact h
  | leaf leaf services slices =>
    simp only [step] at hstep
    split at hstep
    next hnone =>
      cases hstep
      obtain ⟨hservices, hslices⟩ := Bool.and_eq_true_iff.mp hnone
      exact h.others fun t => Or.inl (rely_leaf hservices hslices t)
    · cases hstep
      exact h
  | request t =>
    cases hstep
    exact h.enqueue t
  | start t =>
    simp only [step] at hstep
    split at hstep
    · cases hstep
      exact ⟨h.safe, h.pool.start _ (safe_stable t) (h.safe t) (reconcile_holds cfg t)⟩
    · cases hstep
      exact h
  | call t a => exact call_inv h hapt hstep
  | finish t => exact finish_inv h hstep
  | crash t =>
    simp only [step] at hstep
    split at hstep
    · cases hstep
      exact (h.leave t 0).enqueue t
    · cases hstep
      exact h

def oneTry : Config := { steps := 1, ipFamilyType := fun _ => .all, reservedNamespaces := [] }

def webExport : Task := .serviceExport ("default", "web")

def noOwners : Owners := ⟨.empty, fun _ h => nomatch h⟩

def rootWith (exports : Owners) (slice : RootSlice) : State where
  exports := exports
  slices := ⟨[slice], List.nodup_singleton _⟩
  leaves := fun _ => ⟨noOwners, .empty, .empty⟩

def plainSlice : RootSlice := { slice := webSlice "web-1" "10.1.0.1" }

def exported : State :=
  rootWith (noOwners.create (webExport.newOwner .empty [mcsFinalizer]))
    (withAnnotations (fun m => m.set serviceExportLabelKey mcsLabelValue) plainSlice)

def withdrawn : List Event :=
  [.deleted webExport, .start webExport, .call webExport {}, .call webExport {}, .call webExport {},
    .call webExport {}, .finish webExport]

theorem exported_safe (t : Task) : Safe t exported := by
  cases t with
  | serviceImport leaf k => exact Or.inr ⟨fun x hx => (nomatch hx), fun x hx => nomatch hx⟩
  | serviceExport k =>
    by_cases hk : k = ("default", "web")
    · cases hk
      exact Or.inl rfl
    · refine Or.inr fun x hx hof => absurd ?_ hk
      cases List.mem_singleton.mp hx
      exact isOfService_inj hof (by decide)

def webImport : Task := .serviceImport "c1" ("default", "web")

def deletedTooEarly : List Event :=
  [.created webExport .empty [], .start webExport, .call webExport {}, .call webExport {},
    .call webExport {}, .deleted webExport, .call webExport {}, .finish webExport,
    .start webExport, .call webExport {}, .finish webExport]

def importDeletedTooEarly : List Event :=
  [.created webImport .empty [], .start webImport, .call webImport {},
    .call webImport { service := some LeafServices.rootWeb }, .call webImport {},
    .call webImport {}, .deleted webImport, .call webImport {}, .call webImport {},
    .call webImport {}, .finish webImport, .start webImport, .call webImport {}, .finish webImport]

end Kosmos.McsOwners
