import Kosmos.Go.Retry
import Kosmos.Go.Trace

/-!
# Shadows of DaemonSets

`daemonset_controller.go`: one shadow in the host cluster and one in each member, found by its name.
-/

namespace Kosmos.DaemonSets

open Go

/-! ## Objects -/

structure OwnerReference where
  name : String
  uid : String
  deriving DecidableEq

inductive RefType where
  | host
  | member
  deriving DecidableEq

structure DaemonSet (Spec : Type) where
  ns : String
  name : String
  uid : String
  labels : GoMap String String
  annotations : GoMap String String
  spec : Spec

structure ShadowDaemonSet (Spec : Type) where
  ns : String
  name : String
  ownerReferences : List OwnerReference
  labels : GoMap String String
  annotations : GoMap String String
  refType : RefType
  cluster : String
  spec : Spec

structure Cluster where
  name : String
  deleting : Bool

variable {Spec : Type}

def DaemonSet.key (d : DaemonSet Spec) : String × String := (d.ns, d.name)

def ShadowDaemonSet.key (x : ShadowDaemonSet Spec) : String × String := (x.ns, x.name)

structure DaemonSetLister (Spec : Type) extends Store (@DaemonSet.key Spec) where
  uids : (objects.map DaemonSet.uid).Nodup

abbrev Shadows (Spec : Type) := Store (@ShadowDaemonSet.key Spec)

def newControllerRef (d : DaemonSet Spec) : OwnerReference := ⟨d.name, d.uid⟩

def createShadowDaemonSet (ds : DaemonSet Spec) (refType : RefType) (cluster : String) :
    ShadowDaemonSet Spec :=
  let suffix := if refType ≠ .host then "-" ++ cluster else "-host"
  { ns := ds.ns
    name := ds.name ++ suffix
    ownerReferences := [newControllerRef ds]
    labels := ds.labels
    annotations := ds.annotations
    refType := refType
    cluster := if cluster ≠ "" then cluster else ""
    spec := ds.spec }

/-! ## Calls -/

structure Attempt where
  get : Option String
  write : WriteAnswer

def Attempt.fine : Attempt := ⟨none, .done⟩

def ShadowDaemonSet.desired (exist ds : ShadowDaemonSet Spec) : ShadowDaemonSet Spec :=
  { exist with spec := ds.spec, labels := ds.labels, annotations := ds.annotations }

def tryCreateOrUpdate (ds : ShadowDaemonSet Spec) (x : List Attempt × Shadows Spec) :
    Option CallError × (List Attempt × Shadows Spec) :=
  let attempt := x.1.headD .fine
  match attempt.get with
  | some msg => (some (.other msg), x.1.tail, x.2)
  | none =>
    match x.2.get? ds.key with
    | none =>
      let r := answered attempt.write (x.2.create ds) x.2
      (r.1, x.1.tail, r.2)
    | some exist =>
      let r := answered attempt.write (x.2.update (exist.desired ds)) x.2
      (r.1, x.1.tail, r.2)

def defaultBackoffSteps : Nat := 4

def createOrUpdate (attempts : List Attempt) (ds : ShadowDaemonSet Spec) (s : Shadows Spec) :
    Option CallError × Shadows Spec :=
  let r := retryOnConflict defaultBackoffSteps (tryCreateOrUpdate ds) (attempts, s)
  (r.1, r.2.2)

/-! ## The sync -/

def listAllShadowDaemonSet (s : Shadows Spec) (ds : DaemonSet Spec) :
    List (ShadowDaemonSet Spec) :=
  (s.objects.filter fun x => x.ns = ds.ns).flatMap fun x =>
    (x.ownerReferences.filter fun ref => ref.uid = ds.uid).map fun _ => x

def removeOrphans (clusterSet : List String) (answers : String → WriteAnswer) :
    List (ShadowDaemonSet Spec) → Shadows Spec → Option CallError × Shadows Spec
  | [], s => (none, s)
  | x :: xs, s =>
    if x.refType = .host ∨ x.cluster ∈ clusterSet then removeOrphans clusterSet answers xs s
    else
      match answered (answers x.name) (s.delete x.key) s with
      | (none, s') => removeOrphans clusterSet answers xs s'
      | (some e, s') => (some e, s')

def removeOrphanShadowDaemonSet (clusters : List Cluster) (answers : String → WriteAnswer)
    (ds : DaemonSet Spec) (s : Shadows Spec) : Option CallError × Shadows Spec :=
  removeOrphans (clusters.map Cluster.name) answers (listAllShadowDaemonSet s ds) s

structure Sync where
  key : String × String
  deletes : String → WriteAnswer
  host : List Attempt
  member : String → List Attempt
  status : Option CallError

def syncDaemonSet (lister : DaemonSetLister Spec) (clusters : List Cluster) (s : Shadows Spec)
    (e : Sync) : Option CallError × Shadows Spec :=
  match lister.get? e.key with
  | none => (none, s)
  | some ds =>
    match removeOrphanShadowDaemonSet clusters e.deletes ds s with
    | (some err, s) => (some err, s)
    | (none, s) =>
      match createOrUpdate e.host (createShadowDaemonSet ds .host "") s with
      | (some err, s) => (some err, s)
      | (none, s) =>
        let s := clusters.foldl (fun s cluster =>
          if cluster.deleting then s
          -- an error is logged only
          else (createOrUpdate (e.member cluster.name)
            (createShadowDaemonSet ds .member cluster.name) s).2) s
        (e.status, s)

/-! ## Putting a shadow in its place -/

def place (s : Shadows Spec) (ds : ShadowDaemonSet Spec) : Shadows Spec :=
  match s.get? ds.key with
  | none => (s.create ds).toOption.getD s
  | some exist => (s.update (exist.desired ds)).toOption.getD s

variable {s s' : Shadows Spec} {ds x y : ShadowDaemonSet Spec} {d d' : DaemonSet Spec}

@[simp] theorem desired_key : (x.desired ds).key = x.key := rfl

def placed (s : Shadows Spec) (ds : ShadowDaemonSet Spec) : ShadowDaemonSet Spec :=
  ((s.get? ds.key).map fun exist => exist.desired ds).getD ds

theorem create_eq_place (h : s.get? ds.key = none) : s.create ds = .ok (place s ds) := by
  have hfree := Store.get?_eq_none.mp h
  have hcreate : ∃ s', s.create ds = .ok s' := ⟨_, dif_pos hfree⟩
  obtain ⟨s', hs'⟩ := hcreate
  simp only [place, h, hs']
  rfl

theorem update_eq_place (h : s.get? ds.key = some x) :
    s.update (x.desired ds) = .ok (place s ds) := by
  obtain ⟨hx, hkey⟩ := Store.get?_eq_some.mp h
  have hsome : (s.get? (x.desired ds).key).isSome = true := by
    rw [desired_key]
    exact Store.get?_isSome_of_mem hx
  have hupdate : ∃ s', s.update (x.desired ds) = .ok s' := ⟨_, if_pos hsome⟩
  obtain ⟨s', hs'⟩ := hupdate
  simp only [place, h, hs']
  rfl

theorem mem_place :
    x ∈ (place s ds).objects ↔ x = placed s ds ∨ x ∈ s.objects ∧ x.key ≠ ds.key := by
  cases h : s.get? ds.key with
  | none =>
    rw [Store.mem_create (create_eq_place h), placed, h, or_comm]
    have hfree := Store.get?_eq_none.mp h
    exact or_congr_right ⟨fun hx => ⟨hx, hfree x hx⟩, And.left⟩
  | some exist =>
    have hkey := (Store.get?_eq_some.mp h).2
    rw [Store.mem_update (update_eq_place h), placed, h, desired_key, hkey]
    rfl

theorem placed_key : (placed s ds).key = ds.key := by
  unfold placed
  cases h : s.get? ds.key with
  | none => rfl
  | some exist => exact (Store.get?_eq_some.mp h).2

theorem get?_place : (place s ds).get? ds.key = some (placed s ds) :=
  Store.get?_eq_some.mpr ⟨mem_place.mpr (Or.inl rfl), placed_key⟩

theorem place_place : place (place s ds) ds = place s ds := by
  have hfix : (placed s ds).desired ds = placed s ds := by
    unfold placed
    cases s.get? ds.key <;> rfl
  have hget : (place s ds).get? ds.key = some (placed s ds) := get?_place
  have hupdate := update_eq_place hget
  rw [hfix] at hupdate
  rw [Store.update_of_mem (mem_place.mpr (Or.inl rfl))] at hupdate
  exact (Except.ok.inj hupdate).symm

/-! ## What a sync writes -/

def tryOutcome (x : List Attempt × Bool) : Option CallError × (List Attempt × Bool) :=
  let attempt := x.1.headD .fine
  match attempt.get with
  | some msg => (some (.other msg), x.1.tail, x.2)
  | none =>
    match attempt.write with
    | .done => (none, x.1.tail, true)
    | .refused e => (some e, x.1.tail, x.2)
    | .lost e => (some e, x.1.tail, true)

def outcome (attempts : List Attempt) : Option CallError × Bool :=
  let r := retryOnConflict defaultBackoffSteps tryOutcome (attempts, false)
  (r.1, r.2.2)

variable (attempts : List Attempt) {e : Sync} {slot : Slot}

theorem tryCreateOrUpdate_eq : tryCreateOrUpdate ds (attempts, s) =
      let r := tryOutcome (attempts, false)
      (r.1, r.2.1, if r.2.2 then place s ds else s) := by
  unfold tryCreateOrUpdate tryOutcome
  cases hget : (attempts.headD .fine).get with
  | some msg => simp only [hget]; rfl
  | none =>
    simp only [hget]
    cases h : s.get? ds.key with
    | none =>
      simp only [create_eq_place h, answered_ok]
      cases (attempts.headD .fine).write <;> rfl
    | some exist =>
      simp only [update_eq_place h, answered_ok]
      cases (attempts.headD .fine).write <;> rfl

theorem tryOutcome_true : tryOutcome (attempts, true) =
      ((tryOutcome (attempts, false)).1, (tryOutcome (attempts, false)).2.1, true) := by
  unfold tryOutcome
  cases hget : (attempts.headD .fine).get with
  | some msg => simp only [hget]
  | none =>
    simp only [hget]
    cases (attempts.headD .fine).write <;> rfl

theorem createOrUpdate_eq (ds : ShadowDaemonSet Spec) (s : Shadows Spec) :
    createOrUpdate attempts ds s =
      ((outcome attempts).1, if (outcome attempts).2 then place s ds else s) := by
  have hstep : ∀ (x : List Attempt × Shadows Spec) (y : List Attempt × Bool),
      (x.1 = y.1 ∧ x.2 = if y.2 then place s ds else s) →
        (tryCreateOrUpdate ds x).1 = (tryOutcome y).1 ∧
        (tryCreateOrUpdate ds x).2.1 = (tryOutcome y).2.1 ∧
        (tryCreateOrUpdate ds x).2.2 = if (tryOutcome y).2.2 then place s ds else s := by
    rintro ⟨as, s₁⟩ ⟨_, b⟩ ⟨rfl, hs₁⟩
    rw [tryCreateOrUpdate_eq]
    cases b with
    | false =>
      cases hs₁
      exact ⟨rfl, rfl, rfl⟩
    | true =>
      have hs₁ : s₁ = place s ds := hs₁
      subst hs₁
      rw [tryOutcome_true]
      refine ⟨rfl, rfl, ?_⟩
      simp [place_place]
  obtain ⟨herr, -, hstate⟩ := retryOnConflict_simulates _ hstep defaultBackoffSteps
    (show (attempts, s).1 = (attempts, false).1 ∧ _ from ⟨rfl, rfl⟩)
  exact Prod.ext herr hstate

inductive Slot where
  | host
  | member (cluster : String)
  deriving DecidableEq

def shadowOf (d : DaemonSet Spec) : Slot → ShadowDaemonSet Spec
  | .host => createShadowDaemonSet d .host ""
  | .member cluster => createShadowDaemonSet d .member cluster

def slots (clusters : List Cluster) : List Slot :=
  .host :: (clusters.filter fun c => !c.deleting).map fun c => .member c.name

/-- The sync comes to the member clusters and puts the shadow of one in place. -/
def Sync.WritesMember (e : Sync) (cluster : String) : Prop :=
  (outcome e.host).1 = none ∧ (outcome (e.member cluster)).2 = true

instance (e : Sync) (cluster : String) : Decidable (e.WritesMember cluster) :=
  inferInstanceAs (Decidable (_ ∧ _))

def Sync.slots (e : Sync) (clusters : List Cluster) : List Slot :=
  (if (outcome e.host).2 then [.host] else []) ++
    (clusters.filter fun c => !c.deleting && decide (e.WritesMember c.name)).map
      fun c => .member c.name

def writes (lister : DaemonSetLister Spec) (clusters : List Cluster) (e : Sync) :
    List (ShadowDaemonSet Spec) :=
  ((lister.get? e.key).map fun d => (e.slots clusters).map (shadowOf d)).getD []

def NoOrphans (clusters : List Cluster) (s : Shadows Spec) : Prop :=
  ∀ x ∈ s.objects, x.refType = .host ∨ x.cluster ∈ clusters.map Cluster.name

theorem mem_listAllShadowDaemonSet :
    x ∈ listAllShadowDaemonSet s d ↔
      x ∈ s.objects ∧ x.ns = d.ns ∧ ∃ ref ∈ x.ownerReferences, ref.uid = d.uid := by
  simp only [listAllShadowDaemonSet, List.mem_flatMap, List.mem_filter, List.mem_map,
    decide_eq_true_eq]
  constructor
  · rintro ⟨y, ⟨hy, hns⟩, ref, ⟨href, huid⟩, rfl⟩
    exact ⟨hy, hns, ref, href, huid⟩
  · rintro ⟨hx, hns, ref, href, huid⟩
    exact ⟨x, ⟨hx, hns⟩, ref, ⟨href, huid⟩, rfl⟩

theorem removeOrphans_of_none {clusterSet : List String} (answers : String → WriteAnswer) :
    ∀ {xs : List (ShadowDaemonSet Spec)} (s : Shadows Spec),
      (∀ x ∈ xs, x.refType = .host ∨ x.cluster ∈ clusterSet) →
        removeOrphans clusterSet answers xs s = (none, s) := by
  intro xs
  induction xs with
  | nil => exact fun _ _ => rfl
  | cons x xs ih =>
    intro s h
    rw [List.forall_mem_cons] at h
    rw [removeOrphans, if_pos h.1]
    exact ih s h.2

theorem foldl_members (e : Sync) (d : DaemonSet Spec) :
    ∀ (clusters : List Cluster) (s : Shadows Spec),
      clusters.foldl (fun s cluster =>
        if cluster.deleting then s
        else (createOrUpdate (e.member cluster.name)
          (createShadowDaemonSet d .member cluster.name) s).2) s =
      ((clusters.filter fun c => !c.deleting && (outcome (e.member c.name)).2).map
        fun c => shadowOf d (.member c.name)).foldl place s := by
  intro clusters
  induction clusters with
  | nil => exact fun _ => rfl
  | cons c clusters ih =>
    intro s
    rw [List.foldl_cons, ih, List.filter_cons]
    cases c.deleting with
    | true => rfl
    | false =>
      rw [createOrUpdate_eq]
      cases (outcome (e.member c.name)).2 <;> rfl

theorem syncDaemonSet_of_removed {lister : DaemonSetLister Spec} {clusters : List Cluster}
    (hget : lister.get? e.key = some d)
    (hremoved : removeOrphanShadowDaemonSet clusters e.deletes d s = (none, s')) :
    (syncDaemonSet lister clusters s e).2 = (writes lister clusters e).foldl place s' := by
  unfold syncDaemonSet writes
  simp only [hget, hremoved, createOrUpdate_eq e.host, Option.map_some, Option.getD_some,
    Sync.slots, List.map_append, List.map_map, List.foldl_append]
  cases hhost : (outcome e.host).1 with
  | some err =>
    have hno : ∀ c, e.WritesMember c ↔ False := fun c =>
      iff_of_false (fun hw => by rw [hw.1] at hhost; cases hhost) id
    simp only [hno, decide_false, Bool.and_false, List.filter_false, List.map_nil, List.foldl_nil]
    cases (outcome e.host).2 <;> rfl
  | none =>
    have hwm : ∀ c, decide (e.WritesMember c) = (outcome (e.member c)).2 := fun c => by
      rw [Bool.eq_iff_iff, decide_eq_true_iff, Sync.WritesMember, hhost]
      exact and_iff_right rfl
    simp only [hwm, foldl_members]
    cases (outcome e.host).2 <;> rfl

theorem removed_of_noOrphans {clusters : List Cluster} (h : NoOrphans clusters s) (e : Sync)
    (d : DaemonSet Spec) : removeOrphanShadowDaemonSet clusters e.deletes d s = (none, s) :=
  removeOrphans_of_none e.deletes s fun x hx => h x (mem_listAllShadowDaemonSet.mp hx).1

theorem syncDaemonSet_state {lister : DaemonSetLister Spec} {clusters : List Cluster}
    (h : NoOrphans clusters s) (e : Sync) :
    (syncDaemonSet lister clusters s e).2 = (writes lister clusters e).foldl place s := by
  cases hget : lister.get? e.key with
  | none =>
    unfold syncDaemonSet writes
    rw [hget]
    rfl
  | some d => exact syncDaemonSet_of_removed hget (removed_of_noOrphans h e d)

/-! ## Runs of syncs -/

def syncs (lister : DaemonSetLister Spec) (clusters : List Cluster) (es : List Sync) :
    Run (Shadows Spec) Sync (Option CallError) :=
  Run.loop (Run.once fun s e => .ok (syncDaemonSet lister clusters s e)) es Store.empty

variable {lister : DaemonSetLister Spec} {clusters : List Cluster} {w : List (ShadowDaemonSet Spec)}

def Slotted (lister : DaemonSetLister Spec) (clusters : List Cluster)
    (w : List (ShadowDaemonSet Spec)) : Prop :=
  ∀ x ∈ w, ∃ d ∈ lister.objects, ∃ slot ∈ slots clusters, x = shadowOf d slot

theorem mem_syncSlots (h : slot ∈ e.slots clusters) : slot ∈ slots clusters := by
  unfold Sync.slots at h
  rcases List.mem_append.mp h with hhost | hmember
  · split at hhost
    · exact List.mem_singleton.mp hhost ▸ List.mem_cons_self
    · cases hhost
  · obtain ⟨c, hc, rfl⟩ := List.mem_map.mp hmember
    obtain ⟨hmem, hlive⟩ := List.mem_filter.mp hc
    rw [Bool.and_eq_true] at hlive
    exact List.mem_cons_of_mem _ (List.mem_map.mpr ⟨c, List.mem_filter.mpr ⟨hmem, hlive.1⟩, rfl⟩)

theorem slotted_writes (e : Sync) : Slotted lister clusters (writes lister clusters e) := by
  intro x hx
  unfold writes at hx
  cases h : lister.get? e.key with
  | none =>
    rw [h] at hx
    cases hx
  | some d =>
    rw [h] at hx
    obtain ⟨slot, hslot, rfl⟩ := List.mem_map.mp hx
    exact ⟨d, (Store.get?_eq_some.mp h).1, slot, mem_syncSlots hslot, rfl⟩

structure SameMeta (x y : ShadowDaemonSet Spec) : Prop where
  key : x.key = y.key
  owner : x.ownerReferences = y.ownerReferences
  refType : x.refType = y.refType
  cluster : x.cluster = y.cluster

theorem sameMeta_of_mem_foldl_place :
    ∀ (w : List (ShadowDaemonSet Spec)) (s : Shadows Spec), x ∈ (w.foldl place s).objects →
      (∃ y ∈ s.objects, SameMeta x y) ∨ ∃ y ∈ w, SameMeta x y := by
  intro w
  induction w with
  | nil => exact fun s hx => Or.inl ⟨x, hx, rfl, rfl, rfl, rfl⟩
  | cons ds w ih =>
    intro s hx
    rcases ih (place s ds) hx with ⟨y, hy, hsame⟩ | ⟨y, hy, hsame⟩
    · rcases mem_place.mp hy with rfl | ⟨hy, -⟩
      · -- it is new, or it has the metadata of what was there
        unfold placed at hsame
        cases hget : s.get? ds.key with
        | none =>
          rw [hget] at hsame
          exact Or.inr ⟨ds, List.mem_cons_self, hsame⟩
        | some exist =>
          rw [hget] at hsame
          exact Or.inl ⟨exist, (Store.get?_eq_some.mp hget).1, hsame.key, hsame.owner,
            hsame.refType, hsame.cluster⟩
      · exact Or.inl ⟨y, hy, hsame⟩
    · exact Or.inr ⟨y, List.mem_cons_of_mem ds hy, hsame⟩

def Reached (lister : DaemonSetLister Spec) (clusters : List Cluster) (s : Shadows Spec) : Prop :=
  ∃ w, Slotted lister clusters w ∧ s = w.foldl place Store.empty

theorem sameMeta_of_mem_placed (hx : x ∈ (w.foldl place Store.empty).objects) :
    ∃ y ∈ w, SameMeta x y := by
  rcases sameMeta_of_mem_foldl_place w Store.empty hx with ⟨y, hy, -⟩ | hw
  · cases hy
  · exact hw

theorem shadowOf_member_cluster (d : DaemonSet Spec) (c : String) :
    (shadowOf d (.member c)).cluster = c := by
  show (if c ≠ "" then c else "") = c
  split
  · rfl
  next h => exact (not_not.mp h).symm

theorem shadowOf_cluster (hslot : slot ∈ slots clusters) :
    (shadowOf d slot).refType = .host ∨ (shadowOf d slot).cluster ∈ clusters.map Cluster.name := by
  rcases List.mem_cons.mp hslot with rfl | hmember
  · exact Or.inl rfl
  · obtain ⟨c, hc, rfl⟩ := List.mem_map.mp hmember
    rw [shadowOf_member_cluster]
    exact Or.inr (List.mem_map.mpr ⟨c, (List.mem_filter.mp hc).1, rfl⟩)

theorem Reached.noOrphans (h : Reached lister clusters s) : NoOrphans clusters s := by
  obtain ⟨w, hw, rfl⟩ := h
  intro x hx
  obtain ⟨y, hy, hsame⟩ := sameMeta_of_mem_placed hx
  obtain ⟨d, -, slot, hslot, rfl⟩ := hw y hy
  rw [hsame.refType, hsame.cluster]
  exact shadowOf_cluster hslot

theorem Reached.sync (h : Reached lister clusters s) (e : Sync) :
    Reached lister clusters (syncDaemonSet lister clusters s e).2 := by
  have hstate : (syncDaemonSet lister clusters s e).2 = (writes lister clusters e).foldl place s :=
    syncDaemonSet_state h.noOrphans e
  obtain ⟨w, hw, rfl⟩ := h
  refine ⟨w ++ writes lister clusters e, ?_, by rw [hstate, List.foldl_append]⟩
  intro x hx
  rcases List.mem_append.mp hx with hx | hx
  · exact hw x hx
  · exact slotted_writes e x hx

theorem reached_empty : Reached lister clusters Store.empty := ⟨[], by simp [Slotted], rfl⟩

theorem syncs_state (es : List Sync) :
    (syncs lister clusters es).state =
      (es.flatMap (writes lister clusters)).foldl place Store.empty := by
  have hfold : ∀ (es : List Sync) (s : Shadows Spec), Reached lister clusters s →
      es.foldl (fun s e => (syncDaemonSet lister clusters s e).2) s =
        (es.flatMap (writes lister clusters)).foldl place s := by
    intro es
    induction es with
    | nil => exact fun _ _ => rfl
    | cons e es ih =>
      intro s hs
      rw [List.foldl_cons, ih _ (hs.sync e), syncDaemonSet_state hs.noOrphans, List.flatMap_cons,
        List.foldl_append]
  rw [syncs, Run.loop_state_of_total fun _ _ => rfl]
  exact hfold es Store.empty reached_empty

theorem mem_foldl_place :
    ∀ (w : List (ShadowDaemonSet Spec)) (s : Shadows Spec),
      (∀ x ∈ s.objects, ∀ y ∈ w, x.key = y.key → x = y) →
      (∀ x ∈ w, ∀ y ∈ w, x.key = y.key → x = y) →
        (x ∈ (w.foldl place s).objects ↔ x ∈ s.objects ∨ x ∈ w) := by
  intro w
  induction w with
  | nil => exact fun s _ _ => by simp
  | cons ds w ih =>
    intro s hold hw
    have hplaced : placed s ds = ds := by
      unfold placed
      cases hget : s.get? ds.key with
      | none => rfl
      | some exist =>
        obtain ⟨hmem, hkey⟩ := Store.get?_eq_some.mp hget
        rw [hold exist hmem ds List.mem_cons_self hkey]
        rfl
    have hmem : ∀ y, y ∈ (place s ds).objects ↔ y = ds ∨ y ∈ s.objects := by
      intro y
      rw [mem_place, hplaced]
      constructor
      · exact Or.imp_right And.left
      · rintro (rfl | hy)
        · exact Or.inl rfl
        · by_cases hkey : y.key = ds.key
          · exact Or.inl (hold y hy ds List.mem_cons_self hkey)
          · exact Or.inr ⟨hy, hkey⟩
    have hnext : ∀ y ∈ (place s ds).objects, ∀ z ∈ w, y.key = z.key → y = z := by
      intro y hy z hz
      rcases (hmem y).mp hy with rfl | hy
      · exact hw y List.mem_cons_self z (List.mem_cons_of_mem y hz)
      · exact hold y hy z (List.mem_cons_of_mem ds hz)
    have hrest : ∀ y ∈ w, ∀ z ∈ w, y.key = z.key → y = z := fun y hy z hz =>
      hw y (List.mem_cons_of_mem ds hy) z (List.mem_cons_of_mem ds hz)
    rw [List.foldl_cons, ih (place s ds) hnext hrest, hmem, List.mem_cons, or_comm (a := x = ds),
      or_assoc]

/-! ## One set of shadows for each DaemonSet -/

def Owns (d : DaemonSet Spec) (x : ShadowDaemonSet Spec) : Prop :=
  ∃ ref ∈ x.ownerReferences, ref.uid = d.uid

def InSlot (x : ShadowDaemonSet Spec) : Slot → Prop
  | .host => x.refType = .host
  | .member cluster => x.refType = .member ∧ x.cluster = cluster

/-- The DaemonSet owns one shadow in the slot, and that is as it should be. -/
structure HasShadow (s : Shadows Spec) (d : DaemonSet Spec) (slot : Slot) : Prop where
  unique : ∃! x, x ∈ s.objects ∧ Owns d x ∧ InSlot x slot
  right : ∀ x ∈ s.objects, Owns d x → InSlot x slot →
    x.cluster = (shadowOf d slot).cluster ∧ x.spec = d.spec ∧ x.labels = d.labels ∧
      x.annotations = d.annotations

/-- Every DaemonSet has its shadows, and no sync touches those of another. -/
structure Shadowed (lister : DaemonSetLister Spec) (clusters : List Cluster) (es : List Sync) :
    Prop where
  shadows : ∀ d ∈ lister.objects, ∀ slot ∈ slots clusters,
    HasShadow (syncs lister clusters es).state d slot
  others : ∀ m ∈ (syncs lister clusters es).moves, ∀ x ∈ m.before.objects,
    ∀ d ∈ lister.objects, d.key ≠ m.event.key → Owns d x → x ∈ m.after.objects

/-- Every DaemonSet had a sync that succeeded. -/
def AllSynced (lister : DaemonSetLister Spec) (clusters : List Cluster) (es : List Sync) : Prop :=
  ∀ d ∈ lister.objects, ∃ m ∈ (syncs lister clusters es).moves,
    m.event.key = d.key ∧ m.result = none

/-- No two shadows have one name. -/
def DistinctNames (lister : DaemonSetLister Spec) (clusters : List Cluster) : Prop :=
  ∀ d ∈ lister.objects, ∀ slot ∈ slots clusters, ∀ d' ∈ lister.objects, ∀ slot' ∈ slots clusters,
    (shadowOf d slot).key = (shadowOf d' slot').key → d = d' ∧ slot = slot'

/-- The shadow of every member cluster was written by some sync. -/
def MembersWritten (lister : DaemonSetLister Spec) (clusters : List Cluster) (es : List Sync) :
    Prop :=
  ∀ d ∈ lister.objects, ∀ c ∈ clusters, c.deleting = false →
    ∃ e ∈ es, e.key = d.key ∧ e.WritesMember c.name

theorem eq_of_owns (hd : d ∈ lister.objects) (hd' : d' ∈ lister.objects)
    (h : Owns d (shadowOf d' slot)) : d = d' := by
  obtain ⟨ref, href, huid⟩ := h
  have href : ref = newControllerRef d' := by
    cases slot <;> exact List.mem_singleton.mp href
  rw [href] at huid
  exact List.inj_on_of_nodup_map lister.uids hd hd' huid.symm

theorem owns_shadowOf (d : DaemonSet Spec) (slot : Slot) : Owns d (shadowOf d slot) := by
  cases slot <;> exact ⟨newControllerRef d, List.mem_singleton_self _, rfl⟩

theorem inSlot_shadowOf {slot' : Slot} : InSlot (shadowOf d slot) slot' ↔ slot' = slot := by
  cases slot with
  | host => cases slot' <;> simp [InSlot, shadowOf, createShadowDaemonSet]
  | member c =>
    cases slot' with
    | host => simp [InSlot, shadowOf, createShadowDaemonSet]
    | member c' =>
      rw [InSlot, shadowOf_member_cluster, Slot.member.injEq, eq_comm (a := c)]
      exact and_iff_right rfl

theorem SameMeta.owns (h : SameMeta x y) (howns : Owns d x) : Owns d y := by
  rw [Owns, ← h.owner]
  exact howns

theorem SameMeta.inSlot (h : SameMeta x y) (hin : InSlot x slot) : InSlot y slot := by
  cases slot with
  | host => exact h.refType.symm.trans hin
  | member c => exact ⟨h.refType.symm.trans hin.1, h.cluster.symm.trans hin.2⟩

theorem sameMeta_of_inSlot (hw : Slotted lister clusters w)
    (hx : x ∈ (w.foldl place Store.empty).objects) (hd : d ∈ lister.objects) (howns : Owns d x)
    (hin : InSlot x slot) : shadowOf d slot ∈ w ∧ SameMeta x (shadowOf d slot) := by
  obtain ⟨y, hy, hsame⟩ := sameMeta_of_mem_placed hx
  obtain ⟨d', hd', slot', -, rfl⟩ := hw y hy
  rw [eq_of_owns hd hd' (hsame.owns howns), inSlot_shadowOf.mp (hsame.inSlot hin)]
  exact ⟨hy, hsame⟩

theorem slotted_flatMap (es : List Sync) :
    Slotted lister clusters (es.flatMap (writes lister clusters)) := by
  intro x hx
  obtain ⟨e, -, hx⟩ := List.mem_flatMap.mp hx
  exact slotted_writes e x hx

theorem shadowOf_mem_writes {es : List Sync} (hd : d ∈ lister.objects) :
    shadowOf d slot ∈ es.flatMap (writes lister clusters) ↔
      ∃ e ∈ es, e.key = d.key ∧ slot ∈ e.slots clusters := by
  rw [List.mem_flatMap]
  refine exists_congr fun e => and_congr_right fun _ => ?_
  unfold writes
  constructor
  · intro h
    cases hget : lister.get? e.key with
    | none =>
      rw [hget] at h
      cases h
    | some d' =>
      rw [hget] at h
      obtain ⟨hd', hkey⟩ := Store.get?_eq_some.mp hget
      obtain ⟨slot', hslot', heq⟩ := List.mem_map.mp h
      have hsame : d = d' := eq_of_owns hd hd' (heq ▸ owns_shadowOf d slot)
      have hslot : slot = slot' := by
        have hin : InSlot (shadowOf d slot) slot := inSlot_shadowOf.mpr rfl
        rw [← heq] at hin
        exact inSlot_shadowOf.mp hin
      exact ⟨hsame ▸ hkey.symm, hslot ▸ hslot'⟩
  · rintro ⟨hkey, hslot⟩
    rw [hkey, Store.get?_eq_some.mpr ⟨hd, rfl⟩]
    exact List.mem_map.mpr ⟨slot, hslot, rfl⟩

theorem member_mem_syncSlots {c : Cluster} (hc : c ∈ clusters) (hlive : c.deleting = false) :
    .member c.name ∈ e.slots clusters ↔ e.WritesMember c.name := by
  unfold Sync.slots
  rw [List.mem_append, List.mem_map]
  constructor
  · rintro (hhost | ⟨c', hc', heq⟩)
    · split at hhost
      · cases List.mem_singleton.mp hhost
      · cases hhost
    · have hfilter := (List.mem_filter.mp hc').2
      rw [Bool.and_eq_true, decide_eq_true_iff, Slot.member.inj heq] at hfilter
      exact hfilter.2
  · intro hw
    refine Or.inr ⟨c, List.mem_filter.mpr ⟨hc, ?_⟩, rfl⟩
    rw [hlive, decide_eq_true hw]
    rfl

theorem tryOutcome_nil {a b : List Attempt × Bool} (h : tryOutcome a = (none, b)) :
    b.2 = true := by
  unfold tryOutcome at h
  cases hget : (a.1.headD .fine).get with
  | some msg =>
    simp only [hget] at h
    cases h
  | none =>
    simp only [hget] at h
    cases hwrite : (a.1.headD .fine).write <;> rw [hwrite] at h <;> cases h
    rfl

theorem outcome_effect {attempts : List Attempt} (h : (outcome attempts).1 = none) :
    (outcome attempts).2 = true := by
  obtain ⟨x, hx⟩ := retryOnConflict_nil (show 0 < defaultBackoffSteps by decide)
    (show (retryOnConflict defaultBackoffSteps tryOutcome (attempts, false)).1 = none from h)
  exact tryOutcome_nil hx

theorem host_of_sync (hs : NoOrphans clusters s) (hd : d ∈ lister.objects) (hkey : e.key = d.key)
    (h : (syncDaemonSet lister clusters s e).1 = none) : .host ∈ e.slots clusters := by
  unfold syncDaemonSet at h
  rw [hkey, Store.get?_eq_some.mpr ⟨hd, rfl⟩] at h
  simp only [removed_of_noOrphans hs e d, createOrUpdate_eq e.host] at h
  cases hhost : (outcome e.host).1 with
  | some err =>
    rw [hhost] at h
    cases h
  | none =>
    rw [Sync.slots, if_pos (outcome_effect hhost)]
    exact List.mem_append_left _ (List.mem_singleton_self _)

theorem keeps_reached (lister : DaemonSetLister Spec) (clusters : List Cluster) (es : List Sync) :
    (syncs lister clusters es).Keeps (fun s e => .ok (syncDaemonSet lister clusters s e))
      (Reached lister clusters) := by
  refine Run.Keeps.loop (Run.Keeps.once ?_) es Store.empty reached_empty
  intro s e r s' hs he
  have hafter := hs.sync e
  rw [Except.ok.inj he] at hafter
  exact hafter

section Names

variable {es : List Sync}

theorem slot_mem_writes (hsynced : AllSynced lister clusters es)
    (hmembers : MembersWritten lister clusters es) (hd : d ∈ lister.objects)
    (hslot : slot ∈ slots clusters) : shadowOf d slot ∈ es.flatMap (writes lister clusters) := by
  rw [shadowOf_mem_writes hd]
  rcases List.mem_cons.mp hslot with rfl | hmember
  · obtain ⟨m, hm, hkey, hresult⟩ := hsynced d hd
    obtain ⟨hreached, hstep⟩ := (keeps_reached lister clusters es).1 m hm
    refine ⟨m.event, Run.event_mem_of_loop hm, hkey, host_of_sync hreached.noOrphans hd hkey ?_⟩
    rw [Except.ok.inj hstep]
    exact hresult
  · obtain ⟨c, hc, rfl⟩ := List.mem_map.mp hmember
    obtain ⟨hmem, hlive⟩ := List.mem_filter.mp hc
    have hlive : c.deleting = false := Bool.not_eq_true' _ |>.mp hlive
    obtain ⟨e, he, hkey, hw⟩ := hmembers d hd c hmem hlive
    exact ⟨e, he, hkey, (member_mem_syncSlots hmem hlive).mpr hw⟩

section Placed

variable (hnames : DistinctNames lister clusters) (hw : Slotted lister clusters w)
include hnames hw

theorem slotted_inj : ∀ x ∈ w, ∀ y ∈ w, x.key = y.key → x = y := by
  intro x hx y hy hkey
  obtain ⟨d, hd, slot, hslot, rfl⟩ := hw x hx
  obtain ⟨d', hd', slot', hslot', rfl⟩ := hw y hy
  obtain ⟨rfl, rfl⟩ := hnames d hd slot hslot d' hd' slot' hslot' hkey
  rfl

theorem mem_placed : x ∈ (w.foldl place Store.empty).objects ↔ x ∈ w := by
  rw [mem_foldl_place w Store.empty (fun x hx => nomatch hx) (slotted_inj hnames hw)]
  exact or_iff_right fun hx => nomatch hx

theorem hasShadow_of_distinct (hd : d ∈ lister.objects) (hmem : shadowOf d slot ∈ w) :
    HasShadow (w.foldl place Store.empty) d slot := by
  have honly : ∀ x ∈ (w.foldl place Store.empty).objects, Owns d x → InSlot x slot →
      x = shadowOf d slot := by
    intro x hx howns hin
    obtain ⟨d', hd', slot', -, rfl⟩ := hw x ((mem_placed hnames hw).mp hx)
    rw [eq_of_owns hd hd' howns, inSlot_shadowOf.mp hin]
  refine ⟨⟨shadowOf d slot, ⟨(mem_placed hnames hw).mpr hmem, owns_shadowOf d slot,
    inSlot_shadowOf.mpr rfl⟩, fun x hx => honly x hx.1 hx.2.1 hx.2.2⟩, ?_⟩
  intro x hx howns hin
  rw [honly x hx howns hin]
  refine ⟨rfl, ?_⟩
  cases slot <;> exact ⟨rfl, rfl, rfl⟩

end Placed

theorem sync_keeps_shadows (hnames : DistinctNames lister clusters)
    (hs : Reached lister clusters s) (e : Sync) (hx : x ∈ s.objects) :
    x ∈ (syncDaemonSet lister clusters s e).2.objects := by
  rw [syncDaemonSet_state hs.noOrphans]
  obtain ⟨w, hw, rfl⟩ := hs
  have hall : Slotted lister clusters (w ++ writes lister clusters e) := by
    intro y hy
    rcases List.mem_append.mp hy with hy | hy
    · exact hw y hy
    · exact slotted_writes e y hy
  rw [← List.foldl_append, mem_placed hnames hall]
  exact List.mem_append_left _ ((mem_placed hnames hw).mp hx)

theorem distinctNames_of_hasShadow (hw : Slotted lister clusters w)
    (h : ∀ d ∈ lister.objects, ∀ slot ∈ slots clusters,
      HasShadow (w.foldl place Store.empty) d slot) : DistinctNames lister clusters := by
  intro d hd slot hslot d' hd' slot' hslot' hkey
  obtain ⟨x, ⟨hx, howns, hin⟩, -⟩ := (h d hd slot hslot).unique
  obtain ⟨x', ⟨hx', howns', hin'⟩, -⟩ := (h d' hd' slot' hslot').unique
  obtain ⟨-, hsame⟩ := sameMeta_of_inSlot hw hx hd howns hin
  obtain ⟨-, hsame'⟩ := sameMeta_of_inSlot hw hx' hd' howns' hin'
  have heq : x = x' := List.inj_on_of_nodup_map (w.foldl place Store.empty).nodup hx hx'
    (hsame.key.trans (hkey.trans hsame'.key.symm))
  subst heq
  exact ⟨eq_of_owns hd hd' (hsame'.owns howns), inSlot_shadowOf.mp (hsame'.inSlot hin)⟩

/-- Every DaemonSet has its own shadows exactly if their names differ and every member cluster was
written. -/
theorem shadowed_iff (lister : DaemonSetLister Spec) (clusters : List Cluster) (es : List Sync)
    (hsynced : AllSynced lister clusters es) :
    Shadowed lister clusters es ↔
      DistinctNames lister clusters ∧ MembersWritten lister clusters es := by
  have hw : Slotted lister clusters (es.flatMap (writes lister clusters)) := slotted_flatMap es
  constructor
  · intro h
    have hshadows := h.shadows
    rw [syncs_state] at hshadows
    refine ⟨distinctNames_of_hasShadow hw hshadows, ?_⟩
    intro d hd c hc hlive
    have hslot : .member c.name ∈ slots clusters := by
      refine List.mem_cons_of_mem _ (List.mem_map.mpr ⟨c, List.mem_filter.mpr ⟨hc, ?_⟩, rfl⟩)
      rw [hlive]
      rfl
    obtain ⟨x, ⟨hx, howns, hin⟩, -⟩ := (hshadows d hd _ hslot).unique
    obtain ⟨hmem, -⟩ := sameMeta_of_inSlot hw hx hd howns hin
    obtain ⟨e, he, hkey, hslot⟩ := (shadowOf_mem_writes hd).mp hmem
    exact ⟨e, he, hkey, (member_mem_syncSlots hc hlive).mp hslot⟩
  · rintro ⟨hnames, hmembers⟩
    refine ⟨fun d hd slot hslot => ?_, fun m hm x hx d _ _ _ => ?_⟩
    · rw [syncs_state]
      exact hasShadow_of_distinct hnames hw hd (slot_mem_writes hsynced hmembers hd hslot)
    · obtain ⟨hreached, hstep⟩ := (keeps_reached lister clusters es).1 m hm
      have hkept := sync_keeps_shadows hnames hreached m.event hx
      rw [Except.ok.inj hstep] at hkept
      exact hkept

end Names

def daemonSetNamed (name uid : String) (spec : Nat) : DaemonSet Nat :=
  ⟨"default", name, uid, GoMap.empty, GoMap.empty, spec⟩

def fineSync (name : String) : Sync :=
  ⟨("default", name), fun _ => .done, [], fun _ => [], none⟩

def oneDaemonSet : DaemonSetLister Nat :=
  ⟨⟨[daemonSetNamed "web" "1" 1], by decide⟩, by decide⟩

theorem shadowed_one :
    AllSynced oneDaemonSet [⟨"c1", false⟩] [fineSync "web"] ∧
      Shadowed oneDaemonSet [⟨"c1", false⟩] [fineSync "web"] := by
  have hsynced : AllSynced oneDaemonSet [⟨"c1", false⟩] [fineSync "web"] := by
    intro d hd
    cases List.mem_singleton.mp hd
    exact ⟨_, List.mem_of_getElem? (i := 0) rfl, rfl, by decide +kernel⟩
  refine ⟨hsynced, (shadowed_iff _ _ _ hsynced).mpr ⟨?_, ?_⟩⟩
  · intro d hd slot hslot d' hd' slot' hslot' hkey
    cases List.mem_singleton.mp hd
    cases List.mem_singleton.mp hd'
    refine ⟨rfl, ?_⟩
    revert slot slot'
    decide +kernel
  · intro d hd c hc _
    cases List.mem_singleton.mp hd
    cases List.mem_singleton.mp hc
    exact ⟨_, List.mem_singleton_self _, rfl, by decide +kernel⟩

def twins : DaemonSetLister Nat :=
  ⟨⟨[daemonSetNamed "a" "1" 1, daemonSetNamed "a-b" "2" 2], by decide⟩, by decide⟩

def twinClusters : List Cluster := [⟨"b-c", false⟩, ⟨"c", false⟩]

theorem twins_share_shadow :
    AllSynced twins twinClusters [fineSync "a", fineSync "a-b"] ∧
      ¬ Shadowed twins twinClusters [fineSync "a", fineSync "a-b"] := by
  constructor
  · intro d hd
    rcases List.mem_cons.mp hd with rfl | hd
    · exact ⟨_, List.mem_of_getElem? (i := 0) rfl, rfl, by decide +kernel⟩
    · cases List.mem_singleton.mp hd
      exact ⟨_, List.mem_of_getElem? (i := 1) rfl, rfl, by decide +kernel⟩
  · intro h
    have hd : daemonSetNamed "a-b" "2" 2 ∈ twins.objects := List.mem_of_getElem? (i := 1) rfl
    obtain ⟨x, ⟨hx, ⟨ref, href, huid⟩, -, hcluster⟩, -⟩ :=
      (h.shadows _ hd (.member "c") (by decide)).unique
    -- the shadow of this name was made for `a`
    have hno : ((syncs twins twinClusters [fineSync "a", fineSync "a-b"]).state.objects.all
        fun x => !(x.cluster = "c" && x.ownerReferences.any fun ref => ref.uid = "2")) = true := by
      decide +kernel
    have hx := List.all_eq_true.mp hno x hx
    rw [Bool.not_eq_true', Bool.and_eq_false_iff, decide_eq_false_iff_not] at hx
    rcases hx with hx | hx
    · exact hx hcluster
    · exact List.any_eq_false.mp hx ref href (decide_eq_true huid)

/-! ## Clusters that are gone -/

theorem removeOrphans_nil {clusterSet : List String} {answers : String → WriteAnswer} :
    ∀ {xs : List (ShadowDaemonSet Spec)} {s s' : Shadows Spec},
      removeOrphans clusterSet answers xs s = (none, s') →
        (∀ y ∈ s'.objects, y ∈ s.objects) ∧
        ∀ x ∈ xs, x.refType = .host ∨ x.cluster ∈ clusterSet ∨ ∀ y ∈ s'.objects, y.key ≠ x.key := by
  intro xs
  induction xs with
  | nil =>
    intro s s' h
    cases h
    exact ⟨fun y hy => hy, fun x hx => nomatch hx⟩
  | cons x xs ih =>
    intro s s' h
    rw [List.forall_mem_cons]
    unfold removeOrphans at h
    split at h
    next hkeep =>
      obtain ⟨hsub, hrest⟩ := ih h
      exact ⟨hsub, or_assoc.mp (Or.inl hkeep), hrest⟩
    · split at h
      next s₁ hdelete =>
        have hgone : ∀ y, y ∈ s₁.objects ↔ y ∈ s.objects ∧ y.key ≠ x.key := fun y =>
          Store.mem_delete (answered_nil hdelete)
        obtain ⟨hsub, hrest⟩ := ih h
        refine ⟨fun y hy => ((hgone y).mp (hsub y hy)).1, Or.inr (Or.inr ?_), hrest⟩
        exact fun y hy => ((hgone y).mp (hsub y hy)).2
      · cases h

end Kosmos.DaemonSets
