import Kosmos.Tree.PodReflect

/-!
# The chain of DaemonSets

Targets are created on one path and updated on another, and should agree (`chain_fixed_iff`).

A conflict is an answer like any other.
-/

namespace Kosmos.Mirror

open Go Resources
open PodReflect (OwnerReference mirrorAnnotation)
open Distribute (managedLabel)

structure DaemonSet (Spec Status : Type) where
  ns : String
  name : String
  uid : String
  labels : Annotations := none
  annotations : Annotations := none
  deleting : Bool := false
  spec : Spec
  status : Status

structure KosmosDaemonSet (Spec Status : Type) where
  ns : String
  name : String
  ownerReferences : List OwnerReference
  labels : Annotations
  annotations : Annotations
  spec : Spec
  status : Status

variable {Spec Status Rest : Type}

def DaemonSet.key (ds : DaemonSet Spec Status) : String × String := (ds.ns, ds.name)

def KosmosDaemonSet.key (kds : KosmosDaemonSet Spec Status) : String × String := (kds.ns, kds.name)

structure Servers (Spec Status : Type) where
  ds : Store (@DaemonSet.key Spec Status)
  kds : Store (@KosmosDaemonSet.key Spec Status)

structure Answers where
  create : WriteAnswer := .done
  update : WriteAnswer := .done
  updateStatus : WriteAnswer := .done

def isOwnedBy (references : List OwnerReference) (ds : DaemonSet Spec Status) : Bool :=
  references.any fun ref => ref.uid = ds.uid

def managed : GoMap String String := GoMap.empty.set managedLabel ""

def DaemonSet.created (ds : DaemonSet Spec Status) (status : Status) :
    KosmosDaemonSet Spec Status where
  ns := ds.ns
  name := ds.name
  ownerReferences := [⟨"apps/v1", "DaemonSet", ds.name, ds.uid⟩]
  labels := ds.labels
  annotations := ds.annotations
  spec := ds.spec
  status := status

def DaemonSet.updated (ds : DaemonSet Spec Status) (kds : KosmosDaemonSet Spec Status) :
    KosmosDaemonSet Spec Status :=
  { kds with spec := ds.spec, annotations := ds.annotations, labels := some managed }

def DaemonSet.mirrored (ds : DaemonSet Spec Status) : Bool :=
  (readMap ds.annotations mirrorAnnotation).getD "" = "true" ∧ ds.deleting = false

def syncDaemonSet [Inhabited Status] (a : Answers) (listers : Servers Spec Status)
    (key : String × String) (s : Servers Spec Status) : Option CallError × Servers Spec Status :=
  match listers.ds.get? key with
  | none => (none, s)
  | some ds =>
    if ds.mirrored then
      match listers.kds.get? ds.key with
      | none =>
        let r := answered a.create (s.kds.create (ds.created default)) s.kds
        (r.1, { s with kds := r.2 })
      | some kds =>
        if isOwnedBy kds.ownerReferences ds then
          match answered a.update (s.kds.update (ds.updated kds)) s.kds with
          | (some e, kdss) => (some e, { s with kds := kdss })
          | (none, kdss) =>
            let r := answered a.updateStatus (s.ds.update { ds with status := kds.status }) s.ds
            (r.1, ⟨r.2, kdss⟩)
        else (none, s)
    else (none, s)

structure Target (Spec : Type) where
  labels : Annotations
  annotations : Annotations
  spec : Spec

/-- The same labels, annotations and spec. -/
structure Target.Same (t t' : Target Spec) : Prop where
  labels : ∀ k, readMap t.labels k = readMap t'.labels k
  annotations : ∀ k, readMap t.annotations k = readMap t'.annotations k
  spec : t.spec = t'.spec

/-- The target stays as the first sync has made it, with the labels of the source. -/
structure Fixed (source : Annotations) (after : Nat → Option (Target Spec)) : Prop where
  kept : ∀ n, (after 1).isSome → (after (n + 1)).isSome
  again : ∀ t t', after 1 = some t → after 2 = some t' → t.Same t'
  labels : ∀ n t, after (n + 1) = some t → ∀ k v, readMap source k = some v →
    readMap t.labels k = some v

theorem fixed_iff_of {source : Annotations} {after : Nat → Option (Target Spec)} {t u : Target Spec}
    (hfirst : after 1 = some t) (hlater : ∀ n, ∃ u', after (n + 2) = some u' ∧ u.Same u') :
    Fixed source after ↔ t.Same u ∧ ∀ k v, readMap source k = some v →
      readMap t.labels k = some v ∧ readMap u.labels k = some v := by
  constructor
  · intro h
    obtain ⟨u', hu', hsame⟩ := hlater 0
    have hagain := h.again t u' hfirst hu'
    refine ⟨⟨fun k => (hagain.labels k).trans (hsame.labels k).symm,
      fun k => (hagain.annotations k).trans (hsame.annotations k).symm,
      hagain.spec.trans hsame.spec.symm⟩, fun k v hv => ?_⟩
    rw [hsame.labels]
    exact ⟨h.labels 0 t hfirst k v hv, h.labels 1 u' hu' k v hv⟩
  · rintro ⟨hsame, hlabels⟩
    refine ⟨fun n _ => ?_, fun t₁ t₂ h₁ h₂ => ?_, fun n t₁ h₁ k v hv => ?_⟩
    · cases n with
      | zero => rw [hfirst]; rfl
      | succ n =>
        obtain ⟨u', hu', -⟩ := hlater n
        rw [hu']; rfl
    · obtain ⟨u', hu', hu⟩ := hlater 0
      cases hfirst.symm.trans h₁
      cases hu'.symm.trans h₂
      exact ⟨fun k => (hsame.labels k).trans (hu.labels k),
        fun k => (hsame.annotations k).trans (hu.annotations k), hsame.spec.trans hu.spec⟩
    · cases n with
      | zero =>
        cases hfirst.symm.trans h₁
        exact (hlabels k v hv).1
      | succ n =>
        obtain ⟨u', hu', hu⟩ := hlater n
        cases hu'.symm.trans h₁
        rw [← hu.labels]
        exact (hlabels k v hv).2

def KosmosDaemonSet.target (kds : KosmosDaemonSet Spec Status) : Target Spec :=
  ⟨kds.labels, kds.annotations, kds.spec⟩

def mirrorAfter [Inhabited Status] (key : String × String) (s : Servers Spec Status) (n : Nat) :
    Option (Target Spec) :=
  (((fun s => (syncDaemonSet {} s key s).2)^[n] s).kds.get? key).map KosmosDaemonSet.target

/-- The mirror stays as its first sync has made it. -/
def MirrorFixed [Inhabited Status] (ds : DaemonSet Spec Status) : Prop :=
  ∀ s : Servers Spec Status, s.ds.get? ds.key = some ds → s.kds.get? ds.key = none →
    Fixed ds.labels (mirrorAfter ds.key s)

section Mirrored

variable [Inhabited Status] {ds : DaemonSet Spec Status} {s : Servers Spec Status}

/-- The source as it is, up to its status, and a target of it. -/
def Mirrors (ds : DaemonSet Spec Status) (s : Servers Spec Status) (t : Target Spec) : Prop :=
  (∃ status, s.ds.get? ds.key = some { ds with status := status }) ∧
    ∃ kds, s.kds.get? ds.key = some kds ∧ isOwnedBy kds.ownerReferences ds = true ∧ kds.target = t

theorem sync_unmirrored (hds : s.ds.get? ds.key = some ds) (hm : ds.mirrored = false) :
    (syncDaemonSet {} s ds.key s).2 = s := by
  simp [syncDaemonSet, hds, hm]

theorem sync_creates (hds : s.ds.get? ds.key = some ds) (hkds : s.kds.get? ds.key = none)
    (hm : ds.mirrored = true) :
    Mirrors ds (syncDaemonSet {} s ds.key s).2 ⟨ds.labels, ds.annotations, ds.spec⟩ := by
  obtain ⟨kdss, hcreate⟩ : ∃ kdss, s.kds.create (ds.created default) = .ok kdss :=
    ⟨_, dif_pos (Store.get?_eq_none.mp hkds)⟩
  have hsync : syncDaemonSet {} s ds.key s = (none, ⟨s.ds, kdss⟩) := by
    simp [syncDaemonSet, hds, hm, hkds, hcreate, answered]
  rw [hsync]
  refine ⟨⟨ds.status, hds⟩, ds.created default, ?_, by simp [isOwnedBy, DaemonSet.created], rfl⟩
  exact (Store.get?_create hcreate _).trans (if_pos rfl)

theorem sync_updates {t : Target Spec} (h : Mirrors ds s t) (hm : ds.mirrored = true) :
    Mirrors ds (syncDaemonSet {} s ds.key s).2 ⟨some managed, ds.annotations, ds.spec⟩ := by
  obtain ⟨⟨status, hds⟩, kds, hkds, hown, -⟩ := h
  have hkey : kds.key = ds.key := (Store.get?_eq_some.mp hkds).2
  have hupdate := Store.overwrite_eq (s := s.kds) (a := ds.updated kds)
    (by rw [show (ds.updated kds).key = ds.key from hkey, hkds]; rfl)
  have hstatus := Store.overwrite_eq (s := s.ds) (a := { ds with status := kds.status })
    (Option.isSome_of_eq_some hds)
  have hsync : syncDaemonSet {} s ds.key s = (none,
      ⟨s.ds.overwrite { ds with status := kds.status }, s.kds.overwrite (ds.updated kds)⟩) := by
    generalize hd : ({ ds with status := status } : DaemonSet Spec Status) = d at hds
    have hm : d.mirrored = true := hd ▸ hm
    have hkds : s.kds.get? d.key = some kds := hd ▸ hkds
    have hown : isOwnedBy kds.ownerReferences d = true := hd ▸ hown
    have hupdate : s.kds.update (d.updated kds) = .ok (s.kds.overwrite (ds.updated kds)) :=
      hd ▸ hupdate
    have hstatus : s.ds.update { d with status := kds.status } =
        .ok (s.ds.overwrite { ds with status := kds.status }) := hd ▸ hstatus
    simp [syncDaemonSet, hds, hm, hkds, hown, hupdate, hstatus, answered]
  rw [hsync]
  refine ⟨⟨kds.status, ?_⟩, ds.updated kds, ?_, hown, rfl⟩
  · exact (Store.get?_update hstatus _).trans (if_pos rfl)
  · exact (Store.get?_update hupdate _).trans (if_pos hkey.symm)

theorem mirrorAfter_of {t : Target Spec} {n : Nat} (h : Mirrors ds
    ((fun s => (syncDaemonSet {} s ds.key s).2)^[n] s) t) : mirrorAfter ds.key s n = some t := by
  obtain ⟨-, kds, hkds, -, ht⟩ := h
  rw [mirrorAfter, hkds, Option.map_some, ht]

theorem mirrorFixed_iff (ds : DaemonSet Spec Status) : MirrorFixed ds ↔
    (ds.mirrored = true → ∀ k, readMap ds.labels k = readMap (some managed) k) := by
  cases hm : ds.mirrored with
  | false =>
    simp only [Bool.false_eq_true, false_imp_iff, iff_true]
    intro s hds hkds
    have hnone : ∀ n, mirrorAfter ds.key s n = none := by
      intro n
      rw [mirrorAfter, Function.iterate_fixed (sync_unmirrored hds hm), hkds]
      rfl
    refine ⟨fun n h => ?_, fun t t' h => ?_, fun n t h => ?_⟩
    all_goals simp [hnone] at h
  | true =>
    have hfixed : ∀ s : Servers Spec Status, s.ds.get? ds.key = some ds → s.kds.get? ds.key = none →
        (Fixed ds.labels (mirrorAfter ds.key s) ↔
          ∀ k, readMap ds.labels k = readMap (some managed) k) := by
      intro s hds hkds
      have hfirst := sync_creates hds hkds hm
      have hlater : ∀ n, Mirrors ds ((fun s => (syncDaemonSet {} s ds.key s).2)^[n + 2] s)
          ⟨some managed, ds.annotations, ds.spec⟩ := by
        intro n
        rw [Function.iterate_succ_apply']
        induction n with
        | zero => exact sync_updates hfirst hm
        | succ n ih =>
          rw [Function.iterate_succ_apply']
          exact sync_updates ih hm
      rw [fixed_iff_of (mirrorAfter_of (n := 1) hfirst)
        fun n => ⟨_, mirrorAfter_of (hlater n), fun _ => rfl, fun _ => rfl, rfl⟩]
      constructor
      · exact fun h => h.1.labels
      · exact fun h => ⟨⟨h, fun _ => rfl, rfl⟩, fun k v hv => ⟨hv, (h k).symm.trans hv⟩⟩
    simp only [true_imp_iff]
    constructor
    · intro h
      let s : Servers Spec Status := ⟨⟨[ds], List.nodup_singleton _⟩, .empty⟩
      have hds : s.ds.get? ds.key = some ds :=
        Store.get?_eq_some.mpr ⟨List.mem_singleton.mpr rfl, rfl⟩
      exact (hfixed s hds rfl).mp (h s hds rfl)
    · exact fun h s hds hkds => (hfixed s hds hkds).mpr h

end Mirrored

section Distribution

open Distribute

variable {sds : ShadowDaemonSet Rest Status} {member : Member Rest Status}
  {ds : Distribute.DaemonSet Rest Status} {l : GoMap String String}

structure Distributes (sds : ShadowDaemonSet Rest Status) (member : Member Rest Status)
    (ds : Distribute.DaemonSet Rest Status) (l : GoMap String String) : Prop where
  get : member.get? sds.key = some ds
  labels : ds.labels = some l
  fromSource : ∀ k v, k ≠ managedLabel → l.get? k = some v → readMap sds.labels k = some v
  annotations : ∀ k, readMap ds.annotations k = readMap sds.annotations k
  writable : ds.annotations = none → entriesOf sds.annotations = []

def mergedLabels (sds : ShadowDaemonSet Rest Status) (l : GoMap String String) :
    GoMap String String :=
  (l.setAll (entriesOf sds.labels)).set managedLabel ""

def merged (sds : ShadowDaemonSet Rest Status) (ds : Distribute.DaemonSet Rest Status)
    (l : GoMap String String) : Distribute.DaemonSet Rest Status :=
  { ds with
    labels := some (mergedLabels sds l)
    annotations := ds.annotations.map (·.setAll (entriesOf sds.annotations))
    spec := sds.spec.marked sds.cluster }

theorem get?_setAll_entriesOf (m : GoMap String String) (t : Annotations) (k : String) :
    (m.setAll (entriesOf t)).get? k = (readMap t k).or (m.get? k) := by
  rw [entriesOf, GoMap.get?_setAll]
  cases t <;> rfl

theorem get?_mergedLabels (h : ∀ k v, k ≠ managedLabel → l.get? k = some v →
    readMap sds.labels k = some v) (k : String) :
    (mergedLabels sds l).get? k = if k = managedLabel then some "" else readMap sds.labels k := by
  rw [mergedLabels, GoMap.get?_set]
  split
  · rfl
  next hk =>
    rw [get?_setAll_entriesOf]
    cases hl : l.get? k with
    | none => exact Option.or_none
    | some v => rw [h k v hk hl, Option.some_or]

theorem managed_fromSource (sds : ShadowDaemonSet Rest Status) (k v : String)
    (hk : k ≠ managedLabel) (hv : managed.get? k = some v) : readMap sds.labels k = some v := by
  rw [managed, GoMap.get?_set_of_ne _ _ hk] at hv
  cases hv

theorem writeAll_some (m : GoMap String String) (entries : List (String × String)) :
    writeAll (some m) entries = .ok (some (m.setAll entries)) := by
  cases entries <;> rfl

theorem updatedDaemonSet_eq (h : Distributes sds member ds l) :
    updatedDaemonSet sds.cluster sds ds = .ok (merged sds ds l) := by
  have hannos : writeAll ds.annotations (entriesOf sds.annotations) =
      .ok (ds.annotations.map (·.setAll (entriesOf sds.annotations))) := by
    cases hnone : ds.annotations with
    | none => rw [h.writable hnone]; rfl
    | some m => exact writeAll_some m _
  have hset : l.setAll (entriesOf sds.labels ++ [(managedLabel, "")]) = mergedLabels sds l :=
    List.foldl_append
  rw [updatedDaemonSet, h.labels, writeAll_some, hset, hannos]
  rfl

variable [DecidableEq Rest] [DecidableEq Status] [Inhabited Status]

def target (ds : Distribute.DaemonSet Rest Status) : Target (DaemonSetSpec Rest) :=
  ⟨ds.labels, ds.annotations, ds.spec⟩

def distributed (sds : ShadowDaemonSet Rest Status) : Nat → Member Rest Status →
    Option (Member Rest Status)
  | 0, member => some member
  | n + 1, member =>
    match tryCreateOrUpdateDaemonSet { key := sds.key, readAt := member } member sds member with
    | .ok w => distributed sds n w.member
    | .error _ => none

def distributedAfter (sds : ShadowDaemonSet Rest Status) (member : Member Rest Status) (n : Nat) :
    Option (Target (DaemonSetSpec Rest)) :=
  ((distributed sds n member).bind fun m => m.get? sds.key).map target

/-- The DaemonSet stays as its first sync has made it. -/
def DistributionFixed (sds : ShadowDaemonSet Rest Status) : Prop :=
  ∀ member : Member Rest Status, member.get? sds.key = none →
    (distributedAfter sds member 1).isSome ∧ Fixed sds.labels (distributedAfter sds member)

theorem distribute_creates (hnone : member.get? sds.key = none) :
    ∃ w, tryCreateOrUpdateDaemonSet { key := sds.key, readAt := member } member sds member =
        .ok w ∧ Distributes sds w.member (newDaemonSet sds.cluster sds default) managed := by
  obtain ⟨member', hcreate⟩ : ∃ member', member.create (newDaemonSet sds.cluster sds default) =
      .ok member' := ⟨_, dif_pos (Store.get?_eq_none.mp hnone)⟩
  refine ⟨⟨none, true, member'⟩, ?_, ?_, rfl, managed_fromSource sds, fun _ => rfl, fun hn => ?_⟩
  · simp only [tryCreateOrUpdateDaemonSet, ensureNameSpace, getDaemonSet, hnone, hcreate, answered]
  · exact (Store.get?_create hcreate _).trans (if_pos rfl)
  · rw [show sds.annotations = none from hn]
    rfl

theorem distribute_updates (h : Distributes sds member ds l) :
    ∃ w, tryCreateOrUpdateDaemonSet { key := sds.key, readAt := member } member sds member =
        .ok w ∧ Distributes sds w.member (merged sds ds l) (mergedLabels sds l) := by
  have hkey : (merged sds ds l).key = sds.key := (Store.get?_eq_some.mp h.get).2
  have hupdate := Store.overwrite_eq (s := member) (a := merged sds ds l)
    (by rw [hkey, h.get]; rfl)
  have hput : member.put ⟨some ds, merged sds ds l⟩ =
      .ok (merged sds ds l, member.overwrite (merged sds ds l)) := by
    simp only [Store.put, hkey, h.get, hupdate]
    exact if_pos (Or.inr rfl)
  refine ⟨⟨none, true, member.overwrite (merged sds ds l)⟩, ?_, ?_, rfl, fun k v hk hv => ?_,
    fun k => ?_, fun hn => h.writable (Option.map_eq_none_iff.mp hn)⟩
  · simp [tryCreateOrUpdateDaemonSet, ensureNameSpace, getDaemonSet, h.get, updatedDaemonSet_eq h,
      hput, WriteReply.to, errOf]
  · exact (Store.get?_update hupdate _).trans (if_pos hkey.symm)
  · rwa [get?_mergedLabels h.fromSource, if_neg hk] at hv
  · have hself := h.annotations k
    cases hannos : ds.annotations with
    | none => rw [hannos] at hself; simpa [merged, hannos] using hself
    | some m =>
      rw [hannos] at hself
      have hor := get?_setAll_entriesOf m sds.annotations k
      rw [show m.get? k = readMap sds.annotations k from hself, Option.or_self] at hor
      simp only [merged, hannos, Option.map_some]
      exact hor

def laterTarget (sds : ShadowDaemonSet Rest Status) : Target (DaemonSetSpec Rest) :=
  ⟨some (mergedLabels sds managed), sds.annotations, sds.spec.marked sds.cluster⟩

theorem distributedAfter_later (h : Distributes sds member ds l) (n : Nat) :
    ∃ u, distributedAfter sds member (n + 1) = some u ∧ (laterTarget sds).Same u := by
  induction n generalizing member ds l with
  | zero =>
    obtain ⟨w, hok, hw⟩ := distribute_updates h
    refine ⟨target (merged sds ds l), ?_, ?_, fun k => (hw.annotations k).symm, rfl⟩
    · simp [distributedAfter, distributed, hok, hw.get]
    · intro k
      exact (get?_mergedLabels (managed_fromSource sds) k).trans
        (get?_mergedLabels h.fromSource k).symm
  | succ n ih =>
    obtain ⟨w, hok, hw⟩ := distribute_updates h
    obtain ⟨u, hu, hsame⟩ := ih hw
    refine ⟨u, ?_, hsame⟩
    rw [distributedAfter, distributed, hok]
    exact hu

theorem distributionFixed_iff (sds : ShadowDaemonSet Rest Status) : DistributionFixed sds ↔
    ∀ k v, readMap sds.labels k = some v → readMap (some managed) k = some v := by
  have hfixed : ∀ member : Member Rest Status, member.get? sds.key = none →
      ((distributedAfter sds member 1).isSome ∧ Fixed sds.labels (distributedAfter sds member) ↔
        ∀ k v, readMap sds.labels k = some v → readMap (some managed) k = some v) := by
    intro member hnone
    obtain ⟨w, hok, hw⟩ := distribute_creates hnone
    have hnext : ∀ n, distributedAfter sds member (n + 1) = distributedAfter sds w.member n := by
      intro n
      rw [distributedAfter, distributed, hok]
      rfl
    have hfirst : distributedAfter sds member 1 =
        some ⟨some managed, sds.annotations, sds.spec.marked sds.cluster⟩ := by
      rw [hnext, distributedAfter, distributed, Option.bind_some, hw.get]
      rfl
    rw [hfirst, fixed_iff_of hfirst fun n => hnext (n + 1) ▸ distributedAfter_later hw n]
    have hlater := get?_mergedLabels (managed_fromSource sds)
    constructor
    · exact fun h k v hv => (h.2.2 k v hv).1
    · intro h
      have hsame : ∀ k, managed.get? k = (mergedLabels sds managed).get? k := by
        intro k
        rw [hlater k]
        split
        next hk => rw [hk]; rfl
        next hk =>
          cases hv : readMap sds.labels k with
          | none => exact GoMap.get?_set_of_ne _ _ hk
          | some v => exact h k v hv
      exact ⟨rfl, ⟨hsame, fun _ => rfl, rfl⟩,
        fun k v hv => ⟨h k v hv, (hsame k).symm.trans (h k v hv)⟩⟩
  constructor
  · intro h
    exact (hfixed .empty rfl).mp (h .empty rfl)
  · exact fun h member hnone => (hfixed member hnone).mpr h

/-- Both steps of the chain rest after a first sync for sources without labels, or with the
controller's. -/
theorem chain_fixed_iff {Spec : Type} (sds : ShadowDaemonSet Rest Status)
    (ds : DaemonSet Spec Status) :
    DistributionFixed sds ∧ MirrorFixed ds ↔
      (∀ k v, readMap sds.labels k = some v → readMap (some managed) k = some v) ∧
      (ds.mirrored = true → ∀ k, readMap ds.labels k = readMap (some managed) k) :=
  and_congr (distributionFixed_iff sds) (mirrorFixed_iff ds)

end Distribution

def labelledShadow : Distribute.ShadowDaemonSet Unit Unit :=
  { ns := "default", name := "web-c1", labels := some (GoMap.empty.set "app" "web"), cluster := "c1"
    spec := ⟨none, ()⟩, status := () }

def labelled : DaemonSet Unit Unit :=
  { ns := "default", name := "web", uid := "1", labels := some (GoMap.empty.set "app" "web")
    annotations := some (GoMap.empty.set mirrorAnnotation "true"), spec := (), status := () }

theorem labelled_unfixed : ¬ DistributionFixed labelledShadow ∧ ¬ MirrorFixed labelled := by
  constructor
  · intro h
    have hlabel := (h .empty rfl).2.labels 0 _ rfl "app" "web" rfl
    revert hlabel
    decide
  · intro h
    have hsame := (h ⟨⟨[labelled], List.nodup_singleton _⟩, .empty⟩ rfl rfl).again _ _ rfl rfl
    have hlabel := hsame.labels "app"
    revert hlabel
    decide

end Kosmos.Mirror
