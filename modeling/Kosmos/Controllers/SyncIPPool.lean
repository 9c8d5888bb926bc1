import Kosmos.Controllers.CalicoIPPool
import Kosmos.Manager.Intersect

/-!
# What one `syncIPPool` comes to

The set is changed while it is ranged over.
-/

namespace Kosmos.Controllers

open Kosmos.Go
open Kosmos.Manager (intersect OneWriting ShareNoAddress oneWriting_of_unmapped)

def dropTurn (currentClusterName : String) (ippools : List String)
    (globalExtIPPoolSet : List ExternalClusterIPPool) (g : ExternalClusterIPPool) :
    List ExternalClusterIPPool :=
  if g.cluster = currentClusterName then globalExtIPPoolSet
  else
    ippools.foldl (fun set p => if intersect g.ipPool p then set.filter fun x => x ≠ g else set)
      globalExtIPPoolSet

def syncIPPoolLoops {σ : Type}
    (range range' : List ExternalClusterIPPool → List ExternalClusterIPPool)
    (currentClusterName : String) (globalExtIPPoolSet : List ExternalClusterIPPool)
    (client : IPPoolClient σ) (s : σ) :
    Outcome (Option (List String) × List ExternalClusterIPPool × σ) :=
  match client.listIPPools s with
  | .error (.panic p) => .error (.panic p)
  | .error (.err err) => .ok (some [err], globalExtIPPoolSet, s)
  | .ok (extIPPools, ippools) =>
    let globalExtIPPoolSet := (range globalExtIPPoolSet).foldl
      (dropTurn currentClusterName ippools) globalExtIPPoolSet
    let modifyIPPool := (range' globalExtIPPoolSet).filter fun pool =>
      pool.cluster != currentClusterName
    let deleteIPPool := extIPPools.filter fun pool => pool ∉ globalExtIPPoolSet
    match client.deleteIPPool deleteIPPool s with
    | (some errs, s) => .ok (some errs, globalExtIPPoolSet, s)
    | (none, s) =>
      let (errs, s) := client.createOrUpdateCalicoIPPool modifyIPPool s
      .ok (errs, globalExtIPPoolSet, s)

section Loop

variable {cur : String} {ippools : List String} {set order : List ExternalClusterIPPool}
  {g : ExternalClusterIPPool}

theorem dropTurn_eq : dropTurn cur ippools set g =
    if overlaps cur ippools g then set.filter fun x => x ≠ g else set := by
  have hloop : ∀ set : List ExternalClusterIPPool,
      ippools.foldl (fun set p => if intersect g.ipPool p then set.filter fun x => x ≠ g else set)
        set = if ippools.any (fun p => intersect g.ipPool p) then set.filter fun x => x ≠ g
          else set := by
    induction ippools with
    | nil => intro set; rfl
    | cons p ippools ih =>
      intro set
      rw [List.foldl_cons, ih, List.any_cons]
      cases intersect g.ipPool p with
      | false => rfl
      | true => cases ippools.any fun p => intersect g.ipPool p <;> simp
  unfold dropTurn overlaps
  by_cases hc : g.cluster = cur
  · rw [if_pos hc, if_neg (by simp [hc])]
  · rw [if_neg hc, hloop, bne_iff_ne.mpr hc, Bool.true_and]

theorem foldl_dropTurn : order.foldl (dropTurn cur ippools) set =
    set.filter fun x => !(decide (x ∈ order) && overlaps cur ippools x) := by
  induction order generalizing set with
  | nil => simp
  | cons g order ih =>
    rw [List.foldl_cons, ih, dropTurn_eq]
    cases hg : overlaps cur ippools g with
    | false =>
      rw [if_neg Bool.false_ne_true]
      refine List.filter_congr fun x _ => ?_
      by_cases hx : x = g
      · subst hx
        simp [hg]
      · simp [hx]
    | true =>
      rw [if_pos rfl, List.filter_filter]
      refine List.filter_congr fun x _ => ?_
      by_cases hx : x = g
      · subst hx
        simp [hg]
      · simp [hx]

theorem syncIPPoolLoops_eq {σ : Type}
    {range : List ExternalClusterIPPool → List ExternalClusterIPPool}
    (hrange : ∀ l, (range l).Perm l)
    (range' : List ExternalClusterIPPool → List ExternalClusterIPPool)
    (client : IPPoolClient σ) (s : σ) :
    syncIPPoolLoops range range' cur set client s = syncIPPool range' cur set client s := by
  have hset : ∀ ippools, (range set).foldl (dropTurn cur ippools) set =
      set.filter fun g => !overlaps cur ippools g := by
    intro ippools
    rw [foldl_dropTurn]
    refine List.filter_congr fun x hx => ?_
    rw [decide_eq_true ((hrange set).mem_iff.mpr hx), Bool.true_and]
  unfold syncIPPoolLoops syncIPPool
  cases client.listIPPools s with
  | error stop => cases stop <;> rfl
  | ok listed =>
    obtain ⟨extIPPools, ippools⟩ := listed
    have hkept := hset ippools
    revert hkept
    dsimp only
    generalize (range set).foldl (dropTurn cur ippools) set = kept
    rintro rfl
    rfl

end Loop

section Client

variable {σ : Type}

/-- The calls act on the pools they name; `ext` and `own` are those of a state. -/
structure ExactClient (client : IPPoolClient σ) (ext : σ → ExternalClusterIPPool → Prop)
    (own : σ → String → Prop) : Prop where
  list : ∀ s extIPPools ippools, client.listIPPools s = .ok (extIPPools, ippools) →
    (∀ g, g ∈ extIPPools ↔ ext s g) ∧ ∀ p, p ∈ ippools ↔ own s p
  delete : ∀ pools s s', client.deleteIPPool pools s = (none, s') →
    (∀ g, ext s' g ↔ ext s g ∧ g ∉ pools) ∧ ∀ p, own s' p ↔ own s p
  create : ∀ pools s s', client.createOrUpdateCalicoIPPool pools s = (none, s') →
    (∀ g, ext s' g ↔ ext s g ∨ g ∈ pools) ∧ ∀ p, own s' p ↔ own s p

def recording (client : IPPoolClient σ) : IPPoolClient (σ × List ExternalClusterIPPool) where
  listIPPools s := client.listIPPools s.1
  deleteIPPool pools s :=
    let (errs, t) := client.deleteIPPool pools s.1
    (errs, t, s.2 ++ pools)
  createOrUpdateCalicoIPPool pools s :=
    let (errs, t) := client.createOrUpdateCalicoIPPool pools s.1
    (errs, t, s.2)

/-- Pools of other clusters that share no address with a local one. -/
def Wanted (cur : String) (set : List ExternalClusterIPPool) (own : String → Prop)
    (g : ExternalClusterIPPool) : Prop :=
  g ∈ set ∧ g.cluster ≠ cur ∧ ∀ p, own p → ShareNoAddress g.ipPool p

/-- Every pool of another cluster is of one writing with the local pools. -/
def OneWritings (cur : String) (set : List ExternalClusterIPPool) (own : String → Prop) : Prop :=
  ∀ g ∈ set, g.cluster ≠ cur → ∀ p, own p → OneWriting g.ipPool p

def Fits (cur : String) (set : List ExternalClusterIPPool) (own : String → Prop)
    (g : ExternalClusterIPPool) : Prop :=
  g ∈ set ∧ g.cluster ≠ cur ∧ ∀ p, own p → intersect g.ipPool p = false

variable {client : IPPoolClient σ} {ext : σ → ExternalClusterIPPool → Prop}
  {own : σ → String → Prop} {range : List ExternalClusterIPPool → List ExternalClusterIPPool}
  {cur : String} {set set' : List ExternalClusterIPPool} {s s' : σ}
  {extIPPools log : List ExternalClusterIPPool} {ippools : List String} {g : ExternalClusterIPPool}

theorem fits_iff_wanted {own : String → Prop} (h : OneWritings cur set own) :
    Fits cur set own g ↔ Wanted cur set own g := by
  refine and_congr_right fun hg => and_congr_right fun hcur => forall₂_congr fun p hp => ?_
  exact Manager.intersect_eq_false_iff (h g hg hcur p hp)

theorem mem_filter_overlaps (hown : ∀ p, p ∈ ippools ↔ own s p) (hg : g.cluster ≠ cur) :
    g ∈ set.filter (fun g => !overlaps cur ippools g) ↔ Fits cur set (own s) g := by
  rw [List.mem_filter, overlaps, bne_iff_ne.mpr hg, Bool.true_and, Bool.not_eq_true',
    List.any_eq_false, Fits]
  refine and_congr_right fun _ => ⟨fun h => ⟨hg, fun p hp => ?_⟩, fun h p hp => ?_⟩
  · exact Bool.eq_false_iff.mpr (h p ((hown p).mpr hp))
  · rw [h.2 p ((hown p).mp hp)]
    exact Bool.false_ne_true

theorem deleted_cases {errs : Option (List String)}
    (h : syncIPPool range cur set (recording client) (s, []) = .ok (errs, set', s', log)) :
    log = [] ∨ ∃ extIPPools ippools, client.listIPPools s = .ok (extIPPools, ippools) ∧
      log = extIPPools.filter fun g => g ∉ set.filter fun g => !overlaps cur ippools g := by
  unfold syncIPPool recording at h
  dsimp only at h
  split at h
  · cases h
  · cases h
    exact Or.inl rfl
  next extIPPools ippools hlist =>
    refine Or.inr ⟨extIPPools, ippools, hlist, ?_⟩
    split at h
    next hdelete =>
      cases h
      exact (congrArg (·.2.2) hdelete).symm
    next hdelete =>
      cases h
      exact (congrArg (·.2.2) hdelete).symm

theorem succeeded
    (h : syncIPPool range cur set (recording client) (s, []) = .ok (none, set', s', log)) :
    ∃ extIPPools ippools t, client.listIPPools s = .ok (extIPPools, ippools) ∧
      set' = (set.filter fun g => !overlaps cur ippools g) ∧
      log = (extIPPools.filter fun g => g ∉ set') ∧ client.deleteIPPool log s = (none, t) ∧
      client.createOrUpdateCalicoIPPool ((range set').filter fun g => g.cluster != cur) t =
        (none, s') := by
  unfold syncIPPool recording at h
  dsimp only at h
  split at h
  · cases h
  · cases h
  next extIPPools ippools hlist =>
    split at h
    · cases h
    next t hdelete =>
      obtain ⟨herrs, ht⟩ := Prod.mk.inj hdelete
      subst ht
      simp only [Except.ok.injEq, Prod.mk.injEq, List.nil_append] at h
      obtain ⟨hnone, rfl, hs', rfl⟩ := h
      exact ⟨extIPPools, ippools, _, hlist, rfl, rfl, Prod.ext herrs rfl, Prod.ext hnone hs'⟩

theorem ExactClient.synced (hclient : ExactClient client ext own)
    (hrange : ∀ l, (range l).Perm l) (hext : ∀ g, ext s g → g.cluster ≠ cur)
    (h : syncIPPool range cur set (recording client) (s, []) = .ok (none, set', s', log)) :
    (∀ g, ext s' g ↔ Fits cur set (own s) g) ∧ (∀ p, own s' p ↔ own s p) ∧
      ∀ g ∈ log, ¬ Fits cur set (own s) g := by
  obtain ⟨extIPPools, ippools, t, hlist, rfl, rfl, hdelete, hcreate⟩ := succeeded h
  obtain ⟨hexts, howns⟩ := hclient.list s _ _ hlist
  obtain ⟨hdeleted, hownt⟩ := hclient.delete _ s t hdelete
  obtain ⟨hcreated, hown'⟩ := hclient.create _ t s' hcreate
  have hfits : ∀ g, g.cluster ≠ cur →
      (g ∈ set.filter (fun g => !overlaps cur ippools g) ↔ Fits cur set (own s) g) :=
    fun g hg => mem_filter_overlaps howns hg
  refine ⟨fun g => ?_, fun p => (hown' p).trans (hownt p), fun g hg hfit => ?_⟩
  · have hmodify : g ∈ (range (set.filter fun g => !overlaps cur ippools g)).filter
        (fun g => g.cluster != cur) ↔ Fits cur set (own s) g := by
      rw [List.mem_filter, (hrange _).mem_iff, bne_iff_ne]
      exact ⟨fun hm => (hfits g hm.2).mp hm.1, fun hf => ⟨(hfits g hf.2.1).mpr hf, hf.2.1⟩⟩
    rw [hcreated, hdeleted, hmodify]
    refine ⟨fun hor => hor.elim (fun hkept => ?_) id, Or.inr⟩
    have hset : g ∈ set.filter fun g => !overlaps cur ippools g := by
      by_contra hnot
      exact hkept.2 (List.mem_filter.mpr ⟨(hexts g).mpr hkept.1, decide_eq_true hnot⟩)
    exact (hfits g (hext g hkept.1)).mp hset
  · have hmem := (List.mem_filter.mp hg).2
    exact of_decide_eq_true hmem ((hfits g hfit.2.1).mpr hfit)

theorem ExactClient.deletes_nothing (hclient : ExactClient client ext own)
    (hfits : ∀ g, ext s g → Fits cur set (own s) g) {errs : Option (List String)}
    (h : syncIPPool range cur set (recording client) (s, []) = .ok (errs, set', s', log)) :
    log = [] := by
  rcases deleted_cases h with hnil | ⟨extIPPools, ippools, hlist, rfl⟩
  · exact hnil
  · obtain ⟨hexts, howns⟩ := hclient.list s _ _ hlist
    rw [List.filter_eq_nil_iff]
    intro g hg hnot
    have hfit := hfits g ((hexts g).mp hg)
    exact of_decide_eq_true hnot ((mem_filter_overlaps howns hfit.2.1).mpr hfit)

theorem ExactClient.fits_left (hclient : ExactClient client ext own)
    (h : syncIPPool range cur set (recording client) (s, []) = .ok (none, set', s', log)) (g) :
    Fits cur set' (own s) g ↔ Fits cur set (own s) g := by
  obtain ⟨extIPPools, ippools, t, hlist, rfl, -, -, -⟩ := succeeded h
  have howns := (hclient.list s _ _ hlist).2
  constructor
  · exact fun hf => ⟨List.mem_of_mem_filter hf.1, hf.2⟩
  · exact fun hf => ⟨(mem_filter_overlaps howns hf.2.1).mpr hf, hf.2⟩

end Client

def listClient : IPPoolClient (List ExternalClusterIPPool × List String) where
  listIPPools s := .ok s
  deleteIPPool pools s := (none, s.1.filter (fun g => g ∉ pools), s.2)
  createOrUpdateCalicoIPPool pools s := (none, s.1 ++ pools.filter (fun g => g ∉ s.1), s.2)

theorem listClient_exact : ExactClient listClient (fun s g => g ∈ s.1) (fun s p => p ∈ s.2) where
  list s extIPPools ippools h := by
    cases h
    exact ⟨fun g => Iff.rfl, fun p => Iff.rfl⟩
  delete pools s s' h := by
    cases h
    exact ⟨fun g => by simp, fun p => Iff.rfl⟩
  create pools s s' h := by
    cases h
    refine ⟨fun g => ?_, fun p => Iff.rfl⟩
    rw [List.mem_append, List.mem_filter, decide_eq_true_eq]
    tauto

def stayingPool : ExternalClusterIPPool := ⟨"c2", "pod", "10.2.0.0/16"⟩
def stalePool : ExternalClusterIPPool := ⟨"c9", "pod", "10.9.0.0/16"⟩
def overlappingPool : ExternalClusterIPPool := ⟨"c3", "pod", "10.1.2.0/24"⟩
def missingPool : ExternalClusterIPPool := ⟨"c3", "pod", "10.3.0.0/16"⟩

end Kosmos.Controllers
