import Kosmos.Go.Basic
import Kosmos.Go.Store
import Mathlib.Data.Set.Finite.Basic

/-!
# Revisions of a host shadow

`update.go`: a taken name should raise the collision count, but that of an apps DaemonSet goes up.
Only a shadow without a matching history comes to that (`constructHistory_of_none`).

The hash and the patch of a template are parameters, and a collision count is far from the end of
`int32`. Labels of histories and pods are left out of `constructHistory`, and its calls go through.
-/

namespace Kosmos.Snapshot

open Go

structure ShadowDaemonSet (Template : Type) where
  ns : String
  name : String
  template : Template
  collisionCount : Option Int

structure DaemonSet where
  ns : String
  name : String
  collisionCount : Option Int

structure ControllerRevision where
  ns : String
  name : String
  data : String
  revision : Int
  deriving DecidableEq

variable {Template : Type}

def ShadowDaemonSet.key (ds : ShadowDaemonSet Template) : String × String := (ds.ns, ds.name)

def DaemonSet.key (ds : DaemonSet) : String × String := (ds.ns, ds.name)

def ControllerRevision.key (r : ControllerRevision) : String × String := (r.ns, r.name)

structure Encoding (Template : Type) where
  computeHash : Template → Option Int → String
  getPatch : Template → String

abbrev Revisions := Store ControllerRevision.key

structure Servers (Template : Type) where
  shadows : Store (@ShadowDaemonSet.key Template)
  daemonSets : Store DaemonSet.key
  revisions : Revisions

structure Answers where
  create : WriteAnswer := .done
  getHistory : Option String := none
  getDS : Option String := none
  updateStatus : WriteAnswer := .done

variable (enc : Encoding Template)

def historyName (ds : ShadowDaemonSet Template) : String :=
  ds.name ++ "-" ++ enc.computeHash ds.template ds.collisionCount

def isMatch (ds : ShadowDaemonSet Template) (history : ControllerRevision) : Bool :=
  enc.getPatch ds.template = history.data

def bumped (count : Option Int) : Option Int := some (count.getD 0 + 1)

def newRevision (ds : ShadowDaemonSet Template) (revision : Int) : ControllerRevision :=
  ⟨ds.ns, historyName enc ds, enc.getPatch ds.template, revision⟩

def bumpCollisionCount (a : Answers) (ds : ShadowDaemonSet Template) (s : Servers Template) :
    CallError × Servers Template :=
  match a.getDS with
  | some msg => (.other msg, s)
  | none =>
    match s.daemonSets.get? ds.key with
    | none => (.notFound, s)
    | some currDS =>
      if currDS.collisionCount ≠ ds.collisionCount then
        (.other "found a stale collision count", s)
      else
        let currDS := { currDS with collisionCount := bumped currDS.collisionCount }
        let r := answered a.updateStatus (s.daemonSets.update currDS) s.daemonSets
        (r.1.getD .alreadyExists, { s with daemonSets := r.2 })

def snapshot (a : Answers) (ds : ShadowDaemonSet Template) (revision : Int)
    (s : Servers Template) : Except CallError ControllerRevision × Servers Template :=
  let history := newRevision enc ds revision
  match answered a.create (s.revisions.create history) s.revisions with
  | (none, revisions) => (.ok history, { s with revisions := revisions })
  | (some .alreadyExists, revisions) =>
    let s := { s with revisions := revisions }
    match a.getHistory with
    | some msg => (.error (.other msg), s)
    | none =>
      match s.revisions.get? history.key with
      | none => (.error .notFound, s)
      | some existedHistory =>
        if isMatch enc ds existedHistory then (.ok existedHistory, s)
        else
          let r := bumpCollisionCount a ds s
          (.error r.1, r.2)
  | (some e, revisions) => (.error e, { s with revisions := revisions })

def maxRevision (histories : List ControllerRevision) : Int :=
  histories.foldl (fun max history => if history.revision > max then history.revision else max) 0

def keepCur (kept : Option ControllerRevision × Int) (curHistories : List ControllerRevision) :
    Option ControllerRevision :=
  (curHistories.foldl (fun kept cur =>
    if cur.revision ≥ kept.2 then (some cur, cur.revision) else kept) kept).1

def deleteDuplicates (keep : String) :
    List ControllerRevision → Revisions → Option CallError × Revisions
  | [], revisions => (none, revisions)
  | cur :: rest, revisions =>
    if cur.name = keep then deleteDuplicates keep rest revisions
    else
      match answered .done (revisions.delete cur.key) revisions with
      | (none, revisions) => deleteDuplicates keep rest revisions
      | (some e, revisions) => (some e, revisions)

def dedupCurHistories (curHistories : List ControllerRevision) (revisions : Revisions) :
    Outcome (Except CallError ControllerRevision × Revisions) :=
  match curHistories with
  | [cur] => .ok (.ok cur, revisions)
  | _ => do
    let keep ← deref (keepCur (none, 0) curHistories)
    let r := deleteDuplicates keep.name curHistories revisions
    pure (r.1.elim (.ok keep) .error, r.2)

def constructHistory (histories : List ControllerRevision) (ds : ShadowDaemonSet Template)
    (s : Servers Template) : Outcome (Except CallError ControllerRevision × Servers Template) :=
  let old := histories.filter fun history => !isMatch enc ds history
  let currentHistories := histories.filter fun history => isMatch enc ds history
  let currRevision := maxRevision old + 1
  if currentHistories.isEmpty then .ok (snapshot enc {} ds currRevision s)
  else do
    let r ← dedupCurHistories currentHistories s.revisions
    let s := { s with revisions := r.2 }
    match r.1 with
    | .error e => pure (.error e, s)
    | .ok cur =>
      if cur.revision < currRevision then
        let toUpdate := { cur with revision := currRevision }
        let u := answered .done (s.revisions.update toUpdate) s.revisions
        pure (u.1.elim (.ok cur) .error, { s with revisions := u.2 })
      else pure (.ok cur, s)

def newHistory (key : String × String) (revision : Int) (s : Servers Template) :
    Except CallError ControllerRevision × Servers Template :=
  match s.shadows.get? key with
  | none => (.error .notFound, s)
  | some ds => snapshot enc {} ds revision s

def after (key : String × String) (revision : Nat → Int) (s : Servers Template) :
    Nat → Servers Template
  | 0 => s
  | n + 1 => (newHistory enc key (revision n) (after key revision s n)).2

/-- The name is that of a revision with another template. -/
def Taken (ds : ShadowDaemonSet Template) (s : Servers Template) : Prop :=
  ∃ r, s.revisions.get? (ds.ns, historyName enc ds) = some r ∧ isMatch enc ds r = false

/-- The shadow is stored with the collision count that is used. -/
def Current (ds : ShadowDaemonSet Template) (s : Servers Template) : Prop :=
  (s.shadows.get? ds.key).map ShadowDaemonSet.collisionCount = some ds.collisionCount

/-- The answers with which a collision is found. -/
def Answers.Finds (a : Answers) : Prop :=
  (a.create.takesEffect = true ∨ a.create = .refused .alreadyExists) ∧ a.getHistory = none

/-- A collision raises the shadow's count, and with enough hashes some sync returns a revision. -/
structure Resolved (ds : ShadowDaemonSet Template) (s : Servers Template) : Prop where
  bumps : ∀ a : Answers, ∀ revision, Current ds s → Taken enc ds s → a.Finds →
    ((snapshot enc a ds revision s).2.shadows.get? ds.key).map ShadowDaemonSet.collisionCount =
      some (bumped ds.collisionCount)
  created : (Set.range fun n : Nat => enc.computeHash ds.template (some n)).Infinite →
    s.shadows.get? ds.key = some ds → ∀ revision, ∃ n r,
      (newHistory enc ds.key (revision n) (after enc ds.key revision s n)).1 = .ok r

variable {enc} {ds : ShadowDaemonSet Template} {s : Servers Template}

theorem bumpCollisionCount_eq (a : Answers) :
    ∃ e daemonSets, bumpCollisionCount a ds s = (e, { s with daemonSets := daemonSets }) := by
  unfold bumpCollisionCount
  split
  · exact ⟨_, _, rfl⟩
  · split
    · exact ⟨_, _, rfl⟩
    · split
      · exact ⟨_, _, rfl⟩
      · exact ⟨_, _, rfl⟩

theorem create_taken {r history : ControllerRevision}
    (hget : s.revisions.get? history.key = some r) :
    s.revisions.create history = .error .alreadyExists := by
  obtain ⟨hmem, hkey⟩ := Store.get?_eq_some.mp hget
  exact dif_neg fun hfree => hfree r hmem hkey

theorem snapshot_taken (h : Taken enc ds s) (revision : Int) :
    ∃ e daemonSets, snapshot enc {} ds revision s =
      (.error e, { s with daemonSets := daemonSets }) := by
  obtain ⟨r, hget, hmatch⟩ := h
  obtain ⟨e, daemonSets, hbump⟩ : ∃ e daemonSets,
      bumpCollisionCount {} ds s = (e, { s with daemonSets := daemonSets }) :=
    bumpCollisionCount_eq {}
  have hget : s.revisions.get? (newRevision enc ds revision).key = some r := hget
  refine ⟨e, daemonSets, ?_⟩
  simp only [snapshot, create_taken hget, answered, callError, hget, hmatch]
  simp [hbump]

theorem after_taken (h : Taken enc ds s) (hds : s.shadows.get? ds.key = some ds)
    (revision : Nat → Int) (n : Nat) :
    Taken enc ds (after enc ds.key revision s n) ∧
      (after enc ds.key revision s n).shadows.get? ds.key = some ds := by
  induction n with
  | zero => exact ⟨h, hds⟩
  | succ n ih =>
    obtain ⟨e, daemonSets, hsnapshot⟩ := snapshot_taken ih.1 (revision n)
    rw [after, newHistory, ih.2]
    dsimp only
    rw [hsnapshot]
    exact ih

theorem snapshot_free (h : ¬ Taken enc ds s) (revision : Int) :
    ∃ r, (snapshot enc {} ds revision s).1 = .ok r := by
  cases hget : s.revisions.get? (ds.ns, historyName enc ds) with
  | none =>
    have hcreate : s.revisions.create (newRevision enc ds revision) = .ok _ :=
      dif_pos (Store.get?_eq_none.mp hget)
    refine ⟨newRevision enc ds revision, ?_⟩
    simp only [snapshot, hcreate, answered]
  | some r =>
    have hmatch : isMatch enc ds r = true := by
      by_contra hno
      exact h ⟨r, hget, by simpa using hno⟩
    have hget : s.revisions.get? (newRevision enc ds revision).key = some r := hget
    refine ⟨r, ?_⟩
    simp [snapshot, create_taken hget, answered, callError, hget, hmatch]

theorem keepCur_mem {kept : Option ControllerRevision × Int} {l : List ControllerRevision}
    {keep : ControllerRevision} (h : keepCur kept l = some keep) :
    keep ∈ l ∨ kept.1 = some keep := by
  induction l generalizing kept with
  | nil => exact Or.inr h
  | cons cur rest ih =>
    rw [keepCur, List.foldl_cons] at h
    rcases ih h with hrest | hkept
    · exact Or.inl (List.mem_cons_of_mem cur hrest)
    · split at hkept
      · cases hkept
        exact Or.inl List.mem_cons_self
      · exact Or.inr hkept

theorem elim_ok {e : Option CallError} {cur cur' : ControllerRevision}
    (h : e.elim (Except.ok cur) .error = .ok cur') : cur = cur' := by
  cases e with
  | none => exact Except.ok.inj h
  | some e => cases h

theorem dedupCurHistories_mem {l : List ControllerRevision} {revisions revisions' : Revisions}
    {cur : ControllerRevision} (h : dedupCurHistories l revisions = .ok (.ok cur, revisions')) :
    cur ∈ l := by
  unfold dedupCurHistories at h
  split at h
  · cases h
    exact List.mem_singleton_self _
  · obtain ⟨keep, hkeep, h⟩ := bind_eq_ok h
    have hmem : keep ∈ l :=
      (keepCur_mem (deref_eq_ok hkeep)).resolve_right (Option.some_ne_none keep).symm
    rwa [elim_ok (congrArg Prod.fst (Except.ok.inj h))] at hmem

theorem constructHistory_of_none {histories : List ControllerRevision}
    (h : ∀ history ∈ histories, isMatch enc ds history = false)
    (hds : s.shadows.get? ds.key = some ds) :
    constructHistory enc histories ds s =
      .ok (newHistory enc ds.key (maxRevision histories + 1) s) := by
  have hcurrent : (histories.filter fun history => isMatch enc ds history) = [] :=
    List.filter_eq_nil_iff.mpr fun history hmem => by simp [h history hmem]
  have hold : (histories.filter fun history => !isMatch enc ds history) = histories :=
    List.filter_eq_self.mpr fun history hmem => by simp [h history hmem]
  rw [constructHistory, hcurrent, hold, newHistory, hds]
  rfl

theorem constructHistory_of_match {histories : List ControllerRevision}
    {r : Except CallError ControllerRevision} {s' : Servers Template}
    (h : ∃ history ∈ histories, isMatch enc ds history = true)
    (hr : constructHistory enc histories ds s = .ok (r, s')) :
    s'.shadows = s.shadows ∧ ∀ cur, r = .ok cur → cur ∈ histories ∧ isMatch enc ds cur = true := by
  obtain ⟨history, hmem, hmatch⟩ := h
  have hsome : (histories.filter fun history => isMatch enc ds history).isEmpty = false :=
    List.isEmpty_eq_false_iff_exists_mem.mpr ⟨history, List.mem_filter.mpr ⟨hmem, hmatch⟩⟩
  rw [constructHistory, if_neg (by rw [hsome]; exact Bool.false_ne_true)] at hr
  obtain ⟨d, hd, hr⟩ := bind_eq_ok hr
  split at hr
  · cases hr
    exact ⟨rfl, fun cur h => by cases h⟩
  next cur' hcur' =>
    have hcur : cur' ∈ histories ∧ isMatch enc ds cur' = true :=
      List.mem_filter.mp (dedupCurHistories_mem (hd.trans (by rw [← hcur'])))
    split at hr
    · cases hr
      exact ⟨rfl, fun cur h => elim_ok h ▸ hcur⟩
    · cases hr
      exact ⟨rfl, fun cur h => Except.ok.inj h ▸ hcur⟩

/-- A collision of a shadow with its stored count is never resolved, and nothing else is in the way.
-/
theorem resolved_iff (enc : Encoding Template) (ds : ShadowDaemonSet Template)
    (s : Servers Template) : Resolved enc ds s ↔ ¬ (Current ds s ∧ Taken enc ds s) := by
  constructor
  · intro h ⟨hcurrent, htaken⟩
    obtain ⟨e, daemonSets, hsnapshot⟩ := snapshot_taken htaken 0
    have hbumped := h.bumps {} 0 hcurrent htaken ⟨Or.inl rfl, rfl⟩
    rw [hsnapshot] at hbumped
    have hcount := Option.some.inj (hcurrent.symm.trans hbumped)
    cases hc : ds.collisionCount with
    | none => simp [bumped, hc] at hcount
    | some c =>
      simp only [bumped, hc, Option.getD_some, Option.some.injEq] at hcount
      omega
  · intro hfree
    refine ⟨fun a revision hcurrent htaken => absurd ⟨hcurrent, htaken⟩ hfree,
      fun _ hds revision => ?_⟩
    have hcurrent : Current ds s := by rw [Current, hds]; rfl
    obtain ⟨r, hr⟩ := snapshot_free (fun htaken => hfree ⟨hcurrent, htaken⟩) (revision 0)
    refine ⟨0, r, ?_⟩
    rw [after, newHistory, hds]
    exact hr

def countHash : Encoding String := ⟨fun _ count => toString (count.getD 0), id⟩

def webHost : ShadowDaemonSet String := ⟨"default", "web-host", "new", none⟩

def collision : Servers String where
  shadows := ⟨[webHost], List.nodup_singleton _⟩
  daemonSets := .empty
  revisions := ⟨[⟨"default", "web-host-0", "old", 1⟩], List.nodup_singleton _⟩

theorem collision_unresolved : ¬ Resolved countHash webHost collision ∧ ∀ revision n,
    (after countHash webHost.key revision collision n).shadows.get? webHost.key = some webHost := by
  constructor
  · intro h
    have hbumped := h.bumps {} 2 rfl ⟨_, rfl, rfl⟩ ⟨Or.inl rfl, rfl⟩
    revert hbumped
    decide
  · intro revision n
    exact (after_taken ⟨_, rfl, rfl⟩ rfl revision n).2

end Kosmos.Snapshot
