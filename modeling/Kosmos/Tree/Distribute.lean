import Kosmos.Api.Resources
import Kosmos.Go.Trace
import Kosmos.Go.Update

/-!
# Distributing shadows to the member clusters

`distribute_controller.go`: shadows become DaemonSets of the members, and go with their cluster.

An object of a lister is the one in the cache: what `AddFinalizer` and `RemoveFinalizer` change
stays changed when the update fails. A panic ends the process, and the next one has no managers.
Others may do anything between two syncs, and between the reading of a DaemonSet and its update
(`ShadowSync.readAt`). `Start` returns.
-/

namespace Kosmos.Distribute

open Go Resources

/-! ## Objects -/

def managedLabel : String := "daemonset.kosmos.io/managed"

def distributeControllerFinalizer : String := "kosmos.io/distribute-controller-finalizer"

def clusterAnnotationKey : String := "kosmos.io/managed-cluster"

abbrev Key := String × String

structure Cluster where
  name : String
  finalizers : List String := []
  deleting : Bool := false
  deriving DecidableEq

structure DaemonSetSpec (Rest : Type) where
  templateAnnotations : Annotations := none
  rest : Rest
  deriving DecidableEq

structure DaemonSet (Rest Status : Type) where
  ns : String
  name : String
  labels : Annotations := none
  annotations : Annotations := none
  spec : DaemonSetSpec Rest
  status : Status
  deriving DecidableEq

structure ShadowDaemonSet (Rest Status : Type) where
  ns : String
  name : String
  labels : Annotations := none
  annotations : Annotations := none
  finalizers : List String := []
  deleting : Bool := false
  cluster : String
  spec : DaemonSetSpec Rest
  status : Status
  deriving DecidableEq

variable {Rest Status : Type}

def DaemonSet.key (ds : DaemonSet Rest Status) : Key := (ds.ns, ds.name)

def ShadowDaemonSet.key (sds : ShadowDaemonSet Rest Status) : Key := (sds.ns, sds.name)

abbrev Member (Rest Status : Type) := Store (@DaemonSet.key Rest Status)

/-! ## The host cluster -/

section Watched

variable {α κ : Type} [DecidableEq α] [DecidableEq κ] {key : α → κ}

structure Watched (key : α → κ) where
  server : Store key
  lister : Store fun x : InHand α => key x.value

def Watched.send (w : Watched key) (change : α → α) (reply : WriteReply) (x : InHand α) :
    Except CallError α × Watched key :=
  let x := x.modified change
  let r := reply.to (w.server.put x) w.server
  (r.1, ⟨r.2, w.lister.overwrite x⟩)

end Watched

def errOf {α : Type} : Except CallError α → Option CallError
  | .ok _ => none
  | .error e => some e

def addFinalizer (finalizers : List String) : List String :=
  finalizers ++ [distributeControllerFinalizer]

def removeFinalizer (finalizers : List String) : List String :=
  finalizers.filter (· ≠ distributeControllerFinalizer)

def ensureClusterFinalizer (reply : WriteReply) (cluster : InHand Cluster)
    (w : Watched Cluster.name) : Option CallError × Watched Cluster.name :=
  if distributeControllerFinalizer ∈ cluster.value.finalizers then (none, w)
  else
    let r := w.send (fun c => { c with finalizers := addFinalizer c.finalizers }) reply cluster
    (errOf r.1, r.2)

def removeClusterFinalizer (reply : WriteReply) (cluster : InHand Cluster)
    (w : Watched Cluster.name) : Option CallError × Watched Cluster.name :=
  if distributeControllerFinalizer ∉ cluster.value.finalizers then (none, w)
  else
    let r := w.send (fun c => { c with finalizers := removeFinalizer c.finalizers }) reply cluster
    (errOf r.1, r.2)

section Shadows

variable [DecidableEq Rest] [DecidableEq Status]

abbrev Shadows (Rest Status : Type) := Watched (@ShadowDaemonSet.key Rest Status)

def ensureShadowDaemonSetFinalizer (reply : WriteReply)
    (sds : InHand (ShadowDaemonSet Rest Status)) (w : Shadows Rest Status) :
    Except CallError (InHand (ShadowDaemonSet Rest Status) × Bool) × Shadows Rest Status :=
  if distributeControllerFinalizer ∈ sds.value.finalizers then (.ok (sds, true), w)
  else
    let r := w.send (fun s => { s with finalizers := addFinalizer s.finalizers }) reply sds
    (r.1.map fun sds => (.fresh sds, false), r.2)

def removeShadowDaemonSetFinalizer (reply : WriteReply)
    (sds : InHand (ShadowDaemonSet Rest Status)) (w : Shadows Rest Status) :
    Option CallError × Shadows Rest Status :=
  if distributeControllerFinalizer ∉ sds.value.finalizers then (none, w)
  else
    let r := w.send (fun s => { s with finalizers := removeFinalizer s.finalizers }) reply sds
    (errOf r.1, r.2)

def updateStatus (reply : WriteReply) (sds : InHand (ShadowDaemonSet Rest Status))
    (ds : DaemonSet Rest Status) (w : Shadows Rest Status) :
    Option CallError × Shadows Rest Status :=
  match w.server.get? sds.value.key with
  | none => (some .notFound, w)
  | some cur =>
    let r := reply.to (w.server.put ⟨sds.read, { cur with status := ds.status }⟩) w.server
    (errOf r.1, { w with server := r.2 })

end Shadows

/-! ## The controller -/

structure World (Rest Status : Type) where
  clusters : Watched Cluster.name
  shadows : Shadows Rest Status
  members : String → Member Rest Status
  dsListers : String → Member Rest Status

structure State (Rest Status : Type) extends World Rest Status where
  managers : List String

inductive Crash where
  | shadow
  | client
  | write
  deriving DecidableEq

structure Result where
  crash : Option Crash := none
  err : Option CallError := none
  deletions : List (Key × Option CallError) := []
  dropped : Bool := false

def State.setMember (s : State Rest Status) (cluster : String) (member : Member Rest Status) :
    State Rest Status :=
  { s with members := Function.update s.members cluster member }

def State.crashed (s : State Rest Status) : State Rest Status := { s with managers := [] }

/-! ## `syncCluster` -/

inductive Connection where
  | ok
  | badConfig (msg : String)
  | badClient

structure ClusterSync where
  name : String
  getErr : Option String := none
  connection : Connection := .ok
  listErr : Option CallError := none
  deletes : Key → WriteAnswer := fun _ => .done
  update : WriteReply := .done

def DaemonSet.selected (ds : DaemonSet Rest Status) : Bool :=
  readMap ds.labels managedLabel = some ""

structure Deletions (Rest Status : Type) where
  sent : List (Key × Option CallError)
  returned : Option (Option CallError)
  member : Member Rest Status

def deleteListed (err : Option CallError) (answers : Key → WriteAnswer) :
    List (DaemonSet Rest Status) → Member Rest Status → Deletions Rest Status
  | [], member => ⟨[], none, member⟩
  | ds :: list, member =>
    let r := answered (answers ds.key) (member.delete ds.key) member
    if err ≠ none then ⟨[(ds.key, r.1)], some r.1, r.2⟩
    else
      let rest := deleteListed err answers list r.2
      { rest with sent := (ds.key, r.1) :: rest.sent }

def releaseCluster (e : ClusterSync) (cluster : InHand Cluster) (err : Option CallError)
    (s : State Rest Status) : Result × State Rest Status :=
  let name := cluster.value.name
  match e.listErr with
  | some newErr => ({ err := some newErr }, s)
  | none =>
    let list := (s.dsListers name).objects.filter DaemonSet.selected
    let d := deleteListed err e.deletes list (s.members name)
    let s := s.setMember name d.member
    match d.returned with
    | some newErr => ({ err := newErr, deletions := d.sent }, s)
    | none =>
      let r := removeClusterFinalizer e.update cluster s.clusters
      let s := { s with clusters := r.2 }
      match r.1 with
      | some err => ({ err := some err, deletions := d.sent }, s)
      | none =>
        ({ deletions := d.sent, dropped := true },
          { s with managers := s.managers.filter (· ≠ name) })

def syncManaged (e : ClusterSync) (cluster : InHand Cluster) (err : Option CallError)
    (s : State Rest Status) : Result × State Rest Status :=
  if cluster.value.deleting then releaseCluster e cluster err s
  else
    let r := ensureClusterFinalizer e.update cluster s.clusters
    ({ err := r.1 }, { s with clusters := r.2 })

def syncCluster (e : ClusterSync) (s : State Rest Status) : Result × State Rest Status :=
  match e.getErr, s.clusters.lister.get? e.name with
  | some msg, _ => ({ err := some (.other msg) }, s)
  | none, none => ({}, s)
  | none, some cluster =>
    let err : Option CallError := none
    if cluster.value.name ∈ s.managers then syncManaged e cluster err s
    else
      match e.connection with
      | .badConfig msg => ({ err := some (.other msg) }, s)
      | .badClient => ({ crash := some .client }, s.crashed)
      | .ok => syncManaged e cluster err { s with managers := cluster.value.name :: s.managers }

/-! ## `syncShadowDaemonSet` -/

structure ShadowSync (Rest Status : Type) where
  key : Key
  sdsErr : Option String := none
  clusterErr : Option String := none
  delete : WriteAnswer := .done
  finalizer : WriteReply := .done
  namespaceErr : Option CallError := none
  getErr : Option CallError := none
  readAt : Member Rest Status
  create : WriteAnswer := .done
  update : WriteReply := .done
  status : WriteReply := .done

def writeAll (m : Annotations) (entries : List (String × String)) : Outcome Annotations :=
  match m, entries with
  | m, [] => .ok m
  | none, _ :: _ => .error (.panic .nilDeref)
  | some m, entries => .ok (some (m.setAll entries))

def entriesOf (m : Annotations) : List (String × String) := (m.getD .empty).entries

def markTemplate (cluster : String) (m : GoMap String String) : GoMap String String :=
  (m.set managedLabel "").set clusterAnnotationKey cluster

def DaemonSetSpec.marked (cluster : String) (spec : DaemonSetSpec Rest) : DaemonSetSpec Rest :=
  let annotations := spec.templateAnnotations.getD .empty
  { spec with templateAnnotations := some (markTemplate cluster annotations) }

def DaemonSetSpec.shared (cluster : String) (spec : DaemonSetSpec Rest) : DaemonSetSpec Rest :=
  { spec with templateAnnotations := spec.templateAnnotations.map (markTemplate cluster) }

def newDaemonSet (cluster : String) (sds : ShadowDaemonSet Rest Status) (status : Status) :
    DaemonSet Rest Status where
  ns := sds.ns
  name := sds.name
  labels := some (GoMap.empty.set managedLabel "")
  annotations := sds.annotations
  spec := sds.spec.marked cluster
  status := status

def updatedDaemonSet (cluster : String) (sds : ShadowDaemonSet Rest Status)
    (ds : DaemonSet Rest Status) : Outcome (DaemonSet Rest Status) := do
  let labels ← writeAll ds.labels (entriesOf sds.labels ++ [(managedLabel, "")])
  let annotations ← writeAll ds.annotations (entriesOf sds.annotations)
  pure { ds with labels := labels, annotations := annotations, spec := sds.spec.marked cluster }

def ensureNameSpace (err : Option CallError) : Option CallError :=
  match err with
  | some .alreadyExists => none
  | err => err

def getDaemonSet (e : ShadowSync Rest Status) (dsLister : Member Rest Status) (key : Key) :
    Except CallError (DaemonSet Rest Status) :=
  match dsLister.get? key with
  | some ds => .ok ds
  | none =>
    match e.getErr with
    | some err => .error err
    | none =>
      match e.readAt.get? key with
      | some ds => .ok ds
      | none => .error .notFound

structure Written (Rest Status : Type) where
  err : Option CallError
  marked : Bool
  member : Member Rest Status

variable (s : State Rest Status) {cluster : InHand Cluster} {x : Result × State Rest Status}
  (e : ShadowSync Rest Status)

section Sync

variable [DecidableEq Rest] [DecidableEq Status] [Inhabited Status]

def tryCreateOrUpdateDaemonSet (e : ShadowSync Rest Status) (dsLister : Member Rest Status)
    (sds : ShadowDaemonSet Rest Status) (member : Member Rest Status) :
    Outcome (Written Rest Status) :=
  match ensureNameSpace e.namespaceErr with
  | some err => .ok ⟨some err, false, member⟩
  | none =>
    match getDaemonSet e dsLister sds.key with
    | .error .notFound =>
      let r := answered e.create (member.create (newDaemonSet sds.cluster sds default)) member
      .ok ⟨r.1, true, r.2⟩
    | .error err => .ok ⟨some err, false, member⟩
    | .ok ds => do
      let new ← updatedDaemonSet sds.cluster sds ds
      let r := e.update.to (member.put ⟨some ds, new⟩) member
      pure ⟨errOf r.1, true, r.2⟩

def withdraw (e : ShadowSync Rest Status) (sds : InHand (ShadowDaemonSet Rest Status))
    (s : State Rest Status) : Result × State Rest Status :=
  let member := s.members sds.value.cluster
  let r := answered e.delete (member.delete sds.value.key) member
  let s := s.setMember sds.value.cluster r.2
  if r.1 ≠ none ∧ r.1 ≠ some .notFound then ({ err := r.1 }, s)
  else
    let f := removeShadowDaemonSetFinalizer e.finalizer sds s.shadows
    ({ err := f.1 }, { s with shadows := f.2 })

def State.markShadow (s : State Rest Status) (sds : InHand (ShadowDaemonSet Rest Status)) :
    State Rest Status :=
  let sds := sds.modified fun sds => { sds with spec := sds.spec.shared sds.cluster }
  { s with shadows := { s.shadows with lister := s.shadows.lister.overwrite sds } }

def reportStatus (e : ShadowSync Rest Status) (sds : InHand (ShadowDaemonSet Rest Status))
    (s : State Rest Status) : Result × State Rest Status :=
  match (s.dsListers sds.value.cluster).get? sds.value.key with
  | none => ({ err := some .notFound }, s)
  | some ds =>
    let r := updateStatus e.status sds ds s.shadows
    ({ err := r.1 }, { s with shadows := r.2 })

def distributeTo (e : ShadowSync Rest Status) (sds : InHand (ShadowDaemonSet Rest Status))
    (cached : Bool) (s : State Rest Status) : Result × State Rest Status :=
  let cluster := sds.value.cluster
  match tryCreateOrUpdateDaemonSet e (s.dsListers cluster) sds.value (s.members cluster) with
  | .error _ => ({ crash := some .write }, s.crashed)
  | .ok w =>
    let s := s.setMember cluster w.member
    let s := if cached ∧ w.marked then s.markShadow sds else s
    match w.err with
    | some err => ({ err := some err }, s)
    | none => reportStatus e sds s

def syncReached (e : ShadowSync Rest Status) (sds : InHand (ShadowDaemonSet Rest Status))
    (s : State Rest Status) : Result × State Rest Status :=
  if sds.value.deleting then withdraw e sds s
  else
    let f := ensureShadowDaemonSetFinalizer e.finalizer sds s.shadows
    let s := { s with shadows := f.2 }
    match f.1 with
    | .error err => ({ err := some err }, s)
    | .ok x => distributeTo e x.1 x.2 s

def syncShadowDaemonSet (e : ShadowSync Rest Status) (s : State Rest Status) :
    Result × State Rest Status :=
  match e.sdsErr, s.shadows.lister.get? e.key with
  | some _, _ => ({ crash := some .shadow }, s.crashed)
  | none, none => ({}, s)
  | none, some sds =>
    match e.clusterErr, s.clusters.lister.get? sds.value.cluster with
    | some msg, _ => ({ err := some (.other msg) }, s)
    | none, none =>
      let r := removeShadowDaemonSetFinalizer e.finalizer sds s.shadows
      ({ err := r.1 }, { s with shadows := r.2 })
    | none, some cluster =>
      if cluster.value.deleting then
        let r := removeShadowDaemonSetFinalizer e.finalizer sds s.shadows
        ({ err := r.1 }, { s with shadows := r.2 })
      else if sds.value.cluster ∉ s.managers then
        ({ err := some (.other ("no manager found for cluster " ++ sds.value.cluster)) }, s)
      else syncReached e sds s

/-! ## Runs -/

inductive Event (Rest Status : Type) where
  | cluster (e : ClusterSync)
  | shadow (e : ShadowSync Rest Status)
  | others (w : World Rest Status)

def step (s : State Rest Status) : Event Rest Status → Result × State Rest Status
  | .cluster e => syncCluster e s
  | .shadow e => syncShadowDaemonSet e s
  | .others w => ({}, { s with toWorld := w })

def run (s : State Rest Status) (es : List (Event Rest Status)) :
    Run (State Rest Status) (Event Rest Status) Result :=
  .loop (.once fun s e => .ok (step s e)) es s

theorem run_step (es : List (Event Rest Status)) :
    ∀ m ∈ (run s es).moves, step m.before m.event = (m.result, m.after) := by
  have hkeeps : Run.Keeps (fun s e => .ok (step s e)) (fun _ => True) (run s es) :=
    Run.Keeps.loop (fun e s hs => Run.Keeps.once (fun _ _ _ _ _ _ => trivial) e s hs) es s trivial
  exact fun m hm => Except.ok.inj (hkeeps.1 m hm).2

theorem run_forall_iff {P Q : Move (State Rest Status) (Event Rest Status) Result → Prop}
    (h : ∀ m, step m.before m.event = (m.result, m.after) → (P m ↔ Q m)) (s : State Rest Status)
    (es : List (Event Rest Status)) :
    (∀ m ∈ (run s es).moves, P m) ↔ ∀ m ∈ (run s es).moves, Q m :=
  forall_congr' fun m => forall_congr' fun hm => h m (run_step s es m hm)

end Sync

/-! ## Clusters that are released -/

/-- A deletion succeeded, or there was nothing to delete. -/
def Settled (err : Option CallError) : Prop := err = none ∨ err = some .notFound

def listed (s : State Rest Status) (cluster : String) : List (DaemonSet Rest Status) :=
  (s.dsListers cluster).objects.filter DaemonSet.selected

def deletionErr (e : ClusterSync) (member : Member Rest Status) (key : Key) : Option CallError :=
  (answered (e.deletes key) (member.delete key) member).1

theorem deleteListed_sent (e : ClusterSync) :
    ∀ (list : List (DaemonSet Rest Status)) (member : Member Rest Status),
      (list.map DaemonSet.key).Nodup →
      (deleteListed none e.deletes list member).returned = none ∧
      (deleteListed none e.deletes list member).sent
        = list.map fun ds => (ds.key, deletionErr e member ds.key) := by
  intro list
  induction list with
  | nil => exact fun _ _ => ⟨rfl, rfl⟩
  | cons ds list ih =>
    intro member hnd
    rw [List.map_cons, List.nodup_cons] at hnd
    obtain ⟨hreturned, hsent⟩ := ih (answered (e.deletes ds.key) (member.delete ds.key) member).2
      hnd.2
    refine ⟨hreturned, ?_⟩
    rw [List.map_cons]
    refine congrArg₂ List.cons rfl (hsent.trans (List.map_congr_left fun x hx => ?_))
    -- a deletion under another key does not show
    have hne : x.key ≠ ds.key := fun h => hnd.1 (h ▸ List.mem_map_of_mem hx)
    exact congrArg _ (answered_delete_fst_congr _ (get?_answered_delete_of_ne _ hne))

/-- The cluster has the finalizer, for the server. -/
def Finalized (w : Watched Cluster.name) (name : String) : Prop :=
  w.server.Has (fun c => distributeControllerFinalizer ∈ c.finalizers) name

/-- The cluster is released: it loses the finalizer, or its manager. -/
def Released (name : String) (r : Result) (s s' : State Rest Status) : Prop :=
  r.dropped = true ∨ (Finalized s.clusters name ∧ ¬ Finalized s'.clusters name)

theorem ensureClusterFinalizer_finalized {reply : WriteReply} {w : Watched Cluster.name}
    {name : String} (h : Finalized w name) :
    Finalized (ensureClusterFinalizer reply cluster w).2 name := by
  unfold ensureClusterFinalizer
  split
  · exact h
  · rcases reply.to_state (w.server.put _) w.server with hsame | ⟨x, hok⟩
    · exact (congrArg (Store.Has _ · name) hsame).mpr h
    · obtain ⟨-, hupdate, -⟩ := Store.put_eq_ok hok
      refine (Store.has_update hupdate).mpr ?_
      by_cases hname : name = cluster.value.name
      · refine Or.inl ⟨hname, decide_eq_true ?_⟩
        exact List.mem_append_right _ (List.mem_singleton_self _)
      · exact Or.inr ⟨hname, h⟩

/-- The sync of a cluster comes to the deletions. -/
structure Terminates (s : State Rest Status) (e : ClusterSync) (cluster : InHand Cluster) :
    Prop where
  got : e.getErr = none
  found : s.clusters.lister.get? e.name = some cluster
  managed : cluster.value.name ∈ s.managers ∨ e.connection = .ok
  deleting : cluster.value.deleting = true
  listed : e.listErr = none

theorem Terminates.name {s : State Rest Status} {e : ClusterSync} (h : Terminates s e cluster) :
    cluster.value.name = e.name :=
  (Store.get?_eq_some.mp h.found).2

/-- The lister's copy has the finalizer, and its update fails or is of no effect. -/
def Held (s : State Rest Status) (e : ClusterSync) (cluster : InHand Cluster) : Prop :=
  distributeControllerFinalizer ∈ cluster.value.finalizers ∧
    ((∃ f, e.update = .refused f) ∨
      (∀ cur, s.clusters.server.get? e.name = some cur → ¬ cluster.Current cur) ∨
      ((∃ f, e.update = .lost f) ∧ ¬ Finalized s.clusters e.name))

theorem held_iff {s : State Rest Status} {e : ClusterSync} (hname : cluster.value.name = e.name) :
    ((removeClusterFinalizer e.update cluster s.clusters).1 ≠ none ∧
      (Finalized s.clusters e.name →
        Finalized (removeClusterFinalizer e.update cluster s.clusters).2 e.name)) ↔
      Held s e cluster := by
  unfold removeClusterFinalizer Held
  by_cases hfinalizer : distributeControllerFinalizer ∈ cluster.value.finalizers
  · rw [if_neg (not_not.mpr hfinalizer), and_iff_right hfinalizer, Watched.send]
    generalize hx :
      cluster.modified (fun c => { c with finalizers := removeFinalizer c.finalizers }) = x
    have hkey : x.value.name = e.name := by
      rw [← hx]
      exact hname
    have hcurrent : ∀ cur, x.Current cur ↔ cluster.Current cur := by
      intro cur
      rw [← hx]
      rfl
    cases hput : s.clusters.server.put x with
    | error err =>
      have hstale : ∀ cur, s.clusters.server.get? e.name = some cur → ¬ cluster.Current cur := by
        intro cur hcur hversion
        obtain ⟨r, hr⟩ := Store.put_of_current (hkey ▸ hcur) ((hcurrent cur).mpr hversion)
        cases hput.symm.trans hr
      refine iff_of_true ⟨?_, fun h => ?_⟩ (Or.inr (Or.inl hstale))
      · cases e.update <;> exact nofun
      · exact (congrArg (Store.Has _ · e.name) (e.update.to_error_snd err _)).mpr h
    | ok r =>
      obtain ⟨-, hupdate, cur, hcur, hversion⟩ := Store.put_eq_ok hput
      have hfresh : ¬ ∀ cur, s.clusters.server.get? e.name = some cur → ¬ cluster.Current cur :=
        fun h => h cur (hkey ▸ hcur) ((hcurrent cur).mp hversion)
      have hgone : ¬ r.2.Has (fun c => distributeControllerFinalizer ∈ c.finalizers) e.name := by
        rw [Store.has_update hupdate]
        rintro (⟨-, hmem⟩ | ⟨hne, -⟩)
        · rw [← hx] at hmem
          simp [InHand.modified, removeFinalizer] at hmem
        · exact hne hkey.symm
      cases hupd : e.update with
      | done =>
        refine iff_of_false (fun h => h.1 rfl) ?_
        rintro (⟨f, hf⟩ | h | ⟨⟨f, hf⟩, -⟩)
        · cases hf
        · exact hfresh h
        · cases hf
      | refused f => exact iff_of_true ⟨nofun, id⟩ (Or.inl ⟨f, rfl⟩)
      | lost f =>
        constructor
        · intro h
          exact Or.inr (Or.inr ⟨⟨f, rfl⟩, fun hfin => hgone (h.2 hfin)⟩)
        · rintro (⟨f', hf⟩ | h | ⟨-, hnot⟩)
          · cases hf
          · exact absurd h hfresh
          · exact ⟨nofun, fun hfin => absurd hfin hnot⟩
  · rw [if_pos hfinalizer]
    exact iff_of_false (fun h => h.1 rfl) fun h => hfinalizer h.1

theorem releaseCluster_of_terminates {s : State Rest Status} {e : ClusterSync}
    (h : Terminates s e cluster) (managers : List String) :
    (releaseCluster e cluster none { s with managers := managers }).1.deletions
        = (listed s e.name).map (fun ds => (ds.key, deletionErr e (s.members e.name) ds.key)) ∧
      (Released e.name (releaseCluster e cluster none { s with managers := managers }).1 s
          (releaseCluster e cluster none { s with managers := managers }).2 ↔
        ¬ Held s e cluster) := by
  have hnd : ((listed s e.name).map DaemonSet.key).Nodup :=
    (s.dsListers e.name).nodup.sublist (List.filter_sublist.map _)
  obtain ⟨hreturned, hsent⟩ := deleteListed_sent e (listed s e.name) (s.members e.name) hnd
  unfold releaseCluster
  simp only [h.name, h.listed]
  rw [listed] at hreturned hsent
  simp only [hreturned, hsent, State.setMember]
  rw [← held_iff h.name]
  cases hremove : (removeClusterFinalizer e.update cluster s.clusters).1 with
  | some err =>
    refine ⟨rfl, ?_⟩
    simp [Released]
  | none =>
    refine ⟨rfl, ?_⟩
    simp [Released]

theorem Terminates.eq {s : State Rest Status} {e : ClusterSync} {cluster' : InHand Cluster}
    (h : Terminates s e cluster') (hfound : s.clusters.lister.get? e.name = some cluster) :
    cluster' = cluster :=
  Option.some.inj (h.found.symm.trans hfound)

theorem syncManaged_cases {s : State Rest Status} {e : ClusterSync} (hgot : e.getErr = none)
    (hfound : s.clusters.lister.get? e.name = some cluster)
    (hmanaged : cluster.value.name ∈ s.managers ∨ e.connection = .ok) (managers : List String) :
    (∃ cluster' managers', Terminates s e cluster' ∧
      syncManaged e cluster none { s with managers := managers }
        = releaseCluster e cluster' none { s with managers := managers' }) ∨
    ((∀ cluster', ¬ Terminates s e cluster') ∧
      ¬ Released e.name (syncManaged e cluster none { s with managers := managers }).1 s
        (syncManaged e cluster none { s with managers := managers }).2) := by
  unfold syncManaged
  split
  next hdeleting =>
    cases hlist : e.listErr with
    | none =>
      exact Or.inl ⟨cluster, managers, ⟨hgot, hfound, hmanaged, hdeleting, hlist⟩, rfl⟩
    | some err =>
      refine Or.inr ⟨fun cluster' h => ?_, by simp [releaseCluster, hlist, Released]⟩
      rw [h.listed] at hlist
      cases hlist
  next hdeleting =>
    refine Or.inr ⟨fun cluster' h => hdeleting (h.eq hfound ▸ h.deleting), ?_⟩
    simp only [Released, Bool.false_eq_true, false_or, not_and, not_not]
    exact ensureClusterFinalizer_finalized

theorem syncCluster_cases (e : ClusterSync) : (∃ cluster managers, Terminates s e cluster ∧
      syncCluster e s = releaseCluster e cluster none { s with managers := managers }) ∨
    ((∀ cluster, ¬ Terminates s e cluster) ∧
      ¬ Released e.name (syncCluster e s).1 s (syncCluster e s).2) := by
  unfold syncCluster
  split
  next msg hget =>
    refine Or.inr ⟨fun cluster hterm => ?_, by simp [Released]⟩
    rw [hterm.got] at hget
    cases hget
  next hget hfound =>
    refine Or.inr ⟨fun cluster hterm => ?_, by simp [Released]⟩
    rw [hterm.found] at hfound
    cases hfound
  next cluster hget hfound =>
    have hclosed : cluster.value.name ∉ s.managers → e.connection ≠ .ok →
        ∀ cluster', ¬ Terminates s e cluster' := by
      intro hnot hconn cluster' hterm
      have hmanaged := hterm.managed
      rw [hterm.eq hfound] at hmanaged
      exact hmanaged.elim hnot hconn
    split
    next hmem => exact syncManaged_cases hget hfound (Or.inl hmem) s.managers
    next hmem =>
      cases hconn : e.connection with
      | ok => exact syncManaged_cases hget hfound (Or.inr hconn) _
      | badConfig msg =>
        exact Or.inr ⟨hclosed hmem (by rw [hconn]; simp), by simp [Released]⟩
      | badClient =>
        exact Or.inr ⟨hclosed hmem (by rw [hconn]; simp), by simp [Released, State.crashed]⟩

section Releases

variable [DecidableEq Rest] [DecidableEq Status] [Inhabited Status]

/-- A cluster is released only if the deletion of every listed DaemonSet was settled. -/
def ReleasesAfterDeletions (m : Move (State Rest Status) (Event Rest Status) Result) : Prop :=
  ∀ e, m.event = .cluster e → Released e.name m.result m.before m.after →
    ∀ ds ∈ listed m.before e.name, ∃ err, (ds.key, err) ∈ m.result.deletions ∧ Settled err

/-- The deletions are settled, or the finalizer holds the cluster. -/
def HoldsBack (m : Move (State Rest Status) (Event Rest Status) Result) : Prop :=
  ∀ e cluster, m.event = .cluster e → Terminates m.before e cluster →
    (∀ ds ∈ listed m.before e.name,
      Settled (deletionErr e (m.before.members e.name) ds.key)) ∨ Held m.before e cluster

theorem releasesAfterDeletions_iff_holdsBack
    (m : Move (State Rest Status) (Event Rest Status) Result)
    (hm : step m.before m.event = (m.result, m.after)) :
    ReleasesAfterDeletions m ↔ HoldsBack m := by
  obtain ⟨s, event, r, s'⟩ := m
  cases event with
  | shadow e => exact iff_of_true (fun _ h => by cases h) fun _ _ h => by cases h
  | others w => exact iff_of_true (fun _ h => by cases h) fun _ _ h => by cases h
  | cluster e =>
    have hsync : syncCluster e s = (r, s') := hm
    rcases syncCluster_cases s e with ⟨cluster, managers, hterm, heq⟩ | ⟨hno, hkept⟩
    · obtain ⟨hsent, hreleased⟩ := releaseCluster_of_terminates hterm managers
      rw [← heq, hsync] at hsent hreleased
      have hall : (∀ ds ∈ listed s e.name, ∃ err, (ds.key, err) ∈ r.deletions ∧ Settled err) ↔
          ∀ ds ∈ listed s e.name, Settled (deletionErr e (s.members e.name) ds.key) := by
        refine forall₂_congr fun ds hds => ⟨?_, fun h => ⟨_, ?_, h⟩⟩
        · rintro ⟨err, hmem, herr⟩
          rw [hsent, List.mem_map] at hmem
          obtain ⟨ds', -, heq'⟩ := hmem
          rw [Prod.mk.injEq] at heq'
          rw [← heq'.1, heq'.2]
          exact herr
        · rw [hsent]
          exact List.mem_map_of_mem hds
      constructor
      · intro h e' cluster' he hterm'
        cases he
        rw [hterm'.eq hterm.found, or_iff_not_imp_right]
        exact fun hheld => hall.mp (h e rfl (hreleased.mpr hheld))
      · intro h e' he hrel
        cases he
        exact hall.mpr ((h e cluster rfl hterm).resolve_right (hreleased.mp hrel))
    · rw [hsync] at hkept
      refine iff_of_true (fun e' he hrel => ?_) fun e' cluster he hterm => ?_
      · cases he
        exact absurd hrel hkept
      · cases he
        exact absurd hterm (hno cluster)

/-- Releases come after the deletions exactly if these are settled or the finalizer holds. -/
theorem released_iff (s : State Rest Status) (es : List (Event Rest Status)) :
    (∀ m ∈ (run s es).moves, ReleasesAfterDeletions m) ↔ ∀ m ∈ (run s es).moves, HoldsBack m :=
  run_forall_iff releasesAfterDeletions_iff_holdsBack s es

end Releases

def leavingCluster : Cluster where
  name := "c1"
  finalizers := [distributeControllerFinalizer]
  deleting := true

def madeDaemonSet : DaemonSet Unit Unit where
  ns := "kube-system"
  name := "agent-c1"
  labels := some (GoMap.empty.set managedLabel "")
  spec := { rest := () }
  status := ()

def singleMember (ds : DaemonSet Rest Status) : Member Rest Status :=
  ⟨[ds], List.nodup_singleton _⟩

def leavingState : State Unit Unit where
  clusters := ⟨⟨[leavingCluster], List.nodup_singleton _⟩,
    ⟨[.fresh leavingCluster], List.nodup_singleton _⟩⟩
  shadows := ⟨.empty, .empty⟩
  members := fun _ => singleMember madeDaemonSet
  dsListers := fun _ => singleMember madeDaemonSet
  managers := ["c1"]

def unanswered : ClusterSync where
  name := "c1"
  deletes := fun _ => .refused (.other "connection refused")

theorem leavingCluster_released : ∃ m ∈ (run leavingState [.cluster unanswered]).moves,
    ¬ ReleasesAfterDeletions m ∧
    m.result.deletions = [(madeDaemonSet.key, some (.other "connection refused"))] ∧
    madeDaemonSet ∈ (m.after.members "c1").objects ∧
    m.result.dropped = true ∧ m.after.managers = [] ∧
    (m.before.clusters.server.get? "c1").map Cluster.finalizers
      = some [distributeControllerFinalizer] ∧
    (m.after.clusters.server.get? "c1").map Cluster.finalizers = some [] := by
  refine ⟨_, List.mem_singleton_self _, fun h => ?_, by decide⟩
  obtain ⟨err, hmem, herr⟩ := h unanswered rfl (Or.inl rfl) madeDaemonSet (by decide)
  cases List.mem_singleton.mp hmem
  rcases herr with herr | herr <;> cases herr

/-! ## DaemonSets of others -/

/-- A DaemonSet without the label: the controller has not made it. -/
def Foreign (ds : DaemonSet Rest Status) : Prop := readMap ds.labels managedLabel = none

/-- The maps of a DaemonSet that are written to are there. -/
def Writable (sds : ShadowDaemonSet Rest Status) (ds : DaemonSet Rest Status) : Prop :=
  ds.labels ≠ none ∧ (entriesOf sds.annotations ≠ [] → ds.annotations ≠ none)

theorem writeAll_cases (m : Annotations) (entries : List (String × String)) :
    ((entries ≠ [] → m ≠ none) ∧ ∃ m', writeAll m entries = .ok m' ∧
      ∀ l, m = some l → m' = some (l.setAll entries)) ∨
    (¬ (entries ≠ [] → m ≠ none) ∧ ∃ stop, writeAll m entries = .error stop) := by
  cases entries with
  | nil => exact Or.inl ⟨fun h => absurd rfl h, m, rfl, fun l hl => hl⟩
  | cons entry entries =>
    cases m with
    | none => exact Or.inr ⟨fun h => h (List.cons_ne_nil _ _) rfl, _, rfl⟩
    | some l =>
      refine Or.inl ⟨fun _ => Option.some_ne_none l, _, rfl, fun l' hl => ?_⟩
      cases hl
      rfl

theorem updatedDaemonSet_cases (cluster : String) (sds : ShadowDaemonSet Rest Status)
    (ds : DaemonSet Rest Status) :
    (Writable sds ds ∧ ∃ new, updatedDaemonSet cluster sds ds = .ok new ∧ new.key = ds.key ∧
      ¬ Foreign new) ∨
    (¬ Writable sds ds ∧ ∃ stop, updatedDaemonSet cluster sds ds = .error stop) := by
  have hlast : entriesOf sds.labels ++ [(managedLabel, "")] ≠ [] := by simp
  rcases writeAll_cases ds.labels (entriesOf sds.labels ++ [(managedLabel, "")]) with
    ⟨hlabels, labels, heq, hset⟩ | ⟨hlabels, stop, heq⟩
  · obtain ⟨l, hl⟩ := Option.ne_none_iff_exists'.mp (hlabels hlast)
    rcases writeAll_cases ds.annotations (entriesOf sds.annotations) with
      ⟨hannos, annotations, heq', -⟩ | ⟨hannos, stop, heq'⟩
    · refine Or.inl ⟨⟨hlabels hlast, hannos⟩, ?_⟩
      simp only [updatedDaemonSet, heq, heq', ok_bind, pure_eq_ok]
      refine ⟨_, rfl, rfl, ?_⟩
      simp [Foreign, readMap, hset l hl, GoMap.setAll]
    · refine Or.inr ⟨fun h => hannos h.2, stop, ?_⟩
      simp [updatedDaemonSet, heq, heq']
  · refine Or.inr ⟨fun h => hlabels fun _ => h.1, stop, ?_⟩
    simp [updatedDaemonSet, heq]

theorem getDaemonSet_key {e : ShadowSync Rest Status} {dsLister : Member Rest Status} {key : Key}
    {ds : DaemonSet Rest Status} (h : getDaemonSet e dsLister key = .ok ds) : ds.key = key := by
  unfold getDaemonSet at h
  split at h
  next found =>
    cases h
    exact (Store.get?_eq_some.mp found).2
  · split at h
    · cases h
    · split at h
      next found =>
        cases h
        exact (Store.get?_eq_some.mp found).2
      · cases h

/-- There is nothing under the name, or a labelled DaemonSet with maps to write to. -/
def MayWrite (e : ShadowSync Rest Status) (dsLister : Member Rest Status)
    (sds : ShadowDaemonSet Rest Status) (member : Member Rest Status) : Prop :=
  ensureNameSpace e.namespaceErr = none → ∀ ds, getDaemonSet e dsLister sds.key = .ok ds →
    Writable sds ds ∧
      (e.update.takesEffect = true → member.get? sds.key = some ds → ¬ Foreign ds)

/-- No panic, and no DaemonSet of others is updated or deleted. -/
def SparesForeign (s : State Rest Status) (x : Result × State Rest Status) : Prop :=
  x.1.crash ≠ some .write ∧ ∀ c, Store.Spares Foreign (s.members c) (x.2.members c)

theorem sparesForeign_of_members {s : State Rest Status} (hcrash : x.1.crash ≠ some .write)
    (hmembers : x.2.members = s.members) : SparesForeign s x :=
  ⟨hcrash, fun c => by rw [hmembers]; exact .refl _ _⟩

theorem sparesForeign_iff_of_setMember {s : State Rest Status} {cluster : String}
    {member : Member Rest Status} (hcrash : x.1.crash = none)
    (hmembers : x.2.members = Function.update s.members cluster member) :
    SparesForeign s x ↔ Store.Spares Foreign (s.members cluster) member := by
  have hcrash' : x.1.crash ≠ some .write := by
    rw [hcrash]
    exact (Option.some_ne_none _).symm
  rw [SparesForeign, and_iff_right hcrash', hmembers]
  constructor
  · intro h
    have hc := h cluster
    rw [Function.update_self] at hc
    exact hc
  · intro h c
    by_cases hc : c = cluster
    · rw [hc, Function.update_self]
      exact h
    · rw [Function.update_of_ne hc]
      exact .refl _ _

section Spares

variable [DecidableEq Rest] [DecidableEq Status]

theorem spares_update_iff (reply : WriteReply) {ds new : DaemonSet Rest Status}
    (hkey : new.key = ds.key) (hnew : ¬ Foreign new) (member : Member Rest Status) :
    Store.Spares Foreign member (reply.to (member.put ⟨some ds, new⟩) member).2 ↔
      (reply.takesEffect = true → member.get? ds.key = some ds → ¬ Foreign ds) := by
  rw [Store.spares_put]
  constructor
  · intro h heffect hcur hforeign
    have hsame : ds = new := h heffect ds (by rw [hkey, hcur]) (Or.inr rfl) hforeign
    exact hnew (hsame ▸ hforeign)
  · intro h heffect cur hcur hcurrent hforeign
    cases hcurrent.resolve_left (Option.some_ne_none ds)
    rw [hkey] at hcur
    exact absurd hforeign (h heffect hcur)

theorem withdraw_spares_iff (sds : InHand (ShadowDaemonSet Rest Status)) (s : State Rest Status) :
    SparesForeign s (withdraw e sds s) ↔
      (e.delete.takesEffect = true →
        ∀ x, (s.members sds.value.cluster).get? sds.value.key = some x → ¬ Foreign x) := by
  rw [← Store.spares_delete]
  refine sparesForeign_iff_of_setMember ?_ ?_
  all_goals
    unfold withdraw
    dsimp only
    split <;> rfl

theorem ensureShadowDaemonSetFinalizer_ok {reply : WriteReply}
    {sds sds' : InHand (ShadowDaemonSet Rest Status)} {cached : Bool} {w : Shadows Rest Status}
    (h : (ensureShadowDaemonSetFinalizer reply sds w).1 = .ok (sds', cached)) :
    ∃ finalizers, sds'.value = { sds.value with finalizers := finalizers } := by
  unfold ensureShadowDaemonSetFinalizer at h
  split at h
  · cases h
    exact ⟨_, rfl⟩
  · simp only [Watched.send] at h
    cases hreply : (reply.to (w.server.put (sds.modified
        fun s => { s with finalizers := addFinalizer s.finalizers })) w.server).1 with
    | error err =>
      rw [hreply] at h
      cases h
    | ok x =>
      rw [hreply] at h
      cases h
      exact ⟨_, (Store.put_eq_ok (WriteReply.to_eq_ok hreply)).1⟩

theorem reportStatus_crash (sds : InHand (ShadowDaemonSet Rest Status)) (s : State Rest Status) :
    (reportStatus e sds s).1.crash = none := by
  unfold reportStatus
  split <;> rfl

theorem reportStatus_members (sds : InHand (ShadowDaemonSet Rest Status)) (s : State Rest Status) :
    (reportStatus e sds s).2.members = s.members := by
  unfold reportStatus
  split <;> rfl

variable [Inhabited Status]

theorem tryCreateOrUpdateDaemonSet_iff (dsLister : Member Rest Status)
    (sds : ShadowDaemonSet Rest Status) (member : Member Rest Status) :
    (∃ w, tryCreateOrUpdateDaemonSet e dsLister sds member = .ok w ∧
      Store.Spares Foreign member w.member) ↔ MayWrite e dsLister sds member := by
  unfold tryCreateOrUpdateDaemonSet MayWrite
  cases hns : ensureNameSpace e.namespaceErr with
  | some err => exact iff_of_true ⟨_, rfl, .refl _ _⟩ fun h => by cases h
  | none =>
    cases hget : getDaemonSet e dsLister sds.key with
    | error err =>
      refine iff_of_true ?_ fun _ ds h => by cases h
      cases err with
      | notFound => exact ⟨_, rfl, Store.spares_create _⟩
      | conflict | alreadyExists | other msg => exact ⟨_, rfl, .refl _ _⟩
    | ok ds =>
      rcases updatedDaemonSet_cases sds.cluster sds ds with
        ⟨hw, new, hnew, hnewKey, hmanaged⟩ | ⟨hw, stop, hstop⟩
      · have hspares := spares_update_iff e.update hnewKey hmanaged member
        rw [getDaemonSet_key hget] at hspares
        simp only [hnew, ok_bind, pure_eq_ok]
        constructor
        · rintro ⟨w, hok, hmember⟩ _ ds' hds'
          cases hok
          cases hds'
          exact ⟨hw, hspares.mp hmember⟩
        · exact fun h => ⟨_, rfl, hspares.mpr (h trivial ds rfl).2⟩
      · simp only [hstop, error_bind]
        refine iff_of_false ?_ fun h => hw (h trivial ds rfl).1
        rintro ⟨w, hok, -⟩
        cases hok

theorem distributeTo_spares_iff (sds : InHand (ShadowDaemonSet Rest Status)) (cached : Bool)
    (s : State Rest Status) : SparesForeign s (distributeTo e sds cached s) ↔
      MayWrite e (s.dsListers sds.value.cluster) sds.value (s.members sds.value.cluster) := by
  rw [← tryCreateOrUpdateDaemonSet_iff]
  unfold distributeTo
  dsimp only
  cases htry : tryCreateOrUpdateDaemonSet e (s.dsListers sds.value.cluster) sds.value
    (s.members sds.value.cluster) with
  | error stop =>
    refine iff_of_false (fun h => h.1 rfl) ?_
    rintro ⟨w, hok, -⟩
    cases hok
  | ok w =>
    have hmember : (∃ w', (.ok w : Outcome (Written Rest Status)) = .ok w' ∧
        Store.Spares Foreign (s.members sds.value.cluster) w'.member) ↔
        Store.Spares Foreign (s.members sds.value.cluster) w.member := by
      constructor
      · rintro ⟨w', hok, h⟩
        cases hok
        exact h
      · exact fun h => ⟨w, rfl, h⟩
    have hmark : ∀ s' : State Rest Status,
        (if cached ∧ w.marked then s'.markShadow sds else s').members = s'.members := by
      intro s'
      split <;> rfl
    rw [hmember]
    dsimp only
    cases w.err with
    | some err => exact sparesForeign_iff_of_setMember rfl (hmark _)
    | none =>
      exact sparesForeign_iff_of_setMember (reportStatus_crash e sds _)
        ((reportStatus_members e sds _).trans (hmark _))

/-- A sync of a shadow comes to the DaemonSet. -/
structure Reaches (s : State Rest Status) (e : ShadowSync Rest Status)
    (sds : InHand (ShadowDaemonSet Rest Status)) (cluster : InHand Cluster) : Prop where
  got : e.sdsErr = none
  found : s.shadows.lister.get? e.key = some sds
  clusterGot : e.clusterErr = none
  clusterFound : s.clusters.lister.get? sds.value.cluster = some cluster
  stays : cluster.value.deleting = false
  managed : sds.value.cluster ∈ s.managers

/-- No DaemonSet of others is in the way, and one that is found has its maps. -/
def Apt (s : State Rest Status) (e : ShadowSync Rest Status)
    (sds : InHand (ShadowDaemonSet Rest Status)) : Prop :=
  (sds.value.deleting = true → e.delete.takesEffect = true →
    ∀ x, (s.members sds.value.cluster).get? sds.value.key = some x → ¬ Foreign x) ∧
  (sds.value.deleting = false →
    (∃ r, (ensureShadowDaemonSetFinalizer e.finalizer sds s.shadows).1 = .ok r) →
    MayWrite e (s.dsListers sds.value.cluster) sds.value (s.members sds.value.cluster))

theorem syncReached_spares_iff (sds : InHand (ShadowDaemonSet Rest Status))
    (s : State Rest Status) : SparesForeign s (syncReached e sds s) ↔ Apt s e sds := by
  unfold syncReached Apt
  cases hdeleting : sds.value.deleting with
  | true =>
    rw [if_pos rfl, withdraw_spares_iff]
    exact ⟨fun h => ⟨fun _ => h, fun h' => by cases h'⟩, fun h => h.1 rfl⟩
  | false =>
    rw [if_neg Bool.false_ne_true, and_iff_right fun h => absurd h Bool.false_ne_true]
    dsimp only
    cases hensure : (ensureShadowDaemonSetFinalizer e.finalizer sds s.shadows).1 with
    | error err =>
      refine iff_of_true (sparesForeign_of_members (by simp) rfl) ?_
      rintro - ⟨r, hr⟩
      cases hr
    | ok x =>
      obtain ⟨sds', cached⟩ := x
      obtain ⟨finalizers, hsds'⟩ := ensureShadowDaemonSetFinalizer_ok hensure
      have hto := distributeTo_spares_iff e sds' cached
        { s with shadows := (ensureShadowDaemonSetFinalizer e.finalizer sds s.shadows).2 }
      rw [hsds'] at hto
      exact Iff.trans hto ⟨fun h _ _ => h, fun h => h rfl ⟨_, rfl⟩⟩

theorem syncShadowDaemonSet_cases :
    (∃ sds cluster, Reaches s e sds cluster ∧ syncShadowDaemonSet e s = syncReached e sds s) ∨
    ((∀ sds cluster, ¬ Reaches s e sds cluster) ∧
      SparesForeign s (syncShadowDaemonSet e s)) := by
  unfold syncShadowDaemonSet
  split
  next msg hgot =>
    refine Or.inr ⟨fun sds cluster h => ?_, sparesForeign_of_members (by simp) rfl⟩
    rw [h.got] at hgot
    cases hgot
  next hgot hfound =>
    refine Or.inr ⟨fun sds cluster h => ?_, sparesForeign_of_members (by simp) rfl⟩
    rw [h.found] at hfound
    cases hfound
  next sds hgot hfound =>
    have hsds : ∀ {sds' cluster}, Reaches s e sds' cluster → sds' = sds := fun h =>
      Option.some.inj (h.found.symm.trans hfound)
    split
    next msg hclusterGot =>
      refine Or.inr ⟨fun sds' cluster h => ?_, sparesForeign_of_members (by simp) rfl⟩
      rw [h.clusterGot] at hclusterGot
      cases hclusterGot
    next hclusterGot hcluster =>
      refine Or.inr ⟨fun sds' cluster h => ?_, sparesForeign_of_members (by simp) rfl⟩
      have hfound' := h.clusterFound
      rw [hsds h, hcluster] at hfound'
      cases hfound'
    next cluster hclusterGot hcluster =>
      split
      next hdeleting =>
        refine Or.inr ⟨fun sds' cluster' h => ?_, sparesForeign_of_members (by simp) rfl⟩
        have hfound' := h.clusterFound
        rw [hsds h, hcluster, Option.some.injEq] at hfound'
        have hstays := h.stays
        rw [← hfound', hdeleting] at hstays
        cases hstays
      next hdeleting =>
        split
        next hmanaged =>
          refine Or.inr ⟨fun sds' cluster' h => hmanaged ?_,
            sparesForeign_of_members (by simp) rfl⟩
          rw [← hsds h]
          exact h.managed
        next hmanaged =>
          exact Or.inl ⟨sds, cluster, ⟨hgot, hfound, hclusterGot, hcluster,
            Bool.eq_false_iff.mpr hdeleting, not_not.mp hmanaged⟩, rfl⟩

/-- `syncShadowDaemonSet` spares the DaemonSets of others. -/
def Spared (m : Move (State Rest Status) (Event Rest Status) Result) : Prop :=
  ∀ e, m.event = .shadow e → SparesForeign m.before (m.result, m.after)

/-- Every sync that comes to a DaemonSet may write there. -/
def NamesFree (m : Move (State Rest Status) (Event Rest Status) Result) : Prop :=
  ∀ e sds cluster, m.event = .shadow e → Reaches m.before e sds cluster → Apt m.before e sds

theorem spared_iff_namesFree (m : Move (State Rest Status) (Event Rest Status) Result)
    (hm : step m.before m.event = (m.result, m.after)) : Spared m ↔ NamesFree m := by
  obtain ⟨s, event, r, s'⟩ := m
  cases event with
  | cluster e => exact iff_of_true (fun _ h => by cases h) fun _ _ _ h => by cases h
  | others w => exact iff_of_true (fun _ h => by cases h) fun _ _ _ h => by cases h
  | shadow e =>
    have hsync : syncShadowDaemonSet e s = (r, s') := hm
    rcases syncShadowDaemonSet_cases s e with ⟨sds, cluster, hreach, heq⟩ | ⟨hno, hspares⟩
    · have hspares := syncReached_spares_iff e sds s
      rw [← heq, hsync] at hspares
      constructor
      · intro h e' sds' cluster' he hreach'
        cases he
        rw [Option.some.inj (hreach'.found.symm.trans hreach.found)]
        exact hspares.mp (h e rfl)
      · intro h e' he
        cases he
        exact hspares.mpr (h e sds cluster rfl hreach)
    · rw [hsync] at hspares
      refine iff_of_true (fun e' he => ?_) fun e' sds cluster he hreach => ?_
      · exact hspares
      · cases he
        exact absurd hreach (hno sds cluster)

/-- DaemonSets of others are spared exactly if no name of a shadow is taken. -/
theorem spared_iff (s : State Rest Status) (es : List (Event Rest Status)) :
    (∀ m ∈ (run s es).moves, Spared m) ↔ ∀ m ∈ (run s es).moves, NamesFree m :=
  run_forall_iff spared_iff_namesFree s es

end Spares

def theirDaemonSet : DaemonSet Nat Unit where
  ns := "kube-system"
  name := "agent-c1"
  labels := some (GoMap.empty.set "app" "agent")
  spec := { rest := 0 }
  status := ()

def agentShadow : ShadowDaemonSet Nat Unit where
  ns := "kube-system"
  name := "agent-c1"
  annotations := some (GoMap.empty.set "team" "edge")
  finalizers := [distributeControllerFinalizer]
  cluster := "c1"
  spec := { rest := 1 }
  status := ()

def agentState (sds : ShadowDaemonSet Nat Unit) (ds : DaemonSet Nat Unit) : State Nat Unit where
  clusters := ⟨.empty, ⟨[.fresh { name := "c1" }], List.nodup_singleton _⟩⟩
  shadows := ⟨⟨[sds], List.nodup_singleton _⟩, ⟨[.fresh sds], List.nodup_singleton _⟩⟩
  members := fun _ => singleMember ds
  dsListers := fun _ => singleMember ds
  managers := ["c1"]

def agentSync : ShadowSync Nat Unit where
  key := ("kube-system", "agent-c1")
  readAt := .empty

def bareDaemonSet : DaemonSet Nat Unit :=
  newDaemonSet "c1" { agentShadow with annotations := none } ()

def agentRun (sds : ShadowDaemonSet Nat Unit) (ds : DaemonSet Nat Unit) :
    Run (State Nat Unit) (Event Nat Unit) Result :=
  run (agentState sds ds) [.shadow agentSync]

theorem theirDaemonSet_taken :
    (∃ m ∈ (agentRun { agentShadow with annotations := none } theirDaemonSet).moves, ¬ Spared m ∧
      (m.after.members "c1").objects.map (fun ds => (ds.key, ds.spec.rest))
        = [(theirDaemonSet.key, 1)]) ∧
    (∃ m ∈ (agentRun { agentShadow with deleting := true } theirDaemonSet).moves, ¬ Spared m ∧
      (m.after.members "c1").objects = []) ∧
    (∃ m ∈ (agentRun agentShadow { theirDaemonSet with labels := none }).moves,
      ¬ Spared m ∧ m.result.crash = some .write) ∧
    ∃ m ∈ (agentRun agentShadow bareDaemonSet).moves,
      ¬ Spared m ∧ m.result.crash = some .write := by
  refine ⟨⟨_, List.mem_singleton_self _, fun h => ?_, by decide⟩,
    ⟨_, List.mem_singleton_self _, fun h => ?_, by decide⟩,
    ⟨_, List.mem_singleton_self _, fun h => (h agentSync rfl).1 rfl, rfl⟩,
    ⟨_, List.mem_singleton_self _, fun h => (h agentSync rfl).1 rfl, rfl⟩⟩
  · have hstill := (h agentSync rfl).2 "c1" theirDaemonSet (List.mem_singleton_self _) rfl
    exact absurd hstill (by decide)
  · have hstill := (h agentSync rfl).2 "c1" theirDaemonSet (List.mem_singleton_self _) rfl
    exact absurd hstill (by decide)

end Kosmos.Distribute
