import Kosmos.Tree.DaemonSet
import Kosmos.Tree.Distribute

/-!
# Pods of the members in the host cluster

`pod_reflect_controller.go`: `syncPod` and the translation of owners. `newDaemonSet_leads_back` has
the name of what is distributed.

Listers may show anything, and a conflict is an answer like any other. A deletion takes a pod away,
or marks it (`Answers.graceful`). The server keeps status and mark of a pod that is updated.
-/

namespace Kosmos.PodReflect

open Go Resources
open Distribute (DaemonSetSpec ShadowDaemonSet clusterAnnotationKey markTemplate newDaemonSet)

def mirrorAnnotation : String := "kosmos.io/daemonset-mirror"

structure OwnerReference where
  apiVersion : String
  kind : String
  name : String
  uid : String
  deriving DecidableEq

structure Pod (Spec Status : Type) where
  ns : String
  name : String
  annotations : Annotations := none
  labels : Annotations := none
  ownerReferences : List OwnerReference := []
  deleting : Bool := false
  nodeName : String := ""
  spec : Spec
  status : Status

structure DaemonSet where
  ns : String
  name : String
  uid : String
  annotations : Annotations

variable {Spec Status Template : Type}

def Pod.key (p : Pod Spec Status) : String × String := (p.ns, p.name)

def DaemonSet.key (d : DaemonSet) : String × String := (d.ns, d.name)

abbrev Pods (Spec Status : Type) := Store (@Pod.key Spec Status)

structure Listers (Template : Type) where
  ds : Store DaemonSet.key
  kds : Store (@DaemonSets.DaemonSet.key Template)

def kosmosRef (d : DaemonSets.DaemonSet Template) : OwnerReference :=
  ⟨"v1alpha1", "DaemonSet", d.name, d.uid⟩

def appsRef (d : DaemonSet) : OwnerReference := ⟨"v1", "DaemonSet", d.name, d.uid⟩

def ownersNamed (ls : Listers Template) (ns ownerName : String) :
    Except ApiError (List OwnerReference) :=
  match ls.ds.get? (ns, ownerName) with
  | none => .error .notFound
  | some daemonset =>
    match ls.kds.get? (ns, ownerName) with
    | none => .error .notFound
    | some kdaemonset =>
      .ok (kosmosRef kdaemonset ::
        if (readMap daemonset.annotations mirrorAnnotation).isSome then [appsRef daemonset] else [])

def newOwnerReference (ls : Listers Template) (pod : Pod Spec Status) :
    List OwnerReference → Except ApiError (List OwnerReference)
  | [] => .ok []
  | ownRef :: refs =>
    if ownRef.kind = "DaemonSet" then
      match readMap pod.annotations clusterAnnotationKey with
      | none => newOwnerReference ls pod refs
      | some clusterName => ownersNamed ls pod.ns (trimSuffix ownRef.name ("-" ++ clusterName))
    else newOwnerReference ls pod refs

def changeOwnerRef (ls : Listers Template) (pod : Pod Spec Status) :
    Except ApiError (Pod Spec Status) :=
  (newOwnerReference ls pod pod.ownerReferences).map fun refs =>
    { pod with ownerReferences := refs }

structure MemberPod (Spec Status : Type) (ls : Listers Template) where
  d : DaemonSets.DaemonSet Template
  c : String
  pod : Pod Spec Status
  exist : ls.kds.get? d.key = some d
  ns : pod.ns = d.ns
  annotated : readMap pod.annotations clusterAnnotationKey = some c
  owned : ∃ ref ∈ pod.ownerReferences, ref.kind = "DaemonSet" ∧
    ref.name = (DaemonSets.createShadowDaemonSet d .member c).name

def mirrored (ls : Listers Template) (k : String × String) : List DaemonSet :=
  (ls.ds.get? k).toList.filter fun d => (readMap d.annotations mirrorAnnotation).isSome

/-- The owners are the Kosmos DaemonSet, and the mirrored one. -/
def Translated {ls : Listers Template} (i : MemberPod Spec Status ls) : Prop :=
  changeOwnerRef ls i.pod = .ok { i.pod with
    ownerReferences := kosmosRef i.d :: (mirrored ls i.d.key).map appsRef }

theorem newOwnerReference_eq (ls : Listers Template) {pod : Pod Spec Status} {c : String}
    (hc : readMap pod.annotations clusterAnnotationKey = some c) {refs : List OwnerReference}
    {ref : OwnerReference} (hfind : refs.find? (·.kind = "DaemonSet") = some ref) :
    newOwnerReference ls pod refs = ownersNamed ls pod.ns (trimSuffix ref.name ("-" ++ c)) := by
  induction refs with
  | nil => cases hfind
  | cons r refs ih =>
    unfold newOwnerReference
    by_cases hkind : r.kind = "DaemonSet"
    · rw [List.find?_cons_of_pos (by simpa using hkind)] at hfind
      cases hfind
      simp [hkind, hc]
    · rw [List.find?_cons_of_neg (by simpa using hkind)] at hfind
      simp [hkind, ih hfind]

theorem ownersNamed_eq_ok {ls : Listers Template} {ns n : String} {refs : List OwnerReference} :
    ownersNamed ls ns n = .ok refs ↔ (ls.ds.get? (ns, n)).isSome ∧
      ∃ k, ls.kds.get? (ns, n) = some k ∧
        refs = kosmosRef k :: (mirrored ls (ns, n)).map appsRef := by
  unfold ownersNamed mirrored
  cases ls.ds.get? (ns, n) with
  | none => simp
  | some ds =>
    cases ls.kds.get? (ns, n) with
    | none => simp
    | some k =>
      cases hm : (readMap ds.annotations mirrorAnnotation).isSome <;>
        simp [hm, eq_comm]

def asDistributed {Rest State : Type} (sds : DaemonSets.ShadowDaemonSet (DaemonSetSpec Rest))
    (status : State) : ShadowDaemonSet Rest State where
  ns := sds.ns
  name := sds.name
  labels := some sds.labels
  annotations := some sds.annotations
  cluster := sds.cluster
  spec := sds.spec
  status := status

theorem newDaemonSet_leads_back {Rest State : Type}
    (d : DaemonSets.DaemonSet (DaemonSetSpec Rest)) (c : String) (status status' : State) :
    let ds := newDaemonSet c
      (asDistributed (DaemonSets.createShadowDaemonSet d .member c) status) status'
    trimSuffix ds.name ("-" ++ c) = d.name ∧
      readMap ds.spec.templateAnnotations clusterAnnotationKey = some c := by
  refine ⟨trimSuffix_append d.name ("-" ++ c), ?_⟩
  simp only [newDaemonSet, DaemonSetSpec.marked, markTemplate, readMap, Option.bind_some,
    GoMap.get?_set_self]

/-- The translation is right where the first DaemonSet leads to the name, and there is an apps one
of it. -/
theorem translated_iff {ls : Listers Template} (i : MemberPod Spec Status ls) :
    Translated i ↔ (ls.ds.get? i.d.key).isSome ∧
      ∀ ref, i.pod.ownerReferences.find? (·.kind = "DaemonSet") = some ref →
        trimSuffix ref.name ("-" ++ i.c) = i.d.name := by
  obtain ⟨ref, hfind⟩ : ∃ ref, i.pod.ownerReferences.find? (·.kind = "DaemonSet") = some ref := by
    obtain ⟨ref, hmem, hkind, -⟩ := i.owned
    exact Option.isSome_iff_exists.mp (List.find?_isSome.mpr ⟨ref, hmem, by simpa using hkind⟩)
  have hchange : Translated i ↔
      ownersNamed ls i.d.ns (trimSuffix ref.name ("-" ++ i.c)) =
        .ok (kosmosRef i.d :: (mirrored ls i.d.key).map appsRef) := by
    have hrefs := newOwnerReference_eq ls i.annotated hfind
    rw [i.ns] at hrefs
    unfold Translated changeOwnerRef
    rw [hrefs]
    cases ownersNamed ls i.d.ns (trimSuffix ref.name ("-" ++ i.c)) with
    | error e => simp [Except.map]
    | ok refs => simp [Except.map]
  rw [hchange, ownersNamed_eq_ok]
  simp only [hfind, Option.some.injEq, forall_eq']
  constructor
  · rintro ⟨hds, k, hk, hrefs⟩
    have hname : i.d.name = k.name := congrArg OwnerReference.name (List.cons.inj hrefs).1
    have hkey : k.key = (i.d.ns, trimSuffix ref.name ("-" ++ i.c)) :=
      (Store.get?_eq_some.mp hk).2
    have htrim : trimSuffix ref.name ("-" ++ i.c) = i.d.name :=
      (congrArg Prod.snd hkey).symm.trans hname.symm
    rw [htrim] at hds
    exact ⟨hds, htrim⟩
  · rintro ⟨hds, htrim⟩
    rw [htrim]
    exact ⟨hds, i.d, i.exist, rfl⟩

def web : DaemonSets.DaemonSet Unit := ⟨"default", "web", "1", .empty, .empty, ()⟩

def webListers : Listers Unit := ⟨.empty, ⟨[web], List.nodup_singleton _⟩⟩

def webPod : MemberPod Unit Unit webListers where
  d := web
  c := "c1"
  pod := { ns := "default", name := "web-x", spec := (), status := ()
           annotations := some (GoMap.empty.set clusterAnnotationKey "c1")
           ownerReferences := [⟨"apps/v1", "DaemonSet", "web-c1", "2"⟩] }
  exist := rfl
  ns := rfl
  annotated := rfl
  owned := ⟨_, List.mem_singleton.mpr rfl, rfl, rfl⟩

theorem webPod_untranslated : ¬ Translated webPod := by
  intro h
  have hfails : changeOwnerRef webListers webPod.pod = .error .notFound := rfl
  rw [Translated, hfails] at h
  cases h

structure ClusterPodManager (Spec Status : Type) where
  lister : Pods Spec Status
  server : Pods Spec Status

structure Controller (Spec Status Template : Type) extends Listers Template where
  podManagerMap : String → Option (ClusterPodManager Spec Status)
  podLister : Pods Spec Status

structure Answers where
  memberGet : Option String := none
  delete : WriteAnswer := .done
  graceful : Bool := false
  get : Option String := none
  create : WriteAnswer := .done
  update : WriteAnswer := .done
  updateStatus : WriteAnswer := .done

structure Host (Spec Status : Type) where
  pods : Pods Spec Status
  written : List (Pod Spec Status) := []

namespace Host

def write (h : Host Spec Status) (pod : Pod Spec Status)
    (result : Except ApiError (Pods Spec Status)) : Except ApiError (Host Spec Status) :=
  result.map fun pods => ⟨pods, h.written ++ [pod]⟩

def create (answer : WriteAnswer) (pod : Pod Spec Status) (h : Host Spec Status) :
    Option CallError × Host Spec Status :=
  answered answer (h.write pod (h.pods.create { pod with deleting := false })) h

def change (f : Pod Spec Status → Pod Spec Status) (k : String × String)
    (pods : Pods Spec Status) : Except ApiError (Pods Spec Status) :=
  match pods.get? k with
  | none => .error .notFound
  | some cur => pods.update (f cur)

def update (answer : WriteAnswer) (pod : Pod Spec Status) (h : Host Spec Status) :
    Option CallError × Host Spec Status :=
  answered answer (h.write pod (change (fun cur =>
    { pod with status := cur.status, deleting := cur.deleting }) pod.key h.pods)) h

def updateStatus (answer : WriteAnswer) (pod : Pod Spec Status) (h : Host Spec Status) :
    Option CallError × Host Spec Status :=
  answered answer (h.write pod (change (fun cur => { cur with status := pod.status })
    pod.key h.pods)) h

def delete (a : Answers) (k : String × String) (h : Host Spec Status) :
    Option CallError × Host Spec Status :=
  answered a.delete ((if a.graceful then change (fun cur => { cur with deleting := true }) k h.pods
    else h.pods.delete k).map fun pods => { h with pods := pods }) h

end Host

def ClusterPodManager.getPod (k : ClusterPodManager Spec Status) (answer : Option String)
    (key : String × String) : Except CallError (Pod Spec Status) :=
  match k.lister.get? key with
  | some pod => .ok pod
  | none =>
    match answer with
    | some msg => .error (.other msg)
    | none =>
      match k.server.get? key with
      | none => .error .notFound
      | some pod => .ok pod

def clusterName (pod : Pod Spec Status) : String :=
  (readMap pod.annotations clusterAnnotationKey).getD ""

def deepCopy (pod shadowPod : Pod Spec Status) : Pod Spec Status :=
  { shadowPod with
    annotations := pod.annotations
    labels := pod.labels
    spec := pod.spec
    nodeName := clusterName pod
    status := pod.status }

def tryUpdate (a : Answers) (pod shadowPod : Pod Spec Status) (h : Host Spec Status) :
    Option CallError × Host Spec Status :=
  match h.update a.update (deepCopy pod shadowPod) with
  | (some e, h) => (some e, h)
  | (none, h) => h.updateStatus a.updateStatus (deepCopy pod shadowPod)

def tryUpdateOrCreate (pc : Controller Spec Status Template) (a : Answers)
    (pod : Pod Spec Status) (h : Host Spec Status) : Option CallError × Host Spec Status :=
  match pc.podLister.get? pod.key with
  | some shadowPod => tryUpdate a pod shadowPod h
  | none =>
    match a.get with
    | some msg => (some (.other msg), h)
    | none =>
      match h.pods.get? pod.key with
      | some shadowPod => tryUpdate a pod shadowPod h
      | none =>
        match changeOwnerRef pc.toListers pod with
        | .error e => (some (callError e), h)
        | .ok newPod => h.create a.create { newPod with nodeName := clusterName pod }

inductive QueueKey where
  | federated (cluster ns name : String)
  | other

def syncFrom (pc : Controller Spec Status Template) (a : Answers)
    (manager : ClusterPodManager Spec Status) (k : String × String) (h : Host Spec Status) :
    Option CallError × Host Spec Status :=
  match manager.getPod a.memberGet k with
  | .error .notFound =>
    h.delete a k
  | .error e => (some e, h)
  | .ok memberClusterPod =>
    if memberClusterPod.deleting then
      match h.delete a memberClusterPod.key with
      | (some .notFound, h) => (none, h)
      | (some e, h) => (some e, h)
      | (none, h) => tryUpdateOrCreate pc a memberClusterPod h
    else tryUpdateOrCreate pc a memberClusterPod h

def syncPod (pc : Controller Spec Status Template) (a : Answers) (key : QueueKey)
    (h : Host Spec Status) : Option CallError × Host Spec Status :=
  match key with
  | .other => (some (.other "invalid key"), h)
  | .federated cluster ns name =>
    match pc.podManagerMap cluster with
    | none => (some (.other ("cluster " ++ cluster ++ " not found")), h)
    | some manager => syncFrom pc a manager (ns, name) h

/-- Nothing is written for a pod that terminates, nor left to do for one that is gone. -/
def Right (pc : Controller Spec Status Template) (pods : Pods Spec Status)
    (cluster ns name : String) : Prop :=
  ∀ m, pc.podManagerMap cluster = some m → ∀ a : Answers,
    ((∀ p, m.server.get? (ns, name) = some p → p.deleting = true) →
      (syncPod pc a (.federated cluster ns name) ⟨pods, []⟩).2.written = []) ∧
    (m.server.get? (ns, name) = none → pods.get? (ns, name) = none →
      (syncPod pc a (.federated cluster ns name) ⟨pods, []⟩).1 = none)

/-- The states in which the sync does no harm. -/
def Harmless (pc : Controller Spec Status Template) (pods : Pods Spec Status)
    (m : ClusterPodManager Spec Status) (k : String × String) : Prop :=
  match m.server.get? k with
  | none => m.lister.get? k = none ∧ (pods.get? k).isSome
  | some p => p.deleting = true → pods.get? k = none ∧
    (((m.lister.get? k).getD p).deleting = true ∨ (pc.podLister.get? k).isSome ∨
      ∃ e, changeOwnerRef pc.toListers ((m.lister.get? k).getD p) = .error e)

section Change

variable {f : Pod Spec Status → Pod Spec Status} {k : String × String} {pods : Pods Spec Status}

theorem change_none (hnone : pods.get? k = none) : Host.change f k pods = .error .notFound := by
  simp [Host.change, hnone]

theorem change_some (hf : ∀ p, p.key = k → (f p).key = k) (hsome : (pods.get? k).isSome) :
    ∃ pods', Host.change f k pods = .ok pods' ∧ (pods'.get? k).isSome := by
  obtain ⟨cur, hcur⟩ := Option.isSome_iff_exists.mp hsome
  have hkey : (f cur).key = k := hf cur (Store.get?_eq_some.mp hcur).2
  have hupdate := Store.overwrite_eq (s := pods) (a := f cur) (by rw [hkey]; exact hsome)
  refine ⟨_, by simpa [Host.change, hcur] using hupdate, ?_⟩
  rw [Store.get?_update hupdate, if_pos hkey.symm]
  rfl

end Change

section Writes

variable {pc : Controller Spec Status Template} {a : Answers} {pod shadowPod : Pod Spec Status}
  {h : Host Spec Status}

theorem tryUpdate_none (hkey : shadowPod.key = pod.key) (hnone : h.pods.get? pod.key = none) :
    ∃ e, tryUpdate a pod shadowPod h = (some e, h) := by
  have hcopy : h.pods.get? (deepCopy pod shadowPod).key = none := hkey ▸ hnone
  unfold tryUpdate Host.update Host.write
  rw [change_none hcopy]
  cases a.update <;> exact ⟨_, rfl⟩

theorem written_ne_nil (answer : WriteAnswer) (result : Except ApiError (Pods Spec Status))
    (hne : h.written ≠ []) : (answered answer (h.write pod result) h).2.written ≠ [] := by
  cases answer <;> cases result <;> simp [answered, Host.write, Except.map, hne]

theorem tryUpdate_some (hkey : shadowPod.key = pod.key) (hsome : (h.pods.get? pod.key).isSome)
    (ha : a.update = .done) : (tryUpdate a pod shadowPod h).2.written ≠ [] := by
  have hcopy : (h.pods.get? (deepCopy pod shadowPod).key).isSome := hkey ▸ hsome
  obtain ⟨pods', hchange, -⟩ := change_some (f := fun cur => { deepCopy pod shadowPod with
    status := cur.status, deleting := cur.deleting }) (fun _ _ => rfl) hcopy
  unfold tryUpdate Host.update
  rw [hchange, ha]
  exact written_ne_nil _ _ (List.append_ne_nil_of_right_ne_nil _ (List.cons_ne_nil _ _))

theorem tryUpdateOrCreate_some (hsome : (h.pods.get? pod.key).isSome) (hget : a.get = none)
    (ha : a.update = .done) : (tryUpdateOrCreate pc a pod h).2.written ≠ [] := by
  unfold tryUpdateOrCreate
  rw [hget]
  split
  next shadowPod hlister => exact tryUpdate_some (Store.get?_eq_some.mp hlister).2 hsome ha
  · obtain ⟨cur, hcur⟩ := Option.isSome_iff_exists.mp hsome
    rw [hcur]
    exact tryUpdate_some (Store.get?_eq_some.mp hcur).2 hsome ha

theorem tryUpdateOrCreate_none (hnone : h.pods.get? pod.key = none) :
    (∃ e, tryUpdateOrCreate pc a pod h = (some e, h)) ∨
      pc.podLister.get? pod.key = none ∧ ∃ newPod, changeOwnerRef pc.toListers pod = .ok newPod ∧
        tryUpdateOrCreate pc a pod h =
          h.create a.create { newPod with nodeName := clusterName pod } := by
  unfold tryUpdateOrCreate
  rw [hnone]
  split
  next shadowPod hlister =>
    exact Or.inl (tryUpdate_none (Store.get?_eq_some.mp hlister).2 hnone)
  next hlister =>
    cases a.get with
    | some msg => exact Or.inl ⟨_, rfl⟩
    | none =>
      cases changeOwnerRef pc.toListers pod with
      | error e => exact Or.inl ⟨_, rfl⟩
      | ok newPod => exact Or.inr ⟨hlister, newPod, rfl, rfl⟩

theorem changeOwnerRef_key {ls : Listers Template} {newPod : Pod Spec Status}
    (hok : changeOwnerRef ls pod = .ok newPod) : newPod.key = pod.key := by
  unfold changeOwnerRef at hok
  cases hrefs : newOwnerReference ls pod pod.ownerReferences with
  | error e =>
    rw [hrefs] at hok
    cases hok
  | ok refs =>
    rw [hrefs] at hok
    cases hok
    rfl

theorem create_written (hnone : h.pods.get? pod.key = none) :
    (h.create .done pod).2.written = h.written ++ [pod] := by
  have hcreate : h.pods.create { pod with deleting := false } = .ok _ :=
    dif_pos (Store.get?_eq_none.mp hnone)
  unfold Host.create Host.write
  rw [hcreate]
  rfl

theorem tryUpdateOrCreate_creates {newPod : Pod Spec Status} (hnone : h.pods.get? pod.key = none)
    (hlister : pc.podLister.get? pod.key = none)
    (hchange : changeOwnerRef pc.toListers pod = .ok newPod) :
    (tryUpdateOrCreate pc {} pod h).2.written ≠ [] := by
  unfold tryUpdateOrCreate
  rw [hlister, hnone, hchange]
  dsimp only
  have hfree : h.pods.get? newPod.key = none := changeOwnerRef_key hchange ▸ hnone
  have hwritten : (h.create .done { newPod with nodeName := clusterName pod }).2.written = _ :=
    create_written hfree
  rw [hwritten]
  exact List.append_ne_nil_of_right_ne_nil _ (List.cons_ne_nil _ _)

theorem delete_written (k : String × String) : (h.delete a k).2.written = h.written := by
  unfold Host.delete
  generalize (if a.graceful then _ else _ : Except ApiError (Pods Spec Status)) = result
  cases a.delete <;> cases result <;> rfl

theorem delete_none {k : String × String} (hnone : h.pods.get? k = none) :
    ∃ e, h.delete a k = (some e, h) := by
  have hdelete : h.pods.delete k = .error .notFound := if_neg (by simp [hnone])
  unfold Host.delete
  rw [change_none hnone, hdelete, ite_self]
  cases a.delete <;> exact ⟨_, rfl⟩

theorem delete_graceful {k : String × String} (hsome : (h.pods.get? k).isSome) :
    ∃ h' : Host Spec Status, h.delete { graceful := true } k = (none, h') ∧
      (h'.pods.get? k).isSome := by
  obtain ⟨pods', hchange, hsome'⟩ := change_some (f := fun cur : Pod Spec Status =>
    { cur with deleting := true }) (fun _ hp => hp) hsome
  refine ⟨⟨pods', h.written⟩, ?_, hsome'⟩
  unfold Host.delete
  rw [if_pos rfl, hchange]
  rfl

end Writes

section Sync

variable {pc : Controller Spec Status Template} {a : Answers} {m : ClusterPodManager Spec Status}
  {k : String × String} {q : Pod Spec Status} {h : Host Spec Status}

theorem getPod_ok {answer : Option String} (hq : m.getPod answer k = .ok q) :
    q.key = k ∧ some q = (m.lister.get? k).or (m.server.get? k) := by
  unfold ClusterPodManager.getPod at hq
  split at hq
  next pod hlister =>
    cases hq
    exact ⟨(Store.get?_eq_some.mp hlister).2, by rw [hlister]; rfl⟩
  next hlister =>
    cases answer with
    | some msg => cases hq
    | none =>
      cases hserver : m.server.get? k with
      | none =>
        rw [hserver] at hq
        cases hq
      | some p =>
        rw [hserver] at hq
        cases hq
        exact ⟨(Store.get?_eq_some.mp hserver).2, by rw [hlister]; rfl⟩

theorem syncFrom_writes (hq : m.getPod none k = .ok q) (hsome : (h.pods.get? k).isSome) :
    (syncFrom pc { graceful := true } m k h).2.written ≠ [] := by
  obtain ⟨rfl, -⟩ := getPod_ok hq
  unfold syncFrom
  rw [hq]
  dsimp only
  split
  · obtain ⟨h', hdelete, hsome'⟩ := delete_graceful hsome
    rw [hdelete]
    exact tryUpdateOrCreate_some hsome' rfl rfl
  · exact tryUpdateOrCreate_some hsome rfl rfl

theorem syncFrom_fails (hserver : m.server.get? k = none) (hnone : h.pods.get? k = none) :
    (syncFrom pc { delete := .refused (.other ""), create := .refused (.other "") } m k h).1 ≠
      none := by
  unfold syncFrom
  cases hq : m.getPod none k with
  | error e =>
    cases e with
    | notFound =>
      obtain ⟨e, he⟩ := delete_none hnone
      rw [he]
      exact Option.some_ne_none e
    | _ => exact Option.some_ne_none _
  | ok q =>
    obtain ⟨rfl, -⟩ := getPod_ok hq
    dsimp only
    split
    · exact Option.some_ne_none _
    · rcases tryUpdateOrCreate_none hnone with ⟨e, he⟩ | ⟨-, newPod, -, he⟩
      · rw [he]
        exact Option.some_ne_none e
      · rw [he]
        exact Option.some_ne_none _

theorem syncFrom_error {e : CallError} (hq : m.getPod a.memberGet k = .error e) :
    (syncFrom pc a m k h).2.written = h.written := by
  unfold syncFrom
  rw [hq]
  cases e with
  | notFound => exact delete_written k
  | _ => rfl

theorem syncFrom_deleting (hq : m.getPod a.memberGet k = .ok q) (hnone : h.pods.get? k = none)
    (hdel : q.deleting = true) : (syncFrom pc a m k h).2 = h := by
  obtain ⟨rfl, -⟩ := getPod_ok hq
  obtain ⟨e, he⟩ := delete_none (a := a) hnone
  unfold syncFrom
  rw [hq]
  dsimp only
  rw [if_pos hdel, he]
  cases e <;> rfl

theorem syncFrom_live (hq : m.getPod a.memberGet k = .ok q) (hdel : q.deleting = false) :
    syncFrom pc a m k h = tryUpdateOrCreate pc a q h := by
  unfold syncFrom
  rw [hq]
  dsimp only
  rw [if_neg (by rw [hdel]; exact Bool.false_ne_true)]

end Sync

/-- The sync is right in the states that are harmless, and in no other. -/
theorem syncPod_right_iff (pc : Controller Spec Status Template) (pods : Pods Spec Status)
    (cluster ns name : String) :
    Right pc pods cluster ns name ↔
      ∀ m, pc.podManagerMap cluster = some m → Harmless pc pods m (ns, name) := by
  refine forall₂_congr fun m hm => ?_
  have hsync : ∀ a, syncPod pc a (.federated cluster ns name) ⟨pods, []⟩ =
      syncFrom pc a m (ns, name) ⟨pods, []⟩ := by
    intro a
    simp only [syncPod, hm]
  simp only [hsync]
  unfold Harmless
  generalize (ns, name) = k
  cases hserver : m.server.get? k with
  | none =>
    simp only [reduceCtorEq, false_imp_iff, implies_true, true_imp_iff]
    constructor
    · intro hright
      have hsome : (pods.get? k).isSome := by
        by_contra hnone
        have hnone := Option.not_isSome_iff_eq_none.mp hnone
        exact syncFrom_fails hserver hnone ((hright _).2 hnone)
      refine ⟨?_, hsome⟩
      cases hlister : m.lister.get? k with
      | none => rfl
      | some q =>
        have hq : m.getPod none k = .ok q := by simp [ClusterPodManager.getPod, hlister]
        exact absurd (hright _).1 (syncFrom_writes hq hsome)
    · rintro ⟨hlister, hsome⟩ a
      refine ⟨?_, fun hnone => by simp [hnone] at hsome⟩
      cases hq : m.getPod a.memberGet k with
      | error e => exact syncFrom_error hq
      | ok q =>
        have hnone := (getPod_ok hq).2
        rw [hlister, hserver] at hnone
        cases hnone
  | some p =>
    simp only [Option.some.injEq, forall_eq', reduceCtorEq, false_imp_iff, and_true]
    have hq : m.getPod none k = .ok ((m.lister.get? k).getD p) := by
      cases hlister : m.lister.get? k <;> simp [ClusterPodManager.getPod, hlister, hserver]
    constructor
    · intro hright hdel
      have hnone : pods.get? k = none := by
        by_contra hsome
        exact syncFrom_writes hq (Option.isSome_iff_ne_none.mpr hsome) (hright _ hdel)
      refine ⟨hnone, ?_⟩
      by_cases hqdel : ((m.lister.get? k).getD p).deleting = true
      · exact Or.inl hqdel
      refine Or.inr ?_
      have hkey := (getPod_ok hq).1
      have hwritten := hright {} hdel
      rw [syncFrom_live hq (by simpa using hqdel)] at hwritten
      cases hlister : pc.podLister.get? k with
      | some shadowPod => exact Or.inl rfl
      | none =>
        cases hchange : changeOwnerRef pc.toListers ((m.lister.get? k).getD p) with
        | error e => exact Or.inr ⟨e, rfl⟩
        | ok newPod =>
          rw [← hkey] at hnone hlister
          exact absurd hwritten (tryUpdateOrCreate_creates hnone hlister hchange)
    · intro hharm a hdel
      obtain ⟨hnone, hcases⟩ := hharm hdel
      cases hqa : m.getPod a.memberGet k with
      | error e => exact syncFrom_error hqa
      | ok q =>
        obtain rfl : q = (m.lister.get? k).getD p := by
          have hor := (getPod_ok hqa).2
          rw [hserver] at hor
          cases hlister : m.lister.get? k <;> simp_all
        by_cases hqdel : ((m.lister.get? k).getD p).deleting = true
        · rw [syncFrom_deleting hqa hnone hqdel]
        have hkey := (getPod_ok hq).1
        rw [syncFrom_live hqa (by simpa using hqdel)]
        rw [← hkey] at hnone
        rcases tryUpdateOrCreate_none (h := ⟨pods, []⟩) hnone with
          ⟨e, he⟩ | ⟨hlister, newPod, hchange, -⟩
        · rw [he]
        · rw [hkey] at hlister
          simp [hqdel, hlister, hchange] at hcases

def oneMember (server : Pods Unit Unit) : Controller Unit Unit Unit where
  ds := .empty
  kds := .empty
  podManagerMap _ := some ⟨.empty, server⟩
  podLister := .empty

theorem gone_pod_fails :
    let pod : Pod Unit Unit := { ns := "default", name := "p", spec := (), status := () }
    let pods (deleting : Bool) : Pods Unit Unit :=
      ⟨[{ pod with deleting }], List.nodup_singleton _⟩
    ((syncPod (oneMember .empty) {} (.federated "c1" "default" "p") ⟨.empty, []⟩).1 =
        some .notFound ∧ ¬ Right (oneMember .empty) .empty "c1" "default" "p") ∧
      (syncPod (oneMember (pods true)) {} (.federated "c1" "default" "p")
        ⟨pods false, []⟩).2.written ≠ [] ∧
      ¬ Right (oneMember (pods true)) (pods false) "c1" "default" "p" := by
  refine ⟨⟨by decide, fun h => ?_⟩, by decide, fun h => ?_⟩
  · have hnil := (h _ rfl {}).2 rfl rfl
    revert hnil
    decide
  · have hnil := (h _ rfl {}).1 (by decide)
    revert hnil
    decide

end Kosmos.PodReflect
