import Kosmos.Pods.Reconcile

/-!
# Root pods and leaf pods, and the controllers that run on them

Any number of reconciles take turns call by call; requests wait, and reads may be out of date.

The registries do not change in a run. A read of a pod sees the pods as they were some steps ago,
and says how many. A delete without grace removes the pod, any other marks it.
-/

namespace Kosmos.Pods

open Kosmos.Go Kosmos.Tree

structure LeafPod where
  leaf : String
  pod : Pod

def LeafPod.key (x : LeafPod) : String × NamespacedName := (x.leaf, x.pod.key)

structure PodState where
  root : Store Pod.key := .empty
  leaf : Store LeafPod.key := .empty
  requests : List (String × NamespacedName) := []
  created : Nat → Option (String × Nat) := fun _ => none
  nextUid : Nat := 0

namespace PodState

def removeRoot (s : PodState) (nn : NamespacedName) : Except ApiError PodState := do
  let root ← s.root.delete nn
  pure { s with root }

def updateRoot (s : PodState) (nn : NamespacedName) (change : Pod → Pod) :
    Except ApiError PodState :=
  match s.root.get? nn with
  | none => .error .notFound
  | some p => do
    let root ← s.root.update (change p)
    pure { s with root }

def removeLeaf (s : PodState) (leaf : String) (nn : NamespacedName) : Except ApiError PodState :=
  match s.leaf.get? (leaf, nn) with
  | none => .error .notFound
  | some x => do
    let pods ← s.leaf.delete (leaf, nn)
    pure { s with
      leaf := pods
      requests := if isKosmosPod x.pod then s.requests ++ [(leaf, nn)] else s.requests }

def updateLeaf (s : PodState) (leaf : String) (nn : NamespacedName)
    (change : Pod → Except ApiError Pod) : Except ApiError PodState :=
  match s.leaf.get? (leaf, nn) with
  | none => .error .notFound
  | some x => do
    let pod ← change x.pod
    let pods ← s.leaf.update ⟨leaf, pod⟩
    pure { s with leaf := pods }

def createRoot (s : PodState) (pod : Pod) : Except ApiError PodState := do
  let root ← s.root.create { pod with uid := s.nextUid, deletionTimestamp := none }
  pure { s with root, nextUid := s.nextUid + 1 }

def createLeaf (s : PodState) (leaf : String) (pod : Pod) : Except ApiError PodState := do
  let pods ← s.leaf.create ⟨leaf, { pod with uid := s.nextUid }⟩
  pure { s with leaf := pods, nextUid := s.nextUid + 1 }

end PodState

def Pod.terminate (pod : Pod) (time : Nat) (grace : Option Int) : Pod :=
  if pod.deletionTimestamp.isSome then pod
  else { pod with deletionTimestamp := some time, deletionGracePeriodSeconds := grace }

def Pod.overwrite (old new : Pod) : Except ApiError Pod :=
  if old.uid = new.uid then
    .ok { new with
      deletionTimestamp := old.deletionTimestamp
      deletionGracePeriodSeconds := old.deletionGracePeriodSeconds
      status := old.status }
  else .error (.other "conflict")

structure Setting where
  json : Json
  leaves : List (String × LeafResource)
  clients : GoMap String LeafClientResource

structure Reply where
  behind : Nat := 0
  fault : Option String := none
  namespaces : Except ApiError Unit := .ok ()
  annotations : Option Labels := none
  spec : PodSpec := {}
  order : LabelOrder := .asWritten
  now : Nat := 0

def Reply.attempt {α : Type} (a : Reply) (x : Except ApiError α) : Except ApiError α :=
  match a.fault with
  | some msg => .error (.other msg)
  | none => x

def found {α : Type} : Option α → Except ApiError α
  | some x => .ok x
  | none => .error .notFound

def written (s : PodState) : Except ApiError PodState → Except ApiError Unit × PodState
  | .ok s' => (.ok (), s')
  | .error err => (.error err, s)

def Setting.exec (st : Setting) (a : Reply) (cache : PodState) :
    (op : PodOp) → PodState → op.Res × PodState
  | .getRootPod nn, s => (a.attempt (found (cache.root.get? nn)), s)
  | .deleteRootPod nn grace, s =>
    written s (a.attempt (if grace = some 0 then s.removeRoot nn
      else s.updateRoot nn fun p => p.terminate a.now grace))
  | .updateRootStatus pod, s =>
    written s (a.attempt (s.updateRoot pod.key fun p => { p with status := pod.status }))
  | .getRootNode _, s => (a.attempt (.ok a.annotations), s)
  | .listNodes, s => (Tree.listNodes st.leaves, s)
  | .hasNode nodeName, s => (.ok (Tree.hasNode st.leaves nodeName), s)
  | .getLeafResourceByNodeName nodeName, s =>
    (Tree.getLeafResourceByNodeName st.leaves nodeName, s)
  | .getClusterNode nodeName, s => (.ok (Tree.getClusterNode st.leaves nodeName), s)
  | .leafClientResource lr, s => (Tree.leafClientResource st.clients lr, s)
  | .populateEnvironmentVariables _, s => (a.fault.elim (.ok ()) .error, s)
  | .mutatePod _ _, s => ((a.annotations, a.spec), s)
  | .createVolumes _ _ _, s => (a.fault.elim (.ok ()) .error, s)
  | .projectedHandler _ _, s => (a.spec, s)
  | .getNamespace _ _, s => (a.namespaces, s)
  | .createNamespace _ _, s => (a.namespaces, s)
  | .getLeafPod lcr nn, s =>
    (a.attempt (found ((cache.leaf.get? (lcr.cluster, nn)).map LeafPod.pod)), s)
  | .createLeafPod lcr pod root, s =>
    written s (a.attempt do
      let s' ← s.createLeaf lcr.cluster pod
      pure { s' with created := Function.update s'.created root (some (lcr.cluster, s.nextUid)) })
  | .updateLeafPod lcr pod, s =>
    written s (a.attempt (s.updateLeaf lcr.cluster pod.key fun old => old.overwrite pod))
  | .deleteLeafPod lcr nn grace, s =>
    written s (a.attempt (if grace = some 0 then s.removeLeaf lcr.cluster nn
      else s.updateLeaf lcr.cluster nn fun p => .ok (p.terminate a.now grace)))
  | .visitLabels, s => (a.order, s)
  | .now, s => (a.now, s)

inductive Task where
  | root (nn : NamespacedName)
  | leaf (leaf : String) (nn : NamespacedName)
  deriving DecidableEq

def Task.nn : Task → NamespacedName
  | .root nn => nn
  | .leaf _ nn => nn

structure PodWorld where
  pods : PodState := {}
  tasks : GoMap Task (PodProg PodResult) := .empty
  past : List PodState := []

inductive PodEvent where
  | createRoot (pod : Pod)
  | terminateRoot (nn : NamespacedName) (time : Nat)
  | removeRoot (nn : NamespacedName)
  | createLeaf (leaf : String) (pod : Pod)
  | terminateLeaf (leaf : String) (nn : NamespacedName) (time : Nat)
  | removeLeaf (leaf : String) (nn : NamespacedName)
  | notify (leaf : String) (nn : NamespacedName)
  | startRoot (nn : NamespacedName)
  | startLeaf (leaf : String) (nn : NamespacedName)
  | call (task : Task) (reply : Reply)
  | finish (task : Task)
  | restart

def PodWorld.seen (w : PodWorld) (behind : Nat) : PodState :=
  (w.pods :: w.past)[behind]?.getD {}

def PodWorld.user (w : PodWorld) (x : Except ApiError PodState) : PodWorld :=
  { w with pods := (written w.pods x).2 }

def notified (s : PodState) (leaf : String) (nn : NamespacedName) : PodState :=
  if (s.leaf.get? (leaf, nn)).any fun x => isKosmosPod x.pod then
    { s with requests := s.requests ++ [(leaf, nn)] }
  else s

def requeued (s : PodState) (task : Task) (result : PodResult) : PodState :=
  match task with
  | .root _ => s
  | .leaf leaf nn =>
    if result.requeueAfter = 0 then s else { s with requests := s.requests ++ [(leaf, nn)] }

namespace PodWorld

def startRoot (st : Setting) (w : PodWorld) (nn : NamespacedName) : PodWorld :=
  if (w.tasks.get? (.root nn)).isSome then w
  else { w with tasks := w.tasks.set (.root nn) (RootPodReconciler.reconcile st.json nn) }

def startLeaf (w : PodWorld) (leaf : String) (nn : NamespacedName) : PodWorld :=
  if (leaf, nn) ∈ w.pods.requests ∧ (w.tasks.get? (.leaf leaf nn)).isNone then
    { pods := { w.pods with requests := w.pods.requests.erase (leaf, nn) }
      tasks := w.tasks.set (.leaf leaf nn) (LeafPodReconciler.reconcile leaf nn) }
  else w

def call (st : Setting) (w : PodWorld) (task : Task) (reply : Reply) : PodWorld :=
  match w.tasks.get? task with
  | some (.call op next) =>
    let (r, pods) := st.exec reply (w.seen reply.behind) op w.pods
    { pods, tasks := w.tasks.set task (next r) }
  | _ => w

def finish (w : PodWorld) (task : Task) : PodWorld :=
  match w.tasks.get? task with
  | some (.ret result) =>
    { pods := requeued w.pods task result, tasks := w.tasks.delete task }
  | _ => w

def restart (w : PodWorld) : PodWorld where
  pods := { w.pods with
    requests := (w.pods.leaf.objects.filter fun x => isKosmosPod x.pod).map LeafPod.key }
  tasks := .empty

def next (st : Setting) (w : PodWorld) : PodEvent → PodWorld
  | .createRoot pod => w.user (w.pods.createRoot pod)
  | .terminateRoot nn time => w.user (w.pods.updateRoot nn fun p => p.terminate time none)
  | .removeRoot nn => w.user (w.pods.removeRoot nn)
  | .createLeaf leaf pod => w.user (w.pods.createLeaf leaf pod)
  | .terminateLeaf leaf nn time =>
    w.user (w.pods.updateLeaf leaf nn fun p => .ok (p.terminate time none))
  | .removeLeaf leaf nn => w.user (w.pods.removeLeaf leaf nn)
  | .notify leaf nn => { w with pods := notified w.pods leaf nn }
  | .startRoot nn => w.startRoot st nn
  | .startLeaf leaf nn => w.startLeaf leaf nn
  | .call task reply => w.call st task reply
  | .finish task => w.finish task
  | .restart => w.restart

def step (st : Setting) (w : PodWorld) (e : PodEvent) : Outcome (Unit × PodWorld) :=
  .ok ((), { w.next st e with past := w.pods :: w.past })

end PodWorld

structure Pod.Continues (p' p : Pod) : Prop where
  key : p'.key = p.key
  uid : p'.uid = p.uid
  node : p'.spec.nodeName = p.spec.nodeName
  terminating : p.deletionTimestamp.isSome → p'.deletionTimestamp.isSome

theorem Pod.Continues.refl (p : Pod) : p.Continues p := ⟨rfl, rfl, rfl, id⟩

structure LeafPod.Continues (x' x : LeafPod) : Prop where
  key : x'.key = x.key
  uid : x'.pod.uid = x.pod.uid
  label : isKosmosPod x'.pod = isKosmosPod x.pod

theorem LeafPod.Continues.refl (x : LeafPod) : x.Continues x := ⟨rfl, rfl, rfl⟩

theorem Pod.terminate_continues (p : Pod) (time : Nat) (grace : Option Int) :
    (p.terminate time grace).Continues p := by
  unfold Pod.terminate
  split
  · exact .refl p
  · exact ⟨rfl, rfl, rfl, fun _ => rfl⟩

theorem isKosmosPod_terminate (p : Pod) (time : Nat) (grace : Option Int) :
    isKosmosPod (p.terminate time grace) = isKosmosPod p := by
  unfold Pod.terminate
  split <;> rfl

structure Shrinks (s s' : PodState) : Prop where
  nextUid : s'.nextUid = s.nextUid
  created : s'.created = s.created
  root : ∀ p' ∈ s'.root.objects, ∃ p ∈ s.root.objects, p'.Continues p
  leaf : ∀ x' ∈ s'.leaf.objects, ∃ x ∈ s.leaf.objects, x'.Continues x
  requests : ∀ r ∈ s'.requests, r ∈ s.requests ∨
    ∃ x ∈ s.leaf.objects, isKosmosPod x.pod = true ∧ r = x.key

section Shrinks

variable {s s' : PodState} {nn : NamespacedName} {leaf : String}

theorem Shrinks.refl (s : PodState) : Shrinks s s :=
  ⟨rfl, rfl, fun p hp => ⟨p, hp, .refl p⟩, fun x hx => ⟨x, hx, .refl x⟩, fun _ => Or.inl⟩

theorem removeRoot_shrinks (h : s.removeRoot nn = .ok s') : Shrinks s s' := by
  obtain ⟨root, hroot, h⟩ := bind_eq_ok h
  cases h
  refine { Shrinks.refl s with root := fun p' hp' => ?_ }
  exact ⟨p', ((Store.mem_delete hroot).mp hp').1, .refl p'⟩

theorem updateRoot_shrinks {change : Pod → Pod} (h : s.updateRoot nn change = .ok s')
    (hchange : ∀ p, (change p).Continues p) : Shrinks s s' := by
  unfold PodState.updateRoot at h
  split at h
  · cases h
  next p hp =>
    obtain ⟨root, hroot, h⟩ := bind_eq_ok h
    cases h
    refine { Shrinks.refl s with root := fun p' hp' => ?_ }
    rcases (Store.mem_update hroot).mp hp' with heq | ⟨hmem, -⟩
    · rw [heq]
      exact ⟨p, (Store.get?_eq_some.mp hp).1, hchange p⟩
    · exact ⟨p', hmem, .refl p'⟩

theorem removeLeaf_shrinks (h : s.removeLeaf leaf nn = .ok s') : Shrinks s s' := by
  unfold PodState.removeLeaf at h
  split at h
  · cases h
  next x hx =>
    obtain ⟨pods, hpods, h⟩ := bind_eq_ok h
    cases h
    obtain ⟨hmem, hkey⟩ := Store.get?_eq_some.mp hx
    refine { Shrinks.refl s with leaf := fun x' hx' => ?_, requests := fun r hr => ?_ }
    · exact ⟨x', ((Store.mem_delete hpods).mp hx').1, .refl x'⟩
    · by_cases hkosmos : isKosmosPod x.pod = true
      · rw [if_pos hkosmos, List.mem_append, List.mem_singleton] at hr
        exact hr.imp_right fun heq => ⟨x, hmem, hkosmos, heq.trans hkey.symm⟩
      · rw [if_neg hkosmos] at hr
        exact .inl hr

theorem updateLeaf_shrinks {change : Pod → Except ApiError Pod}
    (h : s.updateLeaf leaf nn change = .ok s')
    (hchange : ∀ x ∈ s.leaf.objects, x.key = (leaf, nn) → ∀ pod, change x.pod = .ok pod →
      LeafPod.Continues ⟨leaf, pod⟩ x) : Shrinks s s' := by
  unfold PodState.updateLeaf at h
  split at h
  · cases h
  next x hx =>
    obtain ⟨pod, hpod, h⟩ := bind_eq_ok h
    obtain ⟨pods, hpods, h⟩ := bind_eq_ok h
    cases h
    obtain ⟨hmem, hkey⟩ := Store.get?_eq_some.mp hx
    refine { Shrinks.refl s with leaf := fun x' hx' => ?_ }
    rcases (Store.mem_update hpods).mp hx' with heq | ⟨hold, -⟩
    · rw [heq]
      exact ⟨x, hmem, hchange x hmem hkey pod hpod⟩
    · exact ⟨x', hold, .refl x'⟩

theorem terminateLeaf_shrinks {time : Nat} {grace : Option Int}
    (h : (s.updateLeaf leaf nn fun p => .ok (p.terminate time grace)) = .ok s') :
    Shrinks s s' := by
  refine updateLeaf_shrinks h fun x _ hkey pod hpod => ?_
  cases hpod
  have hcont := x.pod.terminate_continues time grace
  refine ⟨?_, hcont.uid, isKosmosPod_terminate x.pod time grace⟩
  show (leaf, (x.pod.terminate time grace).key) = x.key
  rw [hcont.key, hkey]
  exact congrArg _ (congrArg Prod.snd hkey)

theorem notified_shrinks : Shrinks s (notified s leaf nn) := by
  unfold notified
  split
  next hany =>
    obtain ⟨x, hx, hkosmos⟩ := (Option.any_eq_true _ _).mp hany
    obtain ⟨hmem, hkey⟩ := Store.get?_eq_some.mp hx
    refine { Shrinks.refl s with requests := fun r hr => ?_ }
    rw [List.mem_append, List.mem_singleton] at hr
    exact hr.imp_right fun heq => ⟨x, hmem, hkosmos, heq.trans hkey.symm⟩
  · exact .refl s

theorem written_shrinks {x : Except ApiError PodState}
    (h : ∀ s', x = .ok s' → Shrinks s s') : Shrinks s (written s x).2 := by
  cases x with
  | ok s' => exact h s' rfl
  | error err => exact .refl s

theorem Reply.attempt_eq_ok {α : Type} {a : Reply} {x : Except ApiError α} {y : α}
    (h : a.attempt x = .ok y) : x = .ok y := by
  unfold Reply.attempt at h
  split at h
  · cases h
  · exact h

theorem attempt_found_ok {α : Type} {a : Reply} {o : Option α} {y : α}
    (h : a.attempt (found o) = .ok y) : o = some y := by
  have h := Reply.attempt_eq_ok h
  cases o with
  | none => cases h
  | some z =>
    cases h
    rfl

theorem attempt_found_notFound {α : Type} {a : Reply} {o : Option α}
    (h : a.attempt (found o) = .error .notFound) : o = none := by
  unfold Reply.attempt at h
  split at h
  · cases h
  · cases o with
    | none => rfl
    | some z => cases h

end Shrinks

section Stays

variable {s s' : PodState} {nn : NamespacedName} {leaf : String} {p : Pod} {x : LeafPod}

theorem removeRoot_stays (h : s.removeRoot nn = .ok s') :
    s'.leaf = s.leaf ∧ ∀ p ∈ s.root.objects, p.key ≠ nn → p ∈ s'.root.objects := by
  obtain ⟨root, hroot, h⟩ := bind_eq_ok h
  cases h
  exact ⟨rfl, fun p hp hne => (Store.mem_delete hroot).mpr ⟨hp, hne⟩⟩

theorem updateRoot_stays {change : Pod → Pod} (h : s.updateRoot nn change = .ok s')
    (hkey : ∀ p, (change p).key = p.key) :
    s'.leaf = s.leaf ∧ (∀ p ∈ s.root.objects, p.key ≠ nn → p ∈ s'.root.objects) ∧
      ∀ p ∈ s.root.objects, p.key = nn → change p ∈ s'.root.objects := by
  unfold PodState.updateRoot at h
  split at h
  · cases h
  next q hq =>
    obtain ⟨root, hroot, h⟩ := bind_eq_ok h
    cases h
    obtain ⟨-, hqkey⟩ := Store.get?_eq_some.mp hq
    refine ⟨rfl, fun p hp hne => ?_, fun p hp heq => ?_⟩
    · refine (Store.mem_update hroot).mpr (.inr ⟨hp, ?_⟩)
      rw [hkey, hqkey]
      exact hne
    · have hpq : p = q := Option.some.inj ((Store.get?_eq_some.mpr ⟨hp, heq⟩).symm.trans hq)
      rw [hpq]
      exact (Store.mem_update hroot).mpr (.inl rfl)

theorem removeLeaf_stays (h : s.removeLeaf leaf nn = .ok s') :
    s'.root = s.root ∧ ∀ x ∈ s.leaf.objects, x.key ≠ (leaf, nn) → x ∈ s'.leaf.objects := by
  unfold PodState.removeLeaf at h
  split at h
  · cases h
  next y hy =>
    obtain ⟨pods, hpods, h⟩ := bind_eq_ok h
    cases h
    exact ⟨rfl, fun x hx hne => (Store.mem_delete hpods).mpr ⟨hx, hne⟩⟩

theorem updateLeaf_stays {change : Pod → Except ApiError Pod}
    (h : s.updateLeaf leaf nn change = .ok s')
    (hchange : ∀ p p', change p = .ok p' → p.key = nn → p'.key = nn) :
    s'.root = s.root ∧ (∀ x ∈ s.leaf.objects, x.key ≠ (leaf, nn) → x ∈ s'.leaf.objects) ∧
      ∀ x ∈ s.leaf.objects, x.key = (leaf, nn) →
        ∃ pod, change x.pod = .ok pod ∧ ⟨leaf, pod⟩ ∈ s'.leaf.objects := by
  unfold PodState.updateLeaf at h
  split at h
  · cases h
  next y hy =>
    obtain ⟨pod, hpod, h⟩ := bind_eq_ok h
    obtain ⟨pods, hpods, h⟩ := bind_eq_ok h
    cases h
    obtain ⟨-, hykey⟩ := Store.get?_eq_some.mp hy
    refine ⟨rfl, fun x hx hne => ?_, fun x hx heq => ?_⟩
    · refine (Store.mem_update hpods).mpr (.inr ⟨hx, fun heq => hne (heq.trans ?_)⟩)
      exact congrArg (Prod.mk leaf) (hchange y.pod pod hpod (congrArg Prod.snd hykey))
    · have hxy : x = y := Option.some.inj ((Store.get?_eq_some.mpr ⟨hx, heq⟩).symm.trans hy)
      rw [hxy]
      exact ⟨pod, hpod, (Store.mem_update hpods).mpr (.inl rfl)⟩

end Stays

end Kosmos.Pods
