import Kosmos.Pods.World

/-!
# What holds of the pods, and what each call does to it

A leaf pod of Kosmos, or a request about one, is about the root pod of its name.
-/

namespace Kosmos.Pods

open Kosmos.Go Kosmos.Tree

def Setting.clusterOf (st : Setting) (p : Pod) : Option String :=
  match getLeafResourceByNodeName st.leaves p.spec.nodeName with
  | .error _ => none
  | .ok lr =>
    match leafClientResource st.clients lr with
    | .error _ => none
    | .ok lcr => some lcr.cluster

/-- The root pod is terminating, or its leaf pod has gone from the leaf. -/
def Setting.MayDelete (st : Setting) (s : PodState) (p : Pod) : Prop :=
  p.deletionTimestamp.isSome = true ∨
    ∃ leaf uid, s.created p.uid = some (leaf, uid) ∧ st.clusterOf p = some leaf ∧
      ∀ x ∈ s.leaf.objects, x.leaf = leaf → x.pod.uid ≠ uid

/-- The pod is not there any more, or terminating where it was not. -/
def Deleted (p : Pod) (pods : List Pod) : Prop :=
  ∀ p' ∈ pods, p'.uid = p.uid → p'.deletionTimestamp ≠ p.deletionTimestamp

def Setting.Serves (st : Setting) (s : PodState) (p : Pod) (leaf : String) : Prop :=
  (∃ uid, s.created p.uid = some (leaf, uid)) ∧ st.clusterOf p = some leaf

/-- What holds between two calls: leaf pods and requests go back to root pods. -/
structure Setting.Inv (st : Setting) (s : PodState) : Prop where
  rootUid : ∀ p ∈ s.root.objects, p.uid < s.nextUid
  leafUid : ∀ x ∈ s.leaf.objects, x.pod.uid < s.nextUid
  createdUid : ∀ root leaf uid, s.created root = some (leaf, uid) →
    root < s.nextUid ∧ uid < s.nextUid
  distinct : ∀ p ∈ s.root.objects, ∀ q ∈ s.root.objects, p.uid = q.uid → p.key = q.key
  own : ∀ p ∈ s.root.objects, ∀ x ∈ s.leaf.objects, isKosmosPod x.pod = true →
    x.pod.key = p.key → s.created p.uid = some (x.leaf, x.pod.uid) ∧ st.clusterOf p = some x.leaf
  named : ∀ p ∈ s.root.objects, ∀ x ∈ s.leaf.objects,
    s.created p.uid = some (x.leaf, x.pod.uid) → x.pod.key = p.key
  asked : ∀ p ∈ s.root.objects, ∀ r ∈ s.requests, r.2 = p.key → st.Serves s p r.1

variable {pod : Pod} {leaf : String}

section Inv

variable {st : Setting} {s s' : PodState}

theorem clusterOf_continues {p' p : Pod} (h : p'.Continues p) :
    st.clusterOf p' = st.clusterOf p := by
  rw [Setting.clusterOf, h.node, Setting.clusterOf]

theorem Shrinks.inv (h : Shrinks s s') (hinv : st.Inv s) : st.Inv s' where
  rootUid p' hp' := by
    obtain ⟨p, hp, hcont⟩ := h.root p' hp'
    rw [hcont.uid, h.nextUid]
    exact hinv.rootUid p hp
  leafUid x' hx' := by
    obtain ⟨x, hx, hcont⟩ := h.leaf x' hx'
    rw [hcont.uid, h.nextUid]
    exact hinv.leafUid x hx
  createdUid := by
    rw [h.created, h.nextUid]
    exact hinv.createdUid
  distinct p' hp' q' hq' heq := by
    obtain ⟨p, hp, hp'⟩ := h.root p' hp'
    obtain ⟨q, hq, hq'⟩ := h.root q' hq'
    rw [hp'.key, hq'.key]
    rw [hp'.uid, hq'.uid] at heq
    exact hinv.distinct p hp q hq heq
  own p' hp' x' hx' hkosmos hkey := by
    obtain ⟨p, hp, hp'⟩ := h.root p' hp'
    obtain ⟨x, hx, hx'⟩ := h.leaf x' hx'
    obtain ⟨hleaf, hxkey⟩ := Prod.mk.inj hx'.key
    rw [hx'.label] at hkosmos
    rw [hxkey, hp'.key] at hkey
    rw [h.created, clusterOf_continues hp', hp'.uid, hx'.uid, hleaf]
    exact hinv.own p hp x hx hkosmos hkey
  named p' hp' x' hx' hcreated := by
    obtain ⟨p, hp, hp'⟩ := h.root p' hp'
    obtain ⟨x, hx, hx'⟩ := h.leaf x' hx'
    obtain ⟨hleaf, hxkey⟩ := Prod.mk.inj hx'.key
    rw [h.created, hp'.uid, hx'.uid, hleaf] at hcreated
    rw [hxkey, hp'.key]
    exact hinv.named p hp x hx hcreated
  asked p' hp' r hr hkey := by
    obtain ⟨p, hp, hp'⟩ := h.root p' hp'
    rw [Setting.Serves, h.created, clusterOf_continues hp', hp'.uid]
    rw [hp'.key] at hkey
    rcases h.requests r hr with hold | ⟨x, hx, hkosmos, heq⟩
    · exact hinv.asked p hp r hold hkey
    · rw [heq] at hkey ⊢
      obtain ⟨hcreated, hcluster⟩ := hinv.own p hp x hx hkosmos hkey
      exact ⟨⟨x.pod.uid, hcreated⟩, hcluster⟩

theorem createRoot_inv (hinv : st.Inv s) (h : s.createRoot pod = .ok s')
    (hleaf : ∀ x ∈ s.leaf.objects, isKosmosPod x.pod = true → x.pod.key ≠ pod.key)
    (hrequests : ∀ r ∈ s.requests, r.2 ≠ pod.key) : st.Inv s' := by
  obtain ⟨root, hroot, h⟩ := bind_eq_ok h
  cases h
  have hmem : ∀ p ∈ root.objects, p ∈ s.root.objects ∨ p.uid = s.nextUid ∧ p.key = pod.key := by
    intro p hp
    refine ((Store.mem_create hroot).mp hp).imp_right fun heq => ?_
    rw [heq]
    exact ⟨rfl, rfl⟩
  constructor
  case rootUid =>
    intro p hp
    show p.uid < s.nextUid + 1
    rcases hmem p hp with hold | ⟨huid, -⟩
    · have := hinv.rootUid p hold
      omega
    · omega
  case leafUid =>
    intro x hx
    have := hinv.leafUid x hx
    show x.pod.uid < s.nextUid + 1
    omega
  case createdUid =>
    intro r leaf uid hcreated
    have := hinv.createdUid r leaf uid hcreated
    show r < s.nextUid + 1 ∧ uid < s.nextUid + 1
    omega
  case distinct =>
    intro p hp q hq heq
    rcases hmem p hp with hp | ⟨hpu, hpk⟩
    · rcases hmem q hq with hq | ⟨hqu, -⟩
      · exact hinv.distinct p hp q hq heq
      · have := hinv.rootUid p hp
        omega
    · rcases hmem q hq with hq | ⟨-, hqk⟩
      · have := hinv.rootUid q hq
        omega
      · rw [hpk, hqk]
  case own =>
    intro p hp x hx hkosmos hkey
    rcases hmem p hp with hp | ⟨-, hpk⟩
    · exact hinv.own p hp x hx hkosmos hkey
    · exact absurd (hkey.trans hpk) (hleaf x hx hkosmos)
  case named =>
    intro p hp x hx hcreated
    rcases hmem p hp with hp | ⟨hpu, -⟩
    · exact hinv.named p hp x hx hcreated
    · have := (hinv.createdUid _ _ _ hcreated).1
      omega
  case asked =>
    intro p hp r hr hkey
    rcases hmem p hp with hp | ⟨-, hpk⟩
    · exact hinv.asked p hp r hr hkey
    · exact absurd (hkey.trans hpk) (hrequests r hr)

theorem createLeaf_mem (h : s.createLeaf leaf pod = .ok s') :
    (∀ x ∈ s'.leaf.objects, x ∈ s.leaf.objects ∨
      x = ⟨leaf, { pod with uid := s.nextUid }⟩) ∧
    (∀ x ∈ s.leaf.objects, x ∈ s'.leaf.objects ∧ x.key ≠ (leaf, pod.key)) ∧
    s' = { s with leaf := s'.leaf, nextUid := s.nextUid + 1 } := by
  obtain ⟨pods, hpods, h⟩ := bind_eq_ok h
  cases h
  refine ⟨fun x => (Store.mem_create hpods).mp, fun x hx => ⟨?_, ?_⟩, rfl⟩
  · exact (Store.mem_create hpods).mpr (.inl hx)
  · exact Store.create_free hpods x hx

theorem createLeaf_leafUid (hinv : st.Inv s) (h : s.createLeaf leaf pod = .ok s') :
    ∀ x ∈ s'.leaf.objects, x.pod.uid < s.nextUid + 1 := by
  intro x hx
  rcases (createLeaf_mem h).1 x hx with hold | hnew
  · exact Nat.lt_succ_of_lt (hinv.leafUid x hold)
  · rw [hnew]
    exact Nat.lt_succ_self _

theorem createLeaf_inv (hinv : st.Inv s) (h : s.createLeaf leaf pod = .ok s')
    (hkosmos : isKosmosPod pod = false) : st.Inv s' := by
  obtain ⟨hmem, -, heq⟩ := createLeaf_mem h
  rw [heq]
  constructor
  case rootUid => exact fun p hp => Nat.lt_succ_of_lt (hinv.rootUid p hp)
  case leafUid => exact fun x hx => createLeaf_leafUid hinv h x hx
  case createdUid =>
    intro r l u hcreated
    have := hinv.createdUid r l u hcreated
    exact ⟨Nat.lt_succ_of_lt this.1, Nat.lt_succ_of_lt this.2⟩
  case distinct => exact hinv.distinct
  case own =>
    intro p hp x hx hk hkey
    rcases hmem x hx with hold | hnew
    · exact hinv.own p hp x hold hk hkey
    · rw [hnew] at hk
      cases hkosmos.symm.trans hk
  case named =>
    intro p hp x hx hcreated
    rcases hmem x hx with hold | hnew
    · exact hinv.named p hp x hold hcreated
    · rw [hnew] at hcreated
      exact absurd (hinv.createdUid _ _ _ hcreated).2 (Nat.lt_irrefl _)
  case asked => exact hinv.asked

theorem createLeafFor_inv {root : Nat} (hinv : st.Inv s) (h : s.createLeaf leaf pod = .ok s')
    (hroot : root < s.nextUid)
    (hfor : ∀ p ∈ s.root.objects, p.key = pod.key ∨ p.uid = root → p.key = pod.key ∧ p.uid = root
      ∧ st.clusterOf p = some leaf) :
    st.Inv { s' with created := Function.update s'.created root (some (leaf, s.nextUid)) } := by
  obtain ⟨hmem, hfree, heq⟩ := createLeaf_mem h
  rw [heq]
  have hother : ∀ {r : Nat}, r ≠ root →
      Function.update s.created root (some (leaf, s.nextUid)) r = s.created r :=
    fun hne => Function.update_of_ne hne _ _
  have hself : Function.update s.created root (some (leaf, s.nextUid)) root =
      some (leaf, s.nextUid) := Function.update_self _ _ _
  constructor
  case rootUid => exact fun p hp => Nat.lt_succ_of_lt (hinv.rootUid p hp)
  case leafUid => exact fun x hx => createLeaf_leafUid hinv h x hx
  case createdUid =>
    intro r l u hcreated
    show r < s.nextUid + 1 ∧ u < s.nextUid + 1
    by_cases hr : r = root
    · rw [hr] at hcreated ⊢
      cases hself.symm.trans hcreated
      omega
    · have := hinv.createdUid r l u ((hother hr).symm.trans hcreated)
      omega
  case distinct => exact hinv.distinct
  case own =>
    intro p hp x hx hk hkey
    show Function.update s.created root (some (leaf, s.nextUid)) p.uid = _ ∧ _
    rcases hmem x hx with hold | hnew
    · have hown := hinv.own p hp x hold hk hkey
      by_cases hp' : p.uid = root
      · -- it would be where the new one is
        obtain ⟨hpk, -, hcluster⟩ := hfor p hp (.inr hp')
        cases hcluster.symm.trans hown.2
        have hplace : x.key = (x.leaf, pod.key) := congrArg (Prod.mk x.leaf) (hkey.trans hpk)
        exact absurd hplace (hfree x hold).2
      · rw [hother hp']
        exact hown
    · rw [hnew] at hkey ⊢
      obtain ⟨-, hpu, hcluster⟩ := hfor p hp (.inl hkey.symm)
      rw [hpu, hself]
      exact ⟨rfl, hcluster⟩
  case named =>
    intro p hp x hx hcreated
    by_cases hp' : p.uid = root
    · have hnew := hself.symm.trans ((congrArg _ hp'.symm).trans hcreated)
      have huid : s.nextUid = x.pod.uid := congrArg Prod.snd (Option.some.inj hnew)
      rcases hmem x hx with hold | hnew'
      · have := hinv.leafUid x hold
        omega
      · rw [hnew']
        exact (hfor p hp (.inr hp')).1.symm
    · have hold' := (hother hp').symm.trans hcreated
      rcases hmem x hx with hold | hnew
      · exact hinv.named p hp x hold hold'
      · rw [hnew] at hold'
        exact absurd (hinv.createdUid _ _ _ hold').2 (Nat.lt_irrefl _)
  case asked =>
    intro p hp r hr hkey
    obtain ⟨hcreated, hcluster⟩ := hinv.asked p hp r hr hkey
    refine ⟨?_, hcluster⟩
    by_cases hp' : p.uid = root
    · cases (hfor p hp (.inr hp')).2.2.symm.trans hcluster
      rw [hp']
      exact ⟨s.nextUid, hself⟩
    · obtain ⟨uid, huid⟩ := hcreated
      exact ⟨uid, (hother hp').trans huid⟩

end Inv

def Setting.Allowed (st : Setting) : PodOp → PodState → Prop
  | .deleteRootPod nn _, s => ∀ p ∈ s.root.objects, p.key = nn → st.MayDelete s p
  | .deleteLeafPod lcr nn _, s =>
    ∀ x ∈ s.leaf.objects, x.key = (lcr.cluster, nn) → isKosmosPod x.pod = true
  | .updateLeafPod lcr pod, s =>
    isKosmosPod pod = true ∧ ∀ x ∈ s.leaf.objects, x.key = (lcr.cluster, pod.key) →
      x.pod.uid = pod.uid → isKosmosPod x.pod = true
  | .createLeafPod lcr pod root, s =>
    isKosmosPod pod = true ∧ root < s.nextUid ∧
      ∀ p ∈ s.root.objects, p.key = pod.key ∨ p.uid = root →
        p.key = pod.key ∧ p.uid = root ∧ st.clusterOf p = some lcr.cluster
  | _, _ => True

def PodOp.creates : PodOp → Option (String × NamespacedName)
  | .createLeafPod lcr pod _ => some (lcr.cluster, pod.key)
  | _ => none

section Calls

variable {st : Setting} {s cache : PodState} {a : Reply} {op : PodOp}

theorem overwrite_continues {pod' : Pod} {x : LeafPod} (hkey : x.key = (leaf, pod.key))
    (hpod : isKosmosPod pod = true) (hx : x.pod.uid = pod.uid → isKosmosPod x.pod = true)
    (h : x.pod.overwrite pod = .ok pod') : LeafPod.Continues ⟨leaf, pod'⟩ x := by
  unfold Pod.overwrite at h
  split at h
  next huid =>
    cases h
    exact ⟨hkey.symm, huid.symm, hpod.trans (hx huid).symm⟩
  · cases h

theorem overwrite_keeps {old new : Pod} (h : old.overwrite new = .ok pod) :
    pod.key = new.key ∧ pod.uid = old.uid ∧ pod.deletionTimestamp = old.deletionTimestamp := by
  unfold Pod.overwrite at h
  split at h
  next huid =>
    cases h
    exact ⟨rfl, huid.symm, rfl⟩
  · cases h

theorem exec_shrinks (hallowed : st.Allowed op s) (hop : op.creates = none) :
    Shrinks s (st.exec a cache op s).2 := by
  cases op with
  | deleteRootPod nn grace =>
    refine written_shrinks fun s' h => ?_
    have h := Reply.attempt_eq_ok h
    split at h
    · exact removeRoot_shrinks h
    · exact updateRoot_shrinks h fun p => p.terminate_continues _ _
  | updateRootStatus pod =>
    refine written_shrinks fun s' h => ?_
    exact updateRoot_shrinks (Reply.attempt_eq_ok h) fun p => ⟨rfl, rfl, rfl, id⟩
  | updateLeafPod lcr pod =>
    refine written_shrinks fun s' h => ?_
    refine updateLeaf_shrinks (Reply.attempt_eq_ok h) fun x hx hkey pod' hpod' => ?_
    exact overwrite_continues hkey hallowed.1 (hallowed.2 x hx hkey) hpod'
  | deleteLeafPod lcr nn grace =>
    refine written_shrinks fun s' h => ?_
    have h := Reply.attempt_eq_ok h
    split at h
    · exact removeLeaf_shrinks h
    · exact terminateLeaf_shrinks h
  | createLeafPod lcr pod root => cases hop
  | _ => exact .refl s

theorem exec_createLeafPod {lcr : LeafClientResource} {root : Nat} :
    (st.exec a cache (.createLeafPod lcr pod root) s).2 = s ∨
      ∃ s', s.createLeaf lcr.cluster pod = .ok s' ∧
        (st.exec a cache (.createLeafPod lcr pod root) s).2 = { s' with
          created := Function.update s'.created root (some (lcr.cluster, s.nextUid)) } := by
  simp only [Setting.exec, Reply.attempt]
  cases a.fault with
  | some msg => exact .inl rfl
  | none =>
    cases s.createLeaf lcr.cluster pod with
    | error err => exact .inl rfl
    | ok s' => exact .inr ⟨s', rfl, rfl⟩

theorem exec_inv (hinv : st.Inv s) (hallowed : st.Allowed op s) :
    st.Inv (st.exec a cache op s).2 := by
  by_cases hop : op.creates = none
  · exact (exec_shrinks hallowed hop).inv hinv
  · cases op with
    | createLeafPod lcr pod root =>
      rcases exec_createLeafPod with heq | ⟨s', hs', heq⟩
      · rw [heq]
        exact hinv
      · rw [heq]
        exact createLeafFor_inv hinv hs' hallowed.2.1 hallowed.2.2
    | _ => exact absurd rfl hop

def Setting.RightFrom (st : Setting) (s s' : PodState) : Prop :=
  (∀ p ∈ s.root.objects, Deleted p s'.root.objects → st.MayDelete s p) ∧
  ∀ x ∈ s.leaf.objects, Deleted x.pod (s'.leaf.objects.map LeafPod.pod) → isKosmosPod x.pod = true

theorem not_deleted {p : Pod} {pods : List Pod} (hp : p ∈ pods) : ¬ Deleted p pods :=
  fun h => h p hp rfl rfl

theorem not_deleted_leaf {x : LeafPod} {pods : List LeafPod} (hx : x ∈ pods) :
    ¬ Deleted x.pod (pods.map LeafPod.pod) :=
  not_deleted (List.mem_map_of_mem hx)

theorem rightFrom_refl : st.RightFrom s s :=
  ⟨fun _ hp hdel => absurd hdel (not_deleted hp),
    fun _ hx hdel => absurd hdel (not_deleted_leaf hx)⟩

theorem rightFrom_written {x : Except ApiError PodState}
    (h : ∀ s', x = .ok s' → st.RightFrom s s') : st.RightFrom s (written s x).2 := by
  cases x with
  | ok s' => exact h s' rfl
  | error err => exact rightFrom_refl

theorem rightFrom_root {s' : PodState} {nn : NamespacedName} (hleaf : s'.leaf = s.leaf)
    (hstays : ∀ p ∈ s.root.objects, p.key ≠ nn → p ∈ s'.root.objects)
    (hmay : ∀ p ∈ s.root.objects, p.key = nn → Deleted p s'.root.objects → st.MayDelete s p) :
    st.RightFrom s s' := by
  refine ⟨fun p hp hdel => ?_, fun x hx hdel => ?_⟩
  · by_cases hkey : p.key = nn
    · exact hmay p hp hkey hdel
    · exact absurd hdel (not_deleted (hstays p hp hkey))
  · rw [hleaf] at hdel
    exact absurd hdel (not_deleted_leaf hx)

theorem rightFrom_leaf {s' : PodState} {key : String × NamespacedName} (hroot : s'.root = s.root)
    (hstays : ∀ x ∈ s.leaf.objects, x.key ≠ key → x ∈ s'.leaf.objects)
    (hmay : ∀ x ∈ s.leaf.objects, x.key = key →
      Deleted x.pod (s'.leaf.objects.map LeafPod.pod) → isKosmosPod x.pod = true) :
    st.RightFrom s s' := by
  refine ⟨fun p hp hdel => ?_, fun x hx hdel => ?_⟩
  · rw [hroot] at hdel
    exact absurd hdel (not_deleted hp)
  · by_cases hkey : x.key = key
    · exact hmay x hx hkey hdel
    · exact absurd hdel (not_deleted_leaf (hstays x hx hkey))

theorem exec_rightFrom (hallowed : st.Allowed op s) : st.RightFrom s (st.exec a cache op s).2 := by
  cases op with
  | deleteRootPod nn grace =>
    refine rightFrom_written fun s' h => ?_
    have h := Reply.attempt_eq_ok h
    split at h
    · obtain ⟨hleaf, hroot⟩ := removeRoot_stays h
      exact rightFrom_root hleaf hroot fun p hp hkey _ => hallowed p hp hkey
    · obtain ⟨hleaf, hroot, -⟩ := updateRoot_stays h fun p => (p.terminate_continues _ _).key
      exact rightFrom_root hleaf hroot fun p hp hkey _ => hallowed p hp hkey
  | updateRootStatus pod =>
    refine rightFrom_written fun s' h => ?_
    obtain ⟨hleaf, hroot, hchanged⟩ := updateRoot_stays (Reply.attempt_eq_ok h) fun _ => rfl
    exact rightFrom_root hleaf hroot fun p hp hkey hdel =>
      (hdel _ (hchanged p hp hkey) rfl rfl).elim
  | updateLeafPod lcr pod =>
    refine rightFrom_written fun s' h => ?_
    obtain ⟨hroot, hleaf, hchanged⟩ := updateLeaf_stays (Reply.attempt_eq_ok h)
      fun p p' hp' _ => (overwrite_keeps hp').1
    refine rightFrom_leaf hroot hleaf fun x hx hkey hdel => ?_
    obtain ⟨pod', hpod', hmem⟩ := hchanged x hx hkey
    obtain ⟨-, huid, htime⟩ := overwrite_keeps hpod'
    exact absurd htime (hdel pod' (List.mem_map_of_mem hmem) huid)
  | deleteLeafPod lcr nn grace =>
    refine rightFrom_written fun s' h => ?_
    have h := Reply.attempt_eq_ok h
    split at h
    · obtain ⟨hroot, hleaf⟩ := removeLeaf_stays h
      exact rightFrom_leaf hroot hleaf fun x hx hkey _ => hallowed x hx hkey
    · obtain ⟨hroot, hleaf, -⟩ := updateLeaf_stays h fun p p' hp' hkey => by
        cases hp'
        exact (p.terminate_continues _ _).key.trans hkey
      exact rightFrom_leaf hroot hleaf fun x hx hkey _ => hallowed x hx hkey
  | createLeafPod lcr pod root =>
    rcases exec_createLeafPod with heq | ⟨s', hs', heq⟩
    · rw [heq]
      exact rightFrom_refl
    · rw [heq]
      obtain ⟨-, hold, hs'⟩ := createLeaf_mem hs'
      have hroot : s'.root = s.root := by rw [hs']
      exact rightFrom_leaf hroot (fun x hx _ => (hold x hx).1)
        fun x hx hkey _ => absurd hkey (hold x hx).2
  | _ => exact rightFrom_refl

end Calls

/-- What happens between two calls of a task. -/
structure Setting.Rely (st : Setting) (t : Task) (s s' : PodState) : Prop where
  nextUid : s.nextUid ≤ s'.nextUid
  root : ∀ p' ∈ s'.root.objects, p'.key = t.nn ∨ p'.uid < s.nextUid →
    ∃ p ∈ s.root.objects, p'.Continues p
  leaf : ∀ x' ∈ s'.leaf.objects, x'.pod.uid < s.nextUid → ∃ x ∈ s.leaf.objects, x'.Continues x
  user : ∀ x' ∈ s'.leaf.objects, x'.pod.key = t.nn → isKosmosPod x'.pod = false →
    ∃ x ∈ s.leaf.objects, x'.Continues x
  created : ∀ leaf, t = .leaf leaf t.nn → ∀ p ∈ s'.root.objects, p.key = t.nn →
    st.clusterOf p = some leaf → s'.created p.uid = s.created p.uid

section Rely

variable {st : Setting} {s s' : PodState} {t : Task}

theorem Shrinks.rely (h : Shrinks s s') : st.Rely t s s' where
  nextUid := h.nextUid.ge
  root p' hp' _ := h.root p' hp'
  leaf x' hx' _ := h.leaf x' hx'
  user x' hx' _ _ := h.leaf x' hx'
  created _ _ _ _ _ _ := congrFun h.created _

theorem createRoot_rely (h : s.createRoot pod = .ok s') (ht : t.nn ≠ pod.key) : st.Rely t s s' := by
  obtain ⟨root, hroot, h⟩ := bind_eq_ok h
  cases h
  refine ⟨Nat.le_succ _, fun p' hp' hor => ?_, fun x hx _ => ⟨x, hx, .refl x⟩,
    fun x hx _ _ => ⟨x, hx, .refl x⟩, fun _ _ _ _ _ _ => rfl⟩
  rcases (Store.mem_create hroot).mp hp' with hold | hnew
  · exact ⟨p', hold, .refl p'⟩
  · rw [hnew] at hor
    rcases hor with hkey | huid
    · exact absurd hkey.symm ht
    · exact absurd huid (Nat.lt_irrefl _)

theorem createLeaf_rely {created : Nat → Option (String × Nat)}
    (h : s.createLeaf leaf pod = .ok s') (huser : isKosmosPod pod = false → t.nn ≠ pod.key)
    (hcreated : ∀ leaf', t = .leaf leaf' t.nn → ∀ p ∈ s.root.objects, p.key = t.nn → st.clusterOf
      p = some leaf' → created p.uid = s.created p.uid) : st.Rely t s { s' with created } := by
  obtain ⟨hmem, -, heq⟩ := createLeaf_mem h
  rw [heq]
  refine ⟨Nat.le_succ _, fun p hp _ => ⟨p, hp, .refl p⟩, fun x hx hlt => ?_,
    fun x hx hkey hk => ?_, hcreated⟩
  · rcases hmem x hx with hold | hnew
    · exact ⟨x, hold, .refl x⟩
    · rw [hnew] at hlt
      exact absurd hlt (Nat.lt_irrefl _)
  · rcases hmem x hx with hold | hnew
    · exact ⟨x, hold, .refl x⟩
    · rw [hnew] at hkey hk
      exact absurd hkey.symm (huser hk)

theorem exec_rely {a : Reply} {cache : PodState} {op : PodOp} (hallowed : st.Allowed op s)
    (hop : ∀ x ∈ op.creates, t ≠ .leaf x.1 x.2) : st.Rely t s (st.exec a cache op s).2 := by
  by_cases hcreates : op.creates = none
  · exact (exec_shrinks hallowed hcreates).rely
  · cases op with
    | createLeafPod lcr pod root =>
      rcases exec_createLeafPod with heq | ⟨s', hs', heq⟩
      · rw [heq]
        exact (Shrinks.refl s).rely
      · rw [heq]
        refine createLeaf_rely hs' (fun hk => absurd (hallowed.1.symm.trans hk) nofun) ?_
        intro leaf ht p hp hkey hcluster
        have hne : p.uid ≠ root := by
          intro hroot
          obtain ⟨hpk, -, hplace⟩ := hallowed.2.2 p hp (.inr hroot)
          cases hplace.symm.trans hcluster
          refine hop (lcr.cluster, pod.key) rfl ?_
          rw [ht]
          show Task.leaf lcr.cluster t.nn = .leaf lcr.cluster pod.key
          rw [← hkey, hpk]
        rw [(createLeaf_mem hs').2.2]
        exact Function.update_of_ne hne _ _
    | _ => exact absurd rfl hcreates

end Rely

end Kosmos.Pods
