import Kosmos.Pods.Invariant

/-!
# The deletion of pods

A pod is its name for the controllers, and a late request or a stale read hits the next one.
-/

namespace Kosmos.Pods

open Kosmos.Go Kosmos.Tree

/-! ## What must not happen -/

/-- What the controllers delete in a move, they may delete. -/
def Setting.DeletesRight (st : Setting) (m : Move PodWorld PodEvent Unit) : Prop :=
  ∀ task reply, m.event = .call task reply →
    (∀ p ∈ m.before.pods.root.objects, Deleted p m.after.pods.root.objects →
      st.MayDelete m.before.pods p) ∧
    ∀ x ∈ m.before.pods.leaf.objects,
      Deleted x.pod (m.after.pods.leaf.objects.map LeafPod.pod) → isKosmosPod x.pod = true

def nextCall : PodProg PodResult → Option PodOp
  | .call op _ => some op
  | _ => none

def PodWorld.Safe (w : PodWorld) : PodEvent → Prop
  | .createRoot pod =>
    (∀ x ∈ w.pods.leaf.objects, isKosmosPod x.pod = true → x.pod.key ≠ pod.key) ∧
      (∀ r ∈ w.pods.requests, r.2 ≠ pod.key) ∧ ∀ t ∈ w.tasks.keys, t.nn ≠ pod.key
  | .createLeaf _ pod => isKosmosPod pod = false ∧ ∀ t ∈ w.tasks.keys, t.nn ≠ pod.key
  | .call task _ =>
    ∀ x ∈ ((w.tasks.get? task).bind nextCall).bind PodOp.creates,
      Task.leaf x.1 x.2 ∉ w.tasks.keys
  | _ => True

instance (w : PodWorld) : (e : PodEvent) → Decidable (w.Safe e)
  | .createRoot pod =>
    inferInstanceAs (Decidable ((∀ x ∈ w.pods.leaf.objects, isKosmosPod x.pod = true →
      x.pod.key ≠ pod.key) ∧ (∀ r ∈ w.pods.requests, r.2 ≠ pod.key) ∧
      ∀ t ∈ w.tasks.keys, t.nn ≠ pod.key))
  | .createLeaf _ pod =>
    inferInstanceAs (Decidable (isKosmosPod pod = false ∧ ∀ t ∈ w.tasks.keys, t.nn ≠ pod.key))
  | .call task _ =>
    inferInstanceAs (Decidable (∀ x ∈ ((w.tasks.get? task).bind nextCall).bind PodOp.creates,
      Task.leaf x.1 x.2 ∉ w.tasks.keys))
  | .terminateRoot _ _ | .removeRoot _ | .terminateLeaf _ _ _ | .removeLeaf _ _ | .notify _ _
  | .startRoot _ | .startLeaf _ _ | .finish _ | .restart => inferInstanceAs (Decidable True)

def Current (cache s : PodState) : PodOp → Prop
  | .getRootPod nn => cache.root.get? nn = s.root.get? nn
  | .getLeafPod lcr nn => cache.leaf.get? (lcr.cluster, nn) = s.leaf.get? (lcr.cluster, nn)
  | _ => True

def PodWorld.ReadsCurrent (w : PodWorld) : PodEvent → Prop
  | .call task reply =>
    ∀ op, (w.tasks.get? task).bind nextCall = some op →
      Current (w.seen reply.behind) w.pods op
  | _ => True

theorem exec_of_current {st : Setting} {a : Reply} {cache s : PodState} {op : PodOp}
    (h : Current cache s op) : st.exec a cache op s = st.exec a s op s := by
  cases op with
  | getRootPod nn => simp only [Setting.exec, show cache.root.get? nn = _ from h]
  | getLeafPod lcr nn => simp only [Setting.exec, show cache.leaf.get? (lcr.cluster, nn) = _ from h]
  | _ => rfl

/-! ## Assertions -/

def Setting.rules (st : Setting) (t : Task) : Rules PodState PodOp.Res where
  answers op s r s' := st.Inv s ∧ ∃ a, st.exec a s op s = (r, s')
  allowed := st.Allowed
  rely := st.Rely t

structure Setting.Knows (st : Setting) (nn : NamespacedName) (p : Pod) (s : PodState) : Prop where
  uid : p.uid < s.nextUid
  same : ∀ q ∈ s.root.objects, q.key = nn ∨ q.uid = p.uid →
    q.key = nn ∧ q.uid = p.uid ∧ st.clusterOf q = st.clusterOf p ∧
      (p.deletionTimestamp.isSome = true → q.deletionTimestamp.isSome = true)

def AllLabelled (leaf : String) (nn : NamespacedName) (s : PodState) : Prop :=
  ∀ x ∈ s.leaf.objects, x.key = (leaf, nn) → isKosmosPod x.pod = true

def Setting.Asked (st : Setting) (leaf : String) (nn : NamespacedName) (s : PodState) : Prop :=
  ∀ p ∈ s.root.objects, p.key = nn → st.Serves s p leaf

def Setting.Gone (st : Setting) (leaf : String) (nn : NamespacedName) (s : PodState) : Prop :=
  ∀ p ∈ s.root.objects, p.key = nn → ∃ uid, s.created p.uid = some (leaf, uid) ∧
    uid < s.nextUid ∧ st.clusterOf p = some leaf ∧
      ∀ x ∈ s.leaf.objects, x.leaf = leaf → x.pod.uid ≠ uid

section Stable

variable {st : Setting} {leaf : String} {nn : NamespacedName} {p : Pod}

theorem knows_stable {t : Task} (ht : t.nn = nn) : (st.rules t).Stable (st.Knows nn p) := by
  intro s s' h hrely
  refine ⟨Nat.lt_of_lt_of_le h.uid hrely.nextUid, fun q' hq' hor => ?_⟩
  have hknown : q'.key = t.nn ∨ q'.uid < s.nextUid := by
    rcases hor with hkey | huid
    · exact .inl (hkey.trans ht.symm)
    · exact .inr (huid ▸ h.uid)
  obtain ⟨q, hq, hcont⟩ := hrely.root q' hq' hknown
  rw [hcont.key, hcont.uid] at hor ⊢
  obtain ⟨hkey, huid, hcluster, hterm⟩ := h.same q hq hor
  exact ⟨hkey, huid, (clusterOf_continues hcont).trans hcluster,
    fun hp => hcont.terminating (hterm hp)⟩

theorem allLabelled_stable {t : Task} (ht : t.nn = nn) :
    (st.rules t).Stable (AllLabelled leaf nn) := by
  intro s s' h hrely x' hx' hkey
  by_contra hk
  rw [Bool.not_eq_true] at hk
  have hname : x'.pod.key = t.nn := (congrArg Prod.snd hkey).trans ht.symm
  obtain ⟨x, hx, hcont⟩ := hrely.user x' hx' hname hk
  have hlabel := h x hx (hcont.key.symm.trans hkey)
  rw [← hcont.label, hk] at hlabel
  cases hlabel

theorem asked_stable : (st.rules (.leaf leaf nn)).Stable (st.Asked leaf nn) := by
  intro s s' h hrely p' hp' hkey
  obtain ⟨p, hp, hcont⟩ := hrely.root p' hp' (.inl hkey)
  obtain ⟨⟨uid, hcreated⟩, hcluster⟩ := h p hp (hcont.key.symm.trans hkey)
  have hcluster' := (clusterOf_continues hcont).trans hcluster
  refine ⟨⟨uid, ?_⟩, hcluster'⟩
  rw [hrely.created leaf rfl p' hp' hkey hcluster', hcont.uid]
  exact hcreated

theorem gone_stable : (st.rules (.leaf leaf nn)).Stable (st.Gone leaf nn) := by
  intro s s' h hrely p' hp' hkey
  obtain ⟨p, hp, hcont⟩ := hrely.root p' hp' (.inl hkey)
  obtain ⟨uid, hcreated, huid, hcluster, hgone⟩ := h p hp (hcont.key.symm.trans hkey)
  have hcluster' := (clusterOf_continues hcont).trans hcluster
  refine ⟨uid, ?_, Nat.lt_of_lt_of_le huid hrely.nextUid, hcluster', fun x' hx' hleaf heq => ?_⟩
  · rw [hrely.created leaf rfl p' hp' hkey hcluster', hcont.uid]
    exact hcreated
  · obtain ⟨x, hx, hxcont⟩ := hrely.leaf x' hx' (heq ▸ huid)
    refine hgone x hx ?_ (hxcont.uid.symm.trans heq)
    exact (congrArg Prod.fst hxcont.key).symm.trans hleaf

end Stable

/-! ## The reconciles -/

section Reconciles

variable {st : Setting} {t : Task} {P : PodState → Prop} {α : Type}
  {Q : α → PodState → Prop} {nn : NamespacedName} {lr : LeafResource}

section Calls

variable (hP : (st.rules t).Stable P)
include hP

theorem holds_keep {op : PodOp} {f : op.Res → PodProg α} (N : op.Res → Prop)
    (hN : ∀ a s, N (st.exec a s op s).1) (hop : op.creates = none)
    (hallowed : ∀ s, P s → st.Allowed op s) (hf : ∀ r, N r → (st.rules t).Holds Q (f r) P) :
    (st.rules t).Holds Q (ask op >>= f) P := by
  refine .ask (fun r s => P s ∧ N r) (fun r => hP.and fun _ _ h _ => h) hallowed ?_
    fun r => .of_fact (hf r)
  intro s r s' hs ⟨_, a, heq⟩
  have hshrinks : Shrinks s (st.exec a s op s).2 := exec_shrinks (hallowed s hs) hop
  have hanswer := hN a s
  rw [heq] at hshrinks hanswer
  exact ⟨hP s s' hs hshrinks.rely, hanswer⟩

theorem holds_any {op : PodOp} {f : op.Res → PodProg α} (hop : op.creates = none)
    (hallowed : ∀ s, P s → st.Allowed op s)
    (hf : ∀ r, (st.rules t).Holds Q (f r) P) : (st.rules t).Holds Q (ask op >>= f) P :=
  holds_keep hP (fun _ => True) (fun _ _ => trivial) hop hallowed fun r _ => hf r

theorem deletePodInRootCluster_holds
    (hdel : ∀ s, P s → ∀ p ∈ s.root.objects, p.key = nn → st.MayDelete s p) :
    (st.rules t).Holds (fun _ => P) (deletePodInRootCluster nn) P := by
  unfold deletePodInRootCluster
  refine holds_keep hP (fun r => ∀ rPod, r = .ok rPod → rPod.key = nn) ?_ rfl
    (fun _ _ => trivial) fun r hr => ?_
  · intro a s rPod h
    exact (Store.get?_eq_some.mp (attempt_found_ok h)).2
  · split
    · exact .pure fun _ => id
    · exact .pure fun _ => id
    · rename_i rPod
      rw [hr rPod rfl]
      refine holds_any hP rfl hdel fun r => ?_
      split <;> exact .pure fun _ => id

theorem cleanRootPod_holds {cleanflag : Bool}
    (hdel : cleanflag = true → ∀ s, P s → ∀ p ∈ s.root.objects, p.key = nn → st.MayDelete s p) :
    (st.rules t).Holds (fun _ => P) (cleanRootPod nn cleanflag) P := by
  unfold cleanRootPod
  split
  next hflag => exact deletePodInRootCluster_holds hP (hdel hflag)
  · exact .pure fun _ => id

theorem getLeafPod_holds {lcr : LeafClientResource} {f : Except ApiError Pod → PodProg α}
    (ht : t.nn = nn) (herror : ∀ err, (st.rules t).Holds Q (f (.error err)) P)
    (hfound : ∀ leafPod, leafPod.key = nn → (st.rules t).Holds Q (f (.ok leafPod)) fun s =>
      P s ∧ (isKosmosPod leafPod = true → AllLabelled lcr.cluster nn s)) :
    (st.rules t).Holds Q (ask (.getLeafPod lcr nn) >>= f) P := by
  refine .ask (fun r s => P s ∧ ∀ leafPod, r = .ok leafPod → leafPod.key = nn ∧
    (isKosmosPod leafPod = true → AllLabelled lcr.cluster nn s)) ?_ (fun _ _ => trivial) ?_ ?_
  · intro r s s' hs hrely
    refine ⟨hP s s' hs.1 hrely, fun leafPod h => ⟨(hs.2 leafPod h).1, fun hk => ?_⟩⟩
    exact allLabelled_stable ht s s' ((hs.2 leafPod h).2 hk) hrely
  · intro s r s' hs ⟨_, a, heq⟩
    cases heq
    refine ⟨hs, fun leafPod h => ?_⟩
    obtain ⟨x, hx, hpod⟩ := Option.map_eq_some_iff.mp (attempt_found_ok h)
    obtain ⟨hmem, hkey⟩ := Store.get?_eq_some.mp hx
    rw [← hpod]
    refine ⟨congrArg Prod.snd hkey, fun hk y hy hykey => ?_⟩
    have hyx := (Store.get?_eq_some.mpr ⟨hy, hykey⟩).symm.trans hx
    rw [Option.some.inj hyx]
    exact hk
  · intro r
    cases r with
    | error err => exact (herror err).mono fun s hs => hs.1
    | ok leafPod =>
      refine Rules.Holds.mono (.of_fact (hfound leafPod)) fun s hs => ?_
      exact ⟨⟨hs.1, (hs.2 leafPod rfl).2⟩, (hs.2 leafPod rfl).1⟩

theorem deletePodInLeafCluster_holds {cleanflag : Bool} (ht : t.nn = nn)
    (hdel : cleanflag = true → ∀ s, P s → ∀ p ∈ s.root.objects, p.key = nn → st.MayDelete s p) :
    (st.rules t).Holds (fun _ => P) (deletePodInLeafCluster lr nn cleanflag) P := by
  unfold deletePodInLeafCluster
  refine holds_any hP rfl (fun _ _ => trivial) fun r => ?_
  split
  · exact .pure fun _ => id
  · rename_i lcr
    refine getLeafPod_holds hP ht (fun err => ?_) fun leafPod hkey => ?_
    · cases err with
      | notFound => exact cleanRootPod_holds hP hdel
      | alreadyExists => exact .pure fun _ => id
      | other msg => exact .pure fun _ => id
    · by_cases hk : isKosmosPod leafPod = true
      · have hlabelled : (st.rules t).Stable (AllLabelled lcr.cluster nn) := allLabelled_stable ht
        have hboth := hP.and hlabelled
        show (st.rules t).Holds _ (ite _ _ _) _
        rw [if_neg (not_not.mpr hk), hkey]
        refine Rules.Holds.mono ?_ fun s hs => (⟨hs.1, hs.2 hk⟩ : P s ∧ AllLabelled _ nn s)
        refine holds_any hboth rfl (fun _ _ => trivial) fun current => ?_
        refine holds_any hboth rfl (fun s hs => hs.2) fun r => ?_
        split
        · exact (cleanRootPod_holds hP hdel).mono fun s hs => hs.1
        · exact .pure fun s hs => hs.1
      · show (st.rules t).Holds _ (ite _ _ _) _
        rw [if_pos hk]
        exact .pure fun s hs => hs.1

theorem leafClientResource_holds {f : Outcome LeafClientResource → PodProg α}
    (herror : ∀ stop, (st.rules t).Holds Q (f (.error stop)) P)
    (hok : ∀ lcr, leafClientResource st.clients lr = .ok lcr →
      (st.rules t).Holds Q (f (.ok lcr)) P) :
    (st.rules t).Holds Q (ask (.leafClientResource lr) >>= f) P := by
  refine holds_keep hP (fun r => r = leafClientResource st.clients lr) (fun _ _ => rfl) rfl
    (fun _ _ => trivial) fun r hr => ?_
  cases r with
  | error stop => exact herror stop
  | ok lcr => exact hok lcr hr.symm

theorem createNs_holds {lcr : LeafClientResource} {ns : String} :
    (st.rules t).Holds (fun _ => P) (createNs lcr ns) P := by
  unfold createNs
  refine holds_any hP rfl (fun _ _ => trivial) fun r => ?_
  split
  · exact .pure fun _ => id
  · refine holds_any hP rfl (fun _ _ => trivial) fun r => ?_
    split <;> exact .pure fun _ => id
  · exact .pure fun _ => id

theorem leafNodeSelector_holds {nodeName : String} :
    (st.rules t).Holds (fun _ => P) (RootPodReconciler.leafNodeSelector nodeName) P := by
  unfold RootPodReconciler.leafNodeSelector
  refine holds_any hP rfl (fun _ _ => trivial) fun read => .ofOutcome fun clusterNode _ => ?_
  exact .ofOutcome fun e _ => .pure fun _ => id

theorem sendUpdate_holds :
    ∀ {podCopy : Option Pod}, (∀ pod, podCopy = some pod → isKosmosPod pod = true ∧
      ∀ s, P s → ∀ lcr, leafClientResource st.clients lr = .ok lcr →
        AllLabelled lcr.cluster pod.key s) →
      (st.rules t).Holds (fun _ _ => True) (sendUpdate lr podCopy) P
  | none, _ => .pure fun _ _ => trivial
  | some pod, h => by
    obtain ⟨hlabel, hall⟩ := h pod rfl
    unfold sendUpdate
    refine holds_any hP rfl (fun _ _ => trivial) fun spec => ?_
    refine leafClientResource_holds hP (fun stop => .pure fun _ _ => trivial) fun lcr hlcr => ?_
    refine holds_any hP rfl (fun s hs => ⟨hlabel, fun x hx hxkey _ => ?_⟩) fun res =>
      .pure fun _ _ => trivial
    exact hall s hs lcr hlcr x hx hxkey

theorem nodeFilter_holds {nodeName : String} :
    (st.rules t).Holds (fun _ => P) (RootPodReconciler.nodeFilter nodeName) P := by
  unfold RootPodReconciler.nodeFilter
  split
  · exact .pure fun _ => id
  · refine holds_any hP rfl (fun _ _ => trivial) fun r => ?_
    split
    · exact .pure fun _ => id
    · split <;> exact .pure fun _ => id

end Calls

abbrev Free : PodResult → PodState → Prop := fun _ _ => True

theorem free_stable : (st.rules t).Stable fun _ => True := fun _ _ _ _ => trivial

theorem deleteInLeaves_holds (ht : t.nn = nn) :
    ∀ nodeNames : List String, (st.rules t).Holds Free
      (RootPodReconciler.deleteInLeaves nn nodeNames) fun _ => True
  | [] => .pure fun _ => id
  | nodeName :: nodeNames => by
    unfold RootPodReconciler.deleteInLeaves
    refine holds_any free_stable rfl (fun _ _ => trivial) fun r => ?_
    split
    · exact .pure fun _ => id
    · refine (deletePodInLeafCluster_holds free_stable ht
        fun h => absurd h Bool.false_ne_true).bind fun res => ?_
      split
      · exact .pure fun _ => id
      · exact deleteInLeaves_holds ht nodeNames

section Sync

variable {p : Pod} (ht : t.nn = nn) (hkey : p.key = nn)
  (hleaf : getLeafResourceByNodeName st.leaves p.spec.nodeName = .ok lr)

include hleaf in
theorem clusterOf_eq {lcr : LeafClientResource}
    (hclient : leafClientResource st.clients lr = .ok lcr) :
    st.clusterOf p = some lcr.cluster := by
  simp only [Setting.clusterOf, hleaf, hclient]

include ht hkey hleaf in
theorem placePod_holds {basicPod : Pod} {clusterNodeInfo : ClusterNode}
    (hlabel : isKosmosPod basicPod = true) (hname : basicPod.key = p.key) :
    (st.rules t).Holds (fun _ _ => True) (placePod lr basicPod clusterNodeInfo p.uid)
      (st.Knows nn p) := by
  have hP : (st.rules t).Stable (st.Knows nn p) := knows_stable ht
  unfold placePod
  refine leafClientResource_holds hP (fun stop => .pure fun _ _ => trivial) fun lcr hlcr => ?_
  refine (createNs_holds hP).bind fun res => ?_
  cases res with
  | error err => exact .pure fun _ _ => trivial
  | ok u =>
    refine holds_any hP rfl (fun _ _ => trivial) fun r => ?_
    cases r with
    | error err => exact .pure fun _ _ => trivial
    | ok u =>
      refine holds_any hP rfl (fun _ _ => trivial) fun spec => ?_
      refine .ask (fun _ _ => True) (fun _ => free_stable) (fun s hs => ?_)
        (fun _ _ _ _ _ => trivial) fun res => .pure fun _ _ => trivial
      refine ⟨hlabel, hs.uid, fun q hq hor => ?_⟩
      have hthis : basicPod.key = nn := hname.trans hkey
      show q.key = basicPod.key ∧ _
      rw [hthis]
      obtain ⟨hqk, hqu, hcluster, -⟩ := hs.same q hq (hor.imp_left (·.trans hthis))
      exact ⟨hqk, hqu, hcluster.trans (clusterOf_eq hleaf hlcr)⟩

include ht hkey hleaf in
theorem createPodInLeafCluster_holds {nodeSelector : NodeSelector} :
    (st.rules t).Holds (fun _ _ => True) (createPodInLeafCluster st.json lr p nodeSelector)
      (st.Knows nn p) := by
  have hP : (st.rules t).Stable (st.Knows nn p) := knows_stable ht
  unfold createPodInLeafCluster
  refine holds_any hP rfl (fun _ _ => trivial) fun r => ?_
  cases r with
  | error err => exact .pure fun _ _ => trivial
  | ok u =>
    refine holds_any hP rfl (fun _ _ => trivial) fun read => .ofOutcome fun clusterNode _ => ?_
    cases clusterNode with
    | none => exact .pure fun _ _ => trivial
    | some clusterNodeInfo =>
      refine holds_any hP rfl (fun _ _ => trivial) fun order => ?_
      refine .ofOutcome fun basicPod hfit => ?_
      obtain ⟨hlabel, hname⟩ := fitPod_sent hfit
      refine holds_any hP rfl (fun _ _ => trivial) fun mutated => ?_
      exact placePod_holds ht hkey hleaf hlabel hname

theorem updatePodInLeafCluster_holds {nodeSelector : NodeSelector} {leafPod : Pod}
    {lcr : LeafClientResource} (ht : t.nn = nn)
    (hlcr : leafClientResource st.clients lr = .ok lcr) (hname : leafPod.key = nn) :
    (st.rules t).Holds (fun _ _ => True)
      (updatePodInLeafCluster st.json lr p leafPod nodeSelector)
      fun s => isKosmosPod leafPod = true → AllLabelled lcr.cluster nn s := by
  unfold updatePodInLeafCluster
  by_cases hk : isKosmosPod leafPod = true
  · rw [if_neg (not_not.mpr hk)]
    have hP : (st.rules t).Stable (AllLabelled lcr.cluster nn) := allLabelled_stable ht
    refine Rules.Holds.mono ?_ fun s hs => hs hk
    refine holds_any hP rfl (fun _ _ => trivial) fun read => .ofOutcome fun clusterNode _ => ?_
    cases clusterNode with
    | none => exact .pure fun _ _ => trivial
    | some clusterNodeInfo =>
      refine holds_any hP rfl (fun _ _ => trivial) fun order => ?_
      refine .ofOutcome fun podCopy hcopy => sendUpdate_holds hP fun pod hpod => ?_
      rw [hpod] at hcopy
      obtain ⟨hlabel, hkey, -⟩ := podToUpdate_sent hcopy
      refine ⟨hlabel, fun s hs lcr' hlcr' => ?_⟩
      cases hlcr.symm.trans hlcr'
      rw [hkey, hname]
      exact hs
  · rw [if_pos hk]
    exact .pure fun _ _ => trivial

include ht hkey hleaf in
theorem syncPod_holds :
    (st.rules t).Holds Free (RootPodReconciler.syncPod st.json nn lr p) (st.Knows nn p) := by
  have hP : (st.rules t).Stable (st.Knows nn p) := knows_stable ht
  unfold RootPodReconciler.syncPod
  refine leafClientResource_holds hP (fun stop => .pure fun _ _ => trivial) fun lcr hlcr => ?_
  refine getLeafPod_holds hP ht (fun err => ?_) fun leafPod hname => ?_
  · cases err with
    | notFound =>
      refine (leafNodeSelector_holds hP).bind fun nodeSelector => ?_
      exact (createPodInLeafCluster_holds ht hkey hleaf).bind fun res => .pure fun _ => id
    | alreadyExists => exact .pure fun _ _ => trivial
    | other msg => exact .pure fun _ _ => trivial
  · show (st.rules t).Holds _ (ite _ _ _) _
    split
    · have hlabelled : (st.rules t).Stable (AllLabelled lcr.cluster nn) := allLabelled_stable ht
      have hP' := hlabelled.imp (N := isKosmosPod leafPod = true)
      refine Rules.Holds.mono ?_ fun s hs => hs.2
      refine (leafNodeSelector_holds hP').bind fun nodeSelector => ?_
      exact (updatePodInLeafCluster_holds ht hlcr hname).bind fun res => .pure fun _ => id
    · exact .pure fun _ _ => trivial

include ht hkey in
theorem reconcilePod_holds :
    (st.rules t).Holds Free (RootPodReconciler.reconcilePod st.json nn p) (st.Knows nn p) := by
  have hP : (st.rules t).Stable (st.Knows nn p) := knows_stable ht
  unfold RootPodReconciler.reconcilePod
  refine holds_any hP rfl (fun _ _ => trivial) fun read => .ofOutcome fun has _ => ?_
  cases has with
  | false => exact .pure fun _ _ => trivial
  | true =>
    rw [if_pos rfl]
    refine holds_keep hP (fun r => r = getLeafResourceByNodeName st.leaves p.spec.nodeName)
      (fun _ _ => rfl) rfl (fun _ _ => trivial) fun r hr => ?_
    cases r with
    | error stop => exact .pure fun _ _ => trivial
    | ok lr =>
      show (st.rules t).Holds _ (ite _ _ _) _
      split
      next hterm =>
        refine (deletePodInLeafCluster_holds hP ht fun _ s hs q hq hqk => ?_).bind fun res =>
          .pure fun _ _ => trivial
        exact .inl ((hs.same q hq (.inl hqk)).2.2.2 hterm)
      · exact syncPod_holds ht hkey hr.symm

end Sync

theorem rootReconcile_holds (nn : NamespacedName) :
    (st.rules (.root nn)).Holds Free (RootPodReconciler.reconcile st.json nn) fun _ => True := by
  unfold RootPodReconciler.reconcile
  refine .ask (fun r s => ∀ p, r = .ok p → p.key = nn ∧ st.Knows nn p s) ?_
    (fun _ _ => trivial) ?_ fun r => ?_
  · intro r s s' hs hrely p hp
    exact ⟨(hs p hp).1, knows_stable rfl s s' (hs p hp).2 hrely⟩
  · intro s r s' _ ⟨hinv, a, heq⟩ p hp
    cases heq
    obtain ⟨hmem, hkey⟩ := Store.get?_eq_some.mp (attempt_found_ok hp)
    refine ⟨hkey, hinv.rootUid p hmem, fun q hq hor => ?_⟩
    have hqkey : q.key = nn := by
      rcases hor with h | h
      · exact h
      · exact (hinv.distinct q hq p hmem h).trans hkey
    have hqp := (Store.get?_eq_some.mpr ⟨hq, hqkey⟩).symm.trans
      (Store.get?_eq_some.mpr ⟨hmem, hkey⟩)
    rw [Option.some.inj hqp]
    exact ⟨hkey, rfl, rfl, id⟩
  · cases r with
    | error err =>
      cases err with
      | notFound =>
        refine Rules.Holds.mono ?_ fun _ _ => trivial
        refine holds_any free_stable rfl (fun _ _ => trivial) fun nodeNames => ?_
        exact deleteInLeaves_holds rfl nodeNames
      | alreadyExists => exact .pure fun _ _ => trivial
      | other msg => exact .pure fun _ _ => trivial
    | ok p =>
      refine Rules.Holds.mono (.of_fact fun hkey => ?_) fun s hs => (hs p rfl).symm
      refine (nodeFilter_holds (knows_stable rfl)).bind fun res => ?_
      cases res with
      | some result => exact .pure fun _ _ => trivial
      | none => exact reconcilePod_holds rfl hkey

theorem leafReconcile_holds (leaf : String) (nn : NamespacedName) :
    (st.rules (.leaf leaf nn)).Holds (fun _ => st.Asked leaf nn)
      (LeafPodReconciler.reconcile leaf nn) (st.Asked leaf nn) := by
  unfold LeafPodReconciler.reconcile
  refine .ask (fun r s => st.Asked leaf nn s ∧ (r = .error .notFound → st.Gone leaf nn s)) ?_
    (fun _ _ => trivial) ?_ fun r => ?_
  · exact fun r => asked_stable.and gone_stable.imp
  · intro s r s' hs ⟨hinv, a, heq⟩
    cases heq
    refine ⟨hs, fun h p hp hkey => ?_⟩
    have hnone := Option.map_eq_none_iff.mp (attempt_found_notFound h)
    obtain ⟨⟨uid, hcreated⟩, hcluster⟩ := hs p hp hkey
    refine ⟨uid, hcreated, (hinv.createdUid _ _ _ hcreated).2, hcluster, fun x hx hleaf huid => ?_⟩
    rw [← hleaf, ← huid] at hcreated
    refine Store.get?_eq_none.mp hnone x hx ?_
    show (x.leaf, x.pod.key) = (leaf, nn)
    rw [hleaf, hinv.named p hp x hx hcreated, hkey]
  · cases r with
    | error err =>
      cases err with
      | notFound =>
        refine Rules.Holds.mono ?_ fun s hs => hs.2 rfl
        have hgone : (st.rules (.leaf leaf nn)).Stable (st.Gone leaf nn) := gone_stable
        have hdel := deletePodInRootCluster_holds hgone
          fun s hs p hp (hkey : p.key = nn) => by
            obtain ⟨uid, hcreated, -, hcluster, hgone⟩ := hs p hp hkey
            exact .inr ⟨leaf, uid, hcreated, hcluster, hgone⟩
        refine hdel.bind fun res => ?_
        have hasked : ∀ s, st.Gone leaf nn s → st.Asked leaf nn s := by
          intro s hs p hp hkey
          obtain ⟨uid, hcreated, -, hcluster, -⟩ := hs p hp hkey
          exact ⟨⟨uid, hcreated⟩, hcluster⟩
        cases res with
        | error err => exact .pure hasked
        | ok u => exact .pure hasked
      | alreadyExists => exact .pure fun s hs => hs.1
      | other msg => exact .pure fun s hs => hs.1
    | ok pod =>
      refine Rules.Holds.mono ?_ fun s hs => hs.1
      show (st.rules _).Holds _ (ite _ _ _) _
      split
      · refine holds_any asked_stable rfl (fun _ _ => trivial) fun r => ?_
        split <;> exact .pure fun _ => id
      · exact .pure fun _ => id

end Reconciles

/-! ## Runs -/

def Setting.post (st : Setting) : Task → PodResult → PodState → Prop
  | .root _ => Free
  | .leaf leaf nn => fun _ => st.Asked leaf nn

/-- The invariant, and each task at an assertion of its own. -/
structure Setting.WorldInv (st : Setting) (w : PodWorld) : Prop where
  pods : st.Inv w.pods
  tasks : Covered st.rules st.post w.pods w.tasks

section Runs

variable {st : Setting} {w : PodWorld} {s' : PodState}

theorem mem_keys_of_entry {t : Task} {x : PodProg PodResult} (h : (t, x) ∈ w.tasks.entries) :
    t ∈ w.tasks.keys :=
  List.mem_map_of_mem h

theorem Shrinks.worldInv (h : Shrinks w.pods s') (hw : st.WorldInv w) :
    st.WorldInv { w with pods := s' } :=
  ⟨h.inv hw.pods, hw.tasks.others fun _ _ _ => h.rely⟩

section Step

variable (hw : st.WorldInv w)
include hw

theorem user_worldInv {x : Except ApiError PodState}
    (h : ∀ s', x = .ok s' → st.WorldInv { w with pods := s' }) : st.WorldInv (w.user x) := by
  cases x with
  | ok s' => exact h s' rfl
  | error err => exact hw

theorem createRoot_worldInv {pod : Pod} (hsafe : w.Safe (.createRoot pod)) :
    st.WorldInv (w.user (w.pods.createRoot pod)) := by
  refine user_worldInv hw fun s' h => ⟨createRoot_inv hw.pods h hsafe.1 hsafe.2.1, ?_⟩
  exact hw.tasks.others fun t x ht => createRoot_rely h (hsafe.2.2 t (mem_keys_of_entry ht))

theorem createLeaf_worldInv {leaf : String} {pod : Pod} (hsafe : w.Safe (.createLeaf leaf pod)) :
    st.WorldInv (w.user (w.pods.createLeaf leaf pod)) := by
  refine user_worldInv hw fun s' h => ⟨createLeaf_inv hw.pods h hsafe.1, ?_⟩
  refine hw.tasks.others fun t x ht => ?_
  refine createLeaf_rely h (fun _ => hsafe.2 t (mem_keys_of_entry ht)) ?_
  rw [(createLeaf_mem h).2.2]
  exact fun _ _ _ _ _ _ => rfl

theorem startRoot_worldInv {nn : NamespacedName} : st.WorldInv (w.startRoot st nn) := by
  unfold PodWorld.startRoot
  split
  · exact hw
  · refine ⟨hw.pods, hw.tasks.start _ free_stable trivial ?_⟩
    exact rootReconcile_holds nn

theorem startLeaf_worldInv {leaf : String} {nn : NamespacedName} :
    st.WorldInv (w.startLeaf leaf nn) := by
  unfold PodWorld.startLeaf
  split
  next hreq =>
    have hshrinks : Shrinks w.pods
        { w.pods with requests := w.pods.requests.erase (leaf, nn) } :=
      { Shrinks.refl w.pods with requests := fun r hr => .inl (List.mem_of_mem_erase hr) }
    have hw' := hshrinks.worldInv hw
    refine ⟨hw'.pods, hw'.tasks.start _ asked_stable ?_ (leafReconcile_holds leaf nn)⟩
    exact fun p hp hkey => hw.pods.asked p hp (leaf, nn) hreq.1 hkey.symm
  · exact hw

theorem call_worldInv {task : Task} {reply : Reply} (hsafe : w.Safe (.call task reply))
    (hcurrent : w.ReadsCurrent (.call task reply)) :
    st.WorldInv (w.call st task reply) ∧
      st.RightFrom w.pods (w.call st task reply).pods := by
  unfold PodWorld.call
  split
  next op next htask =>
    have hallowed : st.Allowed op w.pods := hw.tasks.allowed htask
    have hnext : (w.tasks.get? task).bind nextCall = some op := by
      rw [htask]
      rfl
    rw [exec_of_current (hcurrent op hnext)]
    refine ⟨⟨exec_inv hw.pods hallowed, ?_⟩, exec_rightFrom hallowed⟩
    refine hw.tasks.answer htask ⟨hw.pods, reply, rfl⟩ fun t x ht _ => exec_rely hallowed ?_
    intro y hy heq
    have hcreates : y ∈ ((w.tasks.get? task).bind nextCall).bind PodOp.creates := by
      rw [hnext]
      exact hy
    exact hsafe y hcreates (heq ▸ mem_keys_of_entry ht)
  · exact ⟨hw, rightFrom_refl⟩

theorem requeued_worldInv {task : Task} {result : PodResult}
    (hpost : st.post task result w.pods) :
    st.WorldInv { w with pods := requeued w.pods task result } := by
  cases task with
  | root nn => exact hw
  | leaf leaf nn =>
    unfold requeued
    by_cases hagain : result.requeueAfter = 0
    · simp only [if_pos hagain]
      exact hw
    · simp only [if_neg hagain]
      refine ⟨{ hw.pods with asked := fun p hp r hr hkey => ?_ }, ?_⟩
      · rcases List.mem_append.mp hr with hold | hnew
        · exact hw.pods.asked p hp r hold hkey
        · rw [List.mem_singleton.mp hnew] at hkey ⊢
          exact hpost p hp hkey.symm
      · -- the requests are of no concern to the tasks
        refine hw.tasks.others fun t x _ => ?_
        exact { (Shrinks.refl w.pods).rely with }

theorem finish_worldInv {task : Task} : st.WorldInv (w.finish task) := by
  unfold PodWorld.finish
  split
  next result htask =>
    have hw' := requeued_worldInv hw (hw.tasks.returned htask)
    exact ⟨hw'.pods, hw'.tasks.finish⟩
  · exact hw

theorem restart_worldInv : st.WorldInv w.restart := by
  have hshrinks : Shrinks w.pods w.restart.pods := by
    refine { Shrinks.refl w.pods with requests := fun r hr => .inr ?_ }
    obtain ⟨x, hx, heq⟩ := List.mem_map.mp hr
    rw [List.mem_filter] at hx
    exact ⟨x, hx.1, hx.2, heq.symm⟩
  exact ⟨hshrinks.inv hw.pods, fun t x ht => nomatch ht⟩

theorem next_worldInv (e : PodEvent) (hsafe : w.Safe e) (hcurrent : w.ReadsCurrent e) :
    st.WorldInv (w.next st e) ∧ st.DeletesRight ⟨w, e, (), w.next st e⟩ := by
  cases e with
  | call task reply =>
    obtain ⟨hw', hright⟩ := call_worldInv hw hsafe hcurrent
    exact ⟨hw', fun _ _ _ => hright⟩
  | createRoot pod => exact ⟨createRoot_worldInv hw hsafe, fun _ _ h => nomatch h⟩
  | createLeaf leaf pod => exact ⟨createLeaf_worldInv hw hsafe, fun _ _ h => nomatch h⟩
  | terminateRoot nn time =>
    refine ⟨user_worldInv hw fun s' h => ?_, fun _ _ h => nomatch h⟩
    exact (updateRoot_shrinks h fun p => p.terminate_continues _ _).worldInv hw
  | removeRoot nn =>
    exact ⟨user_worldInv hw fun s' h => (removeRoot_shrinks h).worldInv hw, fun _ _ h => nomatch h⟩
  | terminateLeaf leaf nn time =>
    refine ⟨user_worldInv hw fun s' h => ?_, fun _ _ h => nomatch h⟩
    exact (terminateLeaf_shrinks h).worldInv hw
  | removeLeaf leaf nn =>
    exact ⟨user_worldInv hw fun s' h => (removeLeaf_shrinks h).worldInv hw, fun _ _ h => nomatch h⟩
  | notify leaf nn => exact ⟨notified_shrinks.worldInv hw, fun _ _ h => nomatch h⟩
  | startRoot nn => exact ⟨startRoot_worldInv hw, fun _ _ h => nomatch h⟩
  | startLeaf leaf nn => exact ⟨startLeaf_worldInv hw, fun _ _ h => nomatch h⟩
  | finish task => exact ⟨finish_worldInv hw, fun _ _ h => nomatch h⟩
  | restart => exact ⟨restart_worldInv hw, fun _ _ h => nomatch h⟩

end Step

theorem empty_worldInv : st.WorldInv {} where
  pods :=
    { rootUid := fun _ hp => nomatch hp
      leafUid := fun _ hx => nomatch hx
      createdUid := fun _ _ _ h => nomatch h
      distinct := fun _ hp => nomatch hp
      own := fun _ hp => nomatch hp
      named := fun _ hp => nomatch hp
      asked := fun _ hp => nomatch hp }
  tasks := fun _ _ ht => nomatch ht

/-- In a run that meets the condition, with current reads, no pod is deleted that should not,
however the calls interleave. -/
theorem trace_deletesRight (st : Setting) (es : List PodEvent)
    (xs : List (Move PodWorld PodEvent Unit)) (h : trace (PodWorld.step st) {} es = .ok xs)
    (hsafe : ∀ x ∈ xs, x.before.Safe x.event)
    (hcurrent : ∀ x ∈ xs, x.before.ReadsCurrent x.event) : ∀ x ∈ xs, st.DeletesRight x := by
  refine trace_keeps (I := st.WorldInv)
    (A := fun x => x.before.Safe x.event ∧ x.before.ReadsCurrent x.event) ?_ es {} xs
    empty_worldInv h fun x hx => ⟨hsafe x hx, hcurrent x hx⟩
  intro w e r w' hw hstep hmet
  cases hstep
  obtain ⟨hw', hright⟩ := next_worldInv hw e hmet.1 hmet.2
  exact ⟨⟨hw'.pods, hw'.tasks⟩, hright⟩

end Runs

/-! ## A request that is handled late -/

def PodEvent.behind : PodEvent → Nat
  | .call _ reply => reply.behind
  | _ => 0

theorem readsCurrent_of_behind {w : PodWorld} {e : PodEvent} (h : e.behind = 0) :
    w.ReadsCurrent e := by
  cases e with
  | call task reply =>
    intro op _
    have hseen : w.seen reply.behind = w.pods := by
      rw [show reply.behind = 0 from h]
      rfl
    rw [hseen]
    cases op with
    | getRootPod nn => exact rfl
    | getLeafPod lcr nn => exact rfl
    | _ => trivial
  | _ => trivial

def leafNamed (name : String) : String × LeafResource :=
  (name, { cluster := { name }, nodes := [{ nodeName := name, leafMode := .all }] })

def twoLeaves (json : Json) : Setting where
  json
  leaves := [leafNamed "a", leafNamed "b"]
  clients := (GoMap.empty.set "a" { cluster := "a" }).set "b" { cluster := "b" }

def web : NamespacedName := ⟨"default", "web"⟩

def placed (nodeName : String) : List PodEvent :=
  [.createRoot { name := "web", spec := { nodeName } }, .startRoot web] ++
    List.replicate 15 (.call (.root web) {}) ++ [.finish (.root web)]

def deletedInTurn : List PodEvent :=
  placed "kosmos-a" ++ [.terminateRoot web 5, .startRoot web] ++
    List.replicate 7 (.call (.root web) {}) ++ [.finish (.root web), .removeLeaf "a" web,
      .startLeaf "a" web] ++ List.replicate 3 (.call (.leaf "a" web) {})

set_option maxRecDepth 8000 in
theorem deletedInTurn_right :
    ∃ json xs, trace (PodWorld.step (twoLeaves json)) {} deletedInTurn = .ok xs ∧
      ∃ x ∈ xs, x.before.pods.root.objects ≠ [] ∧ x.after.pods.root.objects = [] ∧
        (twoLeaves json).DeletesRight x := by
  have hxs : trace (PodWorld.step (twoLeaves (Classical.choice Json.nonempty))) {}
      deletedInTurn = .ok _ := rfl
  refine ⟨_, _, hxs, _, List.mem_of_getElem? (i := 32) rfl, nofun, rfl, ?_⟩
  refine trace_deletesRight _ deletedInTurn _ hxs ?_ (fun x hx => readsCurrent_of_behind ?_) _
    (List.mem_of_getElem? (i := 32) rfl)
  · decide +kernel
  · have hfresh : ∀ e ∈ deletedInTurn, e.behind = 0 := by decide
    refine hfresh x.event ?_
    rw [← trace_events hxs]
    exact List.mem_map_of_mem hx

def staleRequest : List PodEvent :=
  placed "kosmos-a" ++ [.removeLeaf "a" web, .removeRoot web] ++ placed "kosmos-b" ++
    [.startLeaf "a" web] ++ List.replicate 3 (.call (.leaf "a" web) {})

def staleCache : List PodEvent :=
  placed "kosmos-a" ++ [.removeLeaf "a" web, .startRoot web] ++
    List.replicate 15 (.call (.root web) {}) ++ [.finish (.root web), .startLeaf "a" web,
      .call (.leaf "a" web) { behind := 18 }] ++ List.replicate 2 (.call (.leaf "a" web) {})

set_option maxRecDepth 8000 in
theorem staleRequest_deletesRunning :
    ∃ json, (∃ xs, trace (PodWorld.step (twoLeaves json)) {} staleRequest = .ok xs ∧
        ∃ x ∈ xs, ¬ (twoLeaves json).DeletesRight x) ∧
      ∃ xs, trace (PodWorld.step (twoLeaves json)) {} staleCache = .ok xs ∧
        ∃ x ∈ xs, ¬ (twoLeaves json).DeletesRight x := by
  refine ⟨Classical.choice Json.nonempty, ⟨_, rfl, _, List.mem_of_getElem? (i := 41) rfl, ?_⟩,
    _, rfl, _, List.mem_of_getElem? (i := 39) rfl, ?_⟩
  all_goals
    intro h
    have hmay := (h _ _ rfl).1 _ List.mem_cons_self fun p hp => nomatch hp
    rcases hmay with hterm | ⟨leaf, uid, hcreated, -, hgone⟩
    · cases hterm
    · cases hcreated
      exact hgone _ List.mem_cons_self rfl rfl

end Kosmos.Pods
