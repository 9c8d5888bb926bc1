import Kosmos.Go.Completes
import Kosmos.Tree.LeafPV

/-!
# Where the reconcile of a leaf's volume panics

The values of a hostname requirement and the claim of a volume are read unguarded.
-/

namespace Kosmos.LeafPV

open Go Resources

/-- The affinity has terms, and every requirement on the hostname has a value. -/
def HostnamesGiven (pv : PersistentVolume) : Prop :=
  ∃ terms, pv.nodeAffinity = some (some terms) ∧
    ∀ v ∈ terms, ∀ val ∈ v.matchFields ++ v.matchExpressions,
      isHostname val.key = true → val.values ≠ []

/-- The volume of the leaf is there and stays. -/
def InLeaf (l : LeafPVController) (a : Answers) (name : String) (w : World)
    (pv : PersistentVolume) : Prop :=
  a.leafPV = none ∧ a.rootPV = none ∧
    (w.leaves l.clusterName.val).pvs.get? name = some pv ∧ pv.terminating = false

/-- The root has no such volume, and the claim of the leaf is synced. -/
def Creating (l : LeafPVController) (a : Answers) (name : String) (w : World)
    (pv : PersistentVolume) : Prop :=
  InLeaf l a name w pv ∧ w.root.get? name = none ∧ a.leafPVC = none ∧
    ∃ ref tmpPVC, pv.claimRef = some ref ∧
      (w.leaves l.clusterName.val).pvcs.get? (ref.ns, ref.name) = some tmpPVC ∧
      isObjectGlobal tmpPVC.annotations = true

/-- The volume of the root belongs to the cluster. -/
def Patching (l : LeafPVController) (a : Answers) (name : String) (w : World)
    (pv rootPV : PersistentVolume) : Prop :=
  InLeaf l a name w pv ∧ w.root.get? name = some rootPV ∧
    hasResourceClusters rootPV.annotations l.clusterName.val = true

variable {l : LeafPVController} {a : Answers} {name : String} {w : World}
  {pv rootPV : PersistentVolume}

theorem nodeOfRequirement_completes_iff (node : String) (val : NodeSelectorRequirement) :
    Completes (nodeOfRequirement node val) ↔ (isHostname val.key = true → val.values ≠ []) := by
  unfold nodeOfRequirement
  split
  next hhost =>
    rw [completes_index, List.length_pos_iff]
    exact ⟨fun h _ => h, fun h => h hhost⟩
  next hother => exact iff_of_true (completes_ok node) fun hhost => absurd hhost hother

theorem nodeAffinity4RootPV_completes_iff (pv : PersistentVolume) (isOne2OneMode : Bool)
    (clusterName : String) :
    Completes (nodeAffinity4RootPV pv isOne2OneMode clusterName) ↔
      (isOne2OneMode = true → HostnamesGiven pv) := by
  have hterm : ∀ node (v : NodeSelectorTerm),
      Completes (do
        let node ← v.matchFields.foldlM nodeOfRequirement node
        v.matchExpressions.foldlM nodeOfRequirement node) ↔
      ∀ val ∈ v.matchFields ++ v.matchExpressions,
        isHostname val.key = true → val.values ≠ [] := by
    intro node v
    have hreqs : ∀ (vals : List NodeSelectorRequirement) (node : String),
        Completes (vals.foldlM nodeOfRequirement node) ↔
          ∀ val ∈ vals, isHostname val.key = true → val.values ≠ [] := fun vals node =>
      completes_foldlM fun node val _ => nodeOfRequirement_completes_iff node val
    rw [completes_bind_iff fun node' _ => hreqs v.matchExpressions node', hreqs,
      List.forall_mem_append]
  unfold nodeAffinity4RootPV HostnamesGiven
  cases isOne2OneMode with
  | false => simp
  | true =>
    simp only [if_true, forall_const]
    cases hcase : pv.nodeAffinity with
    | none => simp [deref]
    | some required =>
      cases required with
      | none => simp [deref]
      | some terms =>
        simp only [deref_some, ok_bind, Option.some.injEq, exists_eq_left']
        exact completes_foldlM fun node v _ => hterm node v

theorem volumeToCreate_completes_iff (hin : InLeaf l a name w pv)
    (hnone : w.root.get? name = none) :
    Completes (volumeToCreate l a w pv) ↔
      (Creating l a name w pv → l.isOne2OneMode = true → HostnamesGiven pv) := by
  unfold volumeToCreate
  split
  next href =>
    refine iff_of_true (completes_ok _) fun hcreating => ?_
    obtain ⟨-, -, -, ref, _, href', -⟩ := hcreating
    cases href.symm.trans href'
  next ref href =>
    split
    next msg hleafPVC =>
      refine iff_of_true (completes_ok _) fun hcreating => ?_
      cases hleafPVC.symm.trans hcreating.2.2.1
    next hleafPVC =>
      have honly : ∀ ref', pv.claimRef = some ref' → ref' = ref := fun ref' href' =>
        (Option.some.inj (href.symm.trans href')).symm
      split
      next hpvc =>
        refine iff_of_true (completes_ok _) fun hcreating => ?_
        obtain ⟨-, -, -, ref', _, href', hpvc', -⟩ := hcreating
        rw [honly ref' href', hpvc] at hpvc'
        cases hpvc'
      next tmpPVC hpvc =>
        split
        next hglobal =>
          refine iff_of_true (completes_ok _) fun hcreating => ?_
          obtain ⟨-, -, -, ref', tmpPVC', href', hpvc', hglobal'⟩ := hcreating
          rw [honly ref' href', hpvc] at hpvc'
          rw [← Option.some.inj hpvc', hglobal] at hglobal'
          cases hglobal'
        next hglobal =>
          have hcreating : Creating l a name w pv :=
            ⟨hin, hnone, hleafPVC, ref, tmpPVC, href, hpvc, Bool.not_eq_false _ |>.mp hglobal⟩
          rw [forall_prop_of_true hcreating,
            ← nodeAffinity4RootPV_completes_iff pv l.isOne2OneMode l.clusterName.val]
          refine completes_bind_of_rest fun node => ?_
          cases rootClaim a w ref with
          | none => exact completes_ok _
          | some rootPVC => exact completes_ok _

theorem volumeToPatch_completes_iff :
    Completes (volumeToPatch l a w pv rootPV) ↔
      (l.isOne2OneMode = true → HostnamesGiven pv) ∧
        (pv.claimRef.isSome = true ∨ rootPV.claimRef.isSome = true) := by
  unfold volumeToPatch
  rw [completes_bind_iff, nodeAffinity4RootPV_completes_iff]
  intro node _
  show Completes (if pv.claimRef.isSome ∨ rootPV.claimRef.isNone then _ else _) ↔ _
  cases hpv : pv.claimRef with
  | none =>
    cases hroot : rootPV.claimRef with
    | none => simp [deref]
    | some ref => simp
  | some ref =>
    simp only [Option.isSome_some, true_or, if_true, deref_some, ok_bind, iff_true]
    cases rootClaim a w ref with
    | none => simp
    | some rootPVC => simp

theorem reconcile_completes_of_not_inLeaf (h : ∀ pv, ¬ InLeaf l a name w pv) :
    Completes (reconcile l a name w) := by
  unfold reconcile
  split
  · exact completes_ok _
  next hleaf =>
    split
    · exact completes_ok _
    next hroot =>
      have hgone : ((w.leaves l.clusterName.val).pvs.get? name).filter
          (fun pv => !pv.terminating) = none := by
        refine Option.eq_none_iff_forall_ne_some.mpr fun pv hpv => h pv ?_
        exact ⟨hleaf, hroot, filter_terminating_eq_some.mp hpv⟩
      simp only [hgone]
      split
      · exact completes_ok _
      · split
        · exact completes_ok _
        · exact completes_ok _

theorem reconcile_completes_of_absent (hin : InLeaf l a name w pv)
    (hnone : w.root.get? name = none) :
    Completes (reconcile l a name w) ↔ Completes (volumeToCreate l a w pv) := by
  obtain ⟨hleaf, hroot, hpv⟩ := hin
  unfold reconcile
  simp only [hleaf, hroot, hnone, filter_terminating_eq_some.mpr hpv]
  refine completes_bind_of_rest fun created => ?_
  cases created with
  | inl r => exact completes_ok _
  | inr rootPV => exact completes_ok _

theorem reconcile_completes_of_patching (h : Patching l a name w pv rootPV) :
    Completes (reconcile l a name w) ↔ Completes (volumeToPatch l a w pv rootPV) := by
  obtain ⟨⟨hleaf, hroot, hpv⟩, hsome, hown⟩ := h
  unfold reconcile
  simp only [hleaf, hroot, hsome, hown, filter_terminating_eq_some.mpr hpv, Bool.true_eq_false,
    if_false]
  refine completes_bind_of_rest fun pair => ?_
  cases pair with
  | none => exact completes_ok _
  | some pair =>
    dsimp only
    split
    · exact completes_ok _
    · exact completes_ok _

theorem InLeaf.unique {pv' : PersistentVolume} (h : InLeaf l a name w pv)
    (h' : InLeaf l a name w pv') : pv' = pv :=
  (Option.some.inj (h.2.2.1.symm.trans h'.2.2.1)).symm

/-- The reconcile returns exactly if hostnames are given in one-to-one mode, and a patched volume
has a claim. -/
theorem reconcile_completes_iff (l : LeafPVController) (a : Answers) (name : String) (w : World) :
    Completes (reconcile l a name w) ↔
      (∀ pv, Creating l a name w pv → l.isOne2OneMode = true → HostnamesGiven pv) ∧
      ∀ pv rootPV, Patching l a name w pv rootPV →
        (l.isOne2OneMode = true → HostnamesGiven pv) ∧
          (pv.claimRef.isSome = true ∨ rootPV.claimRef.isSome = true) := by
  by_cases hex : ∃ pv, InLeaf l a name w pv
  · obtain ⟨pv, hin⟩ := hex
    cases hget : w.root.get? name with
    | none =>
      rw [reconcile_completes_of_absent hin hget, volumeToCreate_completes_iff hin hget]
      constructor
      · intro h
        refine ⟨fun pv' hcreating => ?_, fun pv' rootPV hpatching => ?_⟩
        · have heq : pv' = pv := hin.unique hcreating.1
          rw [heq] at hcreating ⊢
          exact h hcreating
        · cases hget.symm.trans hpatching.2.1
      · exact fun h => h.1 pv
    | some rootPV =>
      have hnot : ∀ pv', ¬ Creating l a name w pv' := by
        intro pv' hcreating
        cases hget.symm.trans hcreating.2.1
      cases hown : hasResourceClusters rootPV.annotations l.clusterName.val with
      | false =>
        -- the volume of another
        refine iff_of_true ?_ ⟨fun pv' h => absurd h (hnot pv'), fun pv' rootPV' h => ?_⟩
        · simp [reconcile, hin.1, hin.2.1, hget, hown]
        · cases Option.some.inj (hget.symm.trans h.2.1)
          cases hown.symm.trans h.2.2
      | true =>
        rw [reconcile_completes_of_patching ⟨hin, hget, hown⟩, volumeToPatch_completes_iff]
        constructor
        · intro h
          refine ⟨fun pv' hcreating => absurd hcreating (hnot pv'), fun pv' rootPV' hp => ?_⟩
          cases Option.some.inj (hget.symm.trans hp.2.1)
          rw [hin.unique hp.1]
          exact h
        · exact fun h => h.2 pv rootPV ⟨hin, hget, hown⟩
  · have hnot : ∀ pv, ¬ InLeaf l a name w pv := fun pv hin => hex ⟨pv, hin⟩
    refine iff_of_true (reconcile_completes_of_not_inLeaf hnot) ⟨?_, ?_⟩
    · exact fun pv h => absurd h.1 (hnot pv)
    · exact fun pv rootPV h => absurd h.1 (hnot pv)

def releasedVolume : PersistentVolume := { name := "pv-1" }

def releasedRoot : Volumes where
  objects := [{ releasedVolume with
    annotations := some (GoMap.empty.set kosmosResourceOwnersAnnotations "c1") }]
  nodup := List.pairwise_singleton _ _

def releasedLeaf : LeafStorage := ⟨⟨[releasedVolume], List.pairwise_singleton _ _⟩, .empty⟩

theorem reconcile_panics :
    reconcile one2one {} "pv-1" (World.start .empty (claims "root") fun _ => bareLeaf) =
        .error (.panic .nilDeref) ∧
      reconcile member {} "pv-1" (World.start releasedRoot .empty fun _ => releasedLeaf) =
        .error (.panic .nilDeref) :=
  ⟨rfl, rfl⟩

end Kosmos.LeafPV
