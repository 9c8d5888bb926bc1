import Kosmos.Scheduler.VolumeBinding

/-!
# The volumes of a pod: what `FindPodKosmosVolumes` finds

Claims are divided, sorted, matched in part and put together again.
-/

namespace Kosmos.VolumeMatching

open Go VolumeBinding

structure Matching extends Library where
  sorts : ∀ claims, (bySize claims).Perm claims
  unchosen : ∀ {pvc node chosen pv}, findMatchingVolume pvc node chosen = .ok (some pv) →
    pv.name ∉ chosen

section Right

variable (lib : Library) (node : Node) (claims : Claims)

/-- A volume may be found for the claim. -/
def CanBind (claim : Claim) : Prop :=
  claim.owners = none ∧ ∃ chosen pv, lib.findMatchingVolume claim node chosen = .ok (some pv)

/-- The class of the claim provisions volumes for the node. -/
def Provisions (claim : Claim) : Prop :=
  claim.className ≠ "" ∧ ∃ class_, lib.getStorageClass claim.className = .ok class_ ∧
    ¬ (class_.provisioner = "" ∨ class_.provisioner = notSupportedProvisioner) ∧
    class_.allowedTopologies node.labels = true

/-- The claim has no other owner, and its class provisions for the node. -/
def CanProvision (claim : Claim) : Prop :=
  (∀ owners, claim.owners = some owners → owners = ownedByCluster node) ∧
    Provisions lib node claim

/-- What the volumes are to be when nothing stands against the node. -/
structure Kept (volumes : PodVolumes) : Prop where
  once : (volumes.staticBindings.map Prod.fst ++ volumes.dynamicProvisions).Perm claims.claimsToBind
  apart : (volumes.staticBindings.map fun b => b.2.name).Nodup
  owned : ∀ claim ∈ claims.claimsToBind, claim.owners ≠ none →
    claim ∈ volumes.dynamicProvisions ∧ claim ∉ volumes.staticBindings.map Prod.fst
  bound : ∀ claim ∈ claims.boundClaims, ∃ pv, lib.getPV claim.volumeName = .ok pv ∧
    checkKosmosResourceOwner node pv = .ok ()

/-- Without an error or a reason the volumes are right; a claim that cannot be served gives one. -/
def VolumesRight : Prop :=
  (∀ volumes, findPodKosmosVolumes lib node claims = .ok (volumes, []) →
    Kept lib node claims volumes) ∧
  ((∃ claim ∈ claims.claimsToBind, ¬ CanBind lib node claim ∧ ¬ CanProvision lib node claim) →
    (∃ msg, findPodKosmosVolumes lib node claims = .error msg) ∨
    ∃ volumes reasons, findPodKosmosVolumes lib node claims = .ok (volumes, reasons) ∧ reasons ≠ [])

end Right

section Stages

variable {lib : Library} {node : Node}

theorem foldlM_matchVolume (lib : Matching) {l : List Claim} :
    ∀ {bindings bindings' : List (Claim × PersistentVolume)} {unbound unbound' : List Claim}
      {chosen chosen' : List String},
      l.foldlM (matchVolume lib.toLibrary node) (chosen, bindings, unbound) =
        .ok (chosen', bindings', unbound') →
      chosen = (bindings.map fun b => b.2.name).reverse → (bindings.map fun b => b.2.name).Nodup →
      (∀ b ∈ bindings, ∃ chosen pv, lib.findMatchingVolume b.1 node chosen = .ok (some pv)) →
      (bindings'.map Prod.fst ++ unbound').Perm (bindings.map Prod.fst ++ unbound ++ l) ∧
      (bindings'.map fun b => b.2.name).Nodup ∧
      ∀ b ∈ bindings', ∃ chosen pv, lib.findMatchingVolume b.1 node chosen = .ok (some pv) := by
  induction l with
  | nil =>
    intro bindings bindings' unbound unbound' chosen chosen' h hchosen hnodup hfound
    cases h
    exact ⟨by simp, hnodup, hfound⟩
  | cons pvc l ih =>
    intro bindings bindings' unbound unbound' chosen chosen' h hchosen hnodup hfound
    rw [List.foldlM_cons] at h
    obtain ⟨next, hnext, h⟩ := bind_eq_ok h
    obtain ⟨found, hmatch, hnext⟩ := bind_eq_ok hnext
    cases found with
    | none =>
      cases hnext
      obtain ⟨hperm, hrest⟩ := ih h hchosen hnodup hfound
      exact ⟨by simpa using hperm, hrest⟩
    | some pv =>
      cases hnext
      have hnew : pv.name ∉ bindings.map fun b => b.2.name := by
        have hnew := lib.unchosen hmatch
        rwa [hchosen, List.mem_reverse] at hnew
      obtain ⟨hperm, hrest⟩ := ih h (by simp [hchosen])
        (by rw [List.map_append, List.nodup_append_comm]; exact List.nodup_cons.mpr ⟨hnew, hnodup⟩)
        (List.forall_mem_append.mpr ⟨hfound, by simpa using ⟨_, _, hmatch⟩⟩)
      refine ⟨hperm.trans ?_, hrest⟩
      simpa using List.perm_middle.symm.append_left (bindings.map Prod.fst)

theorem checkVolumeProvisions_true {claims dynamicProvisions provisions : List Claim} {space : Bool}
    (h : checkVolumeProvisions lib node dynamicProvisions claims = .ok (true, space, provisions)) :
    provisions = dynamicProvisions ++ claims ∧ ∀ claim ∈ claims, Provisions lib node claim := by
  induction claims generalizing dynamicProvisions with
  | nil =>
    cases h
    simp
  | cons claim claims ih =>
    unfold checkVolumeProvisions at h
    split at h
    · cases h
    next hclass =>
      split at h
      · cases h
      next class_ hget =>
        split at h
        · cases h
        next hprovisioner =>
          split at h
          · cases h
          next htopology =>
            obtain ⟨heq, hrest⟩ := ih h
            rw [List.forall_mem_cons]
            exact ⟨by simp [heq],
              ⟨hclass, class_, hget, hprovisioner, Bool.not_eq_false _ ▸ htopology⟩, hrest⟩

theorem checkClaimsToBind_keeps (lib : Matching) {claims : List Claim} {space : Bool}
    {volumes : PodVolumes}
    (h : checkClaimsToBind lib.toLibrary node claims = .ok (true, space, volumes)) :
    (volumes.staticBindings.map Prod.fst ++ volumes.dynamicProvisions).Perm claims ∧
    (volumes.staticBindings.map fun b => b.2.name).Nodup ∧
    (∀ b ∈ volumes.staticBindings, CanBind lib.toLibrary node b.1) ∧
    ∀ claim ∈ volumes.dynamicProvisions, CanProvision lib.toLibrary node claim := by
  unfold checkClaimsToBind at h
  split at h
  · cases h
  next provision matching hsort =>
    obtain ⟨hclaims, hprovision, hmatching⟩ := sortClaims_some hsort
    obtain ⟨⟨satisfied, bindings, unbound⟩, hfound, h⟩ := bind_eq_ok h
    -- the claims without owners
    obtain ⟨hperm, hnodup, hbind⟩ : (bindings.map Prod.fst ++ unbound).Perm matching ∧
        (bindings.map fun b => b.2.name).Nodup ∧
        ∀ b ∈ bindings, ∃ chosen pv, lib.findMatchingVolume b.1 node chosen = .ok (some pv) := by
      unfold findMatches at hfound
      split at hfound
      next hnone =>
        cases hfound
        simp [hnone]
      · obtain ⟨⟨chosen, bindings', unbound'⟩, hloop, hfound⟩ := bind_eq_ok hfound
        cases hfound
        obtain ⟨hperm, hnodup, hbind⟩ := foldlM_matchVolume lib hloop rfl List.nodup_nil (by simp)
        exact ⟨hperm.trans (by simpa using lib.sorts matching), hnodup, hbind⟩
    have hplain : ∀ claim ∈ bindings.map Prod.fst ++ unbound, claim.owners = none :=
      fun claim hmem => hmatching claim (hperm.mem_iff.mp hmem)
    have hall : (bindings.map Prod.fst ++ (provision ++ unbound)).Perm claims := by
      refine List.Perm.trans ?_ ((hperm.append_left provision).trans hclaims)
      simpa using (List.perm_append_comm_assoc _ _ _)
    have hbound : ∀ b ∈ bindings, CanBind lib.toLibrary node b.1 := fun b hb =>
      ⟨hplain b.1 (List.mem_append_left _ (List.mem_map_of_mem hb)), hbind b hb⟩
    dsimp only at h
    split at h
    next hnone =>
      cases h
      rw [hnone] at hall
      exact ⟨hall, hnodup, hbound, List.forall_mem_nil _⟩
    · obtain ⟨⟨satisfied', space', provisions⟩, hprovisions, h⟩ := bind_eq_ok h
      cases h
      obtain ⟨hall', hclass⟩ := checkVolumeProvisions_true hprovisions
      rw [List.nil_append] at hall'
      subst hall'
      refine ⟨hall, hnodup, hbound, fun claim hmem => ⟨fun owners howners => ?_, hclass claim hmem⟩⟩
      rcases List.mem_append.mp hmem with hmem | hmem
      · exact Option.some.inj (howners.symm.trans (hprovision claim hmem))
      · cases howners.symm.trans (hplain claim (List.mem_append_right _ hmem))

end Stages

/-- No claim is lost or satisfied twice, for every library that sorts by permuting and does not
return a chosen volume. -/
theorem findPodKosmosVolumes_keeps (lib : Matching) (node : Node) (claims : Claims) :
    VolumesRight lib.toLibrary node claims := by
  refine ⟨fun volumes h => ?_, fun ⟨claim, hclaim, hbind, hprovision⟩ => ?_⟩
  · obtain ⟨hbound, space, hbind⟩ := findPodKosmosVolumes_ok h
    obtain ⟨hperm, hnodup, hcan, -⟩ := checkClaimsToBind_keeps lib hbind
    refine ⟨hperm, hnodup, fun claim hclaim howners => ?_, checkBoundClaims_true hbound⟩
    have hnot : claim ∉ volumes.staticBindings.map Prod.fst := by
      intro hmem
      obtain ⟨b, hb, rfl⟩ := List.mem_map.mp hmem
      exact howners (hcan b hb).1
    exact ⟨(List.mem_append.mp (hperm.mem_iff.mpr hclaim)).resolve_left hnot, hnot⟩
  · cases hresult : findPodKosmosVolumes lib.toLibrary node claims with
    | error msg => exact Or.inl ⟨msg, rfl⟩
    | ok result =>
      obtain ⟨volumes, reasons⟩ := result
      refine Or.inr ⟨volumes, reasons, rfl, fun hnil => ?_⟩
      subst hnil
      obtain ⟨-, space, hok⟩ := findPodKosmosVolumes_ok hresult
      obtain ⟨hperm, -, hcan, hcan'⟩ := checkClaimsToBind_keeps lib hok
      rcases List.mem_append.mp (hperm.mem_iff.mpr hclaim) with hmem | hmem
      · obtain ⟨b, hb, rfl⟩ := List.mem_map.mp hmem
        exact hbind (hcan b hb)
      · exact hprovision (hcan' claim hmem)

def oneVolume : Matching where
  getPV := fun name => .ok { name, owners := some "a" }
  getStorageClass := fun _ =>
    .ok { provisioner := "csi.example", allowedTopologies := fun _ => true }
  bySize := List.reverse
  findMatchingVolume := fun _ _ chosen =>
    if "vol" ∈ chosen then .ok none else .ok (some { name := "vol" })
  findPodVolumes := fun _ _ _ => .ok []
  sorts := List.reverse_perm
  unchosen := by
    intro pvc node chosen pv h
    split at h
    · cases h
    next hnot =>
      cases h
      exact hnot

def nodeOfA : Node where
  name := "kosmos-a"
  annotations := GoMap.empty.set kosmosNodeOwnedByClusterAnnotations "a"

def fourClaims : Claims where
  boundClaims := [{ ns := "default", name := "bound", volumeName := "old" }]
  claimsToBind := [
    { ns := "default", name := "owned", className := "fast", owners := some "a" },
    { ns := "default", name := "first", className := "fast" },
    { ns := "default", name := "second", className := "fast" }]

theorem fourClaims_kept : ∃ volumes,
    findPodKosmosVolumes oneVolume.toLibrary nodeOfA fourClaims = .ok (volumes, []) ∧
    (volumes.staticBindings.map fun b => (b.1.name, b.2.name)) = [("second", "vol")] ∧
    volumes.dynamicProvisions.map (·.name) = ["owned", "first"] ∧
    Kept oneVolume.toLibrary nodeOfA fourClaims volumes :=
  ⟨_, rfl, rfl, rfl, (findPodKosmosVolumes_keeps oneVolume nodeOfA fourClaims).1 _ rfl⟩

end Kosmos.VolumeMatching
