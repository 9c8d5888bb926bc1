import Kosmos.Api.Types
import Kosmos.Go.Store
import Kosmos.Go.Strings

/-!
# Volumes of a cluster: the filter of `LeafNodeVolumeBinding`

A pod is kept to the clusters that the annotations of its claims and volumes name.

The listers, the scheduler's binder and the matching of volumes are the library's, and answer as
they like.
-/

namespace Kosmos.VolumeBinding

open Kosmos.Go
open Kosmos.Api (kosmosNodeLabel)

def addResourceClusters (owners : Option String) (clusterName : String) : String :=
  let newowners := (split (owners.getD "") ',').filter fun v => v ≠ ""
  join (if clusterName ∈ newowners then newowners else newowners ++ [clusterName]) ','

def hasResourceClusters (owners : Option String) (clusterName : String) : Bool :=
  (split (owners.getD "") ',').any fun v => v = clusterName

abbrev Labels := GoMap String String

structure Claim where
  ns : String
  name : String
  owners : Option String := none
  volumeName : String := ""
  className : String := ""
  deriving DecidableEq

structure PersistentVolume where
  name : String
  owners : Option String := none
  nodeAffinity : Option (Option (Labels → Except String Bool)) := none

structure StorageClass where
  provisioner : String
  allowedTopologies : Labels → Bool

structure Node where
  name : String
  labels : Labels := .empty
  annotations : GoMap String String := .empty

inductive Reason where
  | nodeConflict
  | bindConflict
  | notEnoughSpace
  | pvNotExist
  deriving DecidableEq

inductive Status where
  | success
  | error (msg : String)
  | unschedulableAndUnresolvable (reasons : List Reason)
  deriving DecidableEq

structure Library where
  getPV : String → Except ApiError PersistentVolume
  getStorageClass : String → Except ApiError StorageClass
  bySize : List Claim → List Claim
  findMatchingVolume : Claim → Node → List String → Except String (Option PersistentVolume)
  findPodVolumes : List Claim → List Claim → Node → Except String (List Reason)

structure PodVolumes where
  staticBindings : List (Claim × PersistentVolume) := []
  dynamicProvisions : List Claim := []

structure Claims where
  boundClaims : List Claim
  claimsToBind : List Claim

def nodeMode : String := "leafNodeMode"

def kosmosNodeOwnedByClusterAnnotations : String := "kosmos-io/owned-by-cluster"

def hasKosmosNodeLabel (node : Node) : Bool :=
  decide (node.labels.get? kosmosNodeLabel = some "true")

def ownedByCluster (node : Node) : String :=
  (node.annotations.get? kosmosNodeOwnedByClusterAnnotations).getD ""

section Checks

variable (lib : Library) (node : Node)

def checkNodeAffinity (pv : PersistentVolume) : Except String Unit :=
  match pv.nodeAffinity with
  | none => .error "node Affinity not specified"
  | some none => .ok ()
  | some (some terms) => do
    if ← terms node.labels then pure () else .error "no matching NodeSelectorTerms"

def checkKosmosResourceOwner (pv : PersistentVolume) : Except String Unit :=
  match pv.owners with
  | none => checkNodeAffinity node pv
  | some clusterOwners =>
    if clusterOwners = ownedByCluster node then .ok ()
    else .error ("the owner cluster " ++ clusterOwners ++
      " of the pv mismatch the owner cluster of " ++ ownedByCluster node ++ " this kosmos node")

def checkBoundClaims : List Claim → Except ApiError (Bool × Bool)
  | [] => .ok (true, true)
  | pvc :: claims =>
    match lib.getPV pvc.volumeName with
    | .error .notFound => .ok (true, false)
    | .error e => .error e
    | .ok pv =>
      match checkKosmosResourceOwner node pv with
      | .error _ => .ok (false, true)
      | .ok _ => checkBoundClaims claims

def sortClaims : List Claim → Option (List Claim × List Claim)
  | [] => some ([], [])
  | claim :: claims =>
    match claim.owners with
    | some clusterOwners =>
      if clusterOwners ≠ ownedByCluster node then none
      else (sortClaims claims).map fun (provision, matching) => (claim :: provision, matching)
    | none => (sortClaims claims).map fun (provision, matching) => (provision, claim :: matching)

def matchVolume : List String × List (Claim × PersistentVolume) × List Claim → Claim →
    Except String (List String × List (Claim × PersistentVolume) × List Claim)
  | (chosen, bindings, unboundClaims), pvc => do
    match ← lib.findMatchingVolume pvc node chosen with
    | none => pure (chosen, bindings, unboundClaims ++ [pvc])
    | some pv => pure (pv.name :: chosen, bindings ++ [(pvc, pv)], unboundClaims)

def findMatchingVolumes (claims : List Claim) :
    Except String (Bool × List (Claim × PersistentVolume) × List Claim) := do
  let (_, bindings, unboundClaims) ← (lib.bySize claims).foldlM (matchVolume lib node) ([], [], [])
  pure (unboundClaims.isEmpty, bindings, unboundClaims)

def notSupportedProvisioner : String := "kubernetes.io/no-provisioner"

def checkVolumeProvisions (dynamicProvisions : List Claim) :
    List Claim → Except String (Bool × Bool × List Claim)
  | [] => .ok (true, true, dynamicProvisions)
  | claim :: claims =>
    if claim.className = "" then
      .error ("no class for claim \"" ++ claim.ns ++ "/" ++ claim.name ++ "\"")
    else
      match lib.getStorageClass claim.className with
      | .error _ => .error ("failed to find storage class \"" ++ claim.className ++ "\"")
      | .ok class_ =>
        if class_.provisioner = "" ∨ class_.provisioner = notSupportedProvisioner then
          .ok (false, true, [])
        else if class_.allowedTopologies node.labels = false then .ok (false, true, [])
        else checkVolumeProvisions (dynamicProvisions ++ [claim]) claims

def findMatches (claimsToFindMatching : List Claim) :
    Except String (Bool × List (Claim × PersistentVolume) × List Claim) :=
  if claimsToFindMatching = [] then .ok (true, [], [])
  else findMatchingVolumes lib node claimsToFindMatching

def checkClaimsToBind (claimsToBind : List Claim) : Except String (Bool × Bool × PodVolumes) :=
  match sortClaims node claimsToBind with
  | none => .ok (false, true, {})
  | some (claimsToProvision, claimsToFindMatching) => do
    let (satisfied, bindings, unboundClaims) ← findMatches lib node claimsToFindMatching
    if claimsToProvision ++ unboundClaims = [] then pure (satisfied, true, ⟨bindings, []⟩)
    else do
      let (satisfied, sufficientStorage, dynamicProvisions) ←
        checkVolumeProvisions lib node [] (claimsToProvision ++ unboundClaims)
      pure (satisfied, sufficientStorage, ⟨bindings, dynamicProvisions⟩)

def apiErrorText : ApiError → String
  | .notFound => "not found"
  | .alreadyExists => "already exists"
  | .other msg => msg

def reasonsOf (boundVolumesSatisfied unboundVolumesSatisfied sufficientStorage
    boundPVsFound : Bool) : List Reason :=
  (if boundVolumesSatisfied then [] else [.nodeConflict]) ++
  (if unboundVolumesSatisfied then [] else [.bindConflict]) ++
  (if sufficientStorage then [] else [.notEnoughSpace]) ++
  (if boundPVsFound then [] else [.pvNotExist])

def findPodKosmosVolumes (claims : Claims) : Except String (PodVolumes × List Reason) :=
  match checkBoundClaims lib node claims.boundClaims with
  | .error e => .error (apiErrorText e)
  | .ok (boundVolumesSatisfied, boundPVsFound) => do
    let (unboundVolumesSatisfied, sufficientStorage, podVolumes) ←
      checkClaimsToBind lib node claims.claimsToBind
    pure (podVolumes, reasonsOf boundVolumesSatisfied unboundVolumesSatisfied sufficientStorage
      boundPVsFound)

def hasKosmosOwnerPVC (claims : Claims) : Bool :=
  (claims.boundClaims.any fun claim => claim.owners.isSome) ||
    claims.claimsToBind.any fun claim => claim.owners.isSome

def one2cluster : Bool := decide (node.annotations.get? nodeMode = some "one2cluster")

def conflicts (claims : Claims) : Except String (List Reason) :=
  if hasKosmosNodeLabel node then
    if one2cluster node then (findPodKosmosVolumes lib node claims).map Prod.snd
    else if claims.boundClaims = [] then .ok []
    else lib.findPodVolumes claims.boundClaims claims.claimsToBind node
  else if hasKosmosOwnerPVC claims then .ok [.nodeConflict]
  else lib.findPodVolumes claims.boundClaims claims.claimsToBind node

def statusOf : Except String (List Reason) → Status
  | .error msg => .error msg
  | .ok [] => .success
  | .ok reasons => .unschedulableAndUnresolvable reasons

def filter (state : Option Claims) : Status :=
  match state with
  | none => .success
  | some claims => statusOf (conflicts lib node claims)

end Checks

structure KosmosNode extends Node where
  cluster : String
  labelled : hasKosmosNodeLabel toNode = true
  owned : annotations.get? kosmosNodeOwnedByClusterAnnotations = some cluster
  plain : ',' ∉ cluster.toList

section Right

variable (lib : Library) (state : Option Claims)

/-- The owners of the claims to bind, and of the volumes of those bound. -/
def AllOwners (P : String → Prop) : Prop :=
  ∀ claims, state = some claims →
    (∀ claim ∈ claims.claimsToBind, ∀ owners, claim.owners = some owners → P owners) ∧
    ∀ claim ∈ claims.boundClaims, ∀ pv, lib.getPV claim.volumeName = .ok pv →
      ∀ owners, pv.owners = some owners → P owners

/-- The cluster is among the owners of all. -/
def Owned (cluster : String) : Prop :=
  AllOwners lib state fun owners => hasResourceClusters (some owners) cluster = true

/-- The cluster is the only owner of all. -/
def OwnedAlone (cluster : String) : Prop := AllOwners lib state fun owners => owners = cluster

def Claim.ownedBy (cluster : String) (claim : Claim) : Claim :=
  { claim with owners := claim.owners.map fun _ => cluster }

def PersistentVolume.ownedBy (cluster : String) (pv : PersistentVolume) : PersistentVolume :=
  { pv with owners := pv.owners.map fun _ => cluster }

def Library.ownedBy (lib : Library) (cluster : String) : Library :=
  { lib with getPV := fun name => (lib.getPV name).map (PersistentVolume.ownedBy cluster) }

def Claims.ownedBy (cluster : String) (claims : Claims) : Claims where
  boundClaims := claims.boundClaims
  claimsToBind := claims.claimsToBind.map (Claim.ownedBy cluster)

/-- The node would be accepted if its cluster owned everything. -/
def FitsOtherwise (node : KosmosNode) : Prop :=
  filter (lib.ownedBy node.cluster) node.toNode (state.map (Claims.ownedBy node.cluster)) =
    .success

/-- A node is accepted for volumes of its cluster, and not refused for those. -/
def VolumesStay (node : KosmosNode) : Prop :=
  (filter lib node.toNode state = .success → Owned lib state node.cluster) ∧
  (one2cluster node.toNode = true → Owned lib state node.cluster →
    FitsOtherwise lib state node → filter lib node.toNode state = .success)

end Right

def ownersAfter (names : List String) : Option String :=
  names.foldl (fun owners n => some (addResourceClusters owners n)) none

def ownerParts (owners : Option String) : List String :=
  (split (owners.getD "") ',').filter fun v => v ≠ ""

variable {owners : Option String} {cluster : String}

theorem mem_ownerParts {v : String} (hv : v ≠ "") :
    v ∈ ownerParts owners ↔ v ∈ split (owners.getD "") ',' := by
  rw [ownerParts, List.mem_filter, decide_eq_true_iff]
  exact and_iff_left hv

theorem split_addResourceClusters {n : String} (hn : ',' ∉ n.toList) :
    split (addResourceClusters owners n) ',' =
      if n ∈ ownerParts owners then ownerParts owners else ownerParts owners ++ [n] := by
  have hold : ∀ v ∈ ownerParts owners, ',' ∉ v.toList := fun v hv =>
    not_mem_of_mem_split (List.mem_filter.mp hv).1
  show split (join (if n ∈ ownerParts owners then ownerParts owners
    else ownerParts owners ++ [n]) ',') ',' = _
  split
  next hin => exact split_join (List.ne_nil_of_mem hin) hold
  · refine split_join (by simp) fun v hv => ?_
    rcases List.mem_append.mp hv with hv | hv
    · exact hold v hv
    · exact List.mem_singleton.mp hv ▸ hn

theorem hasResourceClusters_add {n : String} (hn : n ≠ "" ∧ ',' ∉ n.toList) (hc : cluster ≠ "") :
    hasResourceClusters (some (addResourceClusters owners n)) cluster = true ↔
      hasResourceClusters owners cluster = true ∨ cluster = n := by
  simp only [hasResourceClusters, Option.getD_some, split_addResourceClusters hn.2,
    List.any_eq_true, decide_eq_true_eq, exists_eq_right]
  rw [← mem_ownerParts hc]
  split
  next hin => exact ⟨Or.inl, fun h => h.elim id fun h => h ▸ hin⟩
  · rw [List.mem_append, List.mem_singleton]

section Cluster

variable {lib : Library} {node : Node} {state : Option Claims} {claims : List Claim}

theorem statusOf_success {x : Except String (List Reason)} :
    statusOf x = .success ↔ x = .ok [] := by
  unfold statusOf
  split
  · exact iff_of_false (fun h => nomatch h) (fun h => nomatch h)
  · exact iff_of_true rfl rfl
  next reasons hne =>
    refine iff_of_false (fun h => nomatch h) fun h => ?_
    cases h
    exact hne rfl

theorem reasonsOf_eq_nil {a b c d : Bool} :
    reasonsOf a b c d = [] ↔ a = true ∧ b = true ∧ c = true ∧ d = true := by
  cases a <;> cases b <;> cases c <;> cases d <;> decide

theorem checkKosmosResourceOwner_ok {pv : PersistentVolume} {owners : String}
    (h : checkKosmosResourceOwner node pv = .ok ()) (howners : pv.owners = some owners) :
    owners = ownedByCluster node := by
  unfold checkKosmosResourceOwner at h
  rw [howners] at h
  by_contra hne
  simp only [if_neg hne] at h
  cases h

theorem checkBoundClaims_true (h : checkBoundClaims lib node claims = .ok (true, true)) :
    ∀ claim ∈ claims, ∃ pv, lib.getPV claim.volumeName = .ok pv ∧
      checkKosmosResourceOwner node pv = .ok () := by
  induction claims with
  | nil => exact List.forall_mem_nil _
  | cons pvc claims ih =>
    unfold checkBoundClaims at h
    cases hpv : lib.getPV pvc.volumeName with
    | error e =>
      rw [hpv] at h
      cases e <;> cases h
    | ok pv =>
      simp only [hpv] at h
      cases hcheck : checkKosmosResourceOwner node pv with
      | error msg =>
        rw [hcheck] at h
        cases h
      | ok u =>
        rw [hcheck] at h
        rw [List.forall_mem_cons]
        exact ⟨⟨pv, hpv, hcheck⟩, ih h⟩

theorem sortClaims_some {provision matching : List Claim}
    (h : sortClaims node claims = some (provision, matching)) :
    (provision ++ matching).Perm claims ∧
      (∀ claim ∈ provision, claim.owners = some (ownedByCluster node)) ∧
      ∀ claim ∈ matching, claim.owners = none := by
  induction claims generalizing provision matching with
  | nil =>
    cases h
    simp
  | cons claim claims ih =>
    unfold sortClaims at h
    cases howners : claim.owners with
    | none =>
      rw [howners] at h
      obtain ⟨rest, hrest, heq⟩ := Option.map_eq_some_iff.mp h
      cases heq
      obtain ⟨hperm, hprovision, hmatching⟩ := ih hrest
      exact ⟨List.perm_middle.trans (hperm.cons claim), hprovision,
        List.forall_mem_cons.mpr ⟨howners, hmatching⟩⟩
    | some owners =>
      simp only [howners] at h
      by_cases hne : owners ≠ ownedByCluster node
      · rw [if_pos hne] at h
        cases h
      · rw [if_neg hne] at h
        obtain ⟨rest, hrest, heq⟩ := Option.map_eq_some_iff.mp h
        cases heq
        obtain ⟨hperm, hprovision, hmatching⟩ := ih hrest
        exact ⟨hperm.cons claim,
          List.forall_mem_cons.mpr ⟨howners.trans (congrArg some (not_not.mp hne)), hprovision⟩,
          hmatching⟩

theorem checkClaimsToBind_true {space : Bool} {volumes : PodVolumes}
    (h : checkClaimsToBind lib node claims = .ok (true, space, volumes)) :
    ∀ claim ∈ claims, ∀ owners, claim.owners = some owners → owners = ownedByCluster node := by
  cases hsort : sortClaims node claims with
  | none =>
    unfold checkClaimsToBind at h
    rw [hsort] at h
    cases h
  | some sorted =>
    obtain ⟨hperm, hprovision, hmatching⟩ := sortClaims_some hsort
    intro claim hclaim owners howners
    rcases List.mem_append.mp (hperm.mem_iff.mpr hclaim) with hmem | hmem
    · exact Option.some.inj (howners.symm.trans (hprovision claim hmem))
    · cases howners.symm.trans (hmatching claim hmem)

theorem findPodKosmosVolumes_ok {claims : Claims} {volumes : PodVolumes}
    (h : findPodKosmosVolumes lib node claims = .ok (volumes, [])) :
    checkBoundClaims lib node claims.boundClaims = .ok (true, true) ∧
      ∃ space, checkClaimsToBind lib node claims.claimsToBind = .ok (true, space, volumes) := by
  unfold findPodKosmosVolumes at h
  split at h
  · cases h
  next bound found hbound =>
    obtain ⟨⟨satisfied, space, volumes'⟩, hbind, h⟩ := bind_eq_ok h
    obtain ⟨rfl, hreasons⟩ := Prod.mk.inj (Except.ok.inj h)
    obtain ⟨rfl, rfl, -, rfl⟩ := reasonsOf_eq_nil.mp hreasons
    exact ⟨hbound, space, hbind⟩

end Cluster

section Node

variable {lib : Library} {node : KosmosNode} {state : Option Claims}

theorem ownedByCluster_eq (node : KosmosNode) : ownedByCluster node.toNode = node.cluster := by
  rw [ownedByCluster, node.owned]
  rfl

theorem filter_cluster (h : one2cluster node.toNode = true) :
    filter lib node.toNode state = .success ↔
      ∀ claims, state = some claims →
        ∃ volumes, findPodKosmosVolumes lib node.toNode claims = .ok (volumes, []) := by
  cases state with
  | none => exact iff_of_true rfl (fun _ h => nomatch h)
  | some claims =>
    show statusOf (conflicts lib node.toNode claims) = .success ↔ _
    rw [statusOf_success, conflicts, if_pos node.labelled, if_pos h]
    have hmap : (findPodKosmosVolumes lib node.toNode claims).map Prod.snd = .ok [] ↔
        ∃ volumes, findPodKosmosVolumes lib node.toNode claims = .ok (volumes, []) := by
      rcases findPodKosmosVolumes lib node.toNode claims with e | ⟨volumes, reasons⟩
      · simp [Except.map]
      · simp [Except.map]
    rw [hmap]
    exact ⟨fun h _ heq => Option.some.inj heq ▸ h, fun h => h claims rfl⟩

theorem ownedAlone_of_accepted (h : one2cluster node.toNode = true)
    (haccept : filter lib node.toNode state = .success) :
    OwnedAlone lib state node.cluster := by
  intro claims hstate
  obtain ⟨volumes, hfind⟩ := (filter_cluster h).mp haccept claims hstate
  obtain ⟨hbound, space, hbind⟩ := findPodKosmosVolumes_ok hfind
  rw [← ownedByCluster_eq]
  refine ⟨checkClaimsToBind_true hbind, fun claim hclaim pv hpv owners howners => ?_⟩
  obtain ⟨pv', hpv', hcheck⟩ := checkBoundClaims_true hbound claim hclaim
  cases hpv.symm.trans hpv'
  exact checkKosmosResourceOwner_ok hcheck howners

theorem hasResourceClusters_self (node : KosmosNode) :
    hasResourceClusters (some node.cluster) node.cluster = true := by
  have hsplit : split node.cluster ',' = [node.cluster] := by
    have hjoin := split_join (List.cons_ne_nil node.cluster []) (fun n hn => by
      rw [List.mem_singleton.mp hn]
      exact node.plain)
    rwa [join, List.map_singleton, List.intercalate_singleton, String.ofList_toList] at hjoin
  rw [hasResourceClusters, Option.getD_some, hsplit]
  simp

theorem owned_of_ownedAlone (h : OwnedAlone lib state node.cluster) :
    Owned lib state node.cluster := by
  intro claims hstate
  obtain ⟨hbind, hbound⟩ := h claims hstate
  refine ⟨fun claim hclaim owners howners => ?_, fun claim hclaim pv hpv owners howners => ?_⟩
  · rw [hbind claim hclaim owners howners]
    exact hasResourceClusters_self node
  · rw [hbound claim hclaim pv hpv owners howners]
    exact hasResourceClusters_self node

theorem map_const_owners (h : ∀ v, owners = some v → v = cluster) :
    (owners.map fun _ => cluster) = owners := by
  cases owners with
  | none => rfl
  | some v => rw [Option.map_some, h v rfl]

theorem checkVolumeProvisions_ownedBy (lib : Library) (node : Node) (cluster : String)
    (provisions claims : List Claim) :
    checkVolumeProvisions (lib.ownedBy cluster) node provisions claims =
      checkVolumeProvisions lib node provisions claims := by
  induction claims generalizing provisions with
  | nil => rfl
  | cons claim claims ih =>
    unfold checkVolumeProvisions
    rw [ih]
    rfl

theorem checkClaimsToBind_ownedBy (lib : Library) (node : Node) (cluster : String)
    (claims : List Claim) :
    checkClaimsToBind (lib.ownedBy cluster) node claims = checkClaimsToBind lib node claims := by
  unfold checkClaimsToBind
  simp only [checkVolumeProvisions_ownedBy]
  rfl

theorem checkBoundClaims_ownedBy {lib : Library} {node : Node} {claims : List Claim}
    (h : ∀ claim ∈ claims, ∀ pv, lib.getPV claim.volumeName = .ok pv → ∀ owners, pv.owners = some
      owners → owners = cluster) :
    checkBoundClaims (lib.ownedBy cluster) node claims = checkBoundClaims lib node claims := by
  induction claims with
  | nil => rfl
  | cons pvc claims ih =>
    obtain ⟨hpvc, hclaims⟩ := List.forall_mem_cons.mp h
    have hget : (lib.ownedBy cluster).getPV pvc.volumeName = lib.getPV pvc.volumeName := by
      show (lib.getPV pvc.volumeName).map _ = _
      cases hpv : lib.getPV pvc.volumeName with
      | error e => rfl
      | ok pv =>
        show Except.ok (PersistentVolume.ownedBy cluster pv) = _
        rw [PersistentVolume.ownedBy, map_const_owners (hpvc pv hpv)]
    unfold checkBoundClaims
    rw [hget, ih hclaims]

theorem fitsOtherwise_iff (h : one2cluster node.toNode = true)
    (halone : OwnedAlone lib state node.cluster) :
    FitsOtherwise lib state node ↔ filter lib node.toNode state = .success := by
  unfold FitsOtherwise
  cases state with
  | none => exact iff_of_true rfl rfl
  | some claims =>
    obtain ⟨hbind, hbound⟩ := halone claims rfl
    have hclaims : claims.ownedBy node.cluster = claims := by
      have hmap : claims.claimsToBind.map (Claim.ownedBy node.cluster) = claims.claimsToBind := by
        rw [List.map_congr_left (g := id), List.map_id]
        intro claim hclaim
        rw [Claim.ownedBy, map_const_owners (hbind claim hclaim)]
        rfl
      rw [Claims.ownedBy, hmap]
    rw [Option.map_some, hclaims]
    have hfind : findPodKosmosVolumes (lib.ownedBy node.cluster) node.toNode claims =
        findPodKosmosVolumes lib node.toNode claims := by
      unfold findPodKosmosVolumes
      rw [checkBoundClaims_ownedBy hbound]
      simp only [checkClaimsToBind_ownedBy]
    rw [filter_cluster h, filter_cluster h]
    simp [hfind]

/-- The pod is skipped or new, or the scheduler's binder finds its volumes. -/
def BinderAccepts (lib : Library) (state : Option Claims) (node : KosmosNode) : Prop :=
  ∀ claims, state = some claims → claims.boundClaims = [] ∨
    lib.findPodVolumes claims.boundClaims claims.claimsToBind node.toNode = .ok []

theorem filter_one2one (h : one2cluster node.toNode = false) :
    filter lib node.toNode state = .success ↔ BinderAccepts lib state node := by
  cases state with
  | none => exact iff_of_true rfl (fun _ h => nomatch h)
  | some claims =>
    show statusOf (conflicts lib node.toNode claims) = .success ↔ _
    rw [statusOf_success, conflicts, if_pos node.labelled, h, if_neg Bool.false_ne_true]
    unfold BinderAccepts
    simp only [Option.some.injEq, forall_eq']
    by_cases hnew : claims.boundClaims = []
    · rw [if_pos hnew]
      exact iff_of_true rfl (Or.inl hnew)
    · rw [if_neg hnew]
      exact ⟨Or.inr, fun h => h.resolve_left hnew⟩

/-- Volumes stay in their cluster exactly if the binder's are its own, and shared ones are not
refused. -/
theorem volumesStay_iff (lib : Library) (state : Option Claims) (node : KosmosNode) :
    VolumesStay lib state node ↔
      (one2cluster node.toNode = false → BinderAccepts lib state node →
        Owned lib state node.cluster) ∧
      (one2cluster node.toNode = true → Owned lib state node.cluster →
        FitsOtherwise lib state node → OwnedAlone lib state node.cluster) := by
  unfold VolumesStay
  cases h : one2cluster node.toNode with
  | false =>
    rw [filter_one2one h]
    simp
  | true =>
    constructor
    · intro ⟨_, hfits⟩
      refine ⟨nofun, fun _ howned hfit => ?_⟩
      exact ownedAlone_of_accepted h (hfits rfl howned hfit)
    · intro ⟨_, halone⟩
      refine ⟨fun haccept => owned_of_ownedAlone (ownedAlone_of_accepted h haccept), ?_⟩
      intro _ howned hfit
      exact (fitsOtherwise_iff h (halone rfl howned hfit)).mp hfit

end Node

def sharedVolume : Library where
  getPV := fun _ => .ok { name := "vol", owners := ownersAfter ["a", "b"] }
  getStorageClass := fun _ => .error .notFound
  bySize := id
  findMatchingVolume := fun _ _ _ => .ok none
  findPodVolumes := fun _ _ _ => .ok []

def boundToVolume : Claims where
  boundClaims := [{ ns := "default", name := "data", volumeName := "vol" }]
  claimsToBind := []

def claimOfA : Claims where
  boundClaims := []
  claimsToBind := [{ ns := "default", name := "data", owners := ownersAfter ["a"] }]

def nodeOfA : KosmosNode where
  name := "kosmos-a"
  labels := GoMap.empty.set kosmosNodeLabel "true"
  annotations := (GoMap.empty.set nodeMode "one2cluster").set
    kosmosNodeOwnedByClusterAnnotations "a"
  cluster := "a"
  labelled := by decide
  owned := by decide
  plain := by decide

def nodeOfB : KosmosNode where
  name := "worker-b"
  labels := GoMap.empty.set kosmosNodeLabel "true"
  annotations := GoMap.empty.set kosmosNodeOwnedByClusterAnnotations "b"
  cluster := "b"
  labelled := by decide
  owned := by decide
  plain := by decide

theorem sharedVolume_refused :
    ¬ VolumesStay sharedVolume (some boundToVolume) nodeOfA ∧
    ownersAfter ["a", "b"] = some "a,b" ∧
    filter sharedVolume nodeOfA.toNode (some boundToVolume) =
      .unschedulableAndUnresolvable [.nodeConflict] ∧
    ¬ VolumesStay sharedVolume (some claimOfA) nodeOfB ∧
    filter sharedVolume nodeOfB.toNode (some claimOfA) = .success := by
  refine ⟨fun h => ?_, by decide +kernel, by decide +kernel, fun h => ?_, by decide +kernel⟩
  · have howned : Owned sharedVolume (some boundToVolume) "a" := by
      intro claims hstate
      cases hstate
      refine ⟨List.forall_mem_nil _, fun _ _ pv hpv owners howners => ?_⟩
      cases hpv
      rw [← howners]
      decide +kernel
    have haccept := h.2 (by decide) howned (by unfold FitsOtherwise; decide +kernel)
    revert haccept
    decide +kernel
  · have howned := (h.1 (by decide +kernel) claimOfA rfl).1 _ List.mem_cons_self "a"
      (by decide +kernel)
    revert howned
    decide +kernel

end Kosmos.VolumeBinding
