import Kosmos.Api.Calico
import Kosmos.Go.Strings

/-!
# IP pools: who is external?

The two datastores tell own pools from external ones in two ways.
-/

namespace Kosmos.Controllers

open Kosmos.Go Kosmos.Api

def externalIPPoolNamePrefix : String := "clusterlink"

def serviceIPType : String := "service"
def podIPType : String := "pod"

structure ExternalClusterIPPool where
  cluster : String
  ipType : String
  ipPool : String
  deriving DecidableEq, Repr

def genCalicoIPPoolName (cluster ipType ip : String) : String :=
  let suffix := replaceAll ip '.' '-'
  let suffix := replaceAll suffix ':' '-'
  let suffix := replaceAll suffix '/' '-'
  externalIPPoolNamePrefix ++ ("-" ++ cluster ++ "-" ++ ipType ++ "-" ++ suffix)

def ExternalClusterIPPool.poolName (p : ExternalClusterIPPool) : String :=
  genCalicoIPPoolName p.cluster p.ipType p.ipPool

def getIPType (name : String) : String :=
  if contains name "service" then serviceIPType else podIPType

def getClusterName (name ipType : String) : Outcome String :=
  let start := externalIPPoolNamePrefix.toList.length + 1
  let stop := lastIndex name ipType - 1
  if stop < 0 then pure "" else slice name start stop.toNat

example : getClusterName "clusterlink-c1-pod-10-0-0-0-16" "pod" = .ok "c1" := by rfl

def External (name : String) : Prop := hasPrefix name externalIPPoolNamePrefix = true

instance (name : String) : Decidable (External name) := inferInstanceAs (Decidable (_ = _))

theorem external_poolName (p : ExternalClusterIPPool) : External p.poolName :=
  hasPrefix_append ..

theorem External.eq_of_hasPrefix {name : String} (h : External name)
    (h' : hasPrefix externalIPPoolNamePrefix name = true) : name = externalIPPoolNamePrefix :=
  hasPrefix_antisymm h h'

def kubernetesPodCIDRs (ippools : List Unstructured) : List String :=
  ippools.filterMap fun pool =>
    if !hasPrefix pool.getName externalIPPoolNamePrefix then
      let cidr := getCIDRs pool.object
      if cidr.toList.length > 0 then some cidr else none
    else none

def validIPPool (ippool : IPPool) : Bool :=
  !ippool.disabled && !hasPrefix externalIPPoolNamePrefix ippool.name

def etcdPodCIDRs (ippools : List IPPool) : List String :=
  ippools.filterMap fun ippool => if validIPPool ippool then some ippool.cidr else none

variable {pools : List IPPool}

theorem mem_kubernetesPodCIDRs {cidr : String} :
    cidr ∈ kubernetesPodCIDRs (pools.map IPPool.unstructured) ↔
      ∃ p ∈ pools, ¬ External p.name ∧ p.cidr ≠ "" ∧ p.cidr = cidr := by
  unfold kubernetesPodCIDRs External
  rw [List.filterMap_map, List.mem_filterMap]
  apply exists_congr
  intro p
  rw [Function.comp_apply, IPPool.getName_unstructured, IPPool.getCIDRs_unstructured]
  cases hasPrefix p.name externalIPPoolNamePrefix with
  | true => simp
  | false =>
    by_cases hc : p.cidr = ""
    · simp [hc]
    · have hlen : p.cidr.toList.length > 0 := by
        rw [gt_iff_lt, List.length_pos_iff]
        exact fun h => hc (String.toList_eq_nil_iff.mp h)
      simp [hc, hlen]

theorem mem_etcdPodCIDRs {cidr : String} :
    cidr ∈ etcdPodCIDRs pools ↔ ∃ p ∈ pools, validIPPool p = true ∧ p.cidr = cidr := by
  unfold etcdPodCIDRs
  rw [List.mem_filterMap]
  apply exists_congr
  intro p
  cases validIPPool p <;> simp

theorem validIPPool_eq_true {p : IPPool} :
    validIPPool p = true ↔
      p.disabled = false ∧ hasPrefix externalIPPoolNamePrefix p.name = false := by
  simp [validIPPool]

theorem External.validIPPool_iff {p : IPPool} (h : External p.name) :
    validIPPool p = true ↔ p.disabled = false ∧ p.name ≠ externalIPPoolNamePrefix := by
  have hiff : hasPrefix externalIPPoolNamePrefix p.name = true ↔
      p.name = externalIPPoolNamePrefix := by
    refine ⟨h.eq_of_hasPrefix, fun heq => ?_⟩
    rw [heq]
    exact hasPrefix_self _
  rw [validIPPool_eq_true, ne_eq, ← hiff, Bool.not_eq_true]

/-- Both datastores give the same pod CIDRs, and none of another cluster's. -/
structure NoEcho (pools : List IPPool) : Prop where
  same : ∀ cidr, cidr ∈ kubernetesPodCIDRs (pools.map IPPool.unstructured) ↔
    cidr ∈ etcdPodCIDRs pools
  kubernetes : ∀ p ∈ pools, External p.name →
    p.cidr ∉ kubernetesPodCIDRs (pools.map IPPool.unstructured)
  etcd : ∀ p ∈ pools, External p.name → p.cidr ∉ etcdPodCIDRs pools

/-- The misplaced test and the missing one do not show on the pools. -/
structure Distinguishable (pools : List IPPool) : Prop where
  unshared : ∀ p ∈ pools, ∀ q ∈ pools, External p.name → ¬ External q.name → q.cidr ≠ "" →
    q.cidr ≠ p.cidr
  disabled : ∀ p ∈ pools, External p.name → p.name ≠ externalIPPoolNamePrefix →
    p.disabled = true
  enabled : ∀ p ∈ pools, ¬ External p.name → p.cidr ≠ "" →
    ∃ q ∈ pools, q.cidr = p.cidr ∧ q.disabled = false ∧
      hasPrefix externalIPPoolNamePrefix q.name = false
  cidr : ∀ p ∈ pools, p.disabled = false → hasPrefix externalIPPoolNamePrefix p.name = false →
    p.cidr ≠ ""

/-- The published pod CIDRs are the same set exactly on `Distinguishable` pools. -/
theorem podCIDRs_agree_iff (pools : List IPPool) : NoEcho pools ↔ Distinguishable pools := by
  constructor
  · intro h
    refine ⟨?_, ?_, ?_, ?_⟩
    · intro p hp q hq hext hown hne heq
      exact h.kubernetes p hp hext (mem_kubernetesPodCIDRs.mpr ⟨q, hq, hown, hne, heq⟩)
    · intro p hp hext hname
      by_contra hd
      rw [Bool.not_eq_true] at hd
      exact h.etcd p hp hext
        (mem_etcdPodCIDRs.mpr ⟨p, hp, hext.validIPPool_iff.mpr ⟨hd, hname⟩, rfl⟩)
    · intro p hp hown hne
      have hk := mem_kubernetesPodCIDRs.mpr ⟨p, hp, hown, hne, rfl⟩
      obtain ⟨q, hq, hvalid, hcidr⟩ := mem_etcdPodCIDRs.mp ((h.same p.cidr).mp hk)
      exact ⟨q, hq, hcidr, validIPPool_eq_true.mp hvalid⟩
    · intro p hp hd hname hempty
      have hvalid := validIPPool_eq_true.mpr ⟨hd, hname⟩
      have hk := (h.same p.cidr).mpr (mem_etcdPodCIDRs.mpr ⟨p, hp, hvalid, rfl⟩)
      obtain ⟨q, -, -, hne, hcidr⟩ := mem_kubernetesPodCIDRs.mp hk
      exact hne (hcidr.trans hempty)
  · intro h
    have hown : ∀ p ∈ pools, validIPPool p = true → ¬ External p.name := by
      intro p hp hvalid hext
      obtain ⟨hd, hname⟩ := hext.validIPPool_iff.mp hvalid
      rw [h.disabled p hp hext hname] at hd
      cases hd
    have hsame : ∀ cidr, cidr ∈ kubernetesPodCIDRs (pools.map IPPool.unstructured) ↔
        cidr ∈ etcdPodCIDRs pools := by
      intro cidr
      rw [mem_kubernetesPodCIDRs, mem_etcdPodCIDRs]
      constructor
      · intro ⟨p, hp, hn, hne, hcidr⟩
        obtain ⟨q, hq, hqc, hvalid⟩ := h.enabled p hp hn hne
        exact ⟨q, hq, validIPPool_eq_true.mpr hvalid, hqc.trans hcidr⟩
      · intro ⟨p, hp, hvalid, hcidr⟩
        obtain ⟨hd, hname⟩ := validIPPool_eq_true.mp hvalid
        exact ⟨p, hp, hown p hp hvalid, h.cidr p hp hd hname, hcidr⟩
    have hkube : ∀ p ∈ pools, External p.name →
        p.cidr ∉ kubernetesPodCIDRs (pools.map IPPool.unstructured) := by
      intro p hp hext hmem
      obtain ⟨q, hq, hn, hne, hcidr⟩ := mem_kubernetesPodCIDRs.mp hmem
      exact h.unshared p hp q hq hext hn hne hcidr
    refine ⟨hsame, hkube, ?_⟩
    intro p hp hext hmem
    exact hkube p hp hext ((hsame p.cidr).mpr hmem)

def echoedPools : List IPPool :=
  [{ name := "default-ipv4-ippool", cidr := "10.1.0.0/16", disabled := false },
   { name := "clusterlink-c2-pod-10-2-0-0-16", cidr := "10.2.0.0/16", disabled := false }]

theorem echoedPools_echo : ¬ NoEcho echoedPools := by
  intro h
  exact h.etcd
    { name := "clusterlink-c2-pod-10-2-0-0-16", cidr := "10.2.0.0/16", disabled := false }
    (by decide) (by decide) (by decide)

def listStep (external : Bool) (name cidr : String)
    (acc : List ExternalClusterIPPool × List String) :
    Outcome (List ExternalClusterIPPool × List String) :=
  if external then do
    let ipType := getIPType name
    let clusterName ← getClusterName name ipType
    pure (acc.1 ++ [⟨clusterName, ipType, cidr⟩], acc.2)
  else pure (acc.1, acc.2 ++ [cidr])

namespace KubernetesBackend

def isExternal (unPool : Unstructured) : Bool :=
  hasPrefix unPool.getName externalIPPoolNamePrefix

def listIPPools (list : Except String (List Unstructured)) :
    Outcome (List ExternalClusterIPPool × List String) :=
  match list with
  | .error err => .error (.err err)
  | .ok items =>
    items.foldlM (fun acc unPool =>
      listStep (isExternal unPool) unPool.getName (getCIDRs unPool.object) acc) ([], [])

end KubernetesBackend

namespace EtcdBackend

def isExternal (ippool : IPPool) : Bool := hasPrefix externalIPPoolNamePrefix ippool.name

def listIPPools (list : Except String (List IPPool)) :
    Outcome (List ExternalClusterIPPool × List String) :=
  match list with
  | .error err => .error (.err err)
  | .ok items =>
    items.foldlM (fun acc ippool =>
      listStep (isExternal ippool) ippool.name ippool.cidr acc) ([], [])

end EtcdBackend

theorem foldlM_listStep {α : Type} {external : α → Bool} {name cluster : α → String}
    (cidr : α → String) :
    ∀ (items : List α) (acc : List ExternalClusterIPPool × List String),
      (∀ x ∈ items, external x = true →
        getClusterName (name x) (getIPType (name x)) = .ok (cluster x)) →
      items.foldlM (fun acc x => listStep (external x) (name x) (cidr x) acc) acc =
        .ok (acc.1 ++ (items.filter external).map
              (fun x => ⟨cluster x, getIPType (name x), cidr x⟩),
            acc.2 ++ (items.filter fun x => !external x).map cidr) := by
  intro items
  induction items with
  | nil => intro acc _; simp
  | cons x items ih =>
    intro acc h
    rw [List.forall_mem_cons] at h
    rw [List.foldlM_cons]
    cases hx : external x with
    | true =>
      have hstep : listStep true (name x) (cidr x) acc =
          .ok (acc.1 ++ [⟨cluster x, getIPType (name x), cidr x⟩], acc.2) := by
        simp [listStep, h.1 hx]
      rw [hstep, ok_bind, ih _ h.2]
      simp [hx]
    | false =>
      rw [listStep, if_neg (by decide), pure_eq_ok, ok_bind, ih _ h.2]
      simp [hx]

theorem KubernetesBackend.isExternal_unstructured (p : IPPool) :
    isExternal p.unstructured = decide (External p.name) := by
  rw [isExternal, IPPool.getName_unstructured]
  exact Bool.decide_eq_true.symm

theorem KubernetesBackend.listIPPools_ok {cluster : IPPool → String}
    (h : ∀ p ∈ pools, External p.name → getClusterName p.name (getIPType p.name) = .ok (cluster
      p)) : KubernetesBackend.listIPPools (.ok (pools.map IPPool.unstructured)) =
      .ok ((pools.filter fun p => External p.name).map
            (fun p => ⟨cluster p, getIPType p.name, p.cidr⟩),
          (pools.filter fun p => ¬ External p.name).map IPPool.cidr) := by
  rw [KubernetesBackend.listIPPools, List.foldlM_map]
  simp only [IPPool.getName_unstructured, IPPool.getCIDRs_unstructured,
    KubernetesBackend.isExternal_unstructured]
  rw [foldlM_listStep IPPool.cidr pools ([], []) fun p hp hext => h p hp (of_decide_eq_true hext)]
  simp

inductive DeleteOutcome where
  | deleted
  | doesNotExist (msg : String)
  | failed (msg : String)
  deriving DecidableEq, Repr

def newAggregate (errs : List String) : Option (List String) :=
  if errs.length > 0 then some errs else none

def KubernetesBackend.deleteError : DeleteOutcome → Option String
  | .deleted => none
  | .doesNotExist _ => none
  | .failed err => some err

def EtcdBackend.deleteError : DeleteOutcome → Option String
  | .deleted => none
  | .doesNotExist err => some err
  | .failed _ => none

def deleteOutcomes (delete : Nat → String → DeleteOutcome) :
    Nat → List ExternalClusterIPPool → List DeleteOutcome
  | _, [] => []
  | i, ipPool :: rest => delete i ipPool.poolName :: deleteOutcomes delete (i + 1) rest

def deleteIPPool (deleteError : DeleteOutcome → Option String)
    (delete : Nat → String → DeleteOutcome) (ipPools : List ExternalClusterIPPool) :
    Option (List String) :=
  newAggregate ((deleteOutcomes delete 0 ipPools).filterMap deleteError)

def KubernetesBackend.deleteIPPool := Controllers.deleteIPPool KubernetesBackend.deleteError

def EtcdBackend.deleteIPPool := Controllers.deleteIPPool EtcdBackend.deleteError

theorem deleteIPPool_isSome {deleteError : DeleteOutcome → Option String}
    {delete : Nat → String → DeleteOutcome} {ipPools : List ExternalClusterIPPool} :
    (deleteIPPool deleteError delete ipPools).isSome = true ↔
      ∃ o ∈ deleteOutcomes delete 0 ipPools, (deleteError o).isSome = true := by
  have hagg : ∀ errs, (newAggregate errs).isSome = true ↔ ∃ err, err ∈ errs := by
    intro errs
    cases errs with
    | nil => simp [newAggregate]
    | cons err errs => simp [newAggregate]
  rw [deleteIPPool, hagg]
  simp only [List.mem_filterMap, Option.isSome_iff_exists]
  constructor
  · intro ⟨err, o, ho, he⟩
    exact ⟨o, ho, err, he⟩
  · intro ⟨o, ho, err, he⟩
    exact ⟨err, o, ho, he⟩

/-- Both list the same local pools, and as external ones those with the prefix. -/
structure ListsAgree (pools : List IPPool) : Prop where
  same : ∃ extIPPools ippools,
    KubernetesBackend.listIPPools (.ok (pools.map IPPool.unstructured)) =
      .ok (extIPPools, ippools) ∧
    EtcdBackend.listIPPools (.ok pools) = .ok (extIPPools, ippools)
  kubernetes : ∀ p ∈ pools,
    (KubernetesBackend.isExternal p.unstructured = true ↔ External p.name)
  etcd : ∀ p ∈ pools, (EtcdBackend.isExternal p = true ↔ External p.name)

/-- Both return an error exactly if a deletion failed, other than by not found. -/
structure DeletesAgree (delete : Nat → String → DeleteOutcome)
    (ipPools : List ExternalClusterIPPool) : Prop where
  kubernetes : (KubernetesBackend.deleteIPPool delete ipPools).isSome = true ↔
    ∃ err, .failed err ∈ deleteOutcomes delete 0 ipPools
  etcd : (EtcdBackend.deleteIPPool delete ipPools).isSome = true ↔
    ∃ err, .failed err ∈ deleteOutcomes delete 0 ipPools

/-- The name is the prefix, or neither of them begins with the other. -/
def PlainName (name : String) : Prop :=
  name = externalIPPoolNamePrefix ∨
    (hasPrefix name externalIPPoolNamePrefix = false ∧
      hasPrefix externalIPPoolNamePrefix name = false)

theorem plainName_iff {name : String} :
    PlainName name ↔ (hasPrefix externalIPPoolNamePrefix name = true ↔ External name) := by
  unfold PlainName External
  constructor
  · intro h
    rcases h with h | ⟨h, h'⟩
    · simp [h, hasPrefix_self]
    · simp [h, h']
  · intro h
    by_cases hext : hasPrefix name externalIPPoolNamePrefix = true
    · exact Or.inl (hasPrefix_antisymm hext (h.mpr hext))
    · refine Or.inr ⟨Bool.eq_false_iff.mpr hext, Bool.eq_false_iff.mpr ?_⟩
      exact fun h' => hext (h.mp h')

theorem listIPPools_same (h : ∀ p ∈ pools, PlainName p.name) : ∃ extIPPools ippools,
      KubernetesBackend.listIPPools (.ok (pools.map IPPool.unstructured)) =
        .ok (extIPPools, ippools) ∧
      EtcdBackend.listIPPools (.ok pools) = .ok (extIPPools, ippools) := by
  have hexternal : ∀ p ∈ pools, EtcdBackend.isExternal p = decide (External p.name) := by
    intro p hp
    rw [Bool.eq_iff_iff, decide_eq_true_iff]
    exact plainName_iff.mp (h p hp)
  have hcluster : ∀ p ∈ pools, External p.name →
      getClusterName p.name (getIPType p.name) = .ok "" := by
    intro p hp hext
    have hname : p.name = externalIPPoolNamePrefix :=
      hext.eq_of_hasPrefix ((plainName_iff.mp (h p hp)).mpr hext)
    rw [hname]
    rfl
  refine ⟨_, _, KubernetesBackend.listIPPools_ok hcluster, ?_⟩
  rw [EtcdBackend.listIPPools, foldlM_listStep IPPool.cidr pools ([], []) fun p hp hext =>
      hcluster p hp (of_decide_eq_true ((hexternal p hp).symm.trans hext)),
    List.filter_congr hexternal, List.filter_congr fun p hp => congrArg not (hexternal p hp)]
  simp

/-- The backends agree if and only if the names are plain, and a missing pool is met just when
another deletion fails. -/
theorem backends_agree_iff (pools : List IPPool) (delete : Nat → String → DeleteOutcome)
    (ipPools : List ExternalClusterIPPool) :
    ListsAgree pools ∧ DeletesAgree delete ipPools ↔
      (∀ p ∈ pools, PlainName p.name) ∧
      ((∃ err, .doesNotExist err ∈ deleteOutcomes delete 0 ipPools) ↔
        ∃ err, .failed err ∈ deleteOutcomes delete 0 ipPools) := by
  have hkube : (KubernetesBackend.deleteIPPool delete ipPools).isSome = true ↔
      ∃ err, .failed err ∈ deleteOutcomes delete 0 ipPools := by
    rw [KubernetesBackend.deleteIPPool, deleteIPPool_isSome]
    constructor
    · intro ⟨o, ho, herr⟩
      cases o with
      | deleted => cases herr
      | doesNotExist msg => cases herr
      | failed msg => exact ⟨msg, ho⟩
    · intro ⟨err, ho⟩
      exact ⟨_, ho, rfl⟩
  have hetcd : (EtcdBackend.deleteIPPool delete ipPools).isSome = true ↔
      ∃ err, .doesNotExist err ∈ deleteOutcomes delete 0 ipPools := by
    rw [EtcdBackend.deleteIPPool, deleteIPPool_isSome]
    constructor
    · intro ⟨o, ho, herr⟩
      cases o with
      | deleted => cases herr
      | doesNotExist msg => exact ⟨msg, ho⟩
      | failed msg => cases herr
    · intro ⟨err, ho⟩
      exact ⟨_, ho, rfl⟩
  constructor
  · intro ⟨hlists, hdeletes⟩
    exact ⟨fun p hp => plainName_iff.mpr (hlists.etcd p hp), hetcd.symm.trans hdeletes.etcd⟩
  · intro ⟨hnames, hdeletes⟩
    refine ⟨⟨listIPPools_same hnames, ?_, ?_⟩, ⟨hkube, hetcd.trans hdeletes⟩⟩
    · intro p _
      rw [KubernetesBackend.isExternal_unstructured, decide_eq_true_iff]
    · intro p hp
      exact plainName_iff.mp (hnames p hp)

def linkedPools : List IPPool :=
  [{ name := "default-ipv4-ippool", cidr := "10.1.0.0/16", disabled := false },
   { name := "clusterlink-c2-pod-10-2-0-0-16", cidr := "10.2.0.0/16", disabled := true }]

theorem linkedPools_disagree :
    ¬ ListsAgree linkedPools ∧
    ¬ DeletesAgree (fun _ _ => .doesNotExist "not found") [⟨"c2", "pod", "10.2.0.0/16"⟩] := by
  constructor
  · intro h
    have hetcd := h.etcd
      { name := "clusterlink-c2-pod-10-2-0-0-16", cidr := "10.2.0.0/16", disabled := true }
      (by decide)
    exact absurd (hetcd.mpr (by decide)) (by decide)
  · intro h
    obtain ⟨err, hfailed⟩ := h.etcd.mp rfl
    exact absurd hfailed (by simp [deleteOutcomes])

end Kosmos.Controllers
