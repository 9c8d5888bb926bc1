import Kosmos.Go.Completes
import Kosmos.Mcs.LeafServices

/-!
# The IP families of imported services

`checkServiceType` looks at single-stack services only, and `generateService` writes the families
of the leaf.
-/

namespace Kosmos.LeafServices

open Go Mcs

inductive Accepted (service : Service) : Prop where
  | externalName (htype : service.type = "ExternalName") (hpolicy : service.ipFamilyPolicy = none)
      (hfamilies : service.ipFamilies = [])
  | singleStack (family : IPFamily) (htype : service.type ≠ "ExternalName")
      (hpolicy : service.ipFamilyPolicy = some .singleStack)
      (hfamilies : service.ipFamilies = [family])
  | preferDualStack (htype : service.type ≠ "ExternalName")
      (hpolicy : service.ipFamilyPolicy = some .preferDualStack)
      (hne : service.ipFamilies ≠ []) (hnodup : service.ipFamilies.Nodup)
  | requireDualStack (htype : service.type ≠ "ExternalName")
      (hpolicy : service.ipFamilyPolicy = some .requireDualStack)
      (htwo : service.ipFamilies.length = 2) (hnodup : service.ipFamilies.Nodup)

structure RootService extends Service where
  accepted : Accepted toService

def supports (ipFamilyType : IPFamilyType) (family : IPFamily) : Bool :=
  match ipFamilyType, family with
  | .ipv4, .ipv6 => false
  | .ipv6, .ipv4 => false
  | _, _ => true

/-- A service is refused if the leaf has none of its families, and gets those it has. -/
def FamiliesKept (ipFamilyType : IPFamilyType) (service : Service) (r : Option Service) : Prop :=
  service.ipFamilies ≠ [] →
    (r = none ↔ ∀ family ∈ service.ipFamilies, supports ipFamilyType family = false) ∧
    ∀ clientService, r = some clientService →
      clientService.ipFamilies = service.ipFamilies.filter (supports ipFamilyType)

/-- Neither controller panics, and the families are kept. -/
structure FamiliesRight (ipFamilyType : IPFamilyType) (service : Service) : Prop where
  importReturns : ∀ si a leaf, Completes (importService ipFamilyType service si a leaf)
  syncReturns : ∀ a leaf, Completes (syncService service a ipFamilyType leaf)
  kept : ∀ si r, checkAndGenerate ipFamilyType service si = .ok r →
    FamiliesKept ipFamilyType service r

variable {ipFamilyType : IPFamilyType} {service : Service}

theorem familiesRight_of_ok
    (h : ∀ si, ∃ r, checkAndGenerate ipFamilyType service si = .ok r ∧
      FamiliesKept ipFamilyType service r) : FamiliesRight ipFamilyType service where
  importReturns si a leaf := by
    obtain ⟨r, hr, -⟩ := h si
    rw [importService_eq, completes_map_iff, hr]
    exact completes_ok r
  syncReturns a leaf := by
    cases hns : namespaceErr a with
    | some err =>
      rw [syncService, hns]
      exact completes_ok _
    | none =>
      obtain ⟨r, hr, -⟩ := h { ns := service.ns, name := service.name }
      rw [syncService_eq service a ipFamilyType leaf hns, completes_map_iff, hr]
      exact completes_ok r
  kept si r hr := by
    obtain ⟨r', hr', hkept⟩ := h si
    cases Except.ok.inj (hr.symm.trans hr')
    exact hkept

def generatedFamilies (ipFamilyType : IPFamilyType) (service : Service) : List IPFamily :=
  match ipFamilyType with
  | .all => service.ipFamilies
  | .ipv4 => [.ipv4]
  | .ipv6 => [.ipv6]

theorem generateService_ok (ipFamilyType : IPFamilyType) {policy : IPFamilyPolicy}
    (hpolicy : service.ipFamilyPolicy = some policy) (si : ServiceImport) :
    ∃ clientService, generateService ipFamilyType service si = .ok clientService ∧
      clientService.ipFamilies = generatedFamilies ipFamilyType service := by
  unfold generateService generatedFamilies
  cases ipFamilyType with
  | all =>
    rw [hpolicy]
    exact ⟨_, rfl, rfl⟩
  | ipv4 => exact ⟨_, rfl, rfl⟩
  | ipv6 => exact ⟨_, rfl, rfl⟩

theorem filter_eq_singleton {families : List IPFamily} {p : IPFamily → Bool} {only : IPFamily}
    (hp : ∀ family, p family = true ↔ family = only) (hnodup : families.Nodup)
    (hmem : only ∈ families) : families.filter p = [only] := by
  rw [← List.perm_singleton, List.perm_ext_iff_of_nodup (hnodup.filter p) (List.nodup_singleton _)]
  intro family
  rw [List.mem_filter, hp, List.mem_singleton]
  exact ⟨And.right, fun h => ⟨h ▸ hmem, h⟩⟩

theorem generatedFamilies_eq_iff (hnodup : service.ipFamilies.Nodup)
    (hne : service.ipFamilies ≠ []) :
    generatedFamilies ipFamilyType service =
        service.ipFamilies.filter (supports ipFamilyType) ↔
      ∃ family ∈ service.ipFamilies, supports ipFamilyType family = true := by
  have hone : ∀ only, (∀ family, supports ipFamilyType family = true ↔ family = only) →
      ([only] = service.ipFamilies.filter (supports ipFamilyType) ↔
        ∃ family ∈ service.ipFamilies, supports ipFamilyType family = true) := by
    intro only honly
    constructor
    · intro h
      have hmem : only ∈ service.ipFamilies.filter (supports ipFamilyType) := by
        rw [← h]
        exact List.mem_singleton_self only
      exact ⟨only, List.mem_filter.mp hmem⟩
    · rintro ⟨family, hmem, hsupports⟩
      exact (filter_eq_singleton honly hnodup ((honly family).mp hsupports ▸ hmem)).symm
  cases ipFamilyType with
  | all =>
    have hall : ∀ family, supports .all family = true := fun family => rfl
    obtain ⟨family, hmem⟩ := List.exists_mem_of_ne_nil _ hne
    refine iff_of_true ?_ ⟨family, hmem, hall family⟩
    exact (List.filter_eq_self.mpr fun family _ => hall family).symm
  | ipv4 => exact hone .ipv4 fun family => by cases family <;> decide
  | ipv6 => exact hone .ipv6 fun family => by cases family <;> decide

theorem checkAndGenerate_dualStack (ipFamilyType : IPFamilyType) {policy : IPFamilyPolicy}
    (hpolicy : service.ipFamilyPolicy = some policy) (hdual : policy ≠ .singleStack)
    (si : ServiceImport) :
    ∃ clientService, checkAndGenerate ipFamilyType service si = .ok (some clientService) ∧
      clientService.ipFamilies = generatedFamilies ipFamilyType service := by
  obtain ⟨clientService, hgenerate, hfamilies⟩ :=
    generateService_ok ipFamilyType hpolicy si
  refine ⟨clientService, ?_, hfamilies⟩
  simp [checkAndGenerate, checkServiceType, hpolicy, hdual, hgenerate]

theorem familiesRight_dualStack_iff {policy : IPFamilyPolicy}
    (hpolicy : service.ipFamilyPolicy = some policy) (hdual : policy ≠ .singleStack)
    (hne : service.ipFamilies ≠ []) (hnodup : service.ipFamilies.Nodup) :
    FamiliesRight ipFamilyType service ↔
      ∃ family ∈ service.ipFamilies, supports ipFamilyType family = true := by
  constructor
  · intro h
    obtain ⟨clientService, hr, hfamilies⟩ :=
      checkAndGenerate_dualStack ipFamilyType hpolicy hdual { ns := "", name := "" }
    have hkept := (h.kept _ _ hr hne).2 clientService rfl
    rw [hfamilies] at hkept
    exact (generatedFamilies_eq_iff hnodup hne).mp hkept
  · intro hsome
    refine familiesRight_of_ok fun si => ?_
    obtain ⟨clientService, hr, hfamilies⟩ :=
      checkAndGenerate_dualStack ipFamilyType hpolicy hdual si
    refine ⟨some clientService, hr, fun _ => ⟨?_, ?_⟩⟩
    · obtain ⟨family, hmem, hsupports⟩ := hsome
      refine iff_of_false (Option.some_ne_none _) fun hnone => ?_
      cases hsupports.symm.trans (hnone family hmem)
    · intro clientService' heq
      rw [← Option.some.inj heq, hfamilies]
      exact (generatedFamilies_eq_iff hnodup hne).mpr hsome

theorem familiesRight_singleStack {family : IPFamily}
    (hpolicy : service.ipFamilyPolicy = some .singleStack)
    (hfamilies : service.ipFamilies = [family]) : FamiliesRight ipFamilyType service := by
  refine familiesRight_of_ok fun si => ?_
  obtain ⟨clientService, hgenerate, hgenerated⟩ :=
    generateService_ok ipFamilyType hpolicy si
  have hcheck : checkServiceType ipFamilyType service = .ok (!supports ipFamilyType family) := by
    unfold checkServiceType
    rw [hpolicy, hfamilies]
    cases ipFamilyType <;> cases family <;> rfl
  cases hsupports : supports ipFamilyType family with
  | false =>
    refine ⟨none, by simp [checkAndGenerate, hcheck, hsupports], fun _ => ⟨?_, ?_⟩⟩
    · simp [hfamilies, hsupports]
    · rintro clientService hnone
      cases hnone
  | true =>
    refine ⟨some clientService, by simp [checkAndGenerate, hcheck, hsupports, hgenerate],
      fun _ => ⟨by simp [hfamilies, hsupports], ?_⟩⟩
    intro clientService' heq
    have hnodup : service.ipFamilies.Nodup := by simp [hfamilies]
    rw [← Option.some.inj heq, hgenerated, generatedFamilies_eq_iff hnodup (by simp [hfamilies])]
    exact ⟨family, by simp [hfamilies], hsupports⟩

/-- The families come out right exactly for services with a policy and, unless single-stack, a
family of the leaf. -/
theorem familiesRight_iff (ipFamilyType : IPFamilyType) (service : RootService) :
    FamiliesRight ipFamilyType service.toService ↔
      service.ipFamilyPolicy ≠ none ∧
        (service.ipFamilyPolicy ≠ some .singleStack →
          ∃ family ∈ service.ipFamilies, supports ipFamilyType family = true) := by
  cases service.accepted with
  | externalName _ hpolicy _ =>
    refine iff_of_false (fun h => ?_) fun h => h.1 hpolicy
    have hreturns := h.importReturns { ns := "", name := "" } {} ⟨.empty, .empty, .empty⟩
    rw [importService_eq, completes_map_iff] at hreturns
    simp [checkAndGenerate, checkServiceType, hpolicy, deref] at hreturns
  | singleStack family _ hpolicy hfamilies =>
    refine iff_of_true (familiesRight_singleStack hpolicy hfamilies) ⟨by simp [hpolicy], ?_⟩
    exact fun h => absurd hpolicy h
  | preferDualStack _ hpolicy hne hnodup =>
    rw [familiesRight_dualStack_iff hpolicy (by decide) hne hnodup]
    simp [hpolicy]
  | requireDualStack _ hpolicy htwo hnodup =>
    have hne : service.ipFamilies ≠ [] := fun hnil => by simp [hnil] at htwo
    rw [familiesRight_dualStack_iff hpolicy (by decide) hne hnodup]
    simp [hpolicy]

def externalService : RootService where
  ns := "default"
  name := "db"
  type := "ExternalName"
  accepted := .externalName rfl rfl rfl

def ipv6Service : RootService where
  ns := "default"
  name := "web"
  ipFamilyPolicy := some .preferDualStack
  ipFamilies := [.ipv6]
  accepted := .preferDualStack (by decide) rfl (by decide) (by decide)

theorem externalService_panics_and_ipv6Service_ipv4 :
    importService .ipv4 externalService.toService { ns := "default", name := "db" } {}
        ⟨.empty, .empty, .empty⟩ = .error (.panic .nilDeref) ∧
      syncService externalService.toService {} .all ⟨.empty, .empty, .empty⟩ =
        .error (.panic .nilDeref) ∧
      (∃ clientService,
        checkAndGenerate .ipv4 ipv6Service.toService { ns := "default", name := "web" } =
          .ok (some clientService) ∧ clientService.ipFamilies = [.ipv4]) ∧
      ¬ FamiliesRight .all externalService.toService ∧
      ¬ FamiliesRight .ipv4 ipv6Service.toService := by
  refine ⟨rfl, rfl, ⟨_, rfl, rfl⟩, fun h => ?_, fun h => ?_⟩
  · obtain ⟨r, hr⟩ := h.syncReturns {} ⟨.empty, .empty, .empty⟩
    cases hr
  · have hkept := (h.kept { ns := "default", name := "web" } _ rfl (by decide)).2 _ rfl
    revert hkept
    decide

end Kosmos.LeafServices
