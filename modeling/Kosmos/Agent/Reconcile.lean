import Kosmos.Agent.Status
import Kosmos.Go.Net.Text

/-!
# The agent's controller: `Reconcile` and the debouncer

An object that is gone is applied at once, one that is there some seconds later.
-/

namespace Kosmos.Agent

open Kosmos.Go Kosmos.Go.Net Kosmos.Api

variable {σ : Type}

def formatCIDR (cidr : String) : Except String String :=
  match parseCIDR false cidr with
  | .error err => .error ("failed to parse  cidr " ++ cidr ++ ", err: " ++ err)
  | .ok (_, ipNet) => .ok (netText ipNet)

def formatRoute (route : Route) : Except String Route :=
  match formatCIDR route.cidr with
  | .error err => .error ("failed to format nodeconfig route cidr, err: " ++ err)
  | .ok ipNetStr => .ok { route with cidr := ipNetStr }

def formatNodeConfig (spec : NodeConfigSpec) : Except String NodeConfigSpec :=
  match spec.routes with
  | none => .ok spec
  | some routes =>
    match routes.mapM formatRoute with
    | .error err => .error err
    | .ok routes => .ok { spec with routes := some routes }

inductive GetError where
  | notFound
  | other (msg : String)

structure Result where
  requeueAfter : Option Nat := none

def requeueTime : Nat := 30

structure Reconciler (σ : Type) where
  manager : NetworkManager := newNetworkManager
  sys : σ
  pending : Option NodeConfigSpec := none
  passed : NodeConfigSpec := {}

namespace Reconciler

def updateFromCRD (net : NetWork σ) (r : Reconciler σ) (spec : NodeConfigSpec) :
    Outcome (Reconciler σ) := do
  let (_, manager, sys) ← Agent.updateFromCRD net r.manager spec r.sys
  pure { r with manager, sys, passed := spec }

def debounceFunc (r : Reconciler σ) (spec : NodeConfigSpec) : Reconciler σ :=
  { r with pending := some spec }

def reconcile (net : NetWork σ) (r : Reconciler σ) (get : Except GetError NodeConfigSpec)
    (getCluster : Except String Cluster) : Outcome (Result × Reconciler σ) :=
  match get with
  | .error .notFound => do
    -- the resource no longer exists
    let r ← r.updateFromCRD net {}
    pure ({}, r)
  | .error (.other _) => pure ({ requeueAfter := some requeueTime }, r)
  | .ok reconcileNode =>
    match formatNodeConfig reconcileNode with
    | .error _ => pure ({ requeueAfter := some requeueTime }, r)
    | .ok reconcileNodeCopy =>
      match getCluster with
      -- not put back: the copy is dropped
      | .error _ => pure ({}, r)
      | .ok localCluster => do
        let sys ← net.updateCidrConfig localCluster r.sys
        pure ({}, { r with sys }.debounceFunc reconcileNodeCopy)

def fire (net : NetWork σ) (r : Reconciler σ) : Outcome (Reconciler σ) :=
  match r.pending with
  | none => pure r
  | some spec => { r with pending := none }.updateFromCRD net spec

def check (net : NetWork σ) (r : Reconciler σ) : Outcome (Reconciler σ) := do
  let (_, manager, sys) ← updateFromChecker net r.manager r.sys
  pure { r with manager, sys }

end Reconciler

structure Node (σ : Type) where
  nodeConfig : Option NodeConfigSpec := none
  queued : Bool := false
  reconciler : Reconciler σ

inductive Event (σ : Type) where
  | change (nodeConfig : Option NodeConfigSpec)
  | reconcile (failure : Option String) (getCluster : Except String Cluster)
  | fire
  | check
  | outside (f : σ → σ)

namespace Node

def get (n : Node σ) (failure : Option String) : Except GetError NodeConfigSpec :=
  match failure, n.nodeConfig with
  | some msg, _ => .error (.other msg)
  | none, none => .error .notFound
  | none, some spec => .ok spec

def step (net : NetWork σ) (n : Node σ) : Event σ → Outcome (Option Result × Node σ)
  | .change nodeConfig => pure (none, { n with nodeConfig, queued := true })
  | .reconcile failure getCluster => do
    let (result, reconciler) ← n.reconciler.reconcile net (n.get failure) getCluster
    pure (some result, { n with reconciler, queued := result.requeueAfter.isSome })
  | .fire => do
    let reconciler ← n.reconciler.fire net
    pure (none, { n with reconciler })
  | .check => do
    let reconciler ← n.reconciler.check net
    pure (none, { n with reconciler })
  | .outside f =>
    pure (none, { n with reconciler := { n.reconciler with sys := f n.reconciler.sys } })

end Node

/-- The route with the CIDR as the network it parses to prints it. -/
def CanonicalRoute (route route' : Route) : Prop :=
  ∃ ip net, parseCIDR false route.cidr = .ok (ip, net) ∧ route' = { route with cidr := netText net }

/-- The spec with all its route CIDRs in canonical form. -/
structure Canonicalised (spec spec' : NodeConfigSpec) : Prop where
  routes : Option.Rel (List.Forall₂ CanonicalRoute) spec.routes spec'.routes
  others : spec' = { spec with routes := spec'.routes }

theorem formatRoute_iff {route route' : Route} :
    formatRoute route = .ok route' ↔ CanonicalRoute route route' := by
  unfold formatRoute formatCIDR CanonicalRoute
  cases parseCIDR false route.cidr with
  | error err => simp
  | ok ipNet =>
    obtain ⟨ip, net⟩ := ipNet
    simp [eq_comm]

theorem formatNodeConfig_iff {spec copy : NodeConfigSpec} :
    formatNodeConfig spec = .ok copy ↔ Canonicalised spec copy := by
  have hmap : ∀ {routes routes' : List Route}, routes.mapM formatRoute = .ok routes' ↔
      List.Forall₂ CanonicalRoute routes routes' := by
    intro routes routes'
    simp only [mapM_eq_ok, formatRoute_iff]
  constructor
  · intro h
    unfold formatNodeConfig at h
    split at h
    next hroutes =>
      cases h
      exact ⟨by rw [hroutes]; exact .none, rfl⟩
    next routes hroutes =>
      split at h
      · cases h
      next routes' hroutes' =>
        cases h
        exact ⟨by rw [hroutes]; exact .some (hmap.mp hroutes'), rfl⟩
  · rintro ⟨hroutes, hothers⟩
    rw [hothers]
    generalize copy.routes = routes' at hroutes
    obtain ⟨devices, routes, iptables, fdbs, arps⟩ := spec
    cases hroutes with
    | none => rfl
    | some h => simp only [formatNodeConfig, hmap.mpr h]

def Wanted : Option NodeConfigSpec → NodeConfigSpec → Prop
  | none, config => config = {}
  | some spec, config => Canonicalised spec config

def Reconciler.settled (r : Reconciler σ) : NodeConfigSpec := r.pending.getD r.passed

/-- With nothing queued or pending, the object stands for the config passed last. -/
def Node.LastWins (net : NetWork σ) (n : Node σ) : Prop :=
  n.queued = false → ∃ r, n.reconciler.fire net = .ok r ∧ r.pending = none ∧
    Wanted n.nodeConfig r.passed

def Node.Settled (n : Node σ) : Prop :=
  n.queued = false → Wanted n.nodeConfig n.reconciler.settled

def Event.Safe (n : Node σ) : Event σ → Prop
  | .reconcile none getCluster =>
    match n.nodeConfig with
    | none => n.reconciler.pending.getD {} = {}
    | some spec => ∀ copy, formatNodeConfig spec = .ok copy →
      (∃ localCluster, getCluster = .ok localCluster) ∨ n.reconciler.settled = copy
  | _ => True

variable {net : NetWork σ} {r : Reconciler σ}

namespace Reconciler

def Ready (r : Reconciler σ) : Prop :=
  ∃ target, r.manager.toConfig = some target ∧ (diff target r.passed).1 = true

theorem updateFromCRD_ready (net : NetWork σ) (hready : r.Ready) (spec : NodeConfigSpec) :
    ∃ r', r.updateFromCRD net spec = .ok r' ∧ r'.Ready ∧ r'.passed = spec ∧
      r'.pending = r.pending := by
  obtain ⟨target, htarget, -⟩ := hready
  obtain ⟨status, manager, sys, hrun, hmanager⟩ := (Call.updateFromCRD spec).run_toConfig net r.sys
    (e := r.manager) (by rw [htarget]; rfl)
  refine ⟨{ r with manager, sys, passed := spec }, ?_, ?_, rfl, rfl⟩
  · rw [Reconciler.updateFromCRD, show Agent.updateFromCRD net r.manager spec r.sys = _ from hrun]
    rfl
  · simp only [Call.target, htarget, Option.bind_some] at hmanager
    split at hmanager
    next hsame => exact ⟨target, hmanager, hsame⟩
    · exact ⟨spec, hmanager, diff_self spec⟩

theorem fire_ready (net : NetWork σ) (hready : r.Ready) :
    ∃ r', r.fire net = .ok r' ∧ r'.Ready ∧ r'.passed = r.settled ∧ r'.pending = none := by
  unfold fire settled
  cases hpending : r.pending with
  | none => exact ⟨r, rfl, hready, rfl, hpending⟩
  | some spec => exact updateFromCRD_ready net (r := { r with pending := none }) hready spec

theorem check_ready (net : NetWork σ) (hready : r.Ready) :
    ∃ r', r.check net = .ok r' ∧ r'.Ready ∧ r'.passed = r.passed ∧ r'.pending = r.pending := by
  obtain ⟨target, htarget, hsame⟩ := hready
  obtain ⟨status, manager, sys, hrun, hmanager⟩ := Call.updateFromChecker.run_toConfig net r.sys
    (e := r.manager) (by rw [htarget]; rfl)
  refine ⟨{ r with manager, sys }, ?_, ⟨target, ?_, hsame⟩, rfl, rfl⟩
  · rw [check, show Agent.updateFromChecker net r.manager r.sys = _ from hrun]
    rfl
  · rw [hmanager, Call.target, Option.or_self, htarget]

def leaves (r : Reconciler σ) (get : Except GetError NodeConfigSpec)
    (getCluster : Except String Cluster) : Option NodeConfigSpec :=
  match get with
  | .error .notFound => some (r.pending.getD {})
  | .error (.other _) => none
  | .ok spec =>
    match formatNodeConfig spec, getCluster with
    | .error _, _ => none
    | .ok _, .error _ => some r.settled
    | .ok copy, .ok _ => some copy

theorem reconcile_leaves {get : Except GetError NodeConfigSpec}
    {getCluster : Except String Cluster} {result : Result} {r' : Reconciler σ} (hready : r.Ready)
    (h : r.reconcile net get getCluster = .ok (result, r')) :
    r'.Ready ∧ r.leaves get getCluster =
      if result.requeueAfter.isSome then none else some r'.settled := by
  unfold reconcile at h
  unfold leaves
  split at h
  · obtain ⟨r₁, hr₁, hready₁, hpassed, hpending⟩ := updateFromCRD_ready net hready {}
    obtain ⟨r₂, hr₂, h⟩ := bind_eq_ok h
    cases h
    cases hr₂.symm.trans hr₁
    exact ⟨hready₁, by rw [settled, hpassed, hpending]; rfl⟩
  · cases h
    exact ⟨hready, rfl⟩
  next spec =>
    split at h
    next hformat =>
      cases h
      exact ⟨hready, by rw [hformat]; rfl⟩
    next copy hformat =>
      rw [hformat]
      split at h
      · cases h
        exact ⟨hready, rfl⟩
      · obtain ⟨sys, -, h⟩ := bind_eq_ok h
        cases h
        exact ⟨hready, rfl⟩

end Reconciler

variable {n : Node σ}

theorem lastWins_iff (hready : n.reconciler.Ready) : n.LastWins net ↔ n.Settled := by
  obtain ⟨r, hfire, -, hpassed, hpending⟩ := Reconciler.fire_ready net hready
  unfold Node.LastWins Node.Settled
  simp [hfire, hpending, hpassed]

theorem leaves_wanted_iff {failure : Option String} {getCluster : Except String Cluster} :
    (∀ config, n.reconciler.leaves (n.get failure) getCluster = some config →
      Wanted n.nodeConfig config) ↔ (Event.reconcile failure getCluster).Safe n := by
  cases failure with
  | some msg => simp [Node.get, Reconciler.leaves, Event.Safe]
  | none =>
    cases hobj : n.nodeConfig with
    | none => simp [Node.get, Reconciler.leaves, Event.Safe, hobj, Wanted]
    | some spec =>
      simp only [Node.get, Reconciler.leaves, Event.Safe, hobj, Wanted, ← formatNodeConfig_iff]
      cases formatNodeConfig spec <;> cases getCluster <;> simp [eq_comm]

theorem Node.step_settled {event : Event σ} {result : Option Result} {n' : Node σ}
    (hready : n.reconciler.Ready) (hsettled : n.Settled)
    (h : n.step net event = .ok (result, n')) :
    n'.reconciler.Ready ∧ (n'.Settled ↔ event.Safe n) := by
  cases event with
  | change nodeConfig =>
    cases h
    exact ⟨hready, iff_of_true (fun hq => by cases hq) trivial⟩
  | reconcile failure getCluster =>
    obtain ⟨⟨result, r'⟩, hr, h⟩ := bind_eq_ok h
    cases h
    obtain ⟨hready', hleaves⟩ := Reconciler.reconcile_leaves hready hr
    refine ⟨hready', ?_⟩
    rw [← leaves_wanted_iff, hleaves]
    unfold Node.Settled
    cases result.requeueAfter <;> simp
  | fire =>
    obtain ⟨r', hr, h⟩ := bind_eq_ok h
    cases h
    obtain ⟨r₁, hfire, hready', hpassed, hpending⟩ := Reconciler.fire_ready net hready
    cases hr.symm.trans hfire
    -- firing passes what was settled before
    refine ⟨hready', iff_of_true (fun hq => ?_) trivial⟩
    rw [Reconciler.settled, hpending, Option.getD_none, hpassed]
    exact hsettled hq
  | check =>
    obtain ⟨r', hr, h⟩ := bind_eq_ok h
    cases h
    obtain ⟨r₁, hcheck, hready', hpassed, hpending⟩ := Reconciler.check_ready net hready
    cases hr.symm.trans hcheck
    refine ⟨hready', iff_of_true (fun hq => ?_) trivial⟩
    rw [Reconciler.settled, hpending, hpassed]
    exact hsettled hq
  | outside f =>
    cases h
    exact ⟨hready, iff_of_true hsettled trivial⟩

theorem Node.init_settled (s : σ) :
    ({ reconciler := { sys := s } } : Node σ).reconciler.Ready ∧
      ({ reconciler := { sys := s } } : Node σ).Settled :=
  ⟨⟨{}, rfl, diff_self {}⟩, fun _ => rfl⟩

section Run

variable {s : σ} {events : List (Event σ)} {xs : List (Move (Node σ) (Event σ) (Option Result))}

theorem trace_settled (hxs : trace (Node.step net) { reconciler := { sys := s } } events = .ok xs)
    (hsafe : ∀ x ∈ xs, x.event.Safe x.before) :
    ∀ x ∈ xs, x.after.reconciler.Ready ∧ x.after.Settled := by
  refine trace_keeps (I := fun n => n.reconciler.Ready ∧ n.Settled)
    (fun n event result n' hn hstep hsafe => ?_) events _ xs (Node.init_settled s) hxs hsafe
  obtain ⟨hready, hiff⟩ := Node.step_settled hn.1 hn.2 hstep
  exact ⟨⟨hready, hiff.mpr hsafe⟩, hready, hiff.mpr hsafe⟩

/-- Along a run the config passed last wins exactly when every move is safe. -/
theorem trace_lastWins_iff
    (hxs : trace (Node.step net) { reconciler := { sys := s } } events = .ok xs) :
    (∀ x ∈ xs, x.after.LastWins net) ↔ ∀ x ∈ xs, x.event.Safe x.before := by
  constructor
  · refine trace_keeps (I := fun n => n.reconciler.Ready ∧ n.Settled)
      (fun n event result n' hn hstep hlast => ?_) events _ xs (Node.init_settled s) hxs
    obtain ⟨hready, hiff⟩ := Node.step_settled hn.1 hn.2 hstep
    have hsettled := (lastWins_iff hready).mp hlast
    exact ⟨⟨hready, hsettled⟩, hiff.mp hsettled⟩
  · intro hsafe x hx
    obtain ⟨hready, hsettled⟩ := trace_settled hxs hsafe x hx
    exact (lastWins_iff hready).mpr hsettled

/-- The agent converges: after safe moves, the next round of the checker leaves the records of the
object, and the broadcast entries. -/
theorem trace_check_reaches {has : σ → Entry → Prop}
    (hnet : ∀ del cre, ActsExactly net has del cre)
    (hxs : trace (Node.step net) { reconciler := { sys := s } } events = .ok xs)
    (hsafe : ∀ x ∈ xs, x.event.Safe x.before) :
    ∀ x ∈ xs, x.after.queued = false → x.after.reconciler.pending = none →
      ∃ r config, x.after.reconciler.check net = .ok r ∧ Wanted x.after.nodeConfig config ∧
        ∀ e, has r.sys e ↔
          config.Has e ∨ (has x.after.reconciler.sys e ∧ ¬ config.Has e ∧ IsBroadcast e) := by
  intro x hx hqueued hpending
  obtain ⟨⟨target, htarget, hsame⟩, hsettled⟩ := trace_settled hxs hsafe x hx
  obtain ⟨old, hload, hold⟩ := (hnet {} {}).load x.after.reconciler.sys
  obtain ⟨manager, sys, hsync, hhas⟩ := updateSync_reaches htarget hload (hnet _ _)
  refine ⟨{ x.after.reconciler with manager, sys }, x.after.reconciler.passed, ?_, ?_, fun e => ?_⟩
  · simp [Reconciler.check, updateFromChecker, htarget, hsync]
  · have hwanted := hsettled hqueued
    rwa [Reconciler.settled, hpending] at hwanted
  · rw [hhas, hold, has_iff_of_same hsame]

end Run

def sampleCluster : Cluster where
  name := "c1"
  clusterLinkOptions := some
    { enable := true, networkType := networkTypeP2P, ipFamily := ipFamilyTypeIPV4
      localCIDRs := { ip := "210.0.0.0/8", ip6 := "" }
      bridgeCIDRs := { ip := "220.0.0.0/8", ip6 := "" }, globalCIDRsMap := GoMap.empty }
  podCIDRs := ["10.1.0.0/16"]
  serviceCIDRs := ["10.101.0.0/16"]

def sampleSpec : NodeConfigSpec :=
  { sampleTarget with routes := some [{ sampleRoute with cidr := "10.2.3.4/16" }] }

def orderlyRun : List (Event (List Entry)) :=
  [.change (some sampleSpec), .reconcile none (.ok sampleCluster), .fire, .change none,
    .reconcile none (.ok sampleCluster)]

def lateRun : List (Event (List Entry)) :=
  [.change (some sampleSpec), .reconcile none (.ok sampleCluster), .change none,
    .reconcile none (.ok sampleCluster), .fire]

theorem orderlyRun_lastWins :
    ∃ xs, trace (Node.step tableNet) { reconciler := { sys := [] } } orderlyRun = .ok xs ∧
      (∀ x ∈ xs, x.event.Safe x.before) ∧ ∀ x ∈ xs, x.after.LastWins tableNet := by
  have hxs : trace (Node.step tableNet) { reconciler := { sys := [] } } orderlyRun = .ok _ := rfl
  refine ⟨_, hxs, (fun h => ⟨h, (trace_lastWins_iff hxs).mpr h⟩) ?_⟩
  simp only [List.forall_mem_cons]
  exact ⟨trivial, fun _ _ => .inl ⟨_, rfl⟩, trivial, trivial, rfl, fun _ h => by cases h⟩

theorem lateRun_stale :
    ∃ xs x, trace (Node.step tableNet) { reconciler := { sys := [] } } lateRun = .ok xs ∧
      xs.getLast? = some x ∧ x.after.nodeConfig = none ∧ x.after.queued = false ∧
      x.after.reconciler.pending = none ∧ x.after.reconciler.passed = sampleTarget ∧
      x.after.reconciler.sys = [.device sampleDevice, .route sampleRoute] ∧
      ¬ x.after.LastWins tableNet := by
  refine ⟨_, _, rfl, rfl, rfl, rfl, rfl, by decide +kernel, by decide +kernel, fun h => ?_⟩
  obtain ⟨r, hfire, -, hwanted⟩ := h rfl
  cases hfire
  revert hwanted
  show ¬ (_ = _)
  decide +kernel

def emptiedRun : List (Event (List Entry)) :=
  [.change (some sampleSpec), .reconcile none (.ok sampleCluster), .fire, .outside fun _ => []]

theorem emptiedRun_check_reaches :
    ∃ xs x r, trace (Node.step tableNet) { reconciler := { sys := [] } } emptiedRun = .ok xs ∧
      xs.getLast? = some x ∧ x.after.reconciler.check tableNet = .ok r ∧
      ∃ config, Wanted x.after.nodeConfig config ∧ ∀ e, e ∈ r.sys ↔
        config.Has e ∨ (e ∈ x.after.reconciler.sys ∧ ¬ config.Has e ∧ IsBroadcast e) := by
  have hxs : trace (Node.step tableNet) { reconciler := { sys := [] } } emptiedRun = .ok _ := rfl
  have hsafe := trace_check_reaches tableNet_acts hxs (by
    simp only [List.forall_mem_cons]
    exact ⟨trivial, fun _ _ => .inl ⟨_, rfl⟩, trivial, trivial, fun _ h => by cases h⟩)
    _ (List.mem_of_getElem? (i := 3) rfl) rfl rfl
  obtain ⟨r, config, hcheck, hwanted, hhas⟩ := hsafe
  exact ⟨_, _, r, hxs, rfl, hcheck, config, hwanted, hhas⟩

end Kosmos.Agent
