import Kosmos.Agent.Diff
import Kosmos.Go.Trace

/-!
# The agent's status: `UpdateFromCRD`, `UpdateFromChecker`, `UpdateSync`

A manager is driven from two sides; a call with nothing to do returns the stored status.
-/

namespace Kosmos.Agent

open Kosmos.Go Kosmos.Api

variable {σ : Type}

inductive NodeConfigSyncStatus where
  | unset
  | success
  | exception
  deriving DecidableEq, Repr

structure NetworkManager where
  toConfig : Option NodeConfigSpec
  status : NodeConfigSyncStatus := .unset
  reason : String := ""
  deriving DecidableEq, Repr

def newNetworkManager : NetworkManager := { toConfig := some {} }

def updateSync (net : NetWork σ) (e : NetworkManager) (s : σ) :
    Outcome (NodeConfigSyncStatus × NetworkManager × σ) :=
  match net.loadSysConfig s with
  | .error err => pure (.exception, { e with status := .exception, reason := err }, s)
  | .ok fromConfig => do
    let toConfig ← deref e.toConfig
    let (flag, deleteConfig, createConfig) := diff fromConfig toConfig
    if flag then
      -- the config is same; nothing is stored
      pure (.success, e, s)
    else
      match writeSys net ⟨some deleteConfig, some createConfig⟩ s with
      | (some err, s) => pure (.exception, { e with status := .exception, reason := err }, s)
      | (none, s) => pure (.success, { e with status := .success, reason := "" }, s)

def updateFromCRD (net : NetWork σ) (e : NetworkManager) (spec : NodeConfigSpec) (s : σ) :
    Outcome (NodeConfigSyncStatus × NetworkManager × σ) := do
  let toConfig ← deref e.toConfig
  if (diff toConfig spec).1 then
    pure (e.status, e, s)
  else
    updateSync net { e with toConfig := some spec } s

def updateFromChecker (net : NetWork σ) (e : NetworkManager) (s : σ) :
    Outcome (NodeConfigSyncStatus × NetworkManager × σ) :=
  match e.toConfig with
  | some _ => updateSync net e s
  | none => pure (e.status, e, s)

inductive SyncOutcome where
  | success
  | exception (reason : String)
  deriving DecidableEq, Repr

def SyncOutcome.status : SyncOutcome → NodeConfigSyncStatus
  | .success => .success
  | .exception _ => .exception

def SyncOutcome.reason : SyncOutcome → String
  | .success => ""
  | .exception reason => reason

def NetworkManager.store (e : NetworkManager) (o : SyncOutcome) : NetworkManager :=
  { e with status := o.status, reason := o.reason }

def inSync (net : NetWork σ) (target : NodeConfigSpec) (s : σ) : Bool :=
  match net.loadSysConfig s with
  | .error _ => false
  | .ok fromConfig => (diff fromConfig target).1

def syncOutcome (net : NetWork σ) (target : NodeConfigSpec) (s : σ) : SyncOutcome :=
  if inSync net target s then .success
  else
    match net.loadSysConfig s with
    | .error err => .exception err
    | .ok fromConfig =>
      let d := (diff fromConfig target).2
      match (writeSys net ⟨some d.1, some d.2⟩ s).1 with
      | some err => .exception err
      | none => .success

inductive Call where
  | updateFromCRD (spec : NodeConfigSpec)
  | updateFromChecker
  deriving DecidableEq, Repr

def Call.run (net : NetWork σ) (e : NetworkManager) (s : σ) :
    Call → Outcome (NodeConfigSyncStatus × NetworkManager × σ)
  | .updateFromCRD spec => Agent.updateFromCRD net e spec s
  | .updateFromChecker => Agent.updateFromChecker net e s

def Call.target (e : NetworkManager) : Call → Option NodeConfigSpec
  | .updateFromCRD spec => e.toConfig.bind fun c => if (diff c spec).1 then none else some spec
  | .updateFromChecker => e.toConfig

structure World (σ : Type) where
  manager : NetworkManager := newNetworkManager
  sys : σ
  last : Option SyncOutcome := none

structure Turn (σ : Type) where
  outside : σ → σ := id
  call : Call

def World.step (net : NetWork σ) (w : World σ) (turn : Turn σ) :
    Outcome (NodeConfigSyncStatus × World σ) := do
  let s := turn.outside w.sys
  let (returned, manager, sys) ← turn.call.run net w.manager s
  let last :=
    match turn.call.target w.manager with
    | none => w.last
    | some target => some (syncOutcome net target s)
  pure (returned, { manager, sys, last })

abbrev Step (σ : Type) := Move (World σ) (Turn σ) NodeConfigSyncStatus

/-- The manager's status and reason are those of the most recent outcome. -/
def World.Recorded (w : World σ) : Prop :=
  w.manager.status = (w.last.map (·.status)).getD .unset ∧
    w.manager.reason = (w.last.map (·.reason)).getD ""

/-- The call returned the most recent outcome, and left it on record. -/
def Agrees (x : Step σ) : Prop :=
  x.result = (x.after.last.map (·.status)).getD .unset ∧ x.after.Recorded

/-- A call that finds the system in sync starts with the status `success`. -/
def Quiet (net : NetWork σ) (x : Step σ) : Prop :=
  ∀ target, x.event.call.target x.before.manager = some target →
    inSync net target (x.event.outside x.before.sys) = true → x.before.manager.status = .success

instance (x : Step σ) : Decidable (Agrees x) := inferInstanceAs (Decidable (_ ∧ _ ∧ _))

variable {net : NetWork σ} {e : NetworkManager} {s : σ} {w : World σ}

variable {target : NodeConfigSpec} {turn : Turn σ}

theorem updateSync_eq (net : NetWork σ) (s : σ) (e : NetworkManager)
    (h : e.toConfig = some target) :
    ∃ s', updateSync net e s = .ok ((syncOutcome net target s).status,
      if inSync net target s then e else e.store (syncOutcome net target s), s') := by
  obtain ⟨_, status, reason⟩ := e
  cases h
  unfold updateSync syncOutcome inSync
  cases net.loadSysConfig s with
  | error err => exact ⟨s, rfl⟩
  | ok fromConfig =>
    simp only [deref_some, ok_bind, pure_eq_ok]
    cases (diff fromConfig target).1 with
    | true => exact ⟨s, rfl⟩
    | false =>
      simp only [Bool.false_eq_true, if_false]
      cases writeSys net ⟨some (diff fromConfig target).2.1,
          some (diff fromConfig target).2.2⟩ s with
      | mk errs s' => cases errs <;> exact ⟨s', rfl⟩

theorem Call.run_none {call : Call} (h : call.target e = none) (hready : e.toConfig.isSome) :
    call.run net e s = .ok (e.status, e, s) := by
  obtain ⟨c, hc⟩ := Option.isSome_iff_exists.mp hready
  cases call with
  | updateFromCRD spec =>
    have hsame : (diff c spec).1 = true := by simpa [Call.target, hc] using h
    simp [Call.run, Agent.updateFromCRD, hc, hsame]
  | updateFromChecker => simp [Call.target, hc] at h

theorem Call.run_some {call : Call} (h : call.target e = some target) :
    call.run net e s = updateSync net { e with toConfig := some target } s := by
  cases call with
  | updateFromCRD spec =>
    obtain ⟨c, hc, hif⟩ := Option.bind_eq_some_iff.mp h
    split at hif
    · cases hif
    next hdiff =>
      cases hif
      simp [Call.run, Agent.updateFromCRD, hc, hdiff]
  | updateFromChecker =>
    have hc : e.toConfig = some target := h
    cases e
    cases hc
    rfl

theorem Call.run_toConfig (net : NetWork σ) (s : σ) (call : Call) (hready : e.toConfig.isSome) :
    ∃ r e' s', call.run net e s = .ok (r, e', s') ∧
      e'.toConfig = (call.target e).or e.toConfig := by
  cases htarget : call.target e with
  | none => exact ⟨_, _, _, Call.run_none htarget hready, rfl⟩
  | some target =>
    obtain ⟨s', hsync⟩ := updateSync_eq net s { e with toConfig := some target } rfl
    refine ⟨_, _, s', (Call.run_some htarget).trans hsync, ?_⟩
    split <;> rfl

theorem updateSync_reaches {has : σ → Entry → Prop} {old target : NodeConfigSpec}
    (h : e.toConfig = some target) (hload : net.loadSysConfig s = .ok old)
    (hnet : ActsExactly net has (diff old target).2.1 (diff old target).2.2) :
    ∃ e' s', updateSync net e s = .ok (.success, e', s') ∧
      ∀ x, has s' x ↔ target.Has x ∨ (old.Has x ∧ ¬ target.Has x ∧ IsBroadcast x) := by
  simp only [updateSync, hload, h, deref_some, ok_bind, pure_eq_ok]
  cases hsame : (diff old target).1 with
  | true =>
    -- nothing is written, and nothing needs to be
    refine ⟨e, s, rfl, fun x => ?_⟩
    rw [hnet.has_of_load hload, has_iff_of_same hsame]
    tauto
  | false =>
    obtain ⟨s', hwrite, hhas⟩ := writeSys_diff hnet hload
    exact ⟨_, s', by rw [hwrite]; rfl, hhas⟩

theorem World.step_none (h : turn.call.target w.manager = none)
    (hready : w.manager.toConfig.isSome) :
    w.step net turn = .ok (w.manager.status, { w with sys := turn.outside w.sys }) := by
  simp [World.step, Call.run_none h hready, h]

theorem World.step_some (net : NetWork σ) (h : turn.call.target w.manager = some target) :
    ∃ s', w.step net turn =
      let e := { w.manager with toConfig := some target }
      let o := syncOutcome net target (turn.outside w.sys)
      .ok (o.status,
        ⟨if inSync net target (turn.outside w.sys) then e else e.store o, s', some o⟩) := by
  obtain ⟨s', hsync⟩ := updateSync_eq net (turn.outside w.sys)
    { w.manager with toConfig := some target } rfl
  exact ⟨s', by simp [World.step, Call.run_some h, hsync, h]⟩

theorem World.step_returns (net : NetWork σ) (w : World σ) (turn : Turn σ)
    (hready : w.manager.toConfig.isSome) :
    ∃ r w', w.step net turn = .ok (r, w') ∧ w'.manager.toConfig.isSome := by
  obtain ⟨r, e', s', hrun, htarget⟩ :=
    turn.call.run_toConfig net (turn.outside w.sys) hready
  refine ⟨r, _, by rw [World.step, hrun]; rfl, ?_⟩
  dsimp only
  rw [htarget, Option.isSome_or, hready, Bool.or_true]

theorem World.Recorded.reason_eq (h : w.Recorded) (hsuccess : w.manager.status = .success) :
    w.manager.reason = "" := by
  obtain ⟨hstatus, hreason⟩ := h
  rw [hsuccess] at hstatus
  cases hlast : w.last with
  | none => simpa [hlast] using hreason
  | some o =>
    rw [hlast] at hstatus hreason
    cases o with
    | success => exact hreason
    | exception reason => cases hstatus

theorem quiet_of_agrees {r : NodeConfigSyncStatus} {w' : World σ}
    (hstep : w.step net turn = .ok (r, w')) (hagrees : Agrees ⟨w, turn, r, w'⟩) :
    Quiet net ⟨w, turn, r, w'⟩ := by
  intro target (htarget : turn.call.target w.manager = some target) hin
  obtain ⟨s', hstep'⟩ := World.step_some net htarget
  cases hstep.symm.trans hstep'
  have hstatus := hagrees.2.1
  simp only [hin, if_true, syncOutcome] at hstatus
  exact hstatus

theorem agrees_of_quiet {r : NodeConfigSyncStatus} {w' : World σ}
    (hready : w.manager.toConfig.isSome) (hrec : w.Recorded)
    (hstep : w.step net turn = .ok (r, w')) (hquiet : Quiet net ⟨w, turn, r, w'⟩) :
    Agrees ⟨w, turn, r, w'⟩ := by
  cases htarget : turn.call.target w.manager with
  | none =>
    cases hstep.symm.trans (World.step_none htarget hready)
    exact ⟨hrec.1, hrec⟩
  | some target =>
    obtain ⟨s', hstep'⟩ := World.step_some net htarget
    cases hstep.symm.trans hstep'
    refine ⟨rfl, ?_⟩
    cases hin : inSync net target (turn.outside w.sys) with
    | false => exact ⟨rfl, rfl⟩
    | true =>
      have hsuccess : w.manager.status = .success := hquiet target htarget hin
      simp only [World.Recorded, hin, if_true, syncOutcome]
      exact ⟨hsuccess, hrec.reason_eq hsuccess⟩

/-- No run panics, and every call tells the last outcome exactly when those that find the system in
sync are quiet. -/
theorem trace_agrees_iff (net : NetWork σ) (s : σ) (turns : List (Turn σ)) :
    ∃ xs, trace (World.step net) { sys := s } turns = .ok xs ∧
      ((∀ x ∈ xs, Agrees x) ↔ ∀ x ∈ xs, Quiet net x) := by
  obtain ⟨xs, hxs⟩ := trace_returns (World.step_returns net) turns { sys := s } rfl
  refine ⟨xs, hxs, ?_, ?_⟩
  · exact trace_keeps (I := fun _ => True)
      (fun w turn r w' _ hstep hagrees => ⟨trivial, quiet_of_agrees hstep hagrees⟩)
      turns _ xs trivial hxs
  · -- what is on record before a call is its predecessor's outcome
    refine trace_keeps (I := fun w => w.manager.toConfig.isSome ∧ w.Recorded)
      (fun w turn r w' hw hstep hquiet => ?_) turns _ xs ⟨rfl, rfl, rfl⟩ hxs
    have hagrees := agrees_of_quiet hw.1 hw.2 hstep hquiet
    obtain ⟨r', w'', hstep', hready⟩ := World.step_returns net w turn hw.1
    cases hstep.symm.trans hstep'
    exact ⟨⟨hready, hagrees.2⟩, hagrees⟩

def flakyNet : NetWork (Bool × List Entry) where
  loadSysConfig s := tableNet.loadSysConfig s.2
  delete k records s := (none, s.1, (tableNet.delete k records s.2).2)
  add k records s :=
    if s.1 then (some "operation not permitted", s)
    else (none, s.1, (tableNet.add k records s.2).2)
  updateCidrConfig _ s := pure s

def repairedRun : List (Turn (Bool × List Entry)) :=
  let spec := configOf [.device sampleDevice]
  [{ call := .updateFromCRD spec },
    { outside := fun _ => (false, [.device sampleDevice]), call := .updateFromChecker },
    { call := .updateFromCRD spec }]

theorem repairedRun_stale :
    ∃ xs, trace (World.step flakyNet) { sys := (true, []) } repairedRun = .ok xs ∧
      xs.map (·.result) = [.exception, .success, .exception] ∧
      xs.map (·.after.last) =
        [some (.exception "<nil>: operation not permitted"), some .success, some .success] ∧
      ¬ ∀ x ∈ xs, Agrees x := by
  refine ⟨_, rfl, ?_⟩
  decide

end Kosmos.Agent
