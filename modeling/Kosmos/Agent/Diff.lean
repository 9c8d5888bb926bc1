import Kosmos.Api.Types

/-!
# The agent's `Diff` and `WriteSys`

What the system has is compared with the node config record by record; the difference is written.
-/

namespace Kosmos.Agent

open Kosmos.Go Kosmos.Api

def compareFunc {T : Type} (old new : Slice T) (f : T → T → Bool) : Bool × Slice T × Slice T :=
  match old, new with
  | none, none => (true, none, none)
  | none, some n => (false, some [], some n)
  | some o, none => (false, some o, some [])
  | some o, some n =>
    let deleteRecord := o.filter fun a => !n.any fun b => f a b
    let createRecord := n.filter fun a => !o.any fun b => f a b
    (deleteRecord.length == createRecord.length && createRecord.length == 0,
      some deleteRecord, some createRecord)

def diffRecords {T : Type} (old new : Slice T) (f : T → T → Bool) : Bool × Slice T × Slice T :=
  match compareFunc old new f with
  | (true, _, _) => (true, none, none)
  | (false, deleteRecord, createRecord) => (false, deleteRecord, createRecord)

def broadcastMac : String := "ff:ff:ff:ff:ff:ff"

def diffCaches {T : Type} (old new : Slice T) (f : T → T → Bool) (mac : T → String) :
    Bool × Slice T × Slice T :=
  match compareFunc old new f with
  | (true, _, _) => (true, none, none)
  | (false, deleteRecord, createRecord) =>
    (false, appended (deleteRecord.elems.filter fun dr => mac dr ≠ broadcastMac), createRecord)

def diff (oldConfig newConfig : NodeConfigSpec) : Bool × NodeConfigSpec × NodeConfigSpec :=
  let devices := diffRecords oldConfig.devices newConfig.devices Device.compare
  let routes := diffRecords oldConfig.routes newConfig.routes Route.compare
  let iptables := diffRecords oldConfig.iptables newConfig.iptables Iptables.compare
  let fdbs := diffCaches oldConfig.fdbs newConfig.fdbs Fdb.compare (·.mac)
  let arps := diffCaches oldConfig.arps newConfig.arps Arp.compare (·.mac)
  (devices.1 && routes.1 && iptables.1 && fdbs.1 && arps.1,
    { devices := devices.2.1, routes := routes.2.1, iptables := iptables.2.1, fdbs := fdbs.2.1
      arps := arps.2.1 },
    { devices := devices.2.2, routes := routes.2.2, iptables := iptables.2.2, fdbs := fdbs.2.2
      arps := arps.2.2 })

inductive Kind where
  | device
  | route
  | iptables
  | fdb
  | arp
  deriving DecidableEq, Repr

namespace Kind

@[reducible] def Record : Kind → Type
  | .device => Device
  | .route => Route
  | .iptables => Iptables
  | .fdb => Fdb
  | .arp => Arp

def get : (k : Kind) → NodeConfigSpec → Slice k.Record
  | .device, c => c.devices
  | .route, c => c.routes
  | .iptables, c => c.iptables
  | .fdb, c => c.fdbs
  | .arp, c => c.arps

def entry : (k : Kind) → k.Record → Entry
  | .device => .device
  | .route => .route
  | .iptables => .iptables
  | .fdb => .fdb
  | .arp => .arp

end Kind

structure NetWork (σ : Type) where
  loadSysConfig : σ → Except String NodeConfigSpec
  delete : (k : Kind) → List k.Record → σ → Option String × σ
  add : (k : Kind) → List k.Record → σ → Option String × σ
  updateCidrConfig : Cluster → σ → Outcome σ

def wrap (errs : Option String) (err : String) : String := errs.getD "<nil>" ++ ": " ++ err

def writeStep {σ : Type} (op : (k : Kind) → List k.Record → σ → Option String × σ)
    (config : NodeConfigSpec) (es : Option String × σ) (k : Kind) : Option String × σ :=
  match k.get config with
  | none => es
  | some records =>
    match op k records es.2 with
    | (none, s) => (es.1, s)
    | (some err, s) => (some (wrap es.1 err), s)

def deleteOrder : List Kind := [.arp, .fdb, .iptables, .route, .device]

def createOrder : List Kind := [.device, .arp, .fdb, .iptables, .route]

structure ConfigDiff where
  deleteConfig : Option NodeConfigSpec
  createConfig : Option NodeConfigSpec

def writeSys {σ : Type} (net : NetWork σ) (configDiff : ConfigDiff) (s : σ) : Option String × σ :=
  let es : Option String × σ := (none, s)
  let es :=
    match configDiff.deleteConfig with
    | none => es
    | some config => deleteOrder.foldl (writeStep net.delete config) es
  match configDiff.createConfig with
  | none => es
  | some config => createOrder.foldl (writeStep net.add config) es

section Compare

variable {T : Type} {f : T → T → Bool} {old new : Slice T} {r : T}

theorem mem_filter_not_any {l l' : List T} (hf : ∀ a b, f a b = true ↔ a = b) :
    r ∈ (l.filter fun a => !l'.any fun b => f a b) ↔ r ∈ l ∧ r ∉ l' := by
  have hany : (l'.any fun b => f r b) = true ↔ r ∈ l' := by simp [hf]
  rw [List.mem_filter, Bool.not_eq_true', ← Bool.not_eq_true, hany]

theorem mem_compareFunc (hf : ∀ a b, f a b = true ↔ a = b) :
    (r ∈ (compareFunc old new f).2.1.elems ↔ r ∈ old.elems ∧ r ∉ new.elems) ∧
      (r ∈ (compareFunc old new f).2.2.elems ↔ r ∈ new.elems ∧ r ∉ old.elems) := by
  unfold compareFunc
  split
  · simp
  · simp
  · simp
  · exact ⟨mem_filter_not_any hf, mem_filter_not_any hf⟩

theorem compareFunc_same (h : (compareFunc old new f).1 = true) :
    (compareFunc old new f).2.1.elems = [] ∧ (compareFunc old new f).2.2.elems = [] := by
  unfold compareFunc at h ⊢
  split at h
  · exact ⟨rfl, rfl⟩
  · cases h
  · cases h
  · simp only [Bool.and_eq_true, beq_iff_eq] at h
    exact ⟨List.length_eq_zero_iff.mp (h.1.trans h.2), List.length_eq_zero_iff.mp h.2⟩

theorem compareFunc_fst_iff (hf : ∀ a b, f a b = true ↔ a = b) :
    (compareFunc old new f).1 = true ↔
      (old = none ↔ new = none) ∧ ∀ r, r ∈ old.elems ↔ r ∈ new.elems := by
  have hmem := fun r => @mem_compareFunc T f old new r hf
  constructor
  · intro h
    refine ⟨?_, fun r => ?_⟩
    · unfold compareFunc at h
      split at h
      · exact Iff.rfl
      · cases h
      · cases h
      · exact iff_of_false (Option.some_ne_none _) (Option.some_ne_none _)
    · -- what only one list has would be left to do
      have hr := hmem r
      rw [(compareFunc_same h).1, (compareFunc_same h).2] at hr
      simp only [List.not_mem_nil, false_iff, not_and_not_right] at hr
      exact ⟨hr.1, hr.2⟩
  · rintro ⟨hnil, hrecords⟩
    unfold compareFunc at hmem ⊢
    split
    · rfl
    next n => exact absurd (hnil.mp rfl) (Option.some_ne_none n)
    next o => exact absurd (hnil.mpr rfl) (Option.some_ne_none o)
    next o n =>
      have hdelete := List.eq_nil_iff_forall_not_mem.mpr fun r hr =>
        have hr := (hmem r).1.mp hr
        hr.2 ((hrecords r).mp hr.1)
      have hcreate := List.eq_nil_iff_forall_not_mem.mpr fun r hr =>
        have hr := (hmem r).2.mp hr
        hr.2 ((hrecords r).mpr hr.1)
      rw [Slice.elems_some] at hdelete hcreate
      dsimp only
      rw [hdelete, hcreate]
      rfl

theorem mem_diffRecords (hf : ∀ a b, f a b = true ↔ a = b) :
    (r ∈ (diffRecords old new f).2.1.elems ↔ r ∈ old.elems ∧ r ∉ new.elems) ∧
      (r ∈ (diffRecords old new f).2.2.elems ↔ r ∈ new.elems ∧ r ∉ old.elems) := by
  have hmem := @mem_compareFunc T f old new r hf
  unfold diffRecords
  split
  next hc =>
    have hsame := @compareFunc_same T f old new (by rw [hc])
    rw [hsame.1, hsame.2] at hmem
    exact hmem
  next hc =>
    rw [hc] at hmem
    exact hmem

theorem mem_diffCaches {mac : T → String} (hf : ∀ a b, f a b = true ↔ a = b) :
    (r ∈ (diffCaches old new f mac).2.1.elems ↔
        r ∈ old.elems ∧ r ∉ new.elems ∧ mac r ≠ broadcastMac) ∧
      (r ∈ (diffCaches old new f mac).2.2.elems ↔ r ∈ new.elems ∧ r ∉ old.elems) := by
  have hmem := @mem_compareFunc T f old new r hf
  unfold diffCaches
  split
  next hc =>
    have hsame := @compareFunc_same T f old new (by rw [hc])
    rw [hsame.1, hsame.2] at hmem
    -- nothing to delete is nothing to filter
    refine ⟨⟨fun h => ?_, fun h => hmem.1.mpr ⟨h.1, h.2.1⟩⟩, hmem.2⟩
    cases h
  next hc =>
    rw [hc] at hmem
    refine ⟨?_, hmem.2⟩
    rw [elems_appended, List.mem_filter, hmem.1, and_assoc, decide_eq_true_eq]

end Compare

def IsBroadcast : Entry → Prop
  | .fdb f => f.mac = broadcastMac
  | .arp a => a.mac = broadcastMac
  | _ => False

theorem diff_has (oldConfig newConfig : NodeConfigSpec) (e : Entry) :
    ((diff oldConfig newConfig).2.1.Has e ↔
        oldConfig.Has e ∧ ¬ newConfig.Has e ∧ ¬ IsBroadcast e) ∧
      ((diff oldConfig newConfig).2.2.Has e ↔ newConfig.Has e ∧ ¬ oldConfig.Has e) := by
  cases e with
  | device d =>
    simpa [NodeConfigSpec.Has, diff, IsBroadcast] using mem_diffRecords Device.compare_iff
  | route r => simpa [NodeConfigSpec.Has, diff, IsBroadcast] using mem_diffRecords Route.compare_iff
  | iptables i =>
    simpa [NodeConfigSpec.Has, diff, IsBroadcast] using mem_diffRecords Iptables.compare_iff
  | fdb f => simpa [NodeConfigSpec.Has, diff, IsBroadcast] using mem_diffCaches Fdb.compare_iff
  | arp a => simpa [NodeConfigSpec.Has, diff, IsBroadcast] using mem_diffCaches Arp.compare_iff

theorem diffRecords_fst {T : Type} (old new : Slice T) (f : T → T → Bool) :
    (diffRecords old new f).1 = (compareFunc old new f).1 := by
  unfold diffRecords
  split <;> next h => rw [h]

theorem diffCaches_fst {T : Type} (old new : Slice T) (f : T → T → Bool) (mac : T → String) :
    (diffCaches old new f mac).1 = (compareFunc old new f).1 := by
  unfold diffCaches
  split <;> next h => rw [h]

theorem diff_fst_iff (old new : NodeConfigSpec) :
    (diff old new).1 = true ↔
      (∀ k : Kind, k.get old = none ↔ k.get new = none) ∧ ∀ e, old.Has e ↔ new.Has e := by
  simp only [diff, diffRecords_fst, diffCaches_fst, Bool.and_eq_true,
    compareFunc_fst_iff Device.compare_iff, compareFunc_fst_iff Route.compare_iff,
    compareFunc_fst_iff Iptables.compare_iff, compareFunc_fst_iff Fdb.compare_iff,
    compareFunc_fst_iff Arp.compare_iff]
  constructor
  · rintro ⟨⟨⟨⟨hdevices, hroutes⟩, hiptables⟩, hfdbs⟩, harps⟩
    constructor
    · intro k
      cases k with
      | device => exact hdevices.1
      | route => exact hroutes.1
      | iptables => exact hiptables.1
      | fdb => exact hfdbs.1
      | arp => exact harps.1
    · intro e
      cases e with
      | device d => exact hdevices.2 d
      | route r => exact hroutes.2 r
      | iptables i => exact hiptables.2 i
      | fdb f => exact hfdbs.2 f
      | arp a => exact harps.2 a
  · rintro ⟨hnil, hhas⟩
    exact ⟨⟨⟨⟨⟨hnil .device, fun d => hhas (.device d)⟩, ⟨hnil .route, fun r => hhas (.route r)⟩⟩,
      ⟨hnil .iptables, fun i => hhas (.iptables i)⟩⟩, ⟨hnil .fdb, fun f => hhas (.fdb f)⟩⟩,
      ⟨hnil .arp, fun a => hhas (.arp a)⟩⟩

theorem has_iff_of_same {oldConfig newConfig : NodeConfigSpec}
    (h : (diff oldConfig newConfig).1 = true) (e : Entry) : oldConfig.Has e ↔ newConfig.Has e :=
  ((diff_fst_iff oldConfig newConfig).mp h).2 e

theorem diff_self (config : NodeConfigSpec) : (diff config config).1 = true :=
  (diff_fst_iff config config).mpr ⟨fun _ => Iff.rfl, fun _ => Iff.rfl⟩

/-- Sameness: `Diff` tells whether the records are the same, unless an empty list is nil on one side
only. -/
theorem diff_tells_same_iff (old new : NodeConfigSpec) :
    ((diff old new).1 = true ↔ ∀ e, old.Has e ↔ new.Has e) ↔
      ((∀ e, old.Has e ↔ new.Has e) → ∀ k : Kind, k.get old = none ↔ k.get new = none) := by
  rw [diff_fst_iff]
  exact ⟨fun h hhas => (h.mpr hhas).1, fun h => ⟨And.right, fun hhas => ⟨h hhas, hhas⟩⟩⟩

def bareSpec : NodeConfigSpec := {}

def loadedSpec : NodeConfigSpec := { routes := some [] }

theorem diff_bareSpec :
    (∀ e, loadedSpec.Has e ↔ bareSpec.Has e) ∧ (diff loadedSpec bareSpec).1 = false := by
  refine ⟨fun e => ?_, rfl⟩
  cases e <;> exact Iff.rfl

def Kind.In (k : Kind) (c : NodeConfigSpec) (e : Entry) : Prop :=
  ∃ r ∈ (k.get c).elems, k.entry r = e

theorem has_iff_in {c : NodeConfigSpec} {e : Entry} : c.Has e ↔ ∃ k : Kind, k.In c e := by
  constructor
  · intro h
    cases e with
    | device d => exact ⟨.device, d, h, rfl⟩
    | route r => exact ⟨.route, r, h, rfl⟩
    | iptables i => exact ⟨.iptables, i, h, rfl⟩
    | fdb f => exact ⟨.fdb, f, h, rfl⟩
    | arp a => exact ⟨.arp, a, h, rfl⟩
  · rintro ⟨k, r, hr, rfl⟩
    cases k <;> exact hr

theorem mem_deleteOrder (k : Kind) : k ∈ deleteOrder := by
  cases k <;> simp [deleteOrder]

theorem mem_createOrder (k : Kind) : k ∈ createOrder := by
  cases k <;> simp [createOrder]

theorem foldl_and_not {Q : Kind → Prop} (ks : List Kind) (P : Prop) :
    ks.foldl (fun P k => P ∧ ¬ Q k) P ↔ P ∧ ¬ ∃ k ∈ ks, Q k := by
  induction ks generalizing P with
  | nil => simp
  | cons k ks ih => rw [List.foldl_cons, ih, and_assoc, List.exists_mem_cons_iff, not_or]

theorem foldl_or {Q : Kind → Prop} (ks : List Kind) (P : Prop) :
    ks.foldl (fun P k => P ∨ Q k) P ↔ P ∨ ∃ k ∈ ks, Q k := by
  induction ks generalizing P with
  | nil => simp
  | cons k ks ih => rw [List.foldl_cons, ih, or_assoc, List.exists_mem_cons_iff]

section Converge

variable {σ : Type} {net : NetWork σ} {has : σ → Entry → Prop}

/-- The system deletes and adds exactly the records it is told to, and reports its own. -/
structure ActsExactly (net : NetWork σ) (has : σ → Entry → Prop)
    (deleteConfig createConfig : NodeConfigSpec) : Prop where
  delete : ∀ k records, k.get deleteConfig = some records → ∀ s,
    (net.delete k records s).1 = none ∧
      ∀ e, has (net.delete k records s).2 e ↔ has s e ∧ e ∉ records.map k.entry
  add : ∀ k records, k.get createConfig = some records → ∀ s,
    (net.add k records s).1 = none ∧
      ∀ e, has (net.add k records s).2 e ↔ has s e ∨ e ∈ records.map k.entry
  load : ∀ s, ∃ config, net.loadSysConfig s = .ok config ∧ ∀ e, config.Has e ↔ has s e

theorem Kind.in_some {k : Kind} {c : NodeConfigSpec} {records : List k.Record}
    (h : k.get c = some records) {e : Entry} : k.In c e ↔ e ∈ records.map k.entry := by
  rw [Kind.In, h, Slice.elems_some, List.mem_map]

section Pass

variable {op : (k : Kind) → List k.Record → σ → Option String × σ} {config : NodeConfigSpec}
  (upd : Prop → Prop → Prop)

theorem writeStep_exact (hupd : ∀ P, upd P False ↔ P)
    (hop : ∀ k records, k.get config = some records → ∀ s, (op k records s).1 = none ∧
      ∀ e, has (op k records s).2 e ↔ upd (has s e) (e ∈ records.map k.entry))
    (s : σ) (k : Kind) : ∃ s', writeStep op config (none, s) k = (none, s') ∧
      ∀ e, has s' e ↔ upd (has s e) (k.In config e) := by
  cases hk : k.get config with
  | none =>
    refine ⟨s, by rw [writeStep, hk], fun e => ?_⟩
    have hno : k.In config e ↔ False := by simp [Kind.In, hk]
    rw [hno, hupd]
  | some records =>
    obtain ⟨herr, hhas⟩ := hop k records hk s
    refine ⟨(op k records s).2, ?_, fun e => by rw [hhas, Kind.in_some hk]⟩
    simp only [writeStep, hk]
    split
    next h => rw [h]
    next h =>
      rw [h] at herr
      cases herr

theorem foldl_writeStep (hupd : ∀ P, upd P False ↔ P)
    (hop : ∀ k records, k.get config = some records → ∀ s, (op k records s).1 = none ∧
      ∀ e, has (op k records s).2 e ↔ upd (has s e) (e ∈ records.map k.entry)) :
    ∀ (ks : List Kind) (s : σ), ∃ s', ks.foldl (writeStep op config) (none, s) = (none, s') ∧
      ∀ e, has s' e ↔ ks.foldl (fun P k => upd P (k.In config e)) (has s e)
  | [], s => ⟨s, rfl, fun _ => Iff.rfl⟩
  | k :: ks, s => by
    obtain ⟨s₁, he₁, hs₁⟩ := writeStep_exact upd hupd hop s k
    obtain ⟨s', he, hs'⟩ := foldl_writeStep hupd hop ks s₁
    refine ⟨s', by rw [List.foldl_cons, he₁, he], fun e => ?_⟩
    rw [hs', List.foldl_cons, propext (hs₁ e)]

end Pass

theorem writeSys_exact {del cre : NodeConfigSpec} (hnet : ActsExactly net has del cre) (s : σ) :
    ∃ s', writeSys net ⟨some del, some cre⟩ s = (none, s') ∧
      ∀ e, has s' e ↔ (has s e ∧ ¬ del.Has e) ∨ cre.Has e := by
  obtain ⟨s₁, he₁, hs₁⟩ := foldl_writeStep (· ∧ ¬ ·) (by simp) hnet.delete deleteOrder s
  obtain ⟨s₂, he₂, hs₂⟩ := foldl_writeStep (· ∨ ·) (by simp) hnet.add createOrder s₁
  refine ⟨s₂, by simp only [writeSys, he₁, he₂], fun e => ?_⟩
  rw [hs₂, hs₁, foldl_or, foldl_and_not, has_iff_in, has_iff_in]
  simp [mem_deleteOrder, mem_createOrder]

theorem ActsExactly.has_of_load {del cre config : NodeConfigSpec} {s : σ}
    (hnet : ActsExactly net has del cre) (hload : net.loadSysConfig s = .ok config) (e : Entry) :
    has s e ↔ config.Has e := by
  obtain ⟨config', hload', hreport⟩ := hnet.load s
  rw [hload, Except.ok.injEq] at hload'
  rw [hload', hreport]

theorem writeSys_diff {s : σ} {old new : NodeConfigSpec}
    (hnet : ActsExactly net has (diff old new).2.1 (diff old new).2.2)
    (hload : net.loadSysConfig s = .ok old) :
    ∃ s', writeSys net ⟨some (diff old new).2.1, some (diff old new).2.2⟩ s = (none, s') ∧
      ∀ e, has s' e ↔ new.Has e ∨ (old.Has e ∧ ¬ new.Has e ∧ IsBroadcast e) := by
  obtain ⟨s', hwrite, hhas⟩ := writeSys_exact hnet s
  refine ⟨s', hwrite, fun e => ?_⟩
  rw [hhas, hnet.has_of_load hload, (diff_has old new e).1, (diff_has old new e).2]
  tauto

/-- Writing the difference leaves the records of the new config and the broadcast entries, and
touches no record of both. -/
theorem writeSys_converges {s : σ} {old new : NodeConfigSpec}
    (hnet : ActsExactly net has (diff old new).2.1 (diff old new).2.2)
    (hload : net.loadSysConfig s = .ok old) :
    (∃ s' config, writeSys net ⟨some (diff old new).2.1, some (diff old new).2.2⟩ s = (none, s') ∧
      net.loadSysConfig s' = .ok config ∧
      ∀ e, config.Has e ↔ new.Has e ∨ (old.Has e ∧ ¬ new.Has e ∧ IsBroadcast e)) ∧
    ∀ e, old.Has e → new.Has e → ¬ (diff old new).2.1.Has e ∧ ¬ (diff old new).2.2.Has e := by
  constructor
  · obtain ⟨s', hwrite, hhas⟩ := writeSys_diff hnet hload
    obtain ⟨config, hconfig, hreport⟩ := hnet.load s'
    exact ⟨s', config, hwrite, hconfig, fun e => (hreport e).trans (hhas e)⟩
  · intro e hold hnew
    rw [(diff_has old new e).1, (diff_has old new e).2]
    exact ⟨fun h => h.2.1 hnew, fun h => h.2 hold⟩

end Converge

def configOf (s : List Entry) : NodeConfigSpec where
  devices := some (s.filterMap Entry.device?)
  routes := some (s.filterMap Entry.route?)
  iptables := some (s.filterMap Entry.iptables?)
  fdbs := some (s.filterMap Entry.fdb?)
  arps := some (s.filterMap Entry.arp?)

theorem configOf_has (s : List Entry) (e : Entry) : (configOf s).Has e ↔ e ∈ s := by
  cases e <;>
    simp only [NodeConfigSpec.Has, configOf, Slice.elems_some, List.mem_filterMap] <;>
    constructor
  all_goals
    first
    | rintro ⟨e, he, h⟩
      cases e <;> cases h
      exact he
    | exact fun h => ⟨_, h, rfl⟩

def tableNet : NetWork (List Entry) where
  loadSysConfig s := .ok (configOf s)
  delete k records s := (none, s.filter fun e => e ∉ records.map k.entry)
  add k records s := (none, s ++ records.map k.entry)
  updateCidrConfig _ s := pure s

theorem tableNet_acts (del cre : NodeConfigSpec) :
    ActsExactly tableNet (fun s e => e ∈ s) del cre where
  delete k records _ s := ⟨rfl, fun e => by simp [tableNet]⟩
  add k records _ s := ⟨rfl, fun e => by simp [tableNet]⟩
  load s := ⟨configOf s, rfl, configOf_has s⟩

def sampleDevice : Device :=
  { type := "vxlan", name := "vx-bridge", addr := "220.0.0.1/8", mac := "2e:00:00:00:00:01"
    bindDev := "eth0", id := 54, port := 4876 }

def sampleStale : Route := { cidr := "10.9.0.0/16", gw := "220.0.0.9", dev := "vx-bridge" }

def sampleFlood : Fdb := { ip := "172.16.0.2", mac := broadcastMac, dev := "vx-bridge" }

def sampleRoute : Route := { cidr := "10.2.0.0/16", gw := "220.0.0.2", dev := "vx-bridge" }

def sampleTable : List Entry := [.device sampleDevice, .route sampleStale, .fdb sampleFlood]

def sampleTarget : NodeConfigSpec where
  devices := some [sampleDevice]
  routes := some [sampleRoute]

theorem sampleTarget_written :
    let d := (diff (configOf sampleTable) sampleTarget).2
    (∃ s' config, writeSys tableNet ⟨some d.1, some d.2⟩ sampleTable = (none, s') ∧
      tableNet.loadSysConfig s' = .ok config ∧
      ∀ e, config.Has e ↔ sampleTarget.Has e ∨
        ((configOf sampleTable).Has e ∧ ¬ sampleTarget.Has e ∧ IsBroadcast e)) ∧
    ∀ e, (configOf sampleTable).Has e → sampleTarget.Has e → ¬ d.1.Has e ∧ ¬ d.2.Has e :=
  writeSys_converges (tableNet_acts _ _) rfl

end Kosmos.Agent
