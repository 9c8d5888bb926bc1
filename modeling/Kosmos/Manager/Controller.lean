import Kosmos.Manager.Stable
import Kosmos.Go.Store
import Kosmos.Go.Trace

/-!
# The network manager's controller

`Reconcile` calculates the configs of the whole fleet and writes them one by one. A deletion that
fails is logged, a write that fails ends the round.

A cache that is behind may only report an object as not found to `Get`.
-/

namespace Kosmos.Manager

open Kosmos.Go Kosmos.Api

/-! ## `CreateOrUpdate` -/

structure Object extends Api.NodeConfig where
  annotations : GoMap String String := GoMap.empty
  deriving DecidableEq

abbrev Configs := Store fun o : Object => o.name

def omitEmpty (field : String) (texts : List String) : List String :=
  if texts.isEmpty then [] else ["\"" ++ field ++ "\":[" ++ ",".intercalate texts ++ "]"]

def marshalSpec (spec : NodeConfigSpec) : String :=
  "\x7b" ++ ",".intercalate
    (omitEmpty "devices" (spec.devices.elems.map Device.text)
      ++ omitEmpty "routes" (spec.routes.elems.map Route.text)
      ++ omitEmpty "iptables" (spec.iptables.elems.map Iptables.text)
      ++ omitEmpty "fdbs" (spec.fdbs.elems.map Fdb.text)
      ++ omitEmpty "arps" (spec.arps.elems.map Arp.text)) ++ "\x7d"

def mutateNodeConfig (config : NodeConfig) (nc : Object) : Object :=
  { nc with
    spec := config.convertToNodeConfigSpec
    annotations := ⟨[("prev", marshalSpec nc.spec)], List.nodup_singleton _⟩ }

/-- The same records, nil and empty slices being alike. -/
structure SameSpec (a b : NodeConfigSpec) : Prop where
  devices : a.devices.elems = b.devices.elems
  routes : a.routes.elems = b.routes.elems
  iptables : a.iptables.elems = b.iptables.elems
  fdbs : a.fdbs.elems = b.fdbs.elems
  arps : a.arps.elems = b.arps.elems

instance (a b : NodeConfigSpec) : Decidable (SameSpec a b) :=
  decidable_of_iff (a.devices.elems = b.devices.elems ∧ a.routes.elems = b.routes.elems ∧
      a.iptables.elems = b.iptables.elems ∧ a.fdbs.elems = b.fdbs.elems ∧
      a.arps.elems = b.arps.elems)
    ⟨fun h => ⟨h.1, h.2.1, h.2.2.1, h.2.2.2.1, h.2.2.2.2⟩,
      fun h => ⟨h.devices, h.routes, h.iptables, h.fdbs, h.arps⟩⟩

def semanticDeepEqual (a b : Object) : Bool :=
  a.name = b.name ∧ SameSpec a.spec b.spec ∧ a.annotations.entries.Perm b.annotations.entries

def createOrUpdate (get : Option CallError) (answer : WriteAnswer) (s : Configs) (nodeName : String)
    (config : NodeConfig) : Option CallError × Configs :=
  let created := mutateNodeConfig config { name := nodeName, spec := {} }
  match get, s.get? nodeName with
  | some .notFound, _ => answered answer (s.create created) s
  | some e, _ => (some e, s)
  | none, none => answered answer (s.create created) s
  | none, some existing =>
    if semanticDeepEqual existing (mutateNodeConfig config existing) then (none, s)
    else answered answer (s.update (mutateNodeConfig config existing)) s

/-! ## `Reconcile` -/

structure Round where
  env : Env
  listFails : Bool := false
  order : List (String × NodeConfig) → List (String × NodeConfig)
  order_perm : ∀ l, (order l).Perm l
  delete : String → WriteAnswer := fun _ => .done
  get : String → Option CallError := fun _ => none
  write : String → WriteAnswer := fun _ => .done

structure Result where
  requeueAfter : Nat := 0
  err : Option CallError := none
  deriving DecidableEq

def requeueTime : Nat := 10

structure World where
  clusters : Store Cluster.name
  clusterNodes : Store ClusterNode.name
  nodeConfigs : Configs

def listed (s : Configs) : List Api.NodeConfig := s.objects.map Object.toNodeConfig

def resultEntries (w : World) (R : String → Option NodeConfig) : List (String × NodeConfig) :=
  w.clusterNodes.objects.filterMap fun n => (R n.name).map fun c => (n.name, c)

def clearNodeConfigs (r : Round) (R : String → Option NodeConfig) (items : List Object)
    (s : Configs) : Configs :=
  items.foldl (fun s nc =>
    if (R nc.name).isSome then s else (answered (r.delete nc.name) (s.delete nc.name) s).2) s

def writeNodeConfigs (r : Round) : List (String × NodeConfig) → Configs → Option CallError × Configs
  | [], s => (none, s)
  | (nodeName, config) :: entries, s =>
    match createOrUpdate (r.get nodeName) (r.write nodeName) s nodeName config with
    | (some e, s) => (some e, s)
    | (none, s) => writeNodeConfigs r entries s

def World.fleet (w : World) (s : Configs) : Fleet :=
  fleetOf w.clusters.objects w.clusterNodes.objects (listed s)

def World.withConfigs (w : World) (s : Configs) : World := { w with nodeConfigs := s }

def World.calculate (w : World) (env : Env) : Outcome (String → Option NodeConfig) :=
  calculateNetworkConfigs env w.clusters.objects w.clusterNodes.objects (listed w.nodeConfigs)

def World.reconcile (w : World) (r : Round) : Outcome (Result × World) :=
  if r.listFails then .ok ({ requeueAfter := requeueTime }, w)
  else
    match w.calculate r.env with
    | .error (.err _) => .ok ({ requeueAfter := requeueTime }, w)
    | .error (.panic p) => .error (.panic p)
    | .ok R =>
      let s := clearNodeConfigs r R w.nodeConfigs.objects w.nodeConfigs
      match writeNodeConfigs r (r.order (resultEntries w R)) s with
      | (some e, s) =>
        .ok ({ requeueAfter := requeueTime, err := some e }, w.withConfigs s)
      | (none, s) => .ok ({}, w.withConfigs s)

/-! ## What a write leaves -/

theorem SameSpec.marshalSpec_eq {a b : NodeConfigSpec} (h : SameSpec a b) :
    marshalSpec a = marshalSpec b := by
  rw [marshalSpec, marshalSpec, h.devices, h.routes, h.iptables, h.fdbs, h.arps]

def Shows (c : NodeConfig) (o : Object) : Prop := SameSpec o.spec c.convertToNodeConfigSpec

def Rests (c : NodeConfig) (o : Object) : Prop :=
  Shows c o ∧ o.annotations.entries = [("prev", marshalSpec o.spec)]

theorem semanticDeepEqual_mutate {c : NodeConfig} {o : Object} :
    semanticDeepEqual o (mutateNodeConfig c o) = true ↔ Rests c o := by
  simp [semanticDeepEqual, mutateNodeConfig, Rests, Shows]

theorem shows_mutate (c : NodeConfig) (o : Object) : Shows c (mutateNodeConfig c o) :=
  ⟨rfl, rfl, rfl, rfl, rfl⟩

theorem Shows.rests_mutate {c : NodeConfig} {o : Object} (h : Shows c o) :
    Rests c (mutateNodeConfig c o) := by
  refine ⟨shows_mutate c o, ?_⟩
  have htext : marshalSpec o.spec = marshalSpec c.convertToNodeConfigSpec := h.marshalSpec_eq
  rw [mutateNodeConfig, htext]

/-- What the write of a config does to its object, which at rest it leaves. -/
def Written (name : String) (c : NodeConfig) (err : Option CallError)
    (before after : Option Object) : Prop :=
  after = before ∧ (err = none → ∃ o, before = some o ∧ Rests c o) ∨
    after = some (mutateNodeConfig c (before.getD { name := name, spec := {} })) ∧
      ∀ o, before = some o → ¬ Rests c o

namespace Written

variable {name : String} {c : NodeConfig} {err : Option CallError} {before after : Option Object}

theorem of_error (e : CallError) (h : after = before) : Written name c (some e) before after :=
  Or.inl ⟨h, fun hnone => absurd hnone (Option.some_ne_none e)⟩

theorem shows (h : Written name c err before after)
    (hbefore : err = none ∨ ∃ o, before = some o ∧ Shows c o) :
    ∃ o, after = some o ∧ Shows c o := by
  rcases h with ⟨rfl, hnone⟩ | ⟨rfl, -⟩
  · rcases hbefore with herr | hshown
    · obtain ⟨o, ho, hrests⟩ := hnone herr
      exact ⟨o, ho, hrests.1⟩
    · exact hshown
  · exact ⟨_, rfl, shows_mutate c _⟩

theorem rests (h : Written name c none before after) (hbefore : ∃ o, before = some o ∧ Shows c o) :
    ∃ o, after = some o ∧ Rests c o := by
  obtain ⟨o, rfl, hshows⟩ := hbefore
  rcases h with ⟨rfl, hnone⟩ | ⟨rfl, -⟩
  · exact hnone rfl
  · exact ⟨_, rfl, hshows.rests_mutate⟩

theorem left (h : Written name c err before after) (hbefore : ∃ o, before = some o ∧ Rests c o) :
    after = before := by
  obtain ⟨o, rfl, hrests⟩ := hbefore
  rcases h with ⟨hsame, -⟩ | ⟨-, hnot⟩
  · exact hsame
  · exact absurd hrests (hnot o rfl)

end Written

section Writes

variable {s s' : Configs} {name : String} {c : NodeConfig} {err : Option CallError}

theorem create_effect {answer : WriteAnswer}
    (h : answered answer (s.create (mutateNodeConfig c { name := name, spec := {} })) s
      = (err, s')) :
    Written name c err (s.get? name) (s'.get? name) ∧ ∀ j, j ≠ name → s'.get? j = s.get? j := by
  rcases answered_split h with ⟨rfl, e, rfl⟩ | hok
  · exact ⟨Written.of_error e rfl, fun _ _ => rfl⟩
  · have hfree : s.get? name = none := Store.get?_eq_none.mpr (Store.create_free hok)
    have hafter : ∀ j, s'.get? j = if j = name then some _ else s.get? j := Store.get?_create hok
    refine ⟨Or.inr ⟨?_, fun o ho => ?_⟩, fun j hj => by rw [hafter, if_neg hj]⟩
    · rw [hafter, if_pos rfl, hfree]
      rfl
    · rw [hfree] at ho
      cases ho

theorem createOrUpdate_effect {get : Option CallError} {answer : WriteAnswer}
    (h : createOrUpdate get answer s name c = (err, s')) :
    Written name c err (s.get? name) (s'.get? name) ∧ ∀ j, j ≠ name → s'.get? j = s.get? j := by
  unfold createOrUpdate at h
  dsimp only at h
  split at h
  · exact create_effect h
  next e hget =>
    cases h
    exact ⟨Written.of_error e rfl, fun _ _ => rfl⟩
  · exact create_effect h
  next existing hexisting =>
    obtain ⟨-, rfl⟩ := Store.get?_eq_some.mp hexisting
    rw [hexisting]
    split at h
    next hrests =>
      cases h
      exact ⟨Or.inl ⟨hexisting, fun _ => ⟨existing, rfl, semanticDeepEqual_mutate.mp hrests⟩⟩,
        fun _ _ => rfl⟩
    next hrests =>
      rcases answered_split h with ⟨rfl, e, rfl⟩ | hok
      · exact ⟨Written.of_error e hexisting, fun _ _ => rfl⟩
      · have hafter : ∀ j, s'.get? j = if j = existing.name then
            some (mutateNodeConfig c existing) else s.get? j := Store.get?_update hok
        refine ⟨Or.inr ⟨by rw [hafter, if_pos rfl]; rfl, ?_⟩, fun j hj => by rw [hafter, if_neg hj]⟩
        rintro o ⟨⟩ ho
        exact hrests (semanticDeepEqual_mutate.mpr ho)

theorem writeNodeConfigs_effect {r : Round} :
    ∀ {entries : List (String × NodeConfig)} {s : Configs}, (entries.map Prod.fst).Nodup →
      writeNodeConfigs r entries s = (err, s') →
      (∀ name c, (name, c) ∈ entries → Written name c err (s.get? name) (s'.get? name)) ∧
        ∀ j, j ∉ entries.map Prod.fst → s'.get? j = s.get? j
  | [], s, _, h => by
    cases h
    exact ⟨fun _ _ hmem => absurd hmem List.not_mem_nil, fun _ _ => rfl⟩
  | (name, c) :: entries, s, hnd, h => by
    rw [List.map_cons, List.nodup_cons] at hnd
    rw [writeNodeConfigs] at h
    have hne : ∀ {j d}, (j, d) ∈ entries → j ≠ name := by
      rintro j d hmem rfl
      exact hnd.1 (List.mem_map.mpr ⟨_, hmem, rfl⟩)
    cases hwrite : createOrUpdate (r.get name) (r.write name) s name c with
    | mk e s₁ =>
      obtain ⟨hown, hothers⟩ := createOrUpdate_effect hwrite
      rw [hwrite] at h
      cases e with
      | some e =>
        cases h
        refine ⟨fun j d hmem => ?_, fun j hj => hothers j (List.ne_of_not_mem_cons hj)⟩
        rcases List.mem_cons.mp hmem with heq | hmem
        · cases heq
          exact hown
        · exact Written.of_error e (hothers j (hne hmem))
      | none =>
        obtain ⟨hrest, hkept⟩ := writeNodeConfigs_effect hnd.2 h
        refine ⟨fun j d hmem => ?_, fun j hj => ?_⟩
        · rcases List.mem_cons.mp hmem with heq | hmem
          · cases heq
            rw [hkept name hnd.1]
            exact hown.imp_left fun hleft => ⟨hleft.1, fun _ => hleft.2 rfl⟩
          · rw [← hothers j (hne hmem)]
            exact hrest j d hmem
        · rw [List.map_cons, List.mem_cons, not_or] at hj
          rw [hkept j hj.2, hothers j hj.1]

theorem get?_clearNodeConfigs (r : Round) (R : String → Option NodeConfig) (name : String) :
    ∀ (items : List Object) (s : Configs),
      (clearNodeConfigs r R items s).get? name =
        if R name = none ∧ (r.delete name).takesEffect = true ∧ name ∈ items.map (·.name)
        then none else s.get? name
  | [], s => by
    simp [clearNodeConfigs]
  | nc :: items, s => by
    have ih := get?_clearNodeConfigs r R name items
    rw [clearNodeConfigs, List.foldl_cons, ← clearNodeConfigs, ih]
    simp only [List.map_cons, List.mem_cons]
    by_cases hname : name = nc.name
    · subst hname
      cases R nc.name with
      | some c => simp
      | none => cases htakes : (r.delete nc.name).takesEffect <;>
          simp [get?_answered_delete_self, htakes]
    · have hkept : (if (R nc.name).isSome then s
          else (answered (r.delete nc.name) (s.delete nc.name) s).2).get? name = s.get? name := by
        split
        · rfl
        · exact get?_answered_delete_of_ne _ hname
      simp only [hkept, hname, false_or]

end Writes

/-! ## What a round leaves -/

theorem World.distinctNames (w : World) :
    DistinctNames w.clusters.objects w.clusterNodes.objects :=
  ⟨w.clusters.nodup, w.clusterNodes.nodup⟩

section Rounds

variable {w w' : World} {r : Round} {R : String → Option NodeConfig} {result : Result}

theorem mem_resultEntries (hR : w.calculate r.env = .ok R) {name : String} {c : NodeConfig} :
    (name, c) ∈ resultEntries w R ↔ R name = some c := by
  simp only [resultEntries, List.mem_filterMap, Option.map_eq_some_iff, Prod.mk.injEq]
  constructor
  · rintro ⟨n, -, c, hc, rfl, rfl⟩
    exact hc
  · intro hc
    have hmem := hc
    rw [eq_plan_of_calculate w.distinctNames hR, Fleet.plan] at hmem
    split at hmem
    next hname =>
      obtain ⟨n, hn, rfl⟩ := List.mem_map.mp hname
      exact ⟨n, (List.mem_filter.mp hn).1, c, hc, rfl, rfl⟩
    · cases hmem

theorem resultEntries_nodup (w : World) (R : String → Option NodeConfig) :
    ((resultEntries w R).map Prod.fst).Nodup := by
  have hnodes := w.clusterNodes.nodup
  rw [List.Nodup, List.pairwise_map] at hnodes
  rw [resultEntries, List.Nodup, List.pairwise_map, List.pairwise_filterMap]
  refine hnodes.imp fun hne a ha b hb => ?_
  obtain ⟨c, -, rfl⟩ := Option.map_eq_some_iff.mp ha
  obtain ⟨c', -, rfl⟩ := Option.map_eq_some_iff.mp hb
  exact hne

structure RoundEffect (r : Round) (R : String → Option NodeConfig) (err : Option CallError)
    (s s' : Configs) : Prop where
  cleared : ∀ name, R name = none →
    s'.get? name = if (r.delete name).takesEffect then none else s.get? name
  written : ∀ name c, R name = some c → Written name c err (s.get? name) (s'.get? name)

theorem reconcile_effect (h : w.reconcile r = .ok (result, w')) :
    w' = w ∧ result ≠ {} ∨
      ∃ R s, w.calculate r.env = .ok R ∧ w' = w.withConfigs s ∧
        RoundEffect r R result.err w.nodeConfigs s := by
  unfold World.reconcile at h
  split at h
  · cases h
    exact Or.inl ⟨rfl, by decide⟩
  · split at h
    · cases h
      exact Or.inl ⟨rfl, by decide⟩
    · cases h
    next R hR =>
      refine Or.inr ⟨R, w'.nodeConfigs, ?_⟩
      have hp := r.order_perm (resultEntries w R)
      have hnd := (hp.map Prod.fst).nodup_iff.mpr (resultEntries_nodup w R)
      cases hwrite : writeNodeConfigs r (r.order (resultEntries w R))
        (clearNodeConfigs r R w.nodeConfigs.objects w.nodeConfigs) with
      | mk err s =>
      obtain ⟨hwritten, hkept⟩ := writeNodeConfigs_effect hnd hwrite
      have heffect : RoundEffect r R err w.nodeConfigs s := by
        refine ⟨fun name hname => ?_, fun name c hc => ?_⟩
        · have hout : name ∉ (r.order (resultEntries w R)).map Prod.fst := by
            intro hmem
            obtain ⟨⟨_, c⟩, hc, rfl⟩ := List.mem_map.mp hmem
            rw [(mem_resultEntries hR).mp (hp.mem_iff.mp hc)] at hname
            cases hname
          rw [hkept name hout, get?_clearNodeConfigs]
          by_cases hmem : name ∈ w.nodeConfigs.objects.map (·.name)
          · simp only [hname, hmem, true_and, and_true]
          · have hnone : w.nodeConfigs.get? name = none :=
              Store.get?_eq_none.mpr fun o ho hkey => hmem (List.mem_map.mpr ⟨o, ho, hkey⟩)
            rw [hnone, ite_self, ite_self]
        · have hentry := hwritten name c (hp.mem_iff.mpr ((mem_resultEntries hR).mpr hc))
          rw [get?_clearNodeConfigs, if_neg fun hnone => by simp [hc] at hnone] at hentry
          exact hentry
      cases err with
      | some e =>
        simp only [hwrite] at h
        cases h
        exact ⟨hR, rfl, heffect⟩
      | none =>
        simp only [hwrite] at h
        cases h
        exact ⟨hR, rfl, heffect⟩

theorem reconcile_of_result (h : (w.reconcile r).toOption.map (·.1) = some result) :
    ∃ w', w.reconcile r = .ok (result, w') := by
  cases hround : w.reconcile r with
  | error e =>
    rw [hround] at h
    cases h
  | ok x =>
    rw [hround] at h
    cases h
    exact ⟨x.2, rfl⟩

/-- The calculated configs, and those whose deletion had no effect. -/
def Exact (w : World) (r : Round) (w' : World) : Prop :=
  ∃ R, w.calculate r.env = .ok R ∧ ∀ name,
    (∀ c, R name = some c → ∃ o, w'.nodeConfigs.get? name = some o ∧ Shows c o) ∧
    (R name = none → w'.nodeConfigs.get? name =
      if (r.delete name).takesEffect then none else w.nodeConfigs.get? name)

def sampleWorld (configs : Configs) : World :=
  ⟨⟨sampleClusters, by decide⟩, ⟨sampleNodes, by decide⟩, configs⟩

def storedConfigs : Configs :=
  ⟨[{ toNodeConfig := storedInternal }, { name := "c3-n", spec := {} }], by decide⟩

def refusedRound : Round where
  env := { sampleEnv with rand := fun _ _ _ => some #v[2, 0, 0, 0, 0, 9] }
  order := id
  order_perm := fun _ => List.Perm.refl _
  write := fun name => if name = "c2-n" then .refused .conflict else .done

def firstRound : Round :=
  { refusedRound with delete := fun _ => .refused .conflict, write := fun _ => .done }

end Rounds

/-! ## Runs -/

inductive Event where
  | reconcile (r : Round)
  | change (clusters : Store Cluster.name) (clusterNodes : Store ClusterNode.name)

def World.step (w : World) : Event → Outcome (Option Result × World)
  | .reconcile r => do
    let (result, w) ← w.reconcile r
    pure (some result, w)
  | .change clusters clusterNodes => pure (none, { w with clusters, clusterNodes })

theorem step_reconcile {w w' : World} {r : Round} {result : Option Result}
    (h : w.step (.reconcile r) = .ok (result, w')) :
    ∃ res, result = some res ∧ w.reconcile r = .ok (res, w') := by
  obtain ⟨⟨res, w₁⟩, hround, h⟩ := bind_eq_ok h
  cases h
  exact ⟨res, rfl, hround⟩

def deviceIn (s : Configs) (nodeName devName : String) : Option Device :=
  (s.get? nodeName).bind fun o => o.spec.devices.elems.find? fun d => d.name == devName

theorem getDeviceFromNodeConfig_listed (s : Configs) {f : Filter} (hf : f.nodeConfigs = listed s)
    (nodeName devName : String) :
    f.getDeviceFromNodeConfig nodeName devName = deviceIn s nodeName devName := by
  rw [Filter.getDeviceFromNodeConfig, hf, listed, List.find?_map, Option.bind_map]
  rfl

section Macs

variable {w w' : World} {name dev : String} {d d' : Device}

theorem reconcile_mac {r : Round} {result : Result} (h : w.reconcile r = .ok (result, w'))
    (hd : deviceIn w.nodeConfigs name dev = some d) (hmac : d.mac ≠ "")
    (hd' : deviceIn w'.nodeConfigs name dev = some d') : d'.mac = d.mac := by
  have hsame : w'.nodeConfigs.get? name = w.nodeConfigs.get? name → d'.mac = d.mac := by
    intro hget
    rw [deviceIn, hget, ← deviceIn, hd] at hd'
    cases hd'
    rfl
  rcases reconcile_effect h with ⟨rfl, -⟩ | ⟨R, s, hR, rfl, heffect⟩
  · exact hsame rfl
  replace hd' : deviceIn s name dev = some d' := hd'
  cases hc : R name with
  | none =>
    have hcleared := heffect.cleared name hc
    split at hcleared
    · rw [deviceIn, hcleared] at hd'
      cases hd'
    · exact hsame hcleared
  | some c =>
    rcases heffect.written name c hc with ⟨hget, -⟩ | ⟨hget, -⟩
    · exact hsame hget
    · -- the device was calculated from the stored one
      rw [deviceIn, hget] at hd'
      simp only [mutateNodeConfig, NodeConfig.convertToNodeConfigSpec, Option.bind_some,
        elems_appended] at hd'
      rw [eq_plan_of_calculate w.distinctNames hR] at hc
      obtain ⟨o, t, n, ep, rfl, hep, rfl⟩ := Fleet.mem_journal_device.mp
        ((Fleet.plan_has hc (.device d')).mp (List.mem_of_find?_eq_some hd'))
      have hname := List.find?_some hd'
      rw [beq_iff_eq, Fleet.ends_name hep] at hname
      have hold : (w.fleet w.nodeConfigs).storedMac n.name (o.devName t) = d.mac := by
        rw [Fleet.storedMac, getDeviceFromNodeConfig_listed w.nodeConfigs rfl, hname, hd]
        rfl
      rw [Fleet.ends_mac hep]
      exact (congrArg (fun m => if m ≠ "" then m else _) hold).trans (if_pos hmac)

end Macs

section Settle

variable {w : World} {env : Env} {s : Configs} {R : String → Option NodeConfig}

theorem plan_congr_macs {env' : Env} {s' : Configs}
    (h : ∀ o t n, n ∈ Overlay.nodes (w.fleet s) o → (w.fleet s).Wants o t n →
      (w.fleet s).Addressable o t n →
      (w.fleet s').macOf (env'.rand n.name (o.devName t) 0) o t n
        = (w.fleet s).macOf (env.rand n.name (o.devName t) 0) o t n) :
    (w.fleet s').plan env' = (w.fleet s).plan env := by
  have halike : (w.fleet s').Alike (w.fleet s) :=
    ⟨List.Perm.refl _, List.Perm.refl _, rfl, fun _ => rfl⟩
  refine halike.seenAlike.plan_eq ?_
  funext o t n
  have hnodes : o.nodes (w.fleet s') = o.nodes (w.fleet s) := by cases o <;> rfl
  rw [Fleet.ends, Fleet.ends, hnodes]
  split
  next hn => exact Fleet.endpoint_congr _ _ rfl fun hw ha => h o t n hn hw ha
  · rfl

def Settled (R : String → Option NodeConfig) (s : Configs) : Prop :=
  ∀ name c, R name = some c → ∃ o, s.get? name = some o ∧ Shows c o

def AtRest (R : String → Option NodeConfig) (s : Configs) : Prop :=
  ∀ name c, R name = some c → ∃ o, s.get? name = some o ∧ Rests c o

/-- Later rounds leave the configs calculated, and after one without error untouched. -/
def StaysSettled (R : String → Option NodeConfig) (w : World) : Prop :=
  ∀ rounds : List Round, ∃ xs, trace World.reconcile w rounds = .ok xs ∧
    (∀ x ∈ xs, Settled R x.after.nodeConfigs) ∧
    ∀ pre x post, xs = pre ++ x :: post → x.result = ({} : Result) → ∀ y ∈ post, ∀ name,
      R name ≠ none → y.after.nodeConfigs.get? name = x.after.nodeConfigs.get? name

theorem deviceIn_of_settled {F : Fleet} (hF : F.Distinct) {n : ClusterNode}
    (hn : n ∈ F.clusterNodes) (hs : Settled (F.plan env) s) (o : Overlay) (t : Family) :
    deviceIn s n.name (o.devName t) = (F.ends env o t n).map (·.dev) := by
  obtain ⟨c, hc⟩ := Fleet.plan_of_mem env hn
  obtain ⟨obj, hobj, hshows⟩ := hs n.name c hc
  rw [deviceIn, hobj, Option.bind_some, hshows.devices, NodeConfig.convertToNodeConfigSpec,
    elems_appended, Fleet.plan_find hF hn hc]

section

variable (hR : w.calculate env = .ok R)
  (hmac : ∀ name c, R name = some c → ∀ d ∈ c.devices, d.mac ≠ "")
include hR hmac

theorem calculate_of_settled (hs : Settled R s) (env' : Env) :
    (w.withConfigs s).calculate env' = .ok R := by
  obtain rfl : R = (w.fleet w.nodeConfigs).plan env := eq_plan_of_calculate w.distinctNames hR
  have hF : (w.fleet w.nodeConfigs).Distinct := w.distinctNames.fleetOf _
  have hstored : ∀ {o n} (t : Family), n ∈ Overlay.nodes (w.fleet w.nodeConfigs) o →
      (w.fleet s).storedMac n.name (o.devName t)
        = ((w.fleet w.nodeConfigs).ends env o t n).elim "" fun ep => ep.dev.mac := by
    intro o n t hn
    rw [Fleet.storedMac, getDeviceFromNodeConfig_listed s rfl,
      deviceIn_of_settled hF (Overlay.nodes_subset hn) hs, Option.elim_map]
    rfl
  have hsafe : ¬ SomeDoomed w.clusters.objects w.clusterNodes.objects (listed s) := by
    rintro ⟨o, n, hn, t, -, ha, hold⟩
    have hn' : n ∈ o.nodes (w.fleet w.nodeConfigs) := by cases o <;> exact hn
    cases hep : (w.fleet w.nodeConfigs).ends env o t n with
    | none => exact hold ((hstored t hn').trans (by rw [hep]; rfl))
    | some ep => exact ha (Fleet.ends_isSome.mp ⟨ep, hep⟩).2.2
  refine (calculateNetworkConfigs_eq w.distinctNames hsafe).trans (congrArg _ ?_)
  refine plan_congr_macs fun o t n hn hwants ha => ?_
  obtain ⟨ep, hep⟩ := Fleet.ends_isSome.mpr ⟨hn, hwants, ha⟩
  obtain ⟨c, hc⟩ := Fleet.plan_of_mem env (Overlay.nodes_subset hn)
  have hne : ep.dev.mac ≠ "" := hmac n.name c hc ep.dev ((Fleet.plan_has hc (.device ep.dev)).mpr
    (Fleet.mem_journal_device.mpr ⟨o, t, n, ep, rfl, hep, rfl⟩))
  rw [← Fleet.ends_mac hep, Fleet.macOf, hstored t hn, hep]
  exact if_pos hne

theorem reconcile_settled (hs : Settled R s) (r : Round) :
    ∃ result s', (w.withConfigs s).reconcile r = .ok (result, w.withConfigs s') ∧
      Settled R s' ∧ (result = {} → AtRest R s') ∧
      (AtRest R s → ∀ name, R name ≠ none → s'.get? name = s.get? name) := by
  have hcalc := calculate_of_settled hR hmac hs r.env
  obtain ⟨result, w', h⟩ : ∃ result w', (w.withConfigs s).reconcile r = .ok (result, w') := by
    unfold World.reconcile
    rw [hcalc]
    split
    · exact ⟨_, _, rfl⟩
    · dsimp only
      split <;> exact ⟨_, _, rfl⟩
  rcases reconcile_effect h with ⟨rfl, hres⟩ | ⟨R', s', hR', rfl, heffect⟩
  · exact ⟨result, s, h, hs, fun heq => absurd heq hres, fun _ _ _ => rfl⟩
  · obtain rfl : R = R' := Except.ok.inj (hcalc.symm.trans hR')
    refine ⟨result, s', h, fun name c hc => ?_, fun heq name c hc => ?_, fun hrest name hname => ?_⟩
    · exact (heffect.written name c hc).shows (Or.inr (hs name c hc))
    · rw [heq] at heffect
      exact (heffect.written name c hc).rests (hs name c hc)
    · obtain ⟨c, hc⟩ := Option.ne_none_iff_exists'.mp hname
      exact (heffect.written name c hc).left (hrest name c hc)

theorem trace_atRest {rounds : List Round} {xs : List (Move World Round Result)}
    (hs : Settled R s) (hrest : AtRest R s)
    (h : trace World.reconcile (w.withConfigs s) rounds = .ok xs) :
    ∀ x ∈ xs, ∀ name, R name ≠ none → x.after.nodeConfigs.get? name = s.get? name := by
  refine trace_keeps (A := fun _ => True) (I := fun v => ∃ s', v = w.withConfigs s' ∧
    Settled R s' ∧ AtRest R s' ∧ ∀ name, R name ≠ none → s'.get? name = s.get? name) ?_
    rounds _ xs ⟨s, rfl, hs, hrest, fun _ _ => rfl⟩ h fun _ _ => trivial
  rintro v r result v' ⟨s', rfl, hs', hrest', hsame⟩ he -
  obtain ⟨result', s'', hround, hs'', -, hquiet⟩ := reconcile_settled hR hmac hs' r
  cases he.symm.trans hround
  have hkept : ∀ name, R name ≠ none → s''.get? name = s.get? name := fun name hname =>
    (hquiet hrest' name hname).trans (hsame name hname)
  refine ⟨⟨s'', rfl, hs'', fun name c hc => ?_, hkept⟩, hkept⟩
  have hname : R name ≠ none := by rw [hc]; exact Option.some_ne_none c
  rw [hquiet hrest' name hname]
  exact hrest' name c hc

end

end Settle

end Kosmos.Manager
