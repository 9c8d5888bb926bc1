import Kosmos.Agent.Diff

/-!
# `kosmosctl analysis`

`runCluster` compares the config a floater pod reports, list by list, with the `NodeConfig`.

The calls to the API server, and `cat` in the pods, succeed; a config that is not found is the zero
value.
-/

namespace Kosmos.Analysis

open Go Api Agent

structure FloaterPod where
  nodeName : String
  reported : NodeConfigSpec

structure FloatInfo where
  nodeName : String := ""
  nodeConfigSpec : NodeConfigSpec

structure PrintAnalysisData where
  clusterName : String
  clusterNodeName : String
  parameterType : String
  analyzeResult : String

structure NodeConfigs where
  items : List NodeConfig
  named : ∀ n ∈ items, n.name ≠ ""

def getSysNodeConfig (fPods : List FloaterPod) : List FloatInfo :=
  fPods.map fun fPod => { nodeConfigSpec := fPod.reported }

def fields : List Kind := [.device, .route, .iptables, .fdb, .arp]

def fieldName : Kind → String
  | .device => "Devices"
  | .route => "Routes"
  | .iptables => "Iptables"
  | .fdb => "Fdbs"
  | .arp => "Arps"

instance : (k : Kind) → DecidableEq (Slice k.Record)
  | .device => inferInstanceAs (DecidableEq (Slice Device))
  | .route => inferInstanceAs (DecidableEq (Slice Route))
  | .iptables => inferInstanceAs (DecidableEq (Slice Iptables))
  | .fdb => inferInstanceAs (DecidableEq (Slice Fdb))
  | .arp => inferInstanceAs (DecidableEq (Slice Arp))

def analysisNodeConfig (name nodeName : String) (nc1 nc2 : NodeConfigSpec) :
    List PrintAnalysisData :=
  fields.map fun k =>
    ⟨name, nodeName, fieldName k, if k.get nc1 = k.get nc2 then "true" else "false"⟩

def NodeConfigs.spec (nodeConfigs : NodeConfigs) (nodeName : String) : NodeConfigSpec :=
  (nodeConfigs.items.find? fun n => nodeName = n.name).elim {} NodeConfig.spec

def runCluster (name : String) (fPods : List FloaterPod) (nodeConfigs : NodeConfigs) :
    List PrintAnalysisData :=
  (getSysNodeConfig fPods).flatMap fun sysNodeConfig =>
    analysisNodeConfig name sysNodeConfig.nodeName sysNodeConfig.nodeConfigSpec
      (nodeConfigs.spec sysNodeConfig.nodeName)

def SameRecords (k : Kind) (a b : NodeConfigSpec) : Prop :=
  ∀ r, r ∈ (k.get a).elems ↔ r ∈ (k.get b).elems

/-- For each pod there is one row for each list, with the verdict on its records. -/
def Right (name : String) (fPods : List FloaterPod) (nodeConfigs : NodeConfigs) : Prop :=
  ∃ rows : FloaterPod → Kind → PrintAnalysisData,
    runCluster name fPods nodeConfigs = fPods.flatMap (fun fPod => fields.map (rows fPod)) ∧
    ∀ fPod ∈ fPods, ∀ k, (rows fPod k).parameterType = fieldName k ∧
      ((rows fPod k).analyzeResult = "true" ↔
        SameRecords k fPod.reported (nodeConfigs.spec fPod.nodeName))

theorem spec_empty (nodeConfigs : NodeConfigs) : nodeConfigs.spec "" = {} := by
  have hnone : (nodeConfigs.items.find? fun n => "" = n.name) = none :=
    List.find?_eq_none.mpr fun n hn => by simp [(nodeConfigs.named n hn).symm]
  rw [NodeConfigs.spec, hnone]
  rfl

def row (name : String) (fPod : FloaterPod) (k : Kind) : PrintAnalysisData :=
  ⟨name, "", fieldName k, if k.get fPod.reported = none then "true" else "false"⟩

theorem runCluster_eq (name : String) (fPods : List FloaterPod) (nodeConfigs : NodeConfigs) :
    runCluster name fPods nodeConfigs = fPods.flatMap fun fPod => fields.map (row name fPod) := by
  have hnil : ∀ k : Kind, k.get {} = none := fun k => by cases k <;> rfl
  simp only [runCluster, getSysNodeConfig, List.flatMap_map, spec_empty, analysisNodeConfig, hnil]
  rfl

theorem rows_injective {f g : FloaterPod → Kind → PrintAnalysisData} {fPods : List FloaterPod}
    (h : (fPods.flatMap fun fPod => fields.map (f fPod)) =
      fPods.flatMap fun fPod => fields.map (g fPod)) :
    ∀ fPod ∈ fPods, ∀ k, f fPod k = g fPod k := by
  induction fPods with
  | nil => exact List.forall_mem_nil _
  | cons fPod fPods ih =>
    rw [List.flatMap_cons, List.flatMap_cons] at h
    obtain ⟨hhere, hrest⟩ := List.append_inj h (by rw [List.length_map, List.length_map])
    rw [List.forall_mem_cons]
    refine ⟨fun k => List.map_inj_left.mp hhere k ?_, ih hrest⟩
    cases k <;> simp [fields]

theorem row_true_iff {name : String} {fPod : FloaterPod} {k : Kind} :
    (row name fPod k).analyzeResult = "true" ↔ k.get fPod.reported = none := by simp [row]

theorem Right.nil_iff {name : String} {fPods : List FloaterPod} {nodeConfigs : NodeConfigs}
    (h : Right name fPods nodeConfigs) : ∀ fPod ∈ fPods, ∀ k : Kind,
      k.get fPod.reported = none ↔
        SameRecords k fPod.reported (nodeConfigs.spec fPod.nodeName) := by
  obtain ⟨rows, hrows, hright⟩ := h
  intro fPod hpod k
  rw [runCluster_eq] at hrows
  rw [← row_true_iff, rows_injective hrows fPod hpod k]
  exact (hright fPod hpod k).2

/-- The analysis is right exactly if the lists with the records of the node's config are those
reported as nil. -/
theorem analysis_right_iff (name : String) (fPods : List FloaterPod) (nodeConfigs : NodeConfigs) :
    Right name fPods nodeConfigs ↔
      ∀ fPod ∈ fPods, ∀ k : Kind, k.get fPod.reported = none ↔
        SameRecords k fPod.reported (nodeConfigs.spec fPod.nodeName) := by
  exact ⟨Right.nil_iff, fun h => ⟨row name, runCluster_eq .., fun fPod hpod k =>
    ⟨rfl, row_true_iff.trans (h fPod hpod k)⟩⟩⟩

def settledPod : FloaterPod := ⟨"n1", { routes := some [sampleRoute] }⟩

def settledConfigs : NodeConfigs := ⟨[⟨"n1", { routes := some [sampleRoute] }⟩], by decide⟩

theorem settledPod_false : ¬ Right "c1" [settledPod] settledConfigs ∧
    (runCluster "c1" [settledPod] settledConfigs).map
        (fun r => (r.parameterType, r.analyzeResult)) =
      [("Devices", "true"), ("Routes", "false"), ("Iptables", "true"), ("Fdbs", "true"),
        ("Arps", "true")] := by
  refine ⟨fun h => ?_, by decide⟩
  have hroutes := h.nil_iff settledPod List.mem_cons_self .route
  cases hroutes.mpr fun r => Iff.rfl

end Kosmos.Analysis
