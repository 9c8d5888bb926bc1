import Kosmos.Pods.Expand

/-!
# The variables for services

`getServiceEnvVarMap` and `FromServices` of `pkg/utils/lifted/env.go`.
-/

namespace Kosmos.Environment

open Kosmos.Go

inductive Protocol where
  | tcp
  | udp
  | sctp
  deriving DecidableEq

def Protocol.upper : Protocol → Bytes
  | .tcp => ascii "TCP"
  | .udp => ascii "UDP"
  | .sctp => ascii "SCTP"

def Protocol.lower : Protocol → Bytes
  | .tcp => ascii "tcp"
  | .udp => ascii "udp"
  | .sctp => ascii "sctp"

structure ServicePort where
  name : Bytes := []
  protocol : Option Protocol := none
  port : Nat

structure Service where
  ns : String
  name : Bytes
  clusterIP : Bytes
  ports : List ServicePort
  address : operator ∉ clusterIP

def clusterIPNone : Bytes := ascii "None"

def isServiceIPSet (service : Service) : Bool :=
  service.clusterIP ≠ clusterIPNone && service.clusterIP ≠ []

def namespaceDefault : String := "default"

def masterServices : List Bytes := [ascii "kubernetes"]

def itoa (n : Nat) : Bytes := (Nat.toDigits 10 n).map fun c => c.toNat.toUInt8

def joinHostPort (host port : Bytes) : Bytes :=
  if 0x3A ∈ host then ascii "[" ++ host ++ ascii "]:" ++ port
  else host ++ ascii ":" ++ port

def makeEnvVariableName (str : Bytes) : Bytes :=
  str.map fun b =>
    if b = 0x2D then 0x5F else if 0x61 ≤ b ∧ b ≤ 0x7A then b - 0x20 else b

def portLinkVariables (envName clusterIP : Bytes) (sp : ServicePort) : List (Bytes × Bytes) :=
  let protocol := sp.protocol.getD .tcp
  let hostPort := joinHostPort clusterIP (itoa sp.port)
  let portName := envName ++ ascii "_PORT_" ++ itoa sp.port ++ ascii "_" ++ protocol.upper
  [(portName, protocol.lower ++ ascii "://" ++ hostPort),
    (portName ++ ascii "_PROTO", protocol.lower),
    (portName ++ ascii "_PORT", itoa sp.port),
    (portName ++ ascii "_ADDR", clusterIP)]

def firstLinkVariable (envName clusterIP : Bytes) (sp : ServicePort) : Bytes × Bytes :=
  (envName ++ ascii "_PORT",
    (sp.protocol.getD .tcp).lower ++ ascii "://" ++ joinHostPort clusterIP (itoa sp.port))

def makeLinkVariables (service : Service) : List (Bytes × Bytes) :=
  let envName := makeEnvVariableName service.name
  service.ports.zipIdx.flatMap fun turn =>
    (if turn.2 = 0 then [firstLinkVariable envName service.clusterIP turn.1] else []) ++
      portLinkVariables envName service.clusterIP turn.1

def serviceVariables (service : Service) : Outcome (List (Bytes × Bytes)) := do
  let host := makeEnvVariableName service.name ++ ascii "_SERVICE_HOST"
  let name := makeEnvVariableName service.name ++ ascii "_SERVICE_PORT"
  let first ← index service.ports 0
  let named := service.ports.filter fun sp => sp.name ≠ []
  pure ([(host, service.clusterIP), (name, itoa first.port)] ++
    (named.map fun sp => (name ++ ascii "_" ++ makeEnvVariableName sp.name, itoa sp.port)) ++
    makeLinkVariables service)

def fromServices (services : List Service) : Outcome (List (Bytes × Bytes)) :=
  services.foldlM (fun result service =>
    if ¬ isServiceIPSet service then pure result
    else do
      let vars ← serviceVariables service
      pure (result ++ vars)) []

def serviceTurn (ns : String) (enableServiceLinks : Bool) (serviceMap : GoMap Bytes Service)
    (service : Service) : GoMap Bytes Service :=
  if ¬ isServiceIPSet service then serviceMap
  else if service.ns = namespaceDefault ∧ service.name ∈ masterServices then
    if (serviceMap.get? service.name).isSome then serviceMap
    else serviceMap.set service.name service
  else if service.ns = ns ∧ enableServiceLinks = true then serviceMap.set service.name service
  else serviceMap

def getServiceEnvVarMap (order : RangeOrder (Bytes × Service)) (services : List Service)
    (ns : String) (enableServiceLinks : Bool) : Outcome Env := do
  let serviceMap := services.foldl (serviceTurn ns enableServiceLinks) .empty
  let mappedServices := (order.visit serviceMap.entries).map Prod.snd
  let envs ← fromServices mappedServices
  pure (GoMap.empty.setAll envs)

def Plain (vars : List (Bytes × Bytes)) : Prop := ∀ e ∈ vars, operator ∉ e.2

theorem plain_append {vars vars' : List (Bytes × Bytes)} :
    Plain (vars ++ vars') ↔ Plain vars ∧ Plain vars' :=
  List.forall_mem_append

theorem operator_not_mem_itoa (n : Nat) : operator ∉ itoa n := by
  unfold itoa
  rw [List.mem_map]
  rintro ⟨c, hc, heq⟩
  have hdigit := Nat.isDigit_of_mem_toDigits (by omega) (by omega) hc
  rw [Char.isDigit, Bool.and_eq_true, decide_eq_true_eq, decide_eq_true_eq] at hdigit
  have hlow : 48 ≤ c.toNat := hdigit.1
  have hhigh : c.toNat ≤ 57 := hdigit.2
  have hnat := congrArg UInt8.toNat heq
  rw [Nat.toUInt8, UInt8.toNat_ofNat'] at hnat
  have hoperator : operator.toNat = 36 := rfl
  omega

theorem operator_not_mem_joinHostPort {host : Bytes} (hhost : operator ∉ host) (port : Nat) :
    operator ∉ joinHostPort host (itoa port) := by
  have hport := operator_not_mem_itoa port
  unfold joinHostPort
  split
  · refine List.not_mem_append (List.not_mem_append (List.not_mem_append ?_ hhost) ?_) hport
    · decide
    · decide
  · refine List.not_mem_append (List.not_mem_append hhost ?_) hport
    decide

theorem operator_not_mem_lower (protocol : Protocol) : operator ∉ protocol.lower := by
  cases protocol <;> decide

theorem operator_not_mem_link {host : Bytes} (hhost : operator ∉ host) (protocol : Protocol)
    (port : Nat) :
    operator ∉ protocol.lower ++ ascii "://" ++ joinHostPort host (itoa port) := by
  refine List.not_mem_append (List.not_mem_append (operator_not_mem_lower protocol) ?_)
    (operator_not_mem_joinHostPort hhost port)
  decide

theorem plain_makeLinkVariables (service : Service) : Plain (makeLinkVariables service) := by
  intro e he
  obtain ⟨turn, -, he⟩ := List.mem_flatMap.mp he
  rcases List.mem_append.mp he with hfirst | hport
  · split at hfirst
    · rw [List.mem_singleton] at hfirst
      rw [hfirst]
      exact operator_not_mem_link service.address _ _
    · cases hfirst
  · simp only [portLinkVariables, List.mem_cons, List.not_mem_nil, or_false] at hport
    rcases hport with rfl | rfl | rfl | rfl
    · exact operator_not_mem_link service.address _ _
    · exact operator_not_mem_lower _
    · exact operator_not_mem_itoa _
    · exact service.address

theorem plain_serviceVariables {service : Service} {vars : List (Bytes × Bytes)}
    (h : serviceVariables service = .ok vars) : Plain vars := by
  obtain ⟨first, -, hvars⟩ := bind_eq_ok h
  cases hvars
  refine plain_append.mpr ⟨plain_append.mpr ⟨?_, ?_⟩, plain_makeLinkVariables service⟩
  · intro e he
    rcases List.mem_pair.mp he with rfl | rfl
    · exact service.address
    · exact operator_not_mem_itoa _
  · intro e he
    obtain ⟨sp, -, rfl⟩ := List.mem_map.mp he
    exact operator_not_mem_itoa _

theorem plain_fromServices {services : List Service} {vars : List (Bytes × Bytes)}
    (h : fromServices services = .ok vars) : Plain vars := by
  refine foldlM_keeps (P := Plain) (fun result service _ result' hturn hresult => ?_) h (by
    intro e he
    cases he)
  split at hturn
  · cases hturn
    exact hresult
  · obtain ⟨vars, hvars, hturn⟩ := bind_eq_ok hturn
    cases hturn
    exact plain_append.mpr ⟨hresult, plain_serviceVariables hvars⟩

theorem operator_not_mem_of_getServiceEnvVarMap {order : RangeOrder (Bytes × Service)}
    {services : List Service} {ns : String} {enableServiceLinks : Bool} {svcEnv : Env}
    (h : getServiceEnvVarMap order services ns enableServiceLinks = .ok svcEnv) {k v : Bytes}
    (hget : svcEnv.get? k = some v) : operator ∉ v := by
  obtain ⟨envs, henvs, hmap⟩ := bind_eq_ok h
  cases hmap
  rcases GoMap.get?_setAll_some hget with hmem | hempty
  · exact plain_fromServices henvs _ hmem
  · cases hempty

end Kosmos.Environment
