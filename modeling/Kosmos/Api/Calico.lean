import Kosmos.Go.Basic

/-!
# Calico's objects

IP pools and block affinities: read field by field through the Kubernetes API, or typed from etcd.
-/

namespace Kosmos.Api

inductive Value where
  | str (s : String)
  | map (fields : List (String × Value))
  | other

structure Unstructured where
  object : List (String × Value)

def nestedFieldNoCopy : Value → List String → Option Value
  | v, [] => some v
  | .map fields, field :: rest =>
    match fields.lookup field with
    | some v => nestedFieldNoCopy v rest
    | none => none
  | _, _ :: _ => none

def nestedString (obj : List (String × Value)) (fields : List String) : Option String :=
  match nestedFieldNoCopy (.map obj) fields with
  | some (.str s) => some s
  | _ => none

def Unstructured.getName (u : Unstructured) : String :=
  (nestedString u.object ["metadata", "name"]).getD ""

def getCIDRs (obj : List (String × Value)) : String :=
  match obj.lookup "spec" with
  | some (.map spec) =>
    match spec.lookup "cidr" with
    | some (.str cidr) => cidr
    | _ => ""
  | _ => ""

structure IPPool where
  name : String
  cidr : String
  disabled : Bool
  deriving DecidableEq, Repr

def IPPool.unstructured (p : IPPool) : Unstructured where
  object := [("metadata", .map [("name", .str p.name)]),
    ("spec", .map [("cidr", .str p.cidr), ("disabled", .other)])]

@[simp] theorem IPPool.getName_unstructured (p : IPPool) : p.unstructured.getName = p.name := by
  simp [IPPool.unstructured, Unstructured.getName, nestedString, nestedFieldNoCopy]

@[simp] theorem IPPool.getCIDRs_unstructured (p : IPPool) :
    getCIDRs p.unstructured.object = p.cidr := by
  simp [IPPool.unstructured, getCIDRs, List.lookup_cons]

def affinityNode (u : Unstructured) : Option String := nestedString u.object ["spec", "node"]

def affinityCIDR (u : Unstructured) : Option String := nestedString u.object ["spec", "cidr"]

end Kosmos.Api
