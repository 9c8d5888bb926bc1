import Kosmos.Go.Basic
import Kosmos.Go.Template

/-!
# References in the values of variables: `Expand`

`$(NAME)` stands for the value of another variable, `$$` for a single `$`.

A string is a list of bytes, as in Go, where `string(b)` is a text of two bytes for a byte `b` that
is not ASCII.
-/

namespace Kosmos.Environment

open Kosmos.Go

abbrev Bytes := List UInt8

def ascii (s : String) : Bytes := s.toList.map fun c => c.toNat.toUInt8

abbrev Env := GoMap Bytes Bytes

def operator : UInt8 := 0x24

def referenceOpener : UInt8 := 0x28

def referenceCloser : UInt8 := 0x29

def syntaxWrap (input : Bytes) : Bytes :=
  [operator, referenceOpener] ++ input ++ [referenceCloser]

def mappingFuncFor (context : List Env) (input : Bytes) : Bytes :=
  match context.findSome? fun vars => vars.get? input with
  | some val => val
  | none => syntaxWrap input

def stringOfByte (b : UInt8) : Bytes :=
  if b < 0x80 then [b] else [(0xC0 : UInt8) ||| (b >>> 6), (0x80 : UInt8) ||| (b &&& 0x3F)]

def tryReadVariableName : Bytes → Bytes × Bool × Nat
  | [] => ([], false, 0)
  | c :: rest =>
    if c = operator then ([c], false, 1)
    else if c = referenceOpener then
      let name := rest.takeWhile (· ≠ referenceCloser)
      if name.length < rest.length then (name, true, name.length + 2)
      else ([operator, referenceOpener], false, 1)
    else (operator :: stringOfByte c, false, 1)

def expandFrom (mapping : Bytes → Bytes) : Nat → Bytes → Bytes
  | _, [] => []
  | skip + 1, _ :: rest => expandFrom mapping skip rest
  | 0, c :: rest =>
    if c = operator ∧ rest ≠ [] then
      let (read, isVar, advance) := tryReadVariableName rest
      (if isVar then mapping read else read) ++ expandFrom mapping advance rest
    else c :: expandFrom mapping 0 rest

def expand (input : Bytes) (mapping : Bytes → Bytes) : Bytes := expandFrom mapping 0 input

def templateFrom : Nat → Bytes → Template Bytes UInt8
  | _, [] => []
  | skip + 1, _ :: rest => templateFrom skip rest
  | 0, c :: rest =>
    if c = operator ∧ rest ≠ [] then
      let (read, isVar, advance) := tryReadVariableName rest
      (if isVar then .ref read else .text read) :: templateFrom advance rest
    else .text [c] :: templateFrom 0 rest

def template (input : Bytes) : Template Bytes UInt8 := templateFrom 0 input

theorem expandFrom_eq (mapping : Bytes → Bytes) : ∀ (skip : Nat) (input : Bytes),
    expandFrom mapping skip input = (templateFrom skip input).eval mapping
  | _, [] => by simp [expandFrom, templateFrom]
  | skip + 1, _ :: rest => expandFrom_eq mapping skip rest
  | 0, c :: rest => by
    have hskipped := expandFrom_eq mapping (tryReadVariableName rest).2.2 rest
    have hnext := expandFrom_eq mapping 0 rest
    unfold expandFrom templateFrom
    split
    · cases hvar : (tryReadVariableName rest).2.1 with
      | true => simp [hskipped, hvar]
      | false => simp [hskipped, hvar]
    · simp [hnext]

theorem expand_eq (input : Bytes) (mapping : Bytes → Bytes) :
    expand input mapping = (template input).eval mapping :=
  expandFrom_eq mapping 0 input

example : expand (ascii "$(HOST):$$$(PORT)") (fun name => name ++ ascii "!") =
    ascii "HOST!:$PORT!" := by
  decide +kernel

theorem template_plain {input : Bytes} (h : operator ∉ input) :
    template input = input.map fun c => .text [c] := by
  unfold template
  induction input with
  | nil => simp [templateFrom]
  | cons c rest ih =>
    rw [List.mem_cons, not_or] at h
    rw [templateFrom, if_neg fun hc => h.1 hc.1.symm, ih h.2, List.map_cons]

theorem eval_template_plain {input : Bytes} (h : operator ∉ input) (mapping : Bytes → Bytes) :
    (template input).eval mapping = input := by
  rw [template_plain h]
  clear h
  induction input with
  | nil => rfl
  | cons c rest ih => rw [List.map_cons, Template.eval_text_cons, ih, List.singleton_append]

theorem refs_template_plain {input : Bytes} (h : operator ∉ input) :
    (template input).refs = [] := by
  rw [template_plain h]
  clear h
  induction input with
  | nil => rfl
  | cons c rest ih => rw [List.map_cons, Template.refs_text_cons, ih]

end Kosmos.Environment
