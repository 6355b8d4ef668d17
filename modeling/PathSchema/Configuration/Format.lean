import PathSchema.Configuration
import PathSchema.Document

/-!
# Configurations in documents

The formats of configuration files agree on the fields and differ in what else they
let stand for a text, for nothing, or for a record.
-/

namespace PathSchema

/-- What a format lets stand for the parts of a configuration. -/
structure ConfigurationRules where
  /-- Any scalar may stand for a text, which is then what was written. -/
  anyScalarIsText : Bool
  /-- Nothing written may stand for an empty list and for a record without fields. -/
  absentIsEmpty : Bool
  /-- A list of its fields may stand for a record. -/
  listIsRecord : Bool
  /-- Such a list may go on after the last field. -/
  listMayGoOn : Bool
  /-- How deep the content of an input may be nested. -/
  nesting : Nat

namespace ConfigurationRules

/-- The document without tags of its own. -/
def untagged : Document → Document
  | .tagged _ content => untagged content
  | document => document

/-- The text of a field or of a key. -/
def text? (rules : ConfigurationRules) (document : Document) : Option String :=
  match if rules.anyScalarIsText then untagged document else document with
  | .scalar written sense =>
    if rules.anyScalarIsText || sense == .text then some written else none
  | _ => none

/-- The text of a field that may have none. -/
def optionalText? (rules : ConfigurationRules) (document : Document) : Option (Option String) :=
  match document with
  | .scalar _ .null => some none
  | .scalar _ (.misfit "null") => none
  | document => (rules.text? document).map some

/-- Whether nothing is written. -/
def isAbsent (rules : ConfigurationRules) : Document → Bool
  | .scalar "" .null => rules.absentIsEmpty
  | _ => false

/-- The values of the fields of a record, if none of them is given twice. -/
def gather (fieldOf : Document → Option (Option Nat)) (count : Nat) :
    List (Document × Document) → Option (List (Option Document))
  | [] => some (List.replicate count none)
  | (key, value) :: rest =>
    (gather fieldOf count rest).bind fun values =>
      match fieldOf key with
      | none => none
      | some none => some values
      | some (some n) =>
        match values[n]? with
        | some (some _) => none
        | _ => some (values.set n (some value))

/-- The values of the fields of a record that may lack some. -/
def fields? (rules : ConfigurationRules) (names : List String) (document : Document) :
    Option (List (Option Document)) :=
  let document := untagged document
  if rules.isAbsent document then some (names.map fun _ => none)
  else
    match document with
    | .mapping entries =>
      gather (fun key => (rules.text? key).map (names.idxOf? ·)) names.length entries
    | .list items =>
      if rules.listIsRecord && (rules.listMayGoOn || items.length ≤ names.length) then
        some ((List.range names.length).map fun n => items[n]?)
      else none
    | _ => none

mutual

/-- Whether the content of an input is free of tags and of misfits. -/
def isClean : Document → Bool
  | .scalar _ (.misfit _) => false
  | .scalar .. => true
  | .list items => areClean items
  | .mapping entries => entriesAreClean entries
  | .tagged .. => false

def areClean : List Document → Bool
  | [] => true
  | item :: rest => isClean item && areClean rest

def entriesAreClean : List (Document × Document) → Bool
  | [] => true
  | (key, value) :: rest => isClean key && isClean value && entriesAreClean rest

end

/-- The text of a scalar that is one in every format. -/
def plainText? : Document → Option String
  | .scalar written .text => some written
  | _ => none

def plainTexts? : Document → Option (List String)
  | .list items => items.mapM plainText?
  | _ => none

/-- The kinds of inputs, by their names. -/
inductive InputKind where
  | environment
  | variableSet
  deriving DecidableEq

def InputKind.ofName? : String → Option InputKind
  | "environment" => some .environment
  | "variable_set" => some .variableSet
  | _ => none

def InputKind.fields : InputKind → List String
  | environment => ["name", "from"]
  | variableSet => ["name", "content"]

def inputOf (kind : InputKind) : List (Option Document) → Option Input
  | [some name, some content] =>
    (plainText? name).bind fun name =>
      match kind with
      | .environment => (plainText? content).map (Input.environment name)
      | .variableSet => (plainTexts? content).map (Input.variableSet name)
  | _ => none

/-- The field that a key of an input names; a number may stand for its place. -/
def fieldOfInput (names : List String) : Document → Option (Option Nat)
  | .scalar written .text => some (names.idxOf? written)
  | .scalar _ (.integer n) =>
    if n < 0 then none else if n < names.length then some (some n.toNat) else some none
  | _ => none

def kindKey : String := "type"

def isKindEntry (entry : Document × Document) : Bool :=
  plainText? entry.1 == some kindKey

/-- The input of a document: a mapping that tells its kind, or a list that begins with
its kind. -/
def input? (rules : ConfigurationRules) (document : Document) : Option Input :=
  if rules.nesting < document.depth then none
  else
    match document with
    | .mapping entries =>
      let others := entries.filter (!isKindEntry ·)
      match entries.filter isKindEntry with
      | [(_, kind)] =>
        ((rules.text? kind).bind InputKind.ofName?).bind fun kind =>
          if entriesAreClean others then
            (gather (fieldOfInput kind.fields) kind.fields.length others).bind (inputOf kind)
          else none
      | _ => none
    | .list (kind :: items) =>
      ((rules.text? kind).bind InputKind.ofName?).bind fun kind =>
        if areClean items then inputOf kind (items.map some) else none
    | _ => none

def inputs? (rules : ConfigurationRules) (document : Document) : Option (List Input) :=
  let document := untagged document
  if rules.isAbsent document then some []
  else
    match document with
    | .list items => items.mapM rules.input?
    | _ => none

/-- A value that may be absent. -/
def optional {α : Type} (read : Document → Option α) (default : α) :
    Option Document → Option α
  | none => some default
  | some document => read document

def logging? (rules : ConfigurationRules) (document : Document) : Option LogPreferences := do
  match ← rules.fields? ["level", "format"] document with
  | [level, format] =>
    return ⟨← optional rules.optionalText? none level, ← optional rules.optionalText? none format⟩
  | _ => none

/-- The configuration of a document; names are not compared yet. -/
def configuration? (rules : ConfigurationRules) (document : Document) :
    Option Configuration := do
  match ← rules.fields? ["schema", "inputs", "logging"] document with
  | [schema, inputs, logging] =>
    return ⟨← optional rules.optionalText? none schema, ← optional rules.inputs? [] inputs,
      ← optional rules.logging? {} logging⟩
  | _ => none

end ConfigurationRules

end PathSchema
