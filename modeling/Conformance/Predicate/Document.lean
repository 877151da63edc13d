import Conformance.Datum.Basic
import Conformance.Predicate.Basic

/-! Reading predicates from documents. A mapping stands for the conjunction of its entries, in
their order; null stands for anything. -/
namespace Conformance

inductive Scope
  | nodes
  | edges
  | methods
  deriving DecidableEq, Repr, Inhabited

namespace Scope

def label : Scope → String
  | nodes => "nodes"
  | edges => "edges"
  | methods => "methods"

def all : List Scope := [nodes, edges, methods]

def ofLabel? (label : String) : Option Scope := all.find? (·.label == label)

end Scope

def textList (d : Datum) (context : String) : Except Failure (List String) :=
  match d with
  | .list items => .ok (items.map Datum.plain)
  | .text s => .ok [s]
  | _ => .error (.rules (.notTexts context))

namespace Predicate

def textProperty? (key : String) : Option (String → NodeProperty) :=
  [("package", .inPackage), ("package_prefix", .packageUnder), ("simple_name", .simpleName),
    ("name_contains", .simpleNameContaining), ("kind", .ofKind), ("implements", .implementing),
    ("annotated_with", .annotatedWith)].lookup key

def readFieldProperty (value : Datum) (context : String) : Except Failure NodeProperty :=
  match value with
  | .mapping entries => do
    match Datum.lookup? "name" entries with
    | some name =>
      if !name.isTruthy then throw (.rules (.namelessField context))
      let modifiers ← textList ((Datum.lookup? "modifiers" entries).getD (.list []))
        (context ++ ".has_field.modifiers")
      let type := (Datum.lookup? "type" entries).bind fun type =>
        if type.isNull then none else some type.plain
      return .hasField name.plain modifiers type
    | none => throw (.rules (.namelessField context))
  | _ => .error (.rules (.namelessField context))

def readNodeEntry (key : String) (value : Datum) (context : String) :
    Except Failure Predicate := do
  if let some property := textProperty? key then return .ofNode (property value.plain)
  if key == "name_matches" then
    match Regex.compile? value.plain with
    | some r => return .ofNode (.nameMatching r)
    | none => throw .badExpression
  else if key == "modifier" then
    let modifiers ← textList value (context ++ ".modifier")
    return .conj (modifiers.map fun m => .ofNode (.hasModifier m))
  else if key == "lowercase_package" then
    let lower := Predicate.ofNode .lowercasePackage
    return if value.isTruthy then lower else .neg lower
  else if key == "accesses" then
    return .ofNode (.accessing (← textList value (context ++ ".accesses")))
  else if key == "has_field" then return .ofNode (← readFieldProperty value context)
  else throw (.rules (.unknownNodePredicate context key))

def readBound (value : Datum) (context bound : String) : Except Failure Int :=
  match value with
  | .int n => if n < 0 then .error (.rules (.badBound context bound)) else .ok n
  | _ => .error (.rules (.badBound context bound))

def readMethodEntry (key : String) (value : Datum) (context : String) :
    Except Failure Predicate := do
  if key == "name" then return .ofMethod (.named value.plain)
  else if key == "annotated_with" then return .ofMethod (.annotatedWith value.plain)
  else if key == "parameters" then
    match value with
    | .mapping entries =>
      let low ← readBound ((Datum.lookup? "min" entries).getD (.int 0)) context "min"
      let high ← readBound ((Datum.lookup? "max" entries).getD (.int 255)) context "max"
      return .ofMethod (.parameterCount low high)
    | _ => throw (.rules (.boundsNotAMapping context))
  else throw (.rules (.unknownMethodPredicate context key))

inductive Composition
  | neg
  | anyOf
  | allOf
  | source
  | target
  | owner
  deriving DecidableEq, Repr

def Composition.ofKey? (scope : Scope) (key : Scalar) : Option Composition :=
  match key with
  | .text "not" => some .neg
  | .text "any_of" => some .anyOf
  | .text "all_of" => some .allOf
  | key =>
    match scope, key.plain with
    | .edges, "from" => some .source
    | .edges, "to" => some .target
    | .methods, "declared_in" => some .owner
    | _, _ => none

def readEntry (scope : Scope) (key : String) (value : Datum) (context : String) :
    Except Failure Predicate :=
  match scope with
  | .nodes => readNodeEntry key value context
  | .edges => .error (.rules (.unknownEdgePredicate context key))
  | .methods => readMethodEntry key value context

def extend (context key : String) : String := context ++ "." ++ key

mutual

/-- The predicate that a document stands for at a scope. -/
def read (scope : Scope) (context : String) : Datum → Except Failure Predicate
  | .scalar .null => .ok .anything
  | .mapping entries => return .conj (← readEntries scope context entries)
  | _ => .error (.rules (.predicateNotAMapping context))

def readEntries (scope : Scope) (context : String) :
    List (Scalar × Datum) → Except Failure (List Predicate)
  | [] => .ok []
  | (key, value) :: rest => do
    let part ←
      match Composition.ofKey? scope key with
      | some .neg => Predicate.neg <$> read scope (extend context "not") value
      | some .anyOf => Predicate.disj <$> readChoices scope context "any_of" value
      | some .allOf => Predicate.conj <$> readChoices scope context "all_of" value
      | some .source => Predicate.source <$> read .nodes (extend context "from") value
      | some .target => Predicate.target <$> read .nodes (extend context "to") value
      | some .owner => Predicate.declaredIn <$> read .nodes (extend context "declared_in") value
      | none => readEntry scope key.plain value context
    return part :: (← readEntries scope context rest)

def readChoices (scope : Scope) (context key : String) : Datum → Except Failure (List Predicate)
  | .list (d :: rest) => readAll scope (extend context key) (d :: rest)
  | _ => .error (.rules (.emptyComposition context key))

def readAll (scope : Scope) (context : String) : List Datum → Except Failure (List Predicate)
  | [] => .ok []
  | d :: rest => do
    let p ← read scope context d
    return p :: (← readAll scope context rest)

end

end Predicate

end Conformance
