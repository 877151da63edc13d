import Conformance.Rule.Basic

/-! Reading rules from a decoded document. -/
namespace Conformance

structure RuleSet where
  rules : List Rule
  exclude : List String
  deriving Inhabited

namespace RuleSet

abbrev Entries := List (Scalar × Datum)

def readName (entries : Entries) (index : Nat) : Except Failure String :=
  match Datum.lookup? "name" entries with
  | some (.text name) =>
    if Text.isBlankText name then .error (.rules (.namelessRule index)) else .ok name
  | _ => .error (.rules (.namelessRule index))

def readScope (entries : Entries) (rule : String) : Except Failure Scope :=
  let label := ((Datum.lookup? "scope" entries).getD (.text "nodes")).plain
  match Scope.ofLabel? label with
  | some scope => .ok scope
  | none => .error (.rules (.unknownScope rule label))

def readKind (entries : Entries) (rule : String) : Except Failure (ConditionKind × Datum) :=
  match ConditionKind.every.filterMap fun kind =>
    (Datum.lookup? kind.label entries).map fun value => (kind, value) with
  | [found] => .ok found
  | _ => .error (.rules (.notOneCondition rule))

def readFreeze (entries : Entries) (rule : String) : Except Failure Bool :=
  match (Datum.lookup? "freeze" entries).getD (.bool false) with
  | .bool b => .ok b
  | d => .error (.rules (.freezeNotABoolean rule d.literal))

def textUnder? (key : String) (entries : Entries) : Option String :=
  (Datum.lookup? key entries).bind fun d => if d.isNull then none else some d.plain

def readDemand (kind : ConditionKind) (value : Datum) (scope : Scope) (rule : String) (r : Rule) :
    Except Failure Rule :=
  match kind with
  | .all | .none => do
    let context := ruleContext rule ++ " " ++ kind.label
    return { r with condition := some (← Predicate.read scope context value) }
  | .count =>
    match value with
    | .int n => return { r with expected := .int n }
    | _ => throw (.rules (.countNotAnInteger rule))
  | .independent =>
    match value with
    | .mapping entries => return { r with slices := textUnder? "slices" entries }
    | .bool true | .null => return r
    | _ => throw (.rules (.badIndependent rule))

def readRule (entries : Entries) (index : Nat) : Except Failure Rule := do
  let name ← readName entries index
  let scope ← readScope entries name
  let (kind, value) ← readKind entries name
  let selection ←
    Predicate.read scope (ruleContext name ++ " that")
      ((Datum.lookup? "that" entries).getD .null)
  let r ← readDemand kind value scope name { Rule.plain name selection kind with scope }
  let freeze ← readFreeze entries name
  return { r with
    freeze
    message := textUnder? "message" entries
    because := ((Datum.lookup? "because" entries).getD (.text "")).plain }

def readRules (index : Nat) : List Datum → Except Failure (List Rule)
  | [] => .ok []
  | .mapping entries :: rest => do
    let r ← readRule entries index
    return r :: (← readRules (index + 1) rest)
  | _ :: _ => .error (.rules (.ruleNotAMapping index))

/-- Whether a version is the supported one; lists and mappings cannot be looked up. -/
def checkVersion (version : Option Datum) : Except Failure Unit :=
  match version with
  | none | some .null => .error (.rules .noVersion)
  | some (.scalar s) =>
    if s.same (.int 1) then .ok () else .error (.rules (.unsupportedVersion s.plain))
  | some (.set members) => .error (.rules (.unsupportedVersion (Datum.set members).plain))
  | some d => .error (.unhashable d.typeName)

def read (d : Datum) : Except Failure RuleSet :=
  match d with
  | .mapping entries => do
    checkVersion (Datum.lookup? "version" entries)
    match (Datum.lookup? "rules" entries).getD (.list []) with
    | .list items =>
      let rules ← readRules 0 items
      let exclude ←
        textList ((Datum.lookup? "exclude" entries).getD (.list [])) "rules.yml: 'exclude'"
      return ⟨rules, exclude⟩
    | _ => throw (.rules .rulesNotAList)
  | _ => .error (.rules .notAMapping)

/-- What a rule set leaves out of a graph: the packages of any excluded pattern. -/
def excluded (s : RuleSet) : Predicate :=
  .disj (s.exclude.map fun pattern => .ofNode (.inPackage pattern))

def restrict (s : RuleSet) (g : Facts.Graph) : Except Failure Facts.Graph :=
  if s.exclude.isEmpty then .ok g else g.excluding fun n => s.excluded.test (.node n)

end RuleSet

end Conformance
