import Conformance.Predicate.Document

/-! Rules: what a rule selects, what it demands of the selection, and how it words a violation. -/
namespace Conformance

/-- What a rule demands: that all or none of the selected items satisfy its condition, that there
are so many of them, or that no two of them depend on each other. -/
inductive ConditionKind
  | all
  | none
  | count
  | independent
  deriving DecidableEq, Repr, Inhabited

namespace ConditionKind

def label : ConditionKind → String
  | all => "all"
  | none => "none"
  | count => "count"
  | independent => "independent"

def every : List ConditionKind := [all, none, count, independent]

def defaultMessage : ConditionKind → String
  | all => "\x7bitem\x7d does not satisfy '\x7bcondition\x7d'"
  | none => "\x7bitem\x7d satisfies '\x7bcondition\x7d'"
  | count => "selection size mismatch: actual=\x7bactual\x7d, expected=\x7bexpected\x7d"
  | independent => "\x7bsource\x7d depends on \x7btarget\x7d"

end ConditionKind

/-- A named structural check. The expected count is whatever was given for it. -/
structure Rule where
  name : String
  selection : Predicate
  kind : ConditionKind
  condition : Option Predicate
  expected : Datum
  scope : Scope
  message : Option String
  because : String
  slices : Option String
  freeze : Bool
  deriving Inhabited

namespace Rule

def plain (name : String) (selection : Predicate) (kind : ConditionKind) : Rule :=
  ⟨name, selection, kind, none, .null, .nodes, none, "", none, false⟩

/-- The template of the rule's messages; an empty one counts as none. -/
def template (r : Rule) : String :=
  match r.message with
  | some message => if message == "" then r.kind.defaultMessage else message
  | none => r.kind.defaultMessage

def subject (r : Rule) : String := s!"{r.scope.label} that " ++ r.selection.description

def sentence (r : Rule) : String :=
  let independent :=
    let unit := match r.slices with
      | some slices => if slices == "" then "" else s!"slices matching '{slices}' of "
      | none => ""
    unit ++ r.subject ++ " should not depend on each other"
  match r.kind, r.condition with
  | .all, some c => "all " ++ r.subject ++ " should " ++ c.description
  | .none, some c => "no " ++ r.subject ++ " should " ++ c.description
  | .count, _ => r.subject ++ " should contain exactly " ++ r.expected.plain ++ " elements"
  | _, _ => independent

def description (r : Rule) : String :=
  if r.because == "" then r.sentence else r.sentence ++ ", because " ++ r.because

def freezing (r : Rule) : Rule := { r with freeze := true }

end Rule

structure Violation where
  rule : String
  item : String
  message : String
  deriving DecidableEq, Repr, Inhabited

end Conformance
