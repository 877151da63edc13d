import Conformance.Rule.Basic

/-! Reports: what became of each rule of a set, and what follows for the whole. -/
namespace Conformance

inductive Status
  | passed
  | failed
  | errored
  | cancelled
  deriving DecidableEq, Repr, Inhabited

namespace Status

def label : Status → String
  | passed => "passed"
  | failed => "failed"
  | errored => "errored"
  | cancelled => "cancelled"

def mark : Status → String
  | passed => "✓"
  | failed => "✗"
  | errored => "!"
  | cancelled => "-"

end Status

/-- What became of one rule, with its violations or the error that kept it from being evaluated. -/
structure Outcome where
  rule : String
  status : Status
  violations : List Violation
  error : Option String
  description : String
  because : String
  frozen : Bool
  deriving DecidableEq, Repr, Inhabited

structure Report where
  outcomes : List Outcome
  deriving DecidableEq, Repr, Inhabited

namespace Report

def passed (r : Report) : Bool := r.outcomes.all (·.status == .passed)

def failedRules (r : Report) : List String :=
  (r.outcomes.filter (·.status != .passed)).map (·.rule)

def violations (r : Report) : List Violation := r.outcomes.flatMap (·.violations)

def exitCode (r : Report) : Nat := if r.passed then 0 else 1

def outcome? (r : Report) (rule : String) : Option Outcome := r.outcomes.find? (·.rule == rule)

def count (r : Report) (s : Status) : Nat := r.outcomes.countP (·.status == s)

end Report

end Conformance
