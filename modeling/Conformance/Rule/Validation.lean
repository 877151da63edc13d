import Conformance.Rule.Basic
import Conformance.Template.Basic

/-! Which rules and sets of rules can be evaluated. -/
namespace Conformance

namespace Rule

/-- The values with which a template is tried: empty texts and zeros. -/
def trialValues : Template.Values :=
  [("rule", .text ""), ("item", .text ""), ("condition", .text ""), ("actual", .int 0),
    ("expected", .int 0), ("source", .text ""), ("target", .text "")]

def isCount : Datum → Bool
  | .int n => 0 ≤ n
  | _ => false

def checkCondition (r : Rule) : Except RuleFault Unit :=
  if (r.kind == .all || r.kind == .none) && r.condition.isNone then
    .error (.noCondition r.name r.kind.label)
  else .ok ()

def checkCount (r : Rule) : Except RuleFault Unit :=
  if r.kind == .count && !isCount r.expected then .error (.badCount r.name r.expected.literal)
  else .ok ()

def checkIndependent (r : Rule) : Except RuleFault Unit :=
  if r.kind == .independent && r.scope != .nodes then .error (.independentBeyondNodes r.name)
  else if r.slices.isSome && r.kind != .independent then .error (.slicesElsewhere r.name)
  else .ok ()

def checkTemplate (r : Rule) : Except RuleFault Unit :=
  match Template.render trialValues r.template with
  | .ok _ => .ok ()
  | .error fault => .error (.badTemplate r.name r.template fault)

def check (r : Rule) : Except RuleFault Unit := do
  if Text.isBlankText r.name then throw .blankName
  r.checkCondition
  r.checkCount
  r.checkIndependent
  r.checkTemplate

/-- Fails with the first fault of a list of rules; `seen` holds the names before it. -/
def checkAfter (seen : List String) : List Rule → Except RuleFault Unit
  | [] => .ok ()
  | r :: rest => do
    r.check
    if seen.contains r.name then throw (.duplicateName r.name)
    checkAfter (r.name :: seen) rest

/-- Fails unless every rule can be evaluated and no two share a name. -/
def checkAll (rules : List Rule) : Except RuleFault Unit := checkAfter [] rules

end Rule

end Conformance
