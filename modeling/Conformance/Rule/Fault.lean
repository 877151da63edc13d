import Conformance.Template.Fault

/-! What can be wrong with a rules document, and with a rule by itself. -/
namespace Conformance

inductive RulesFault
  | notAMapping
  | noVersion
  | unsupportedVersion (plain : String)
  | rulesNotAList
  | ruleNotAMapping (index : Nat)
  | namelessRule (index : Nat)
  | unknownScope (rule scope : String)
  | notOneCondition (rule : String)
  | countNotAnInteger (rule : String)
  | badIndependent (rule : String)
  | freezeNotABoolean (rule literal : String)
  | notTexts (context : String)
  | predicateNotAMapping (context : String)
  | emptyComposition (context key : String)
  | unknownNodePredicate (context key : String)
  | unknownEdgePredicate (context key : String)
  | unknownMethodPredicate (context key : String)
  | namelessField (context : String)
  | boundsNotAMapping (context : String)
  | badBound (context bound : String)
  deriving DecidableEq, Repr

def ruleContext (name : String) : String := s!"Rule '{name}'"

def RulesFault.message : RulesFault → String
  | notAMapping => "rules.yml must be a YAML mapping"
  | noVersion => "rules.yml: missing required 'version' field"
  | unsupportedVersion plain => s!"rules.yml: unsupported version {plain}, expected one of [1]"
  | rulesNotAList => "rules.yml: 'rules' must be a list"
  | ruleNotAMapping index => s!"rules.yml: rule at index {index} must be a mapping"
  | namelessRule index => s!"rules.yml: rule at index {index} missing required 'name' field"
  | unknownScope rule scope =>
    ruleContext rule ++ s!": invalid scope '{scope}', must be one of ['edges', 'methods', 'nodes']"
  | notOneCondition rule =>
    ruleContext rule ++ ": must have exactly one of ['all', 'count', 'independent', 'none']"
  | countNotAnInteger rule => ruleContext rule ++ ": 'count' must be an integer"
  | badIndependent rule => ruleContext rule ++ ": 'independent' must be true or a mapping"
  | freezeNotABoolean rule literal =>
    ruleContext rule ++ s!": 'freeze' must be true or false, got {literal}"
  | notTexts context => s!"{context} must be a string or a list of strings"
  | predicateNotAMapping context => s!"{context} must be a mapping"
  | emptyComposition context key => s!"{context}.{key} must be a non-empty list"
  | unknownNodePredicate context key => s!"{context}: unknown node predicate '{key}'"
  | unknownEdgePredicate context key =>
    s!"{context}: unknown edge predicate '{key}', expected 'from' or 'to'"
  | unknownMethodPredicate context key => s!"{context}: unknown method predicate '{key}'"
  | namelessField context => s!"{context}.has_field must be a mapping with a 'name'"
  | boundsNotAMapping context =>
    s!"{context}.parameters must be a mapping with 'min' and/or 'max'"
  | badBound context bound => s!"{context}.parameters.{bound} must be a non-negative integer"

inductive RuleFault
  | blankName
  | noCondition (rule kind : String)
  | badCount (rule literal : String)
  | independentBeyondNodes (rule : String)
  | slicesElsewhere (rule : String)
  | badTemplate (rule template : String) (fault : Template.Fault)
  | duplicateName (rule : String)
  deriving DecidableEq, Repr

def RuleFault.message : RuleFault → String
  | blankName => "Rule name must be a non-empty string"
  | noCondition rule kind =>
    ruleContext rule ++ s!": condition '{kind}' requires a condition predicate"
  | badCount rule literal =>
    ruleContext rule ++ s!": expected count must be a non-negative integer, got {literal}"
  | independentBeyondNodes rule => ruleContext rule ++ ": 'independent' rules can only select nodes"
  | slicesElsewhere rule =>
    ruleContext rule ++ ": slices are only supported by 'independent' rules"
  | badTemplate rule template fault =>
    ruleContext rule ++ ": invalid message template " ++ Text.quoted template ++ ": " ++ fault.message
  | duplicateName rule => s!"Duplicate rule name '{rule}'"

end Conformance
