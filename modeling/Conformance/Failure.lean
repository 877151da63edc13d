import Conformance.Baseline.Fault
import Conformance.Facts.Fault
import Conformance.Rule.Fault
import Conformance.Yaml.Fault

/-! Every way in which an operation can fail, with the kind and the wording of each. -/
namespace Conformance

structure MissingPart where
  item : String
  part : String
  deriving DecidableEq, Repr

inductive Failure
  | facts (fault : Facts.Fault)
  | rules (fault : RulesFault)
  | rule (fault : RuleFault)
  | baseline (fault : Baseline.Fault)
  | template (fault : Template.Fault)
  | document (fault : Yaml.Fault)
  | factsFile (path : String)
  | rulesFile (cause : String)
  | unreadable (reason : String)
  | duplicateNodes (names : List String)
  | badExpression
  | unhashable (type : String)
  | missingPart (missing : MissingPart)
  | missingCondition
  | raised (message : String)
  deriving DecidableEq, Repr

namespace Failure

inductive Kind
  | configuration
  | graphQuery
  | baselineStore
  | value
  | type
  | key
  | index
  | member
  | assertion
  | runtime
  | system
  | overflow
  | expression
  | decoding
  deriving DecidableEq, Repr

def Kind.label : Kind → String
  | configuration => "ConfigurationError"
  | graphQuery => "GraphQueryError"
  | baselineStore => "BaselineStoreError"
  | value => "ValueError"
  | type => "TypeError"
  | key => "KeyError"
  | index => "IndexError"
  | member => "AttributeError"
  | assertion => "AssertionError"
  | runtime => "RuntimeError"
  | system => "OSError"
  | overflow => "OverflowError"
  | expression => "error"
  | decoding => "UnicodeDecodeError"

def templateKind : Template.Fault → Kind
  | .malformed _ | .format _ => .value
  | .unknownField _ | .missingKey _ => .key
  | .noPosition _ | .textTooShort | .listTooShort => .index
  | .notIndexed _ | .textIndexedByName | .listIndexedByName | .plainFormatOnly _ => .type
  | .noAttribute .. => .member
  | .characterOutOfRange | .characterTooLarge | .tooLargeForFloat => .overflow

def documentKind : Yaml.Fault → Kind
  | .malformed | .badValue _ => .value
  | .unknownWord _ => .key
  | .emptyNumber => .index
  | .noTimestamp => .member
  | .undecodable _ => .decoding

def kind : Failure → Kind
  | facts _ | rules _ | factsFile _ => .value
  | rule _ | rulesFile _ => .configuration
  | baseline _ => .baselineStore
  | template fault => templateKind fault
  | document fault => documentKind fault
  | duplicateNodes _ => .graphQuery
  | badExpression => .expression
  | unhashable _ => .type
  | missingPart _ => .member
  | missingCondition => .assertion
  | raised _ => .runtime
  | unreadable _ => .system

def documentMessage : Yaml.Fault → String
  | .malformed => Baseline.particulars
  | .badValue message => message
  | .unknownWord word => Text.quoted word
  | .emptyNumber => "string index out of range"
  | .noTimestamp => "'NoneType' object has no attribute 'groupdict'"
  | .undecodable fault => fault.message

def message : Failure → String
  | facts fault => fault.message
  | rules fault => fault.message
  | rule fault => fault.message
  | baseline fault => fault.message
  | template fault => fault.message
  | document fault => documentMessage fault
  | factsFile path => s!"{path}: invalid facts document: {Baseline.particulars}"
  | rulesFile cause => s!"Invalid rules configuration: {cause}"
  | duplicateNodes names => "Duplicate qualified names in fact graph: " ++ ", ".intercalate names
  | badExpression => ""
  | unhashable type => s!"unhashable type: '{type}'"
  | missingPart m => s!"'{m.item}' object has no attribute '{m.part}'"
  | missingCondition => ""
  | raised text => text
  | unreadable reason => reason

def isForeseen (f : Failure) : Bool :=
  match f.kind with
  | .configuration | .graphQuery | .baselineStore => true
  | _ => false

def reportText (f : Failure) : String :=
  if f.isForeseen then f.message else s!"{f.kind.label}: {f.message}"

end Failure

end Conformance
