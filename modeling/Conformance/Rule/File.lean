import Conformance.Found
import Conformance.Rule.Document
import Conformance.Rule.Validation
import Conformance.Yaml.Reader

/-! Rule sets from files. Whatever is wrong with the file itself is a fault of configuration. -/
namespace Conformance.RuleSet

def validated (s : RuleSet) : Except Failure RuleSet :=
  match Rule.checkAll s.rules with
  | .ok () => .ok s
  | .error fault => .error (.rule fault)

def ofDocument (d : Datum) : Except Failure RuleSet :=
  match read d with
  | .ok s => s.validated
  | .error (.rules fault) => .error (.rulesFile fault.message)
  | .error failure => .error failure

def coversFault : Yaml.Fault → Bool
  | .malformed | .badValue _ | .undecodable _ => true
  | .unknownWord _ | .emptyNumber | .noTimestamp => false

def ofFile (content : ByteArray) : Except Failure RuleSet :=
  match Yaml.readFile content with
  | .ok d => ofDocument d
  | .error fault =>
    .error (if coversFault fault then .rulesFile Baseline.particulars else .document fault)

def ofFound (path : String) (found : Found) : Except Failure RuleSet :=
  match found.content path with
  | .ok content => ofFile content
  | .error reason => .error (.rulesFile reason)

end Conformance.RuleSet
