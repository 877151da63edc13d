/-! What can go wrong with stored baselines. A store that a caller brings reports in its own words. -/
namespace Conformance.Baseline

/-- Stands in messages for the particulars of a failure outside this library's reach. -/
def particulars : String := "<detail>"

inductive Fault
  | foreignSignature (rule other : String)
  | cannotCreateDirectory (path : String)
  | cannotReadFile (rule path : String)
  | cannotWriteFile (rule path : String)
  | foreignFile (rule path : String)
  | entriesNotAList (path : String)
  | malformedEntry (path literal : String)
  | cannotOpenDatabase (path : String)
  | notOpen
  | cannotRead (rule : String)
  | cannotWrite (rule : String)
  | reported (message : String)
  | creationDisabled (rule : String)
  deriving DecidableEq, Repr

def Fault.message : Fault → String
  | foreignSignature rule other =>
    s!"Signature for rule '{other}' cannot be stored under '{rule}'"
  | cannotCreateDirectory path => s!"Cannot create baseline directory {path}: {particulars}"
  | cannotReadFile rule path =>
    s!"Cannot read baseline for rule '{rule}' from {path}: {particulars}"
  | cannotWriteFile rule path =>
    s!"Cannot write baseline for rule '{rule}' to {path}: {particulars}"
  | foreignFile rule path => s!"Baseline file {path} does not belong to rule '{rule}'"
  | entriesNotAList path => s!"Baseline file {path}: 'violations' must be a list"
  | malformedEntry path literal => s!"Baseline file {path}: malformed entry {literal}"
  | cannotOpenDatabase path => s!"Cannot open baseline database {path}: {particulars}"
  | notOpen => "Baseline database is not open"
  | cannotRead rule => s!"Cannot read baseline for rule '{rule}': {particulars}"
  | cannotWrite rule => s!"Cannot write baseline for rule '{rule}': {particulars}"
  | reported message => message
  | creationDisabled rule =>
    s!"No baseline stored for rule '{rule}' and baseline creation is disabled"

end Conformance.Baseline
