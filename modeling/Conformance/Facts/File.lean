import Conformance.Facts.Document
import Conformance.Facts.Graph
import Conformance.Found
import Conformance.Yaml.Reader

/-! Fact graphs from files. -/
namespace Conformance.Facts.Graph

def ofDocument (d : Datum) : Except Failure Graph :=
  match Sheet.read d with
  | .ok sheet => .ok (build sheet.nodes sheet.edges)
  | .error fault => .error (.facts fault)

def ofFile (path : String) (content : ByteArray) : Except Failure Graph :=
  match Yaml.readFile content with
  | .ok d => ofDocument d
  | .error .malformed => .error (.factsFile path)
  | .error fault => .error (.document fault)

def ofFound (path : String) (found : Found) : Except Failure Graph :=
  match found.content path with
  | .ok content => ofFile path content
  | .error reason => .error (.unreadable reason)

end Conformance.Facts.Graph
