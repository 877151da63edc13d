import Conformance.Text.Utf8

/-! What can be wrong with a text that should be a YAML document. -/
namespace Conformance.Yaml

/-- `malformed` covers every breach of the format. The others come from scalars that a tag or their
own look assigns to a type whose values they do not spell. -/
inductive Fault
  | malformed
  | badValue (message : String)
  | unknownWord (word : String)
  | emptyNumber
  | noTimestamp
  | undecodable (fault : Text.Utf8Fault)
  deriving DecidableEq, Repr, Inhabited

end Conformance.Yaml
