import Conformance.Yaml.Token.Lexer
import Conformance.Yaml.Value

/-! Reading YAML texts and files. -/
namespace Conformance.Yaml

def unifyBreaks : List Char → List Char
  | '\r' :: '\n' :: rest => '\n' :: unifyBreaks rest
  | '\r' :: rest => '\n' :: unifyBreaks rest
  | c :: rest => c :: unifyBreaks rest
  | [] => []

def read (text : String) : Except Fault Datum := do
  let tokens ← Token.ofText (unifyBreaks text.toList)
  let node ← Node.ofTokens tokens
  node.datum

def readFile (content : ByteArray) : Except Fault Datum :=
  match String.fromUTF8? content with
  | some text => read text
  | none => .error (.undecodable (Text.utf8Fault content))

end Conformance.Yaml
