import Conformance.Datum.Basic

/-! Writing JSON text, indented by two spaces a level. Characters beyond ASCII stand for themselves. -/
namespace Conformance.Json

def escape (c : Char) : List Char :=
  if c == '"' then ['\\', '"']
  else if c == '\\' then ['\\', '\\']
  else if c == '\n' then ['\\', 'n']
  else if c == '\r' then ['\\', 'r']
  else if c == '\t' then ['\\', 't']
  else if c == '\x0c' then ['\\', 'f']
  else if c == '\x08' then ['\\', 'b']
  else if c.toNat < 0x20 then '\\' :: 'u' :: Text.hex 4 c.toNat
  else [c]

def writeText (s : String) : List Char := '"' :: s.toList.flatMap escape ++ ['"']

def writeScalar : Scalar → List Char
  | .null => ['n', 'u', 'l', 'l']
  | .bool true => ['t', 'r', 'u', 'e']
  | .bool false => ['f', 'a', 'l', 's', 'e']
  | .int n => (toString n).toList
  | .float .nan => ['N', 'a', 'N']
  | .float (.infinite s) => (if s then "-Infinity" else "Infinity").toList
  | .float x => x.text.toList
  | s => writeText s.plain

def joinWith (sep : List Char) : List (List Char) → List Char
  | [] => []
  | [part] => part
  | part :: rest => part ++ sep ++ joinWith sep rest

def newline (depth : Nat) : List Char := '\n' :: List.replicate (2 * depth) ' '

/-- Parts on lines of their own between two brackets; nothing at all stays on one line. -/
def enclose (opening closing : Char) (depth : Nat) (parts : List (List Char)) : List Char :=
  if parts.isEmpty then [opening, closing]
  else opening :: newline (depth + 1) ++ joinWith (',' :: newline (depth + 1)) parts
    ++ newline depth ++ [closing]

mutual

def indented (depth : Nat) : Datum → List Char
  | .scalar s => writeScalar s
  | .list items => enclose '[' ']' depth (indentedItems (depth + 1) items)
  | .mapping entries => enclose '{' '}' depth (indentedEntries (depth + 1) entries)
  | .set members => enclose '[' ']' depth (members.map writeScalar)

def indentedItems (depth : Nat) : List Datum → List (List Char)
  | [] => []
  | d :: rest => indented depth d :: indentedItems depth rest

def indentedEntries (depth : Nat) : List (Scalar × Datum) → List (List Char)
  | [] => []
  | (k, d) :: rest =>
    (writeText k.plain ++ ':' :: ' ' :: indented depth d) :: indentedEntries depth rest

end

def write (d : Datum) : String := String.ofList (indented 0 d)

end Conformance.Json
