import Conformance.Text.Quoted

/-! What is found at a path. -/
namespace Conformance

/-- Where there is no file the reason tells why; `notDirectory` means that a name on the way
belongs to a file. -/
inductive Found
  | file (content : ByteArray)
  | directory
  | missing
  | notDirectory
  | nameTooLong
  | denied
  deriving Inhabited

namespace Found

def isDirectory : Found → Bool
  | directory => true
  | _ => false

def errorText? : Found → Option (Nat × String)
  | file _ => none
  | directory => some (21, "Is a directory")
  | missing => some (2, "No such file or directory")
  | notDirectory => some (20, "Not a directory")
  | nameTooLong => some (36, "File name too long")
  | denied => some (13, "Permission denied")

def content (path : String) : Found → Except String ByteArray
  | file content => .ok content
  | found =>
    match found.errorText? with
    | some (number, text) => .error (s!"[Errno {number}] {text}: " ++ Text.quoted path)
    | none => .error ""

end Found

end Conformance
