import Conformance.Text.Class
import Conformance.Text.CaseTable

/-! Case mappings of whole texts, where one letter may become several and a capital sigma at the
end of a word has a small form of its own. -/
namespace Conformance.Text

def CaseRun.shift (runs : List CaseRun) (c : Char) : Char :=
  match runs.find? fun r =>
    r.first ≤ c.toNat && c.toNat ≤ r.last && (c.toNat - r.first) % r.step == 0 with
  | some r => Char.ofNat (c.toNat + r.offset).toNat
  | none => c

def lowerChar (c : Char) : Char := CaseRun.shift lowerRuns c

def isCased (c : Char) : Bool := inRanges casedRanges c.toNat

def isCaseIgnorable (c : Char) : Bool := inRanges caseIgnorableRanges c.toNat

def meetsCased (s : List Char) : Bool :=
  ((s.dropWhile isCaseIgnorable).head?.map isCased).getD false

/-- Small letters of a text, where `before` holds the characters passed so far, nearest first. -/
def lowerAfter (before : List Char) : List Char → List Char
  | [] => []
  | c :: rest =>
    let small :=
      if c == 'Σ' then
        if meetsCased before && !meetsCased rest then ['ς'] else ['σ']
      else if c == 'İ' then ['i', '\u0307']
      else [lowerChar c]
    small ++ lowerAfter (c :: before) rest

def lower (s : String) : String := String.ofList (lowerAfter [] s.toList)

def upperChar (c : Char) : List Char :=
  match upperExpansions.lookup c.toNat with
  | some codes => codes.map Char.ofNat
  | none => [CaseRun.shift upperRuns c]

def upper (s : String) : String := String.ofList (s.toList.flatMap upperChar)

end Conformance.Text
