import Conformance.Digest.Sha256

/-! The names of baseline files: a readable part, and a digest that keeps rules apart. -/
namespace Conformance.Baseline

def isSafe (c : Char) : Bool := c.isAlphanum || c == '_' || c == '.' || c == '-'

/-- Puts one dash for each run of other characters; `inRun` says that such a run is under way. -/
def dashRuns (inRun : Bool) : List Char → List Char
  | [] => []
  | c :: rest =>
    if isSafe c then c :: dashRuns false rest
    else if inRun then dashRuns true rest
    else '-' :: dashRuns true rest

def trimDashes (s : List Char) : List Char :=
  ((s.dropWhile (· == '-')).reverse.dropWhile (· == '-')).reverse

/-- The readable part of a rule's file name: at most 60 characters, and never empty. -/
def slug (rule : List Char) : List Char :=
  match (trimDashes (dashRuns false rule)).take 60 with
  | [] => ['r', 'u', 'l', 'e']
  | s => s

/-- The name of a rule's file under a digest function: the first twelve digits tell apart rules
with the same readable part. -/
def fileNameBy (digest : List UInt8 → List Char) (rule : String) : String :=
  String.ofList (slug rule.toList ++ '-' :: (digest rule.toUTF8.toList).take 12) ++ ".json"

def fileName (rule : String) : String := fileNameBy Digest.Sha256.hexDigest rule

end Conformance.Baseline
