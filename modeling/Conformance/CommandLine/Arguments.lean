import Conformance.Number.Reader
import Conformance.Text.Split

/-! What the arguments of a command line ask for. -/
namespace Conformance.CommandLine

inductive Format
  | rich
  | json
  | porcelain
  deriving DecidableEq, Repr, Inhabited

def Format.ofLabel? : String → Option Format
  | "rich" => some .rich
  | "json" => some .json
  | "porcelain" => some .porcelain
  | _ => none

structure CheckOptions where
  graph : Option String
  rules : Option String
  baseline : Option String
  refreezes : Bool
  isStrict : Bool
  format : Option Format
  workers : Option Nat
  project : Option String
  deriving DecidableEq, Repr, Inhabited

structure ListOptions where
  rules : Option String
  project : Option String
  deriving DecidableEq, Repr, Inhabited

inductive Command
  | version
  | help
  | check (options : CheckOptions)
  | list (options : ListOptions)
  deriving DecidableEq, Repr, Inhabited

structure OptionTable where
  valued : List String
  flags : List String

structure Given where
  name : String
  value : String
  deriving DecidableEq, Repr, Inhabited

def splitAttached (argument : List Char) : String × Option String :=
  let name := argument.takeWhile (· != '=')
  match argument.dropWhile (· != '=') with
  | [] => (String.ofList name, none)
  | _ :: value => (String.ofList name, some (String.ofList value))

/-- The options among arguments, in order, and the other arguments. Options of one letter are given
in `letters` with their long names, and may share a dash. Unless `goesOn`, the first other argument
ends the options. -/
def readOptions (table : OptionTable) (letters : List (Char × String)) (goesOn : Bool) :
    List String → Option (List Given × List String)
  | [] => some ([], [])
  | argument :: rest =>
    if argument == "--" then some ([], rest)
    else match argument.toList with
      | '-' :: '-' :: _ =>
        let (name, attached) := splitAttached argument.toList
        if table.valued.contains name then
          match attached, rest with
          | some value, rest => do
            let (given, others) ← readOptions table letters goesOn rest
            return (⟨name, value⟩ :: given, others)
          | none, value :: rest => do
            let (given, others) ← readOptions table letters goesOn rest
            return (⟨name, value⟩ :: given, others)
          | none, [] => none
        else if table.flags.contains name && attached.isNone then do
          let (given, others) ← readOptions table letters goesOn rest
          return (⟨name, ""⟩ :: given, others)
        else none
      | '-' :: c :: cs => do
        let names ← (c :: cs).mapM fun letter => letters.lookup letter
        let (given, others) ← readOptions table letters goesOn rest
        return (names.map (⟨·, ""⟩) ++ given, others)
      | _ =>
        if goesOn then do
          let (given, others) ← readOptions table letters goesOn rest
          return (given, argument :: others)
        else some ([], argument :: rest)

def lastValue? (given : List Given) (name : String) : Option String :=
  (given.reverse.find? (·.name == name)).map (·.value)

def hasFlag (given : List Given) (name : String) : Bool := given.any (·.name == name)

def checkTable : OptionTable :=
  ⟨["--graph", "--rules", "--baseline", "--format", "--workers", "--project"],
    ["--refreeze", "--strict", "--help"]⟩

def listTable : OptionTable := ⟨["--rules", "--project"], ["--help"]⟩

def mainTable : OptionTable := ⟨[], ["--version", "--verbose", "--quiet", "--help"]⟩

def mainLetters : List (Char × String) := [('v', "--verbose"), ('q', "--quiet")]

def workersOf? (text : String) : Option Nat :=
  (Number.intOfText? 10 text.toList).bind fun n => if 1 ≤ n then some n.toNat else none

def readEach {α : Type} (read : String → Option α) (given : List Given) (name : String) :
    Option (Option α) :=
  match lastValue? given name with
  | none => some none
  | some text => (read text).map some

def readCheck (arguments : List String) : Option Command := do
  let (given, others) ← readOptions checkTable [] true arguments
  if hasFlag given "--help" then return .help
  let format ← readEach Format.ofLabel? given "--format"
  let workers ← readEach workersOf? given "--workers"
  if !others.isEmpty then none
  else some <| .check {
      graph := lastValue? given "--graph"
      rules := lastValue? given "--rules"
      baseline := lastValue? given "--baseline"
      refreezes := hasFlag given "--refreeze"
      isStrict := hasFlag given "--strict"
      format
      workers
      project := lastValue? given "--project" }

def readList (arguments : List String) : Option Command := do
  let (given, others) ← readOptions listTable [] true arguments
  if hasFlag given "--help" then return .help
  if !others.isEmpty then none
  else return .list ⟨lastValue? given "--rules", lastValue? given "--project"⟩

/-- The command that arguments stand for, if they stand for one. Of version and help the first that
is asked for is given, and no command is looked for then. -/
def Command.ofArguments? (arguments : List String) : Option Command := do
  let (given, others) ← readOptions mainTable mainLetters false arguments
  match given.find? fun g => g.name == "--version" || g.name == "--help" with
  | some g => return if g.name == "--version" then version else help
  | none =>
    match others with
    | "check" :: rest => readCheck rest
    | "rules" :: rest => readList rest
    | _ => none

end Conformance.CommandLine
