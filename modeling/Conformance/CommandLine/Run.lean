import Conformance.Baseline.Memory
import Conformance.CommandLine.Arguments
import Conformance.CommandLine.System
import Conformance.Facts.File
import Conformance.Report.Check
import Conformance.Report.Document
import Conformance.Report.Text
import Conformance.Rule.File
import Conformance.Settings

/-! The program: checking a project's rules against its facts, and listing the rules. -/
namespace Conformance.CommandLine

open Baseline Facts

/-- What a run comes to. Text goes to the standard output and to the standard error; a list of
rules is a table with a title; and a failure that no command foresees ends the program. -/
inductive Response
  | text (exitCode : Nat) (output errors : String)
  | table (title : String) (rows : List (List String))
  | misuse
  | crash (failure : Failure)
  deriving DecidableEq, Repr, Inhabited

def versionText : String := "archloom, version 0.3.0\n"

def refusal (message : String) : Response := .text 2 "" s!"Error: {message}\n"

def isRefused (failure : Failure) : Bool :=
  match failure.kind with
  | .configuration | .value | .system | .decoding => true
  | _ => false

def isRefusedInList (failure : Failure) : Bool := failure.kind == .configuration

variable {m : Type → Type} [Monad m] (sys : System m)

def mayBeFile (path : Option String) : m Bool := do
  match path with
  | none => return true
  | some text => return !(← sys.find (.ofString text)).isDirectory

def mayBeProject (project : Option String) : m Bool := do
  match project with
  | none => return true
  | some "" => return false
  | some text => return (← sys.find (.ofString text)).isDirectory

def projectPath (project : Option String) : Path := (project.map Path.ofString).getD sys.start

def pathOf (project : Path) (given : Option String) (setting : String) : Path :=
  match given with
  | some text => .ofString text
  | none => project.join (.ofString setting)

def loadSettings (project : Path) : m (Except Failure Settings) :=
  return Settings.ofFound (← sys.find (project.child settingsFileName))

def loadRules (path : Path) : m (Except Failure RuleSet) :=
  return RuleSet.ofFound path.text (← sys.find path)

def loadGraph (path : Path) : m (Except Failure Graph) :=
  return Graph.ofFound path.text (← sys.find path)

structure Finding where
  result : Except RuleFault Report
  warning : String

/-- Makes a store ready, checks rules with it, and ends the run. A store that cannot be made ready
is used all the same, and the rules that need it report the failure. -/
def checkWith {σ : Type} [Store σ] (g : Graph) (rules : List Rule) (freezer : Freezer) (s : σ) :
    Finding × σ :=
  let (ready, s) := Store.prepare s
  let (result, s) := Report.check g rules (some freezer) (fun _ => false) s
  let warning := match ready with
    | .ok () => ""
    | .error fault => s!"Warning: {fault.message}\n"
  (⟨result, warning⟩, Store.release s)

def memoryName : String := ":memory:"

def checkAt (backend : Backend) (path : Path) (g : Graph) (rules : List Rule) (freezer : Freezer) :
    m Finding := do
  match backend with
  | .file =>
    let names := rules.map fun r => fileName r.name
    let (finding, after) :=
      checkWith g rules freezer (Directory.ofPlace path (← sys.place path names))
    sys.setPlace path after.place
    return finding
  | .sqlite =>
    if path.text == memoryName then
      return (checkWith g rules freezer (Database.ofFile path .absent)).1
    else
      let (finding, after) := checkWith g rules freezer (Database.ofFile path (← sys.database path))
      sys.setDatabase path after.file
      return finding

def printed (format : Format) (r : Report) (milliseconds : Nat) : String :=
  let text := match format with
    | .rich => r.rich (.ofInt milliseconds)
    | .json => r.json
    | .porcelain => r.porcelain
  if text == "" then "" else text ++ "\n"

def freezeSettings (o : CheckOptions) (s : FreezeSettings) : FreezeSettings :=
  match o.baseline with
  | some text => { s with store := (Path.ofString text).text }
  | none => s

def checkGraph (o : CheckOptions) (project : Path) (s : FreezeSettings) (g : Graph)
    (rules : List Rule) : m Response := do
  let began ← sys.clock
  let finding ←
    if o.isStrict then
      pure ⟨(Report.check g rules none (fun _ => false) Memory.empty).1, ""⟩
    else
      checkAt sys s.backend (s.location project) g rules
        ⟨s.allowsCreation, o.refreezes || s.refreezes⟩
  let ended ← sys.clock
  match finding.result with
  | .error fault => return .text 2 "" (finding.warning ++ s!"Error: {fault.message}\n")
  | .ok report =>
    let format := o.format.getD (if sys.isTerminal then .rich else .porcelain)
    return .text report.exitCode (printed format report (ended - began)) finding.warning

def check (o : CheckOptions) : m Response := do
  if !(← mayBeFile sys o.graph) || !(← mayBeFile sys o.rules)
      || !(← mayBeProject sys o.project) then
    return .misuse
  let project := projectPath sys o.project
  match ← loadSettings sys project with
  | .error failure => return .crash failure
  | .ok settings =>
    let loaded : Except Failure (RuleSet × Graph) ← do
      match ← loadRules sys (pathOf project o.rules settings.rules) with
      | .error failure => pure (.error failure)
      | .ok rules =>
        match ← loadGraph sys (pathOf project o.graph settings.graph) with
        | .error failure => pure (.error failure)
        | .ok g => pure (.ok (rules, g))
    match loaded with
    | .error failure =>
      return if isRefused failure then refusal failure.message else .crash failure
    | .ok (rules, g) =>
      match rules.restrict g with
      | .error failure => return .crash failure
      | .ok g => checkGraph sys o project (freezeSettings o settings.freeze) g rules.rules

def columns : List String := ["Rule", "Scope", "Condition", "Frozen", "Description"]

def row (r : Rule) : List String :=
  [r.name, r.scope.label, r.kind.label, if r.freeze then "yes" else "", r.description]

def list (o : ListOptions) : m Response := do
  if !(← mayBeFile sys o.rules) || !(← mayBeProject sys o.project) then
    return .misuse
  let project := projectPath sys o.project
  match ← loadSettings sys project with
  | .error failure => return .crash failure
  | .ok settings =>
    match ← loadRules sys (pathOf project o.rules settings.rules) with
    | .error failure =>
      return if isRefusedInList failure then refusal failure.message else .crash failure
    | .ok set => return .table s!"{set.rules.length} rules" (set.rules.map row)

def usage : String :=
  "Usage: archloom [--version] [--help] [-v|--verbose] [-q|--quiet] COMMAND\n\n" ++
  "  check  [--graph FILE] [--rules FILE] [--baseline PATH] [--refreeze] [--strict]\n" ++
  "         [--format rich|json|porcelain] [--workers N] [--project DIR]\n" ++
  "  rules  [--rules FILE] [--project DIR]\n"

def run (arguments : List String) : m Response :=
  match Command.ofArguments? arguments with
  | none => return .misuse
  | some .version => return .text 0 versionText ""
  | some .help => return .text 0 usage ""
  | some (.check o) => check sys o
  | some (.list o) => list sys o

end Conformance.CommandLine
