import Conformance.CommandLine.Run
import Conformance.CommandLine.Table

/-! The program in the file system that it is started in. What a run reads and leaves behind is
decided elsewhere; here it is only fetched, put in place and printed. -/
namespace Conformance.CommandLine

open Baseline

def foundAt? (number : UInt32) : Option Found :=
  match min number (0 - number) with
  | 2 => some .missing
  | 13 => some .denied
  | 20 => some .notDirectory
  | 21 => some .directory
  | 36 => some .nameTooLong
  | _ => none

def errorNumber : IO.Error → UInt32
  | .noFileOrDirectory _ number _ | .permissionDenied _ number _ | .inappropriateType _ number _
  | .invalidArgument _ number _ | .resourceExhausted _ number _ | .noSuchThing _ number _
  | .alreadyExists _ number _ | .otherError number _ => number
  | _ => 0

def findFile (p : Path) : IO Found := do
  match ← (IO.FS.readBinFile p.text).toBaseIO with
  | .ok content => return .file content
  | .error e =>
    match foundAt? (errorNumber e) with
    | some found => return found
    | none => throw e

def makeDirectory (p : Path) : IO Bool := do
  match ← (IO.FS.createDirAll p.text).toBaseIO with
  | .ok () => return (← findFile p).isDirectory
  | .error _ => return false

def replaceFile (p : Path) (content : ByteArray) : IO Unit := do
  let isKept ← match ← findFile p with
    | .file old => pure (old.toList == content.toList)
    | _ => pure false
  if !isKept then
    let temporary := p.text ++ ".tmp"
    IO.FS.writeBinFile temporary content
    IO.FS.rename temporary p.text

def readPlace (p : Path) (names : List String) : IO Place := do
  if !(← makeDirectory p) then
    return .blocked
  let mut occupants : Named Occupant := []
  for name in names do
    match ← findFile (p.child name) with
    | .file content => occupants := occupants.put name (.file content)
    | .directory => occupants := occupants.put name .directory
    | _ => pure ()
  return .present occupants

def writePlace (p : Path) : Place → IO Unit
  | .present occupants =>
    for (name, occupant) in occupants do
      if let .file content := occupant then
        replaceFile (p.child name) content
  | _ => pure ()

def readDatabase (p : Path) : IO DatabaseFile := do
  if !(← makeDirectory p.parent) then
    return .blocked
  match ← findFile p with
  | .file content =>
    match Tables.ofContent? content with
    | some tables => return .tables tables
    | none => return .foreign
  | .missing => return .absent
  | _ => return .blocked

def writeDatabase (p : Path) : DatabaseFile → IO Unit
  | .tables tables => replaceFile p tables.content
  | _ => pure ()

def surroundings : IO (System IO) := do
  return {
    start := .ofString (← IO.currentDir).toString
    isTerminal := ← (← IO.getStdout).isTty
    clock := IO.monoMsNow
    find := findFile
    place := readPlace
    setPlace := writePlace
    database := readDatabase
    setDatabase := writeDatabase }

def respond : Response → IO UInt32
  | .text exitCode output errors => do
    IO.print output
    IO.eprint errors
    return .ofNat exitCode
  | .table title rows => do
    IO.print (tableText title columns rows)
    return 0
  | .misuse => do
    IO.eprint usage
    return 2
  | .crash failure => do
    IO.eprintln s!"{failure.kind.label}: {failure.message}"
    return 1

end Conformance.CommandLine

open Conformance.CommandLine in
def main (arguments : List String) : IO UInt32 := do
  respond (← run (← surroundings) arguments)
