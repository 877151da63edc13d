import Conformance.Baseline.Document
import Conformance.Baseline.FileName
import Conformance.Named
import Conformance.Path

/-! Baselines kept as files of a directory, one for each rule. A file is written under a name of
its own first and then takes the place of the one before. -/
namespace Conformance.Baseline

inductive Occupant
  | file (content : ByteArray)
  | directory
  deriving Inhabited

def Occupant.isDirectory : Occupant → Bool
  | directory => true
  | file _ => false

/-- What is found where the directory should be; `blocked` means that something else stands on the
way and no directory can be made. -/
inductive Place
  | absent
  | blocked
  | present (names : Named Occupant)
  deriving Inhabited

inductive WriteStep
  | makeDirectory
  | createTemporary
  | write
  | flush
  | sync
  | replace
  deriving DecidableEq, Repr, Inhabited

namespace Place

def make? : Place → Option (Named Occupant)
  | absent => some []
  | blocked => none
  | present names => some names

def content? (name : String) : Place → Option ByteArray
  | present names =>
    match names.find? name with
    | some (.file content) => some content
    | _ => none
  | _ => none

/-- A name for a temporary file: longer than any other in the directory. -/
def temporaryName (names : Named Occupant) : String :=
  let longest := (names.map fun e => e.1.length).foldl max 0
  ".tmp-" ++ String.ofList (List.replicate longest '_') ++ ".json"

/-- Writes a temporary file and lets it take the place of `name`. The step given as `trouble`
fails, and so does replacing a directory; then the temporary file goes away again. -/
def replaceFile (trouble : Option WriteStep) (name : String) (content : ByteArray)
    (names : Named Occupant) : Bool × Named Occupant :=
  let fails (step : WriteStep) : Bool := trouble == some step
  if fails .createTemporary then (false, names)
  else
    let temporary := temporaryName names
    let written := names.put temporary (.file content)
    if fails .write || fails .flush || fails .sync || fails .replace
        || (names.find? name).any Occupant.isDirectory then
      (false, written.erase temporary)
    else (true, (written.erase temporary).put name (.file content))

def write (trouble : Option WriteStep) (name : String) (content : ByteArray) (p : Place) :
    Bool × Place :=
  if trouble == some .makeDirectory then (false, p)
  else match p.make? with
    | none => (false, p)
    | some names =>
      let (done, names) := replaceFile trouble name content names
      (done, present names)

end Place

/-- A store over a directory. `trouble` is the step of writing that fails, if one does. -/
structure Directory where
  path : Path
  place : Place
  trouble : Option WriteStep
  deriving Inhabited

namespace Directory

def ofPlace (path : Path) (place : Place) : Directory := ⟨path, place, none⟩

def pathFor (d : Directory) (rule : String) : String := (d.path.child (fileName rule)).text

def prepare (d : Directory) : Except Fault Unit × Directory :=
  match if d.trouble == some .makeDirectory then none else d.place.make? with
  | some names => (.ok (), { d with place := .present names })
  | none => (.error (.cannotCreateDirectory d.path.text), d)

def load (d : Directory) (rule : String) : Except Fault (Option Entries) :=
  match d.place.content? (fileName rule) with
  | none => .ok none
  | some content => return some (← Entries.ofContent rule (d.pathFor rule) content)

def store (d : Directory) (rule : String) (signatures : List Signature) :
    Except Fault Unit × Directory :=
  match Entries.ofSignatures rule signatures with
  | .error fault => (.error fault, d)
  | .ok entries =>
    let (done, place) := d.place.write d.trouble (fileName rule) (entries.text rule).toUTF8
    (if done then .ok () else .error (.cannotWriteFile rule (d.pathFor rule)), { d with place })

instance : Store Directory where
  prepare := prepare
  release d := d
  load := load
  store := store

end Directory

end Conformance.Baseline
