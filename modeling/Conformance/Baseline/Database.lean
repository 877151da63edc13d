import Conformance.Baseline.Basic
import Conformance.Baseline.Tables
import Conformance.Path

/-! Baselines kept in a database file. Replacing a baseline is one transaction. -/
namespace Conformance.Baseline

/-- What is found where the database file should be; `blocked` means that no file can be there,
and `foreign` that the file is no database. -/
inductive DatabaseFile
  | absent
  | blocked
  | foreign
  | tables (t : Tables)
  deriving DecidableEq, Repr, Inhabited

/-- A store over a database file. `trouble` is the number of statements of a transaction before
the one that fails, if one does. -/
structure Database where
  path : Path
  file : DatabaseFile
  isOpen : Bool
  trouble : Option Nat
  deriving DecidableEq, Repr, Inhabited

namespace Database

def ofFile (path : Path) (file : DatabaseFile) : Database := ⟨path, file, false, none⟩

def prepared? : DatabaseFile → Option Tables
  | .absent => some Tables.empty.create
  | .tables t => some t.create
  | .blocked | .foreign => none

def prepare (d : Database) : Except Fault Unit × Database :=
  match prepared? d.file with
  | some t => (.ok (), { d with file := .tables t, isOpen := true })
  | none => (.error (.cannotOpenDatabase d.path.text), d)

def release (d : Database) : Database := { d with isOpen := false }

def tables? : DatabaseFile → Option Tables
  | .tables t => some t
  | _ => none

def load (d : Database) (rule : String) : Except Fault (Option Entries) :=
  if !d.isOpen then .error .notOpen
  else match (tables? d.file).bind (·.lookup rule) with
    | some found => .ok (found.map Entries.ofPairs)
    | none => .error (.cannotRead rule)

def store (d : Database) (rule : String) (signatures : List Signature) :
    Except Fault Unit × Database :=
  match Entries.ofSignatures rule signatures with
  | .error fault => (.error fault, d)
  | .ok entries =>
    if !d.isOpen then (.error .notOpen, d)
    else
      let statements := Tables.replacement rule entries.pairs
      match (tables? d.file).bind (Tables.executeAll d.trouble · statements) with
      | some t => (.ok (), { d with file := .tables t })
      | none => (.error (.cannotWrite rule), d)

instance : Store Database where
  prepare := prepare
  release := release
  load := load
  store := store

end Database

end Conformance.Baseline
