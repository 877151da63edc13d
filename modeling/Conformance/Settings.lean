import Conformance.Failure
import Conformance.Found
import Conformance.Path
import Conformance.Yaml.Reader

/-! The settings of a project, with a default for whatever its settings file leaves out or gives in
a form that cannot be used. -/
namespace Conformance

inductive Backend
  | file
  | sqlite
  deriving DecidableEq, Repr, Inhabited

namespace Backend

def label : Backend → String
  | file => "file"
  | sqlite => "sqlite"

def ofLabel? (label : String) : Option Backend := [file, sqlite].find? (·.label == label)

end Backend

structure FreezeSettings where
  store : String
  backend : Backend
  allowsCreation : Bool
  refreezes : Bool
  deriving DecidableEq, Repr

def FreezeSettings.standard : FreezeSettings := ⟨".archloom/baseline", .file, true, false⟩

structure Settings where
  graph : String
  rules : String
  workers : Option Nat
  freeze : FreezeSettings
  deriving DecidableEq, Repr

def Settings.standard : Settings := ⟨"facts.yml", "rules.yml", none, .standard⟩

def settingsFileName : String := "archloom.yml"

namespace Settings

abbrev Entries := List (Scalar × Datum)

def textUnder (entries : Entries) (key standard : String) : String :=
  ((Datum.lookup? key entries).map Datum.plain).getD standard

/-- The truth value under a key; anything else counts as absent. -/
def flagUnder (entries : Entries) (key : String) (standard : Bool) : Bool :=
  match Datum.lookup? key entries with
  | some (.bool b) => b
  | _ => standard

def workersUnder (entries : Entries) (key : String) : Option Nat :=
  match Datum.lookup? key entries with
  | some (.int n) => if 0 < n then some n.toNat else none
  | _ => none

def readFreeze (entries : Entries) : FreezeSettings :=
  let standard := FreezeSettings.standard
  { store := textUnder entries "store" standard.store
    backend := (Backend.ofLabel? (textUnder entries "backend" standard.backend.label)).getD
      standard.backend
    allowsCreation := flagUnder entries "allow_store_creation" standard.allowsCreation
    refreezes := flagUnder entries "refreeze" standard.refreezes }

/-- The settings that a document gives; one that is no mapping gives none. -/
def ofDocument (d : Datum) : Settings :=
  match d with
  | .mapping entries =>
    { graph := textUnder entries "graph" standard.graph
      rules := textUnder entries "rules" standard.rules
      workers := workersUnder entries "workers"
      freeze := match Datum.lookup? "freeze" entries with
        | some (.mapping inner) => readFreeze inner
        | _ => .standard }
  | _ => standard

def ofFile (content : ByteArray) : Except Failure Settings :=
  match Yaml.readFile content with
  | .ok d => .ok (ofDocument d)
  | .error .malformed => .ok standard
  | .error fault => .error (.document fault)

def ofFound : Found → Except Failure Settings
  | .file content => ofFile content
  | _ => .ok standard

end Settings

def FreezeSettings.location (s : FreezeSettings) (project : Path) : Path :=
  project.join (.ofString s.store)

end Conformance
