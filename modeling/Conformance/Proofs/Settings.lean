import Conformance.Proofs.Datum.Plain
import Conformance.Settings

/-! What becomes of settings files. Whatever a document says, each setting is what stands under its
key if that is of use there, and the standard one if it is not, and settings that nobody can read
are the standard ones; but a file that is no text, or has a scalar that its type does not know, is
not forgiven. -/
namespace Conformance.Settings

def valueUnder? (key : String) : Datum → Option Datum
  | .mapping entries => Datum.lookup? key entries
  | _ => none

def freezeValue? (key : String) (d : Datum) : Option Datum :=
  (valueUnder? "freeze" d).bind (valueUnder? key)

/-- What a value is taken for, or the standard if it cannot be taken for anything. -/
inductive Chosen {α : Type} (IsTakenFor : Datum → α → Prop) (standard : α) : Option Datum → α → Prop
  | given {d : Datum} {a : α} (h : IsTakenFor d a) : Chosen IsTakenFor standard (some d) a
  | standard {value : Option Datum} (h : ∀ d, value = some d → ∀ a, ¬ IsTakenFor d a) :
      Chosen IsTakenFor standard value standard

inductive IsWorkers : Datum → Option Nat → Prop
  | mk {n : Nat} (h : 0 < n) : IsWorkers (.int n) (some n)

inductive IsBackend : Datum → Backend → Prop
  | file : IsBackend (.text "file") .file
  | sqlite : IsBackend (.text "sqlite") .sqlite

inductive IsFlag : Datum → Bool → Prop
  | mk (b : Bool) : IsFlag (.bool b) b

/-- Each setting goes by the value under its own key. -/
structure Honors (d : Datum) (s : Settings) : Prop where
  workers : Chosen IsWorkers none (valueUnder? "workers" d) s.workers
  backend : Chosen IsBackend .file (freezeValue? "backend" d) s.freeze.backend
  allowsCreation :
    Chosen IsFlag true (freezeValue? "allow_store_creation" d) s.freeze.allowsCreation
  refreezes : Chosen IsFlag false (freezeValue? "refreeze" d) s.freeze.refreezes

def IsUsable (s : Settings) : Prop := ∀ n, s.workers = some n → 0 < n

/-! Values. -/

section
variable {α : Type} {IsTakenFor : Datum → α → Prop} {standard : α}

theorem Chosen.absent : Chosen IsTakenFor standard none standard :=
  .standard fun _ h => by contradiction

end

section
variable (entries : Entries) (key : String)

end

/-! Documents. -/

/-- What becomes of a settings file: settings that honor its document, the standard ones where there
is no document to honor, or one of two failures that nothing turns into settings. -/
inductive Loaded (found : Found) : Except Failure Settings → Prop
  | document {content text d s} (hfound : found = .file content)
      (htext : String.fromUTF8? content = some text) (hread : Yaml.read text = .ok d)
      (usable : s.IsUsable) (honors : Honors d s) : Loaded found (.ok s)
  | absent (h : ∀ content, found ≠ .file content) : Loaded found (.ok standard)
  | malformed {content text} (hfound : found = .file content)
      (htext : String.fromUTF8? content = some text) (hread : Yaml.read text = .error .malformed) :
      Loaded found (.ok standard)
  | undecodable {content} (hfound : found = .file content)
      (htext : String.fromUTF8? content = none) :
      Loaded found (.error (.document (.undecodable (Text.utf8Fault content))))
  | misspelled {content text fault} (hfound : found = .file content)
      (htext : String.fromUTF8? content = some text) (hread : Yaml.read text = .error fault)
      (hfault : fault ≠ .malformed) : Loaded found (.error (.document fault))

end Conformance.Settings
