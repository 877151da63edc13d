import Conformance.Json.Reader
import Conformance.Json.Writer
import Conformance.Text.Pair

/-! A database of two tables, one of frozen rules and one of their accepted violations, with the
statements that read and write it. Either table may be missing. -/
namespace Conformance.Baseline

structure Row where
  rule : String
  item : String
  message : String
  deriving DecidableEq, Repr, Inhabited

structure Tables where
  baselines : Option (List String)
  entries : Option (List Row)
  deriving DecidableEq, Repr, Inhabited

inductive Statement
  | deleteEntries (rule : String)
  | upsertBaseline (rule : String)
  | insertEntry (row : Row)
  deriving DecidableEq, Repr, Inhabited

namespace Tables

def empty : Tables := ⟨none, none⟩

def create (t : Tables) : Tables := ⟨some (t.baselines.getD []), some (t.entries.getD [])⟩

/-- Executes a statement. It fails on a missing table, and an entry is refused if it is there
already or if its rule is not. -/
def execute (t : Tables) : Statement → Option Tables
  | .deleteEntries rule => do
    let rows ← t.entries
    return { t with entries := some (rows.filter fun row => row.rule != rule) }
  | .upsertBaseline rule => do
    let rules ← t.baselines
    return { t with baselines := some (if rules.contains rule then rules else rules ++ [rule]) }
  | .insertEntry row => do
    let rows ← t.entries
    let rules ← t.baselines
    if rows.contains row || !rules.contains row.rule then none
    else return { t with entries := some (rows ++ [row]) }

/-- Executes statements in order. `trouble` counts the statements before the one that fails; after
the last of them it is the commit that fails. -/
def executeAll (trouble : Option Nat) (t : Tables) : List Statement → Option Tables
  | [] => if trouble == some 0 then none else some t
  | s :: rest =>
    if trouble == some 0 then none
    else do executeAll (trouble.map (· - 1)) (← t.execute s) rest

def replacement (rule : String) (pairs : List Text.Pair) : List Statement :=
  .deleteEntries rule :: .upsertBaseline rule ::
    pairs.map fun p => .insertEntry ⟨rule, p.1, p.2⟩

/-- The accepted violations of a rule, if it is frozen. Fails on a missing table that it needs. -/
def lookup (t : Tables) (rule : String) : Option (Option (List Text.Pair)) := do
  let rules ← t.baselines
  if rules.contains rule then
    let rows ← t.entries
    return some ((rows.filter fun row => row.rule == rule).map fun row => (row.item, row.message))
  else return none

def texts (items : List String) : Datum := .list (items.map Datum.text)

def document (t : Tables) : Datum :=
  let rows (rows : List Row) : Datum :=
    .list (rows.map fun row => texts [row.rule, row.item, row.message])
  .mapping [(.text "baselines", (t.baselines.map texts).getD .null),
    (.text "baseline_entries", (t.entries.map rows).getD .null)]

def readText : Datum → Option String
  | .text s => some s
  | _ => none

def readRow : Datum → Option Row
  | .list [.text rule, .text item, .text message] => some ⟨rule, item, message⟩
  | _ => none

def readTable? {α : Type} (readItem : Datum → Option α) : Option Datum → Option (Option (List α))
  | some .null => some none
  | some (.list items) => return some (← items.mapM readItem)
  | _ => none

def ofDocument? : Datum → Option Tables
  | .mapping entries => do
    let baselines ← readTable? readText (Datum.lookup? "baselines" entries)
    let rows ← readTable? readRow (Datum.lookup? "baseline_entries" entries)
    return ⟨baselines, rows⟩
  | _ => none

def content (t : Tables) : ByteArray := (Json.write t.document ++ "\n").toUTF8

/-- The tables that a file holds, if it is a database; an empty file is one without tables. -/
def ofContent? (content : ByteArray) : Option Tables :=
  if content.isEmpty then some empty
  else do ofDocument? (← Json.read? (← String.fromUTF8? content))

end Tables

end Conformance.Baseline
