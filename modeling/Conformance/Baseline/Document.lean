import Conformance.Baseline.Basic
import Conformance.Json.Reader
import Conformance.Json.Writer

/-! The text of a baseline file: the rule it belongs to, and the accepted violations in order. -/
namespace Conformance.Baseline.Entries

def document (rule : String) (e : Entries) : Datum :=
  .mapping [(.text "rule", .text rule),
    (.text "violations", .list (e.pairs.map fun p =>
      .mapping [(.text "item", .text p.1), (.text "message", .text p.2)]))]

def text (rule : String) (e : Entries) : String := Json.write (e.document rule) ++ "\n"

def readEntry (path : String) (d : Datum) : Except Fault Text.Pair :=
  match d with
  | .mapping entries =>
    match Datum.lookup? "item" entries, Datum.lookup? "message" entries with
    | some item, some message => .ok (item.plain, message.plain)
    | _, _ => .error (.malformedEntry path d.literal)
  | _ => .error (.malformedEntry path d.literal)

def ofDocument (rule path : String) (d : Datum) : Except Fault Entries :=
  match d with
  | .mapping entries =>
    match Datum.lookup? "rule" entries with
    | some (.text owner) =>
      if owner != rule then .error (.foreignFile rule path)
      else match Datum.lookup? "violations" entries with
        | some (.list items) => return ofPairs (← items.mapM (readEntry path))
        | _ => .error (.entriesNotAList path)
    | _ => .error (.foreignFile rule path)
  | _ => .error (.foreignFile rule path)

def ofContent (rule path : String) (content : ByteArray) : Except Fault Entries :=
  match (String.fromUTF8? content).bind Json.read? with
  | some d => ofDocument rule path d
  | none => .error (.cannotReadFile rule path)

end Conformance.Baseline.Entries
