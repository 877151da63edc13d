import Conformance.Json.Writer
import Conformance.Report.Basic

/-! Reports as documents, with the entries of every mapping in order of their keys. Time is left
out, so that repeated runs compare equal. -/
namespace Conformance

def Violation.document (v : Violation) : Datum :=
  .mapping [(.text "item", .text v.item), (.text "message", .text v.message)]

def Outcome.document (o : Outcome) : Datum :=
  .mapping [(.text "because", .text o.because), (.text "description", .text o.description),
    (.text "error", (o.error.map Datum.text).getD .null), (.text "frozen", .bool o.frozen),
    (.text "rule", .text o.rule), (.text "status", .text o.status.label),
    (.text "violations", .list (o.violations.map Violation.document))]

namespace Report

def summary (r : Report) : Datum :=
  .mapping [(.text "cancelled", .int (r.count .cancelled)), (.text "errored", .int (r.count .errored)),
    (.text "failed", .int (r.count .failed)), (.text "passed", .int (r.count .passed)),
    (.text "rules_evaluated", .int r.outcomes.length),
    (.text "violations_count", .int r.violations.length)]

def document (r : Report) : Datum :=
  .mapping [(.text "passed", .bool r.passed), (.text "rules", .list (r.outcomes.map Outcome.document)),
    (.text "summary", r.summary)]

def json (r : Report) : String := Json.write r.document

end Report

end Conformance
