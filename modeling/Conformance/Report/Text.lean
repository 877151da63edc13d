import Conformance.Number.Text
import Conformance.Report.Basic

/-! Reports as lines of text: a full form for people, and a terse one for programs. -/
namespace Conformance

open Number

/-- Milliseconds as seconds with one decimal. The quotient is rounded to a binary number first, and
that number goes to the nearer decimal, ties to even. -/
def secondsText (milliseconds : Binary64) : String :=
  match milliseconds.divNat 1000 with
  | .nan => "nans"
  | .infinite s => if s then "-infs" else "infs"
  | .finite s m e =>
    let (num, den) := Binary64.ratio m e
    let tenths := fixedDigits num den 1
    (if s then "-" else "") ++ toString (tenths / 10) ++ "." ++ toString (tenths % 10) ++ "s"

namespace Outcome

def lines (o : Outcome) : List String :=
  let heading := o.status.mark ++ " " ++ o.rule
  if o.status == .passed then [heading]
  else heading :: (if o.description == "" then [] else ["  " ++ o.description])
    ++ (o.error.map ("  error: " ++ ·)).toList
    ++ o.violations.map (fun v => s!"  {v.item} → {v.message}") ++ [""]

/-- The lines on a rule for programs: one for each violation, and one if there are none. -/
def porcelainLines (o : Outcome) : List String :=
  let heading := s!"{o.rule}:{o.status.label}:"
  if o.status == .passed then []
  else if o.violations.isEmpty then [heading ++ ":" ++ o.error.getD ""]
  else o.violations.map fun v => heading ++ s!"{v.item}:{v.message}"

end Outcome

namespace Report

def conclusion (r : Report) (milliseconds : Binary64) : String :=
  let elapsed := secondsText milliseconds
  let total := r.outcomes.length
  if r.passed then s!"✓ All {total} rules passed ({elapsed})"
  else s!"{r.failedRules.length} of {total} rules failed, {r.violations.length} violations ({elapsed})"

def rich (r : Report) (milliseconds : Binary64) : String :=
  "\n".intercalate (r.outcomes.flatMap Outcome.lines ++ [r.conclusion milliseconds])

def porcelain (r : Report) : String := "\n".intercalate (r.outcomes.flatMap Outcome.porcelainLines)

end Report

end Conformance
