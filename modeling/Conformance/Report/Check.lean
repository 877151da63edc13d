import Conformance.Baseline.Freezer
import Conformance.Report.Basic
import Conformance.Rule.Evaluation

/-! Checking a rule set against a fact graph. Nothing is evaluated unless the whole set is valid;
then every rule has an outcome of its own, whatever becomes of the others. -/
namespace Conformance

open Facts Baseline

namespace Rule

variable {σ : Type} [Store σ]

def freezer? (r : Rule) (freezer : Option Freezer) : Option Freezer :=
  if r.freeze then freezer else none

def cancelled (r : Rule) (freezer : Option Freezer) : Outcome :=
  ⟨r.name, .cancelled, [], none, r.description, r.because, (r.freezer? freezer).isSome⟩

def findings (g : Graph) (freezer : Option Freezer) (s : σ) (r : Rule) :
    Except Failure (List Violation) × σ :=
  match r.evaluate g with
  | .error failure => (.error failure, s)
  | .ok violations =>
    match r.freezer? freezer with
    | none => (.ok violations, s)
    | some f =>
      match f.apply s r.name violations with
      | (.ok remaining, s) => (.ok remaining, s)
      | (.error fault, s) => (.error (.baseline fault), s)

def outcome (r : Rule) (freezer : Option Freezer) : Except Failure (List Violation) → Outcome
  | .ok [] => { r.cancelled freezer with status := .passed }
  | .ok violations => { r.cancelled freezer with status := .failed, violations }
  | .error failure => { r.cancelled freezer with status := .errored, error := some failure.reportText }

def run (g : Graph) (freezer : Option Freezer) (s : σ) (r : Rule) : Outcome × σ :=
  let (result, s) := r.findings g freezer s
  (r.outcome freezer result, s)

end Rule

namespace Report

variable {σ : Type} [Store σ]

/-- Runs rules in order. Before each of them it is asked whether the run was cancelled, and the
question is the `asked`-th. -/
def runAll (g : Graph) (freezer : Option Freezer) (isCancelled : Nat → Bool) (asked : Nat) (s : σ) :
    List Rule → List Outcome × σ
  | [] => ([], s)
  | r :: rest =>
    let (first, s) := if isCancelled asked then (r.cancelled freezer, s) else r.run g freezer s
    let (others, s) := runAll g freezer isCancelled (asked + 1) s rest
    (first :: others, s)

/-- The report on a rule set, and the store after it. -/
def check (g : Graph) (rules : List Rule) (freezer : Option Freezer) (isCancelled : Nat → Bool)
    (s : σ) : Except RuleFault Report × σ :=
  match Rule.checkAll rules with
  | .error fault => (.error fault, s)
  | .ok () =>
    let (outcomes, s) := runAll g freezer isCancelled 0 s rules
    (.ok ⟨outcomes⟩, s)

end Report

end Conformance
