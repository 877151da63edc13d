import Conformance.Baseline.Basic
import Conformance.Rule.Basic

/-! Freezing: violations that a rule's baseline accepts are not reported. The first run of a rule
records its violations; later ones leave the baseline as it is. -/
namespace Conformance

def Violation.signature (v : Violation) : Baseline.Signature := ⟨v.rule, v.item, v.message⟩

namespace Baseline

/-- `allowsCreation` lets the first run of a rule record a baseline, and `refreezes` makes every
run record one. -/
structure Freezer where
  allowsCreation : Bool
  refreezes : Bool
  deriving DecidableEq, Repr

namespace Freezer

instance : Inhabited Freezer := ⟨⟨true, false⟩⟩

variable {σ : Type} [Store σ]

def freeze (s : σ) (rule : String) (violations : List Violation) : Except Fault Unit × σ :=
  Store.store s rule (violations.map Violation.signature)

def record (s : σ) (rule : String) (violations : List Violation) :
    Except Fault (List Violation) × σ :=
  match freeze s rule violations with
  | (.ok (), s) => (.ok [], s)
  | (.error fault, s) => (.error fault, s)

/-- The violations that the baseline of a rule does not accept. -/
def apply (f : Freezer) (s : σ) (rule : String) (violations : List Violation) :
    Except Fault (List Violation) × σ :=
  if f.refreezes then record s rule violations
  else match Store.load s rule with
    | .error fault => (.error fault, s)
    | .ok none =>
      if f.allowsCreation then record s rule violations
      else (.error (.creationDisabled rule), s)
    | .ok (some entries) =>
      (.ok (violations.filter fun v => !entries.accepts rule v.signature), s)

end Freezer

end Baseline

end Conformance
