import Conformance.Number.Text
import Conformance.Proofs.Text.Lines

/-! Numbers as text stand in one line. -/
namespace Conformance

open Text

namespace Number

theorem oneLine_toString (n : Int) : OneLine (toString n) := by
  have hrepr : ∀ k : Nat, OneLine k.repr := by
    intro k
    rw [Nat.repr_eq_ofList_toDigits, oneLine_ofList]
    exact unbroken_decimal k
  rw [Int.toString_eq_repr, Int.repr_eq_if]
  split
  · exact hrepr _
  · exact oneLine_append.2 ⟨by decide, hrepr _⟩

theorem unbroken_exponentText (e : Int) : Unbroken (exponentText e) := by
  have hsign : (if e < 0 then '-' else '+') ≠ '\n' := by split <;> decide
  simp [exponentText, digitsText, hsign, unbroken_replicate, unbroken_decimal]

theorem unbroken_positional {digits : List Char} (h : Unbroken digits) (point : Int) :
    Unbroken (positional digits point).1 ∧ Unbroken (positional digits point).2 := by
  unfold positional
  split
  · simp [h, unbroken_replicate]
  · simp [h.take, h.drop, unbroken_replicate]

theorem unbroken_shortestText (mantissa : Nat) (exponent : Int) :
    Unbroken (shortestText mantissa exponent) := by
  have hdigits : Unbroken (digitsText 10 (shortest mantissa exponent).1) :=
    unbroken_decimal _
  unfold shortestText
  refine iteInduction (fun _ => ?_) fun _ => ?_
  · obtain ⟨hwhole, hfraction⟩ := unbroken_positional hdigits
      ((digitsText 10 (shortest mantissa exponent).1).length + (shortest mantissa exponent).2)
    simp only [unbroken_append, unbroken_cons]
    exact ⟨hwhole, by decide, iteInduction (fun _ => by simp) fun _ => hfraction⟩
  · simp only [unbroken_append, unbroken_cons]
    refine ⟨⟨hdigits.take 1, ?_⟩, by decide, unbroken_exponentText _⟩
    refine iteInduction (fun _ => unbroken_nil) fun _ => ?_
    exact unbroken_cons.2 ⟨by decide, hdigits.drop 1⟩

end Number

end Conformance
