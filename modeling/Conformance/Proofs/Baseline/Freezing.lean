import Conformance.Baseline.Freezer
import Conformance.Proofs.Baseline.Keeping

/-! What freezing does to a store in working order: it changes the baseline of one name at most,
and what it lets through are the violations that were not accepted before. -/
namespace Conformance.Baseline

def signaturesOf (violations : List Violation) : Finset Signature :=
  (violations.map Violation.signature).toFinset

/-- The baseline of a rule after violations were found; `before` is the one it had. -/
def frozen (refreezes : Bool) (before : Option (Finset Signature)) (violations : List Violation) :
    Finset Signature :=
  match refreezes, before with
  | false, some accepted => accepted
  | _, _ => signaturesOf violations

/-- The violations that are left after freezing; `before` is the baseline there was. -/
def remaining (refreezes : Bool) (before : Option (Finset Signature))
    (violations : List Violation) : List Violation :=
  match refreezes, before with
  | false, some accepted => violations.filter fun v => v.signature ∉ accepted
  | _, _ => []

namespace Keeping

variable {σ : Type} [Store σ] {names : Set String} (k : Keeping σ names)

/-- Whether a store is ready, accepts some signatures under one name, and keeps what another store
has under the other names. -/
structure Changes (n : String) (accepted : Option (Finset Signature)) (s t : σ) : Prop where
  ready : k.Ready t
  own : k.baseline t n = accepted
  others : ∀ m ∈ names, m ≠ n → k.kept t m = k.kept s m

variable {k}

theorem changes_self {s : σ} (h : k.Ready s) (n : String) : k.Changes n (k.baseline s n) s s :=
  ⟨h, rfl, fun _ _ _ => rfl⟩

theorem record_eq {s : σ} (hs : k.Ready s) {n : String} (hn : n ∈ names)
    {violations : List Violation} (hrule : ∀ v ∈ violations, v.rule = n) :
    ∃ t, Freezer.record s n violations = (.ok [], t) ∧
      k.Changes n (some (signaturesOf violations)) s t := by
  have hall : ∀ x ∈ violations.map Violation.signature, x.rule = n := by
    intro x hx
    obtain ⟨v, hv, rfl⟩ := List.mem_map.1 hx
    exact hrule v hv
  obtain ⟨t, hstore, ht, hkept⟩ := k.store_eq_ok hs hn (Entries.ofSignatures_eq_ok hall)
  refine ⟨t, ?_, ht, ?_, fun m hm hne => ?_⟩
  · rw [Freezer.record, Freezer.freeze, hstore]
  · rw [baseline, hkept n hn, if_pos rfl]
    exact congrArg some (Entries.signatureSet_ofPairs hall)
  · rw [hkept m hm, if_neg hne]

theorem apply_eq {s : σ} (hs : k.Ready s) {n : String} (hn : n ∈ names)
    {violations : List Violation} (hrule : ∀ v ∈ violations, v.rule = n) (refreezes : Bool) :
    ∃ t, Freezer.apply ⟨true, refreezes⟩ s n violations
        = (.ok (remaining refreezes (k.baseline s n) violations), t) ∧
      k.Changes n (some (frozen refreezes (k.baseline s n) violations)) s t := by
  obtain ⟨t, hrecord, hchanges⟩ := record_eq hs hn hrule
  cases refreezes with
  | true =>
    refine ⟨t, ?_, hchanges⟩
    rw [Freezer.apply, if_pos rfl, hrecord]
    rfl
  | false =>
    cases hkept : k.kept s n with
    | none =>
      have hbefore : k.baseline s n = none := by rw [baseline, hkept]; rfl
      refine ⟨t, ?_, hbefore ▸ hchanges⟩
      rw [Freezer.apply, k.load_eq hs hn, hkept, hbefore]
      exact hrecord
    | some e =>
      have hbefore : k.baseline s n = some (e.signatureSet n) := by rw [baseline, hkept]; rfl
      have hfilter : violations.filter (fun v => !e.accepts n v.signature)
          = violations.filter fun v => v.signature ∉ e.signatureSet n := by
        apply List.filter_congr
        intro v _
        rw [Bool.eq_iff_iff]
        simp [← Entries.accepts_iff]
      refine ⟨s, ?_, hbefore ▸ changes_self hs n⟩
      rw [Freezer.apply, k.load_eq hs hn, hkept, hbefore]
      exact congrArg (fun found => (Except.ok found, s)) hfilter

end Keeping

end Conformance.Baseline
