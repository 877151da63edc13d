import Conformance.Proofs.Baseline.Steady

/-! Freezing again. Over a steady store violations that are frozen a second time come to what they
came to the first time, and the slot stays as it was left; so it is also where other violations were
frozen in between, be it under a name of the same address. -/
namespace Conformance.Baseline

theorem exists_ofSignatures {n : String} {violations : List Violation}
    (h : ∀ v ∈ violations, v.rule = n) :
    ∃ e, Entries.ofSignatures n (violations.map Violation.signature) = .ok e := by
  refine ⟨_, Entries.ofSignatures_eq_ok fun x hx => ?_⟩
  obtain ⟨v, hv, rfl⟩ := List.mem_map.1 hx
  exact h v hv

section
variable {σ : Type} [Store σ]

theorem Freezer.apply_of_recorded {f : Freezer} (hrefreezes : f.refreezes = false) {s : σ}
    {n : String} {violations : List Violation} {e : Entries}
    (he : Entries.ofSignatures n (violations.map Violation.signature) = .ok e)
    (hload : Store.load s n = .ok (some e)) : f.apply s n violations = (.ok [], s) := by
  have hnone : violations.filter (fun v => !e.accepts n v.signature) = [] := by
    rw [List.filter_eq_nil_iff]
    intro v hv
    rw [Entries.accepts_of_ofSignatures he _ (List.mem_map_of_mem hv)]
    simp
  rw [apply, if_neg (by simp [hrefreezes]), hload]
  simp only [hnone]

variable {names : Set String} {k : Slots σ names}

/-- Whether freezing the violations once more would give the result and leave the slot so, which it
is already unless the freezer refreezes. -/
structure Slots.Answers (k : Slots σ names) (f : Freezer) (n : String) (violations : List Violation)
    (result : Except Fault (List Violation)) (left : k.Slot) (s : σ) : Prop where
  result : (f.apply s n violations).1 = result
  slot : k.slot (f.apply s n violations).2 n = left
  settled : f.refreezes = false → k.slot s n = left

theorem Slots.Answers.of_slot {f : Freezer} {n : String} {violations : List Violation}
    {result : Except Fault (List Violation)} {left : k.Slot} {s t : σ}
    (h : k.Answers f n violations result left s) (hslot : k.slot t n = k.slot s n) :
    k.Answers f n violations result left t := by
  obtain ⟨hresult, hagain⟩ := k.apply_congr f hslot violations
  exact ⟨hresult.trans h.result, hagain.trans h.slot, fun hnot => hslot.trans (h.settled hnot)⟩

namespace Slots.Steady

variable {address : String → String} (hk : k.Steady address) (f : Freezer) {s : σ} {m n : String}
  {x y : List Violation} (hx : ∀ v ∈ x, v.rule = m) (hy : ∀ v ∈ y, v.rule = n)

include hk hy

theorem apply_other (hne : address m ≠ address n) : k.slot (f.apply s n y).2 m = k.slot s m := by
  obtain ⟨e, he⟩ := exists_ofSignatures hy
  by_cases hrecords : f.Records s n
  · rw [Freezer.apply_of_records hrecords, Freezer.record_eq]
    exact hk.slot_other s hne he
  · rw [Freezer.apply_of_not_records hrecords]

theorem apply_apply_of_refreezes (hrefreezes : f.refreezes = true) (s : σ)
    (hx : ∀ v ∈ x, v.rule = m) (haddress : address m = address n) (hsame : m = n → x = y) :
    (f.apply (f.apply s m x).2 n y).1 = (f.apply s n y).1 ∧
      k.slot (f.apply (f.apply s m x).2 n y).2 n = k.slot (f.apply s n y).2 n := by
  obtain ⟨e, he⟩ := exists_ofSignatures hx
  obtain ⟨e', he'⟩ := exists_ofSignatures hy
  obtain ⟨hresult, hslot⟩ := hk.store_store s haddress
    (fun hname => congrArg (List.map Violation.signature) (hsame hname)) he he'
  simp only [Freezer.apply_of_records (.inl hrefreezes), Freezer.record_eq, hresult, hslot, and_self]

theorem apply_again : (f.apply (f.apply s n y).2 n y).1 = (f.apply s n y).1 ∧
    k.slot (f.apply (f.apply s n y).2 n y).2 n = k.slot (f.apply s n y).2 n := by
  by_cases hrecords : f.Records s n
  · cases hrefreezes : f.refreezes with
    | true => exact hk.apply_apply_of_refreezes f hy hrefreezes s hy rfl fun _ => rfl
    | false =>
      obtain ⟨e, he⟩ := exists_ofSignatures hy
      have hnone := (hrecords.resolve_left (by simp [hrefreezes])).2
      have hfirst := Freezer.apply_of_records hrecords y
      rw [Freezer.record_eq] at hfirst
      by_cases hstored : (Store.store s n (y.map Violation.signature)).1 = .ok ()
      · have hload := hk.load_of_stored he hstored hnone
        rw [hfirst, Freezer.apply_of_recorded hrefreezes he hload, hstored]
        exact ⟨rfl, rfl⟩
      · have hslot := hk.slot_of_failed he hstored
        have hsame : k.slot (f.apply s n y).2 n = k.slot s n := by rw [hfirst, hslot]
        exact k.apply_congr f hsame y
  · rw [Freezer.apply_of_not_records hrecords]
    exact ⟨rfl, by rw [Freezer.apply_of_not_records hrecords]⟩

theorem answers_apply (s : σ) : k.Answers f n y (f.apply s n y).1
    (k.slot (f.apply s n y).2 n) (f.apply s n y).2 :=
  ⟨(hk.apply_again f hy).1, (hk.apply_again f hy).2, fun _ => rfl⟩

include hx

/-- Under a freezer that does not refreeze, a slot that freezing leaves alone is left alone by the
other names of its address, too. -/
theorem slot_apply_of_settled (hrefreezes : f.refreezes = false) (haddress : address m = address n)
    (hsame : m = n → x = y) (hsettled : k.slot (f.apply s n y).2 n = k.slot s n) :
    k.slot (f.apply s m x).2 n = k.slot s n := by
  by_cases hname : m = n
  · rw [hname, hsame hname, hsettled]
  by_cases hrecords : f.Records s m
  · obtain ⟨hallows, hnone⟩ := hrecords.resolve_left (by simp [hrefreezes])
    obtain ⟨e, he⟩ := exists_ofSignatures hx
    obtain ⟨e', he'⟩ := exists_ofSignatures hy
    have hvacant := hk.load_eq_none haddress hnone
    have hfailed : (Store.store s m (x.map Violation.signature)).1 ≠ .ok () := by
      intro hstored
      have hother := hk.stored_of_stored haddress hname he he' hstored
      have hload := hk.load_of_stored he' hother hvacant
      rw [Freezer.apply_of_records (.inr ⟨hallows, hvacant⟩), Freezer.record_eq] at hsettled
      rw [k.load_congr hsettled, hvacant] at hload
      exact absurd (Except.ok.inj hload) (by simp)
    rw [Freezer.apply_of_records hrecords, Freezer.record_eq, ← hk.slot_eq _ haddress,
      ← hk.slot_eq s haddress]
    exact hk.slot_of_failed he hfailed
  · rw [Freezer.apply_of_not_records hrecords]

theorem answers_after {result : Except Fault (List Violation)} {left : k.Slot}
    (h : k.Answers f n y result left s) (hsame : m = n → x = y) :
    k.Answers f n y result left (f.apply s m x).2 := by
  by_cases haddress : address m = address n
  · cases hrefreezes : f.refreezes with
    | true =>
      obtain ⟨hresult, hslot⟩ :=
        hk.apply_apply_of_refreezes f hy hrefreezes s hx haddress hsame
      exact ⟨hresult.trans h.result, hslot.trans h.slot,
        fun hnot => absurd (hrefreezes.symm.trans hnot) (by simp)⟩
    | false =>
      have hsettled := h.slot.trans (h.settled hrefreezes).symm
      exact h.of_slot (hk.slot_apply_of_settled f hx hy hrefreezes haddress hsame hsettled)
  · exact h.of_slot (hk.apply_other f hx (Ne.symm haddress))

end Slots.Steady

end

end Conformance.Baseline
