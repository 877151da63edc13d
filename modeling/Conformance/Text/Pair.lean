/-! Pairs of texts in lexicographic order by code points, and increasing lists of them. -/
namespace Conformance.Text

abbrev Pair := String × String

def pairLt (a b : Pair) : Bool := a.1 < b.1 || (a.1 == b.1 && a.2 < b.2)

def placePair (x : Pair) : List Pair → List Pair
  | [] => [x]
  | y :: rest =>
    if pairLt x y then x :: y :: rest else if x = y then y :: rest else y :: placePair x rest

def sortPairs (pairs : List Pair) : List Pair := pairs.foldl (fun sorted p => placePair p sorted) []

theorem pairLt_iff {a b : Pair} :
    pairLt a b = true ↔ a.1 < b.1 ∨ a.1 = b.1 ∧ a.2 < b.2 := by
  simp [pairLt]

theorem pairLt_irrefl (a : Pair) : ¬ pairLt a a = true := fun h =>
  (pairLt_iff.1 h).elim (String.lt_irrefl _) fun h => String.lt_irrefl _ h.2

theorem pairLt_trans {a b c : Pair} (hab : pairLt a b = true) (hbc : pairLt b c = true) :
    pairLt a c = true := by
  rw [pairLt_iff] at *
  rcases hab with h | ⟨h, h'⟩ <;> rcases hbc with k | ⟨k, k'⟩
  · exact .inl (String.lt_trans h k)
  · exact .inl (k ▸ h)
  · exact .inl (h ▸ k)
  · exact .inr ⟨h.trans k, String.lt_trans h' k'⟩

theorem pairLt_of_not {a b : Pair} (h : ¬ pairLt a b = true) (hne : a ≠ b) : pairLt b a = true := by
  rw [pairLt_iff] at *
  by_cases h₁ : b.1 < a.1
  · exact .inl h₁
  · have e : a.1 = b.1 :=
      String.le_antisymm (String.not_lt.1 h₁) (String.not_lt.1 fun k => h (.inl k))
    refine .inr ⟨e.symm, ?_⟩
    by_cases h₂ : b.2 < a.2
    · exact h₂
    · exact absurd (Prod.ext e (String.le_antisymm (String.not_lt.1 h₂)
        (String.not_lt.1 fun k => h (.inr ⟨e, k⟩)))) hne

instance : Std.Irrefl fun a b : Pair => pairLt a b = true := ⟨pairLt_irrefl⟩

instance : Std.Antisymm fun a b : Pair => pairLt a b = true :=
  ⟨fun a _ hab hba => absurd (pairLt_trans hab hba) (pairLt_irrefl a)⟩

theorem mem_placePair {x a : Pair} {l : List Pair} : a ∈ placePair x l ↔ a = x ∨ a ∈ l := by
  induction l with
  | nil => simp [placePair]
  | cons y rest ih =>
    simp only [placePair]
    split
    · simp
    · split
      · next h => simp [h]
      · rw [List.mem_cons, ih, List.mem_cons]
        exact or_left_comm

theorem pairwise_placePair {x : Pair} {l : List Pair} (h : l.Pairwise (pairLt · · = true)) :
    (placePair x l).Pairwise (pairLt · · = true) := by
  induction l with
  | nil => simp [placePair]
  | cons y rest ih =>
    obtain ⟨hy, hrest⟩ := List.pairwise_cons.1 h
    simp only [placePair]
    split
    · next hx =>
      refine List.pairwise_cons.2 ⟨fun a ha => ?_, h⟩
      rcases List.mem_cons.1 ha with rfl | ha
      · exact hx
      · exact pairLt_trans hx (hy a ha)
    · next hx =>
      split
      · exact h
      · next hne =>
        refine List.pairwise_cons.2 ⟨fun a ha => ?_, ih hrest⟩
        rcases mem_placePair.1 ha with rfl | ha
        · exact pairLt_of_not hx hne
        · exact hy a ha

theorem pairwise_foldl_placePair {pairs l : List Pair} (h : l.Pairwise (pairLt · · = true)) :
    (pairs.foldl (fun sorted p => placePair p sorted) l).Pairwise (pairLt · · = true) := by
  induction pairs generalizing l with
  | nil => exact h
  | cons p rest ih => exact ih (pairwise_placePair h)

theorem mem_foldl_placePair {pairs l : List Pair} {a : Pair} :
    a ∈ pairs.foldl (fun sorted p => placePair p sorted) l ↔ a ∈ pairs ∨ a ∈ l := by
  induction pairs generalizing l with
  | nil => simp
  | cons p rest ih => rw [List.foldl_cons, ih, mem_placePair, List.mem_cons, or_left_comm, or_assoc]

theorem pairwise_sortPairs (pairs : List Pair) :
    (sortPairs pairs).Pairwise (pairLt · · = true) :=
  pairwise_foldl_placePair .nil

theorem mem_sortPairs {pairs : List Pair} {a : Pair} : a ∈ sortPairs pairs ↔ a ∈ pairs := by
  simp [sortPairs, mem_foldl_placePair]

end Conformance.Text
