/-! Cutting texts at separators. -/
namespace Conformance.Text

def splitLast? (sep : Char) : List Char → Option (List Char × List Char)
  | [] => none
  | c :: rest =>
    match splitLast? sep rest with
    | some (before, after) => some (c :: before, after)
    | none => if c == sep then some ([], rest) else none

/-- The pieces of a text between double dots, read from the left. -/
def splitDoubleDots : List Char → List (List Char)
  | '.' :: '.' :: rest => [] :: splitDoubleDots rest
  | c :: rest =>
    match splitDoubleDots rest with
    | piece :: pieces => (c :: piece) :: pieces
    | [] => [[c]]
  | [] => [[]]

def splitAtEach (sep : Char) : List Char → List (List Char)
  | [] => [[]]
  | c :: rest =>
    if c == sep then [] :: splitAtEach sep rest
    else match splitAtEach sep rest with
      | piece :: pieces => (c :: piece) :: pieces
      | [] => [[c]]

def afterPrefix? : List Char → List Char → Option (List Char)
  | [], s => some s
  | _ :: _, [] => none
  | p :: ps, c :: cs => if p == c then afterPrefix? ps cs else none

theorem splitLast?_eq_none_iff {sep : Char} {s : List Char} :
    splitLast? sep s = none ↔ sep ∉ s := by
  induction s with
  | nil => simp [splitLast?]
  | cons c rest ih =>
    simp only [splitLast?]
    cases h : splitLast? sep rest with
    | some p => simp_all
    | none =>
      have := ih.1 h
      by_cases hc : c = sep
      · simp [hc]
      · simp [hc, this, Ne.symm hc]

theorem splitDoubleDots_ne_nil (s : List Char) : splitDoubleDots s ≠ [] := by
  fun_cases splitDoubleDots s <;> simp_all

theorem splitAtEach_ne_nil (sep : Char) (s : List Char) : splitAtEach sep s ≠ [] := by
  fun_cases splitAtEach sep s <;> simp_all

theorem splitAtEach_of_notMem {sep : Char} {s : List Char} (h : sep ∉ s) :
    splitAtEach sep s = [s] := by
  induction s with
  | nil => rfl
  | cons c rest ih =>
    have hc : ¬ (c == sep) = true := fun heq => h (beq_iff_eq.1 heq ▸ List.mem_cons_self)
    rw [splitAtEach, if_neg hc, ih fun hmem => h (List.mem_cons_of_mem c hmem)]

theorem splitAtEach_append_cons (sep : Char) (before after : List Char) :
    splitAtEach sep (before ++ sep :: after) = splitAtEach sep before ++ splitAtEach sep after := by
  induction before with
  | nil => simp [splitAtEach]
  | cons c rest ih =>
    rw [List.cons_append, splitAtEach, splitAtEach, ih]
    split
    · rfl
    · cases h : splitAtEach sep rest with
      | nil => exact absurd h (splitAtEach_ne_nil sep rest)
      | cons piece pieces => rfl

end Conformance.Text
