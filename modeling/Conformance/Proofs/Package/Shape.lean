import Conformance.Package.Pattern
import Mathlib.Data.List.Chain

/-! Package patterns as they are written: globs over one segment each, with dots and gaps between
them. Reading the text of such a pattern gives back its pieces, one glob after the other. -/
namespace Conformance.Package

structure Segment where
  chars : List Char
  nonempty : chars ≠ []
  plain : ∀ c ∈ chars, isSegmentChar c = true

def Segment.name (s : Segment) : String := String.ofList s.chars

def packageName (segments : List Segment) : String := ".".intercalate (segments.map Segment.name)

def Glob.text : Glob → List Char
  | .literal c => [c]
  | .segment false => ['*']
  | .segment true => ['(', '*', ')']
  | .segments false => ['*', '*']
  | .segments true => ['(', '*', '*', ')']

def Glob.isInside : Glob → Bool
  | .literal c => isSegmentChar c
  | .segment _ => true
  | .segments _ => false

/-- A pattern for one segment. Two bare stars side by side would read as a double star. -/
structure SegmentGlob where
  globs : List Glob
  nonempty : globs ≠ []
  inside : ∀ g ∈ globs, g.isInside = true
  apart : globs.IsChain fun g h => ¬(g = .segment false ∧ h = .segment false)

namespace SegmentGlob

def text (g : SegmentGlob) : List Char := g.globs.flatMap Glob.text

def pieces (g : SegmentGlob) : List Piece := g.globs.map .glob

end SegmentGlob

/-- What follows a glob: nothing, a last gap, or a further glob after a dot or after a gap. -/
inductive Rest
  | done
  | trailing
  | dot (g : SegmentGlob) (rest : Rest)
  | gap (g : SegmentGlob) (rest : Rest)

/-- A pattern as it is written: a gap alone, or globs with dots and gaps between them, with or
without a gap in front. -/
inductive Shape
  | anything
  | globs (leading : Bool) (first : SegmentGlob) (rest : Rest)

/-- What a pattern asks of the segments of a package, one step after the other. -/
inductive Step
  | one (g : SegmentGlob)
  | gap

namespace Rest

def text : Rest → List Char
  | done => []
  | trailing => ['.', '.']
  | dot g rest => '.' :: (g.text ++ rest.text)
  | gap g rest => '.' :: '.' :: (g.text ++ rest.text)

def steps : Rest → List Step
  | done => []
  | trailing => [.gap]
  | dot g rest => .one g :: rest.steps
  | gap g rest => .gap :: .one g :: rest.steps

def pieces : Rest → List Piece
  | done => []
  | trailing => [.trailingGap]
  | dot g rest => .glob (.literal '.') :: (g.pieces ++ rest.pieces)
  | gap g rest => .innerGap :: (g.pieces ++ rest.pieces)

end Rest

namespace Shape

def text : Shape → List Char
  | anything => ['.', '.']
  | globs leading first rest => (if leading then ['.', '.'] else []) ++ (first.text ++ rest.text)

def steps : Shape → List Step
  | anything => [.gap]
  | globs leading first rest => (if leading then [.gap] else []) ++ .one first :: rest.steps

def pieces : Shape → List Piece
  | anything => [.glob (.segments false)]
  | globs leading first rest =>
    (if leading then [.leadingGap] else []) ++ (first.pieces ++ rest.pieces)

def pattern (p : Shape) : Pattern := .ofString (String.ofList p.text)

end Shape

/-! Reading back what was written. -/

theorem isSegmentChar_dot : isSegmentChar '.' = false := by decide

theorem isSegmentChar_star : isSegmentChar '*' = false := by decide

theorem isSegmentChar_opening : isSegmentChar '(' = false := by decide

theorem ne_of_isSegmentChar {c d : Char} (hc : isSegmentChar c = true)
    (hd : isSegmentChar d = false) : c ≠ d := by
  rintro rfl
  simp [hc] at hd

theorem Glob.read_cons {c : Char} (hs : c ≠ '*') (ho : c ≠ '(') (s : List Char) :
    Glob.read (c :: s) = .literal c :: Glob.read s := by
  rw [Glob.read] <;> simp [hs, ho]

theorem Glob.read_star {s : List Char} (h : s.head? ≠ some '*') :
    Glob.read ('*' :: s) = .segment false :: Glob.read s := by
  rw [Glob.read]
  rintro rest rfl
  exact h rfl

theorem Glob.head?_text {g : Glob} (hg : g.isInside = true) (hs : g ≠ .segment false)
    (s : List Char) : (g.text ++ s).head? ≠ some '*' := by
  match g with
  | .literal c =>
    have hc : c ≠ '*' := ne_of_isSegmentChar hg isSegmentChar_star
    simpa [Glob.text] using hc
  | .segment true => simp [Glob.text]

theorem Glob.read_append {gs : List Glob} {s : List Char} (inside : ∀ g ∈ gs, g.isInside = true)
    (apart : gs.IsChain fun g h => ¬(g = .segment false ∧ h = .segment false))
    (hs : s.head? ≠ some '*') :
    Glob.read (gs.flatMap Glob.text ++ s) = gs ++ Glob.read s := by
  induction gs with
  | nil => rfl
  | cons g gs ih =>
    have hg : g.isInside = true := inside g (by simp)
    have ih := ih (fun h hh => inside h (by simp [hh])) apart.tail
    simp only [List.flatMap_cons, List.append_assoc, List.cons_append]
    match g with
    | .literal c =>
      have hstar : c ≠ '*' := ne_of_isSegmentChar hg isSegmentChar_star
      have hopen : c ≠ '(' := ne_of_isSegmentChar hg isSegmentChar_opening
      rw [Glob.text, List.singleton_append, Glob.read_cons hstar hopen, ih]
    | .segment true => simp [Glob.text, Glob.read, ih]
    | .segment false =>
      have hnext : (gs.flatMap Glob.text ++ s).head? ≠ some '*' := by
        cases gs with
        | nil => simpa using hs
        | cons h rest =>
          have hh : h ≠ .segment false := fun e => (List.isChain_cons_cons.1 apart).1 ⟨rfl, e⟩
          rw [List.flatMap_cons, List.append_assoc]
          exact Glob.head?_text (inside h (by simp)) hh _
      rw [Glob.text, List.singleton_append, Glob.read_star hnext, ih]

def onFirst (s : List Char) : List (List Char) → List (List Char)
  | [] => [s]
  | part :: parts => (s ++ part) :: parts

theorem splitDoubleDots_cons {c : Char} (hc : c ≠ '.') (s : List Char) :
    Text.splitDoubleDots (c :: s) = onFirst [c] (Text.splitDoubleDots s) := by
  rw [Text.splitDoubleDots]
  · cases Text.splitDoubleDots s <;> rfl
  · simp [hc]

theorem splitDoubleDots_dot {s : List Char} (hs : s.head? ≠ some '.') :
    Text.splitDoubleDots ('.' :: s) = onFirst ['.'] (Text.splitDoubleDots s) := by
  rw [Text.splitDoubleDots]
  · cases Text.splitDoubleDots s <;> rfl
  · rintro rest - rfl
    exact hs rfl

theorem splitDoubleDots_append {s : List Char} (hs : '.' ∉ s) (r : List Char) :
    Text.splitDoubleDots (s ++ r) = onFirst s (Text.splitDoubleDots r) := by
  induction s with
  | nil =>
    cases h : Text.splitDoubleDots r with
    | nil => exact absurd h (Text.splitDoubleDots_ne_nil r)
    | cons part parts => simp [onFirst, h]
  | cons c s ih =>
    obtain ⟨hc, hs⟩ : '.' ≠ c ∧ '.' ∉ s := by simpa using hs
    rw [List.cons_append, splitDoubleDots_cons hc.symm, ih hs]
    cases Text.splitDoubleDots r <;> rfl

namespace SegmentGlob

theorem dot_not_mem_text (g : SegmentGlob) : '.' ∉ g.text := by
  intro h
  obtain ⟨x, hx, hdot⟩ := List.mem_flatMap.1 h
  have inside := g.inside x hx
  match x with
  | .literal c =>
    have hc : c ≠ '.' := ne_of_isSegmentChar inside isSegmentChar_dot
    exact hc (List.mem_singleton.1 hdot).symm
  | .segment false => simp [Glob.text] at hdot
  | .segment true => simp [Glob.text] at hdot

theorem text_ne_nil (g : SegmentGlob) : g.text ≠ [] := by
  obtain ⟨x, gs, h⟩ := List.exists_cons_of_ne_nil g.nonempty
  have hx : x.text ≠ [] := by
    rcases x with c | captured | captured
    · simp [Glob.text]
    · cases captured <;> simp [Glob.text]
    · cases captured <;> simp [Glob.text]
  simp [text, h, hx]

theorem head?_text_append (g : SegmentGlob) (s : List Char) :
    (g.text ++ s).head? ≠ some '.' := by
  obtain ⟨c, cs, h⟩ := List.exists_cons_of_ne_nil g.text_ne_nil
  have hc : '.' ∉ c :: cs := h ▸ g.dot_not_mem_text
  rw [h]
  intro e
  exact hc (by simpa using .inl (Option.some.inj e).symm)

theorem read_text_append (g : SegmentGlob) {s : List Char} (hs : s.head? ≠ some '*') :
    (Glob.read (g.text ++ s)).map Piece.glob = g.pieces ++ (Glob.read s).map .glob := by
  rw [text, Glob.read_append g.inside g.apart hs, List.map_append, pieces]

theorem read_text (g : SegmentGlob) : (Glob.read g.text).map Piece.glob = g.pieces := by
  have h := g.read_text_append (s := []) (by simp)
  rwa [List.append_nil, Glob.read, List.map_nil, List.append_nil] at h

end SegmentGlob

theorem Piece.afterGap_congr {s t : List Char} (h : s.isEmpty = t.isEmpty)
    (parts : List (List Char)) : afterGap s parts = afterGap t parts := by
  cases parts with
  | nil => rfl
  | cons part parts => simp [afterGap, h]

/-! Parts between double dots, of which there may be several in a row. -/

def doubleDots : Nat → List Char
  | 0 => []
  | n + 1 => '.' :: '.' :: doubleDots n

def innerGaps : Nat → List Piece
  | 0 => [.innerGap]
  | again + 1 => List.replicate (again + 1) .trailingGap

theorem splitDoubleDots_doubleDots (n : Nat) (s : List Char) :
    Text.splitDoubleDots (doubleDots n ++ s)
      = List.replicate n [] ++ Text.splitDoubleDots s := by
  induction n with
  | zero => rfl
  | succ n ih =>
    rw [doubleDots, List.replicate_succ, List.cons_append, List.cons_append, Text.splitDoubleDots,
      ih, List.cons_append]

theorem Piece.afterGap_replicate (n : Nat) (s : List Char) (parts : List (List Char)) :
    afterGap s (List.replicate n [] ++ parts)
      = List.replicate n .trailingGap ++ afterGap (if n = 0 then s else []) parts := by
  induction n generalizing s with
  | zero => rfl
  | succ n ih =>
    rw [List.replicate_succ, List.cons_append, afterGap, ih, List.replicate_succ]
    simp

/-- How a text is read that begins inside a part: the globs of this part, and then what the parts
after it give. -/
def ReadsAs (s : List Char) (ps : List Piece) : Prop :=
  ∃ part parts, Text.splitDoubleDots s = part :: parts ∧ part ≠ [] ∧
    (Glob.read part).map .glob ++ Piece.afterGap part parts = ps

namespace SegmentGlob

variable (g : SegmentGlob) {s : List Char} {ps : List Piece}

theorem readsAs : ReadsAs g.text g.pieces := by
  have hsplit := splitDoubleDots_append g.dot_not_mem_text []
  rw [List.append_nil] at hsplit
  refine ⟨g.text, [], ?_, g.text_ne_nil, ?_⟩
  · rw [hsplit]
    simp [Text.splitDoubleDots, onFirst]
  · rw [g.read_text, Piece.afterGap, List.append_nil]

theorem readsAs_trailing (again : Nat) :
    ReadsAs (g.text ++ doubleDots (again + 1))
      (g.pieces ++ List.replicate (again + 1) .trailingGap) := by
  refine ⟨g.text, List.replicate (again + 1) [], ?_, g.text_ne_nil, ?_⟩
  · have hdots := splitDoubleDots_doubleDots again []
    rw [List.append_nil, Text.splitDoubleDots, ← List.replicate_succ'] at hdots
    rw [doubleDots, splitDoubleDots_append g.dot_not_mem_text, Text.splitDoubleDots, hdots, onFirst,
      List.append_nil]
  · have hgaps := Piece.afterGap_replicate (again + 1) g.text []
    rw [List.append_nil] at hgaps
    rw [hgaps, g.read_text, Piece.afterGap, List.append_nil]

theorem readsAs_dot (h : ReadsAs s ps) (hs : s.head? ≠ some '.') :
    ReadsAs (g.text ++ '.' :: s) (g.pieces ++ .glob (.literal '.') :: ps) := by
  obtain ⟨part, parts, hsplit, hne, hread⟩ := h
  refine ⟨g.text ++ '.' :: part, parts, ?_, by simp, ?_⟩
  · rw [splitDoubleDots_append g.dot_not_mem_text, splitDoubleDots_dot hs, hsplit]
    rfl
  · have hempty : (g.text ++ '.' :: part).isEmpty = part.isEmpty := by
      rw [List.isEmpty_eq_false_iff.2 hne, List.isEmpty_eq_false_iff]
      simp
    have hdot : Glob.read ('.' :: part) = .literal '.' :: Glob.read part :=
      Glob.read_cons (by decide) (by decide) part
    rw [Piece.afterGap_congr hempty, g.read_text_append (by simp), hdot, ← hread]
    simp

theorem readsAs_gap (h : ReadsAs s ps) (again : Nat) :
    ReadsAs (g.text ++ (doubleDots (again + 1) ++ s)) (g.pieces ++ (innerGaps again ++ ps)) := by
  obtain ⟨part, parts, hsplit, hne, hread⟩ := h
  refine ⟨g.text, List.replicate again [] ++ part :: parts, ?_, g.text_ne_nil, ?_⟩
  · rw [splitDoubleDots_append g.dot_not_mem_text, splitDoubleDots_doubleDots, hsplit,
      List.replicate_succ, List.cons_append, onFirst, List.append_nil]
  · rw [g.read_text, Piece.afterGap_replicate]
    cases again with
    | zero => simp [Piece.afterGap, innerGaps, g.text_ne_nil, hne, ← hread]
    | succ again => simp [Piece.afterGap, innerGaps, hne, ← hread]

end SegmentGlob

/-- A pattern is read from its first glob on, after a gap in front if there is one. -/
theorem ReadsAs.ofChars {g : SegmentGlob} {s : List Char} {ps : List Piece}
    (h : ReadsAs (g.text ++ s) ps) (leading : Option Nat) :
    Pattern.ofChars (leading.elim [] (fun again => doubleDots (again + 1)) ++ (g.text ++ s))
      = ⟨leading.elim [] (fun again => .leadingGap :: List.replicate again .trailingGap)
          ++ ps⟩ := by
  obtain ⟨part, parts, hsplit, hne, hread⟩ := h
  obtain ⟨c, cs, hc⟩ := List.exists_cons_of_ne_nil g.text_ne_nil
  have hdot : c ≠ '.' := by
    rintro rfl
    exact g.dot_not_mem_text (by simp [hc])
  rw [Pattern.ofChars, if_neg (by simp [hc, hdot])]
  cases leading with
  | none => simp [hsplit, hne, ← hread]
  | some again =>
    rw [Option.elim_some, splitDoubleDots_doubleDots, hsplit, List.replicate_succ, ← hread]
    simp [Piece.afterGap_replicate, Piece.afterGap, hne]

theorem Rest.readsAs (rest : Rest) (g : SegmentGlob) :
    ReadsAs (g.text ++ rest.text) (g.pieces ++ rest.pieces) := by
  induction rest generalizing g with
  | done => simpa [text, pieces] using g.readsAs
  | trailing => exact g.readsAs_trailing 0
  | dot h rest ih => exact g.readsAs_dot (ih h) (h.head?_text_append _)
  | gap h rest ih => exact g.readsAs_gap (ih h) 0

theorem Shape.pattern_eq (p : Shape) : p.pattern = ⟨p.pieces⟩ := by
  rw [pattern, Pattern.ofString, String.toList_ofList]
  match p with
  | .anything => rfl
  | .globs false first rest => exact (rest.readsAs first).ofChars none
  | .globs true first rest => exact (rest.readsAs first).ofChars (some 0)

end Conformance.Package
