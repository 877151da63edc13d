import Conformance.Proofs.Package.Alignment

/-! Double dots written several times in a row. In front of a pattern and at its end they stand for
what one of them stands for. Between two globs they do not: the dot in front of the second glob gets
lost there, so that both globs can lie in one segment. -/
namespace Conformance.Package

/-- What follows a glob, where every gap is written once and `again` times more. -/
inductive RepeatedRest
  | done
  | trailing (again : Nat)
  | dot (g : SegmentGlob) (rest : RepeatedRest)
  | gap (again : Nat) (g : SegmentGlob) (rest : RepeatedRest)

/-- A pattern whose gaps are written several times. -/
inductive RepeatedShape
  | anything (again : Nat)
  | globs (leading : Option Nat) (first : SegmentGlob) (rest : RepeatedRest)

namespace RepeatedRest

def text : RepeatedRest → List Char
  | done => []
  | trailing again => doubleDots (again + 1)
  | dot g rest => '.' :: (g.text ++ rest.text)
  | gap again g rest => doubleDots (again + 1) ++ (g.text ++ rest.text)

def once : RepeatedRest → Rest
  | done => .done
  | trailing _ => .trailing
  | dot g rest => .dot g rest.once
  | gap _ g rest => .gap g rest.once

def pieces : RepeatedRest → List Piece
  | done => []
  | trailing again => List.replicate (again + 1) .trailingGap
  | dot g rest => .glob (.literal '.') :: (g.pieces ++ rest.pieces)
  | gap again g rest => innerGaps again ++ (g.pieces ++ rest.pieces)

/-- How many gaps between two globs are written more than once. -/
def innerRepeats : RepeatedRest → Nat
  | done | trailing _ => 0
  | dot _ rest => rest.innerRepeats
  | gap again _ rest => (if again = 0 then 0 else 1) + rest.innerRepeats

end RepeatedRest

namespace RepeatedShape

def text : RepeatedShape → List Char
  | anything again => doubleDots (again + 1)
  | globs leading first rest =>
    leading.elim [] (fun again => doubleDots (again + 1)) ++ (first.text ++ rest.text)

def once : RepeatedShape → Shape
  | anything _ => .anything
  | globs leading first rest => .globs leading.isSome first rest.once

def pieces : RepeatedShape → List Piece
  | anything _ => [.glob (.segments false)]
  | globs leading first rest =>
    leading.elim [] (fun again => .leadingGap :: List.replicate again .trailingGap)
      ++ (first.pieces ++ rest.pieces)

def innerRepeats : RepeatedShape → Nat
  | anything _ => 0
  | globs _ _ rest => rest.innerRepeats

def pattern (p : RepeatedShape) : Pattern := .ofString (String.ofList p.text)

end RepeatedShape

/-! Reading back what was written. -/

theorem RepeatedRest.readsAs (rest : RepeatedRest) (g : SegmentGlob) :
    ReadsAs (g.text ++ rest.text) (g.pieces ++ rest.pieces) := by
  induction rest generalizing g with
  | done => simpa [text, pieces] using g.readsAs
  | trailing again => exact g.readsAs_trailing again
  | dot h rest ih => exact g.readsAs_dot (ih h) (h.head?_text_append _)
  | gap again h rest ih => exact g.readsAs_gap (ih h) again

theorem all_doubleDots (n : Nat) : (doubleDots n).all (· == '.') = true := by
  induction n with
  | zero => rfl
  | succ n ih => simp [doubleDots, ih]

theorem RepeatedShape.pattern_eq (p : RepeatedShape) : p.pattern = ⟨p.pieces⟩ := by
  rw [pattern, Pattern.ofString, String.toList_ofList]
  cases p with
  | anything again => rw [text, Pattern.ofChars, if_pos (all_doubleDots _), pieces]
  | globs leading first rest => exact (rest.readsAs first).ofChars leading

/-! Gaps that are repeated at the ends. -/

section
variable {α : Type} {P : List Char → Prop}

theorem greedy_congr (hP : ∀ c s, P (c :: s) → P s) {ok : Char → Bool}
    {next next' : List Char → Option α} (h : ∀ s, P s → next s = next' s) {s : List Char}
    (hs : P s) : greedy ok next s = greedy ok next' s := by
  induction s with
  | nil => exact h [] hs
  | cons c s ih => rw [greedy, greedy, ih (hP c s hs), h (c :: s) hs]

theorem expect_congr (hP : ∀ c s, P (c :: s) → P s) {next next' : List Char → Option α}
    (h : ∀ s, P s → next s = next' s) (c : Char) {s : List Char} (hs : P s) :
    expect c next s = expect c next' s := by
  cases s with
  | nil => rfl
  | cons d s => rw [expect, expect, h s (hP d s hs)]

theorem firstFit_append_congr (hP : ∀ c s, P (c :: s) → P s) {ps qs : List Piece}
    (h : ∀ s, P s → firstFit ps s = firstFit qs s) (front : List Piece) {s : List Char} (hs : P s) :
    firstFit (front ++ ps) s = firstFit (front ++ qs) s := by
  induction front generalizing s with
  | nil => exact h s hs
  | cons p front ih =>
    have hcapture : ∀ (captured : Bool) (whole s : List Char), P s →
        capture captured whole (firstFit (front ++ ps)) s
          = capture captured whole (firstFit (front ++ qs)) s := by
      intro captured whole s hs
      rw [capture, capture, ih hs]
    have hexpect : ∀ s, P s →
        expect '.' (firstFit (front ++ ps)) s = expect '.' (firstFit (front ++ qs)) s :=
      fun s hs => expect_congr hP (fun s hs => ih hs) '.' hs
    simp only [List.cons_append]
    cases p with
    | glob gl =>
      cases gl with
      | literal c =>
        simp only [firstFit]
        exact expect_congr hP (fun s hs => ih hs) c hs
      | segment captured =>
        cases s with
        | nil => rfl
        | cons c s =>
          simp only [firstFit]
          rw [greedy_congr hP (hcapture captured (c :: s)) (hP c s hs)]
      | segments captured =>
        simp only [firstFit]
        exact greedy_congr hP (hcapture captured s) hs
    | leadingGap =>
      simp only [firstFit, orElse_eq_or]
      rw [greedy_congr hP hexpect hs, ih hs]
    | innerGap =>
      simp only [firstFit, orElse_eq_or]
      rw [expect_congr hP (fun s hs => greedy_congr hP hexpect hs) '.' hs, hexpect s hs]
    | trailingGap =>
      simp only [firstFit, orElse_eq_or]
      rw [expect_congr hP (fun s hs => greedy_congr hP (fun s hs => ih hs) hs) '.' hs, ih hs]

end

theorem firstFit_trailingGap (ps : List Piece) (s : List Char) :
    firstFit (.trailingGap :: ps) s
      = (expect '.' (greedy isPathChar (firstFit ps)) s).or (firstFit ps s) := by
  rw [firstFit, orElse_eq_or]

theorem firstFit_trailingGaps_of_head? {s : List Char} (hs : s.head? ≠ some '.') (n : Nat)
    (ps : List Piece) : firstFit (List.replicate n .trailingGap ++ ps) s = firstFit ps s := by
  have hexpect : ∀ next : List Char → Option (List (List Char)), expect '.' next s = none := by
    intro next
    cases s with
    | nil => rfl
    | cons c s =>
      have hc : c ≠ '.' := by simpa using hs
      simp [expect, hc]
  induction n with
  | zero => rfl
  | succ n ih =>
    rw [List.replicate_succ, List.cons_append, firstFit_trailingGap, hexpect, ih, Option.none_or]

def IsPath (s : List Char) : Prop := ∀ c ∈ s, isPathChar c = true

theorem IsPath.tail (c : Char) (s : List Char) (h : IsPath (c :: s)) : IsPath s :=
  fun d hd => h d (List.mem_cons_of_mem c hd)

theorem firstFit_trailingGaps (n : Nat) {s : List Char} (hs : IsPath s) :
    firstFit (List.replicate (n + 1) .trailingGap) s = firstFit [.trailingGap] s := by
  have hnothing : ∀ m, firstFit (List.replicate m .trailingGap) [] = some [] := by
    intro m
    have hdrop := firstFit_trailingGaps_of_head? (s := []) (by simp) m []
    rwa [List.append_nil] at hdrop
  cases s with
  | nil => rw [hnothing (n + 1)]; rfl
  | cons c s =>
    by_cases hc : c = '.'
    · have hall : ∀ m, firstFit (List.replicate (m + 1) .trailingGap) (c :: s) = some [] := by
        intro m
        rw [List.replicate_succ, firstFit_trailingGap, expect, if_pos (by simpa using hc),
          greedy_eq_of_nil (hnothing m) (hs.tail c s)]
        rfl
      rw [hall n, ← hall 0]
      rfl
    · have hhead : (c :: s).head? ≠ some '.' := by simpa using hc
      have hnone : ∀ m, firstFit (List.replicate m .trailingGap) (c :: s) = none := by
        intro m
        have hdrop := firstFit_trailingGaps_of_head? hhead m []
        rwa [List.append_nil] at hdrop
      rw [hnone (n + 1), ← hnone 1]
      rfl

def DotsApart (s : List Char) : Prop := s.IsChain fun c d => ¬(c = '.' ∧ d = '.')

theorem DotsApart.append {s t : List Char} (hs : ∀ c ∈ s, isSegmentChar c = true)
    (ht : DotsApart t) : DotsApart (s ++ t) := by
  induction s with
  | nil => exact ht
  | cons c s ih =>
    have hc : c ≠ '.' := ne_of_isSegmentChar (hs c (by simp)) isSegmentChar_dot
    refine List.isChain_cons.2 ⟨fun d _ hdots => hc hdots.1, ih fun d hd => hs d (by simp [hd])⟩

theorem Segment.head?_append_ne_dot (s : Segment) (t : List Char) :
    (s.chars ++ t).head? ≠ some '.' := by
  obtain ⟨c, cs, h⟩ := List.exists_cons_of_ne_nil s.nonempty
  have hc : c ≠ '.' := ne_of_isSegmentChar (s.plain c (by simp [h])) isSegmentChar_dot
  simpa [h] using hc

theorem dotsApart_afterDots (segments : List Segment) : DotsApart (afterDots segments) := by
  induction segments with
  | nil => exact .nil
  | cons s rest ih =>
    refine List.isChain_cons.2 ⟨fun c hc hdots => ?_, ih.append s.plain⟩
    exact s.head?_append_ne_dot (afterDots rest) (hdots.2 ▸ hc)

theorem dotsApart_packageName (segments : List Segment) :
    DotsApart (packageName segments).toList ∧ (packageName segments).toList.head? ≠ some '.' := by
  cases segments with
  | nil => exact ⟨.nil, by simp [packageName]⟩
  | cons s rest =>
    rw [toList_packageName_cons]
    exact ⟨(dotsApart_afterDots rest).append s.plain, s.head?_append_ne_dot _⟩

/-- In front of a pattern the first of some gaps takes a dot with all before it, and no dot follows
for the others. -/
theorem firstFit_leadingGap {s : List Char} (hs : DotsApart s) (hhead : s.head? ≠ some '.')
    (n : Nat) (ps : List Piece) :
    firstFit (.leadingGap :: (List.replicate n .trailingGap ++ ps)) s
      = firstFit (.leadingGap :: ps) s := by
  have hexpect : ∀ t, DotsApart t →
      expect '.' (firstFit (List.replicate n .trailingGap ++ ps)) t
        = expect '.' (firstFit ps) t := by
    intro t ht
    cases t with
    | nil => rfl
    | cons c t =>
      by_cases hc : c = '.'
      · have hnext : t.head? ≠ some '.' := fun h => (List.isChain_cons.1 ht).1 '.' h ⟨hc, rfl⟩
        rw [expect, expect, firstFit_trailingGaps_of_head? hnext]
      · simp [expect, hc]
  simp only [firstFit, orElse_eq_or]
  rw [greedy_congr (fun c t => List.IsChain.tail) hexpect hs,
    firstFit_trailingGaps_of_head? hhead]

theorem RepeatedRest.firstFit_once {rest : RepeatedRest} (h : rest.innerRepeats = 0)
    {s : List Char} (hs : IsPath s) : firstFit rest.pieces s = firstFit rest.once.pieces s := by
  induction rest generalizing s with
  | done => rfl
  | trailing again => exact firstFit_trailingGaps again hs
  | dot g rest ih =>
    exact firstFit_append_congr IsPath.tail (fun s hs => ih h hs)
      (.glob (.literal '.') :: g.pieces) hs
  | gap again g rest ih =>
    obtain ⟨hagain, hrest⟩ : again = 0 ∧ rest.innerRepeats = 0 := by
      simpa [innerRepeats] using h
    subst hagain
    exact firstFit_append_congr IsPath.tail (fun s hs => ih hrest hs) (.innerGap :: g.pieces) hs

theorem RepeatedShape.firstFit_once {p : RepeatedShape} (h : p.innerRepeats = 0)
    (segments : List Segment) :
    firstFit p.pieces (packageName segments).toList
      = firstFit p.once.pieces (packageName segments).toList := by
  cases p with
  | anything again => rfl
  | globs leading first rest =>
    have hpath : IsPath (packageName segments).toList := all_isPathChar_packageName segments
    have hrest : ∀ s, IsPath s → firstFit rest.pieces s = firstFit rest.once.pieces s :=
      fun s hs => rest.firstFit_once h hs
    cases leading with
    | none => exact firstFit_append_congr IsPath.tail hrest first.pieces hpath
    | some again =>
      obtain ⟨hapart, hhead⟩ := dotsApart_packageName segments
      exact (firstFit_leadingGap hapart hhead again _).trans
        (firstFit_append_congr IsPath.tail hrest (.leadingGap :: first.pieces) hpath)

/-! Gaps that are repeated between two globs. -/

def Glob.sample : Glob → Char
  | .literal c => c
  | _ => 'a'

def SegmentGlob.sample (g : SegmentGlob) : Segment where
  chars := g.globs.map Glob.sample
  nonempty := by simpa using g.nonempty
  plain := by
    rw [List.forall_mem_map]
    intro x hx
    have hinside := g.inside x hx
    cases x with
    | literal c => exact hinside
    | segment captured => exact (by decide : isSegmentChar 'a' = true)
    | segments captured => contradiction

def Segment.append (s t : Segment) : Segment where
  chars := s.chars ++ t.chars
  nonempty := by simp [s.nonempty]
  plain := List.forall_mem_append.2 ⟨s.plain, t.plain⟩

def RepeatedRest.samples (s : Segment) : RepeatedRest → List Segment
  | done | trailing _ => [s]
  | dot g rest | gap 0 g rest => s :: rest.samples g.sample
  | gap (_ + 1) g rest => rest.samples (s.append g.sample)

/-- Pieces take up a segment if, in front of anything that the pieces after them fit with, they fit
with it as well. -/
def TakesUp (ps : List Piece) (s : Segment) : Prop :=
  ∀ qs t, (firstFit qs t).isSome = true → (firstFit (ps ++ qs) (s.chars ++ t)).isSome = true

theorem isSome_firstFit_sample {gs : List Glob} (inside : ∀ g ∈ gs, g.isInside = true)
    {qs : List Piece} {t : List Char} (ht : (firstFit qs t).isSome = true) :
    (firstFit (gs.map .glob ++ qs) (gs.map Glob.sample ++ t)).isSome = true := by
  induction gs with
  | nil => exact ht
  | cons g gs ih =>
    have hg : g.isInside = true := inside g (by simp)
    have ih := ih fun h hh => inside h (by simp [hh])
    simp only [List.map_cons, List.cons_append]
    cases g with
    | literal c => simpa [Glob.sample, firstFit, expect] using ih
    | segment captured =>
      have hsample : isSegmentChar (Glob.segment captured).sample = true :=
        (by decide : isSegmentChar 'a' = true)
      rw [firstFit, if_pos hsample]
      refine greedy_isSome_iff.2 ⟨[], _, rfl, by simp, ?_⟩
      rwa [capture, Option.isSome_map]
    | segments captured => contradiction

theorem takesUp_sample (g : SegmentGlob) : TakesUp g.pieces g.sample :=
  fun _ _ ht => isSome_firstFit_sample g.inside ht

theorem TakesUp.join {ps : List Piece} {s : Segment} (h : TakesUp ps s) (n : Nat)
    (g : SegmentGlob) :
    TakesUp (ps ++ (List.replicate n .trailingGap ++ g.pieces)) (s.append g.sample) := by
  intro qs t ht
  have hglob := takesUp_sample g qs t ht
  rw [← firstFit_trailingGaps_of_head? (g.sample.head?_append_ne_dot t) n] at hglob
  simpa [Segment.append] using h _ _ hglob

theorem afterDots_of_ne_nil {segments : List Segment} (h : segments ≠ []) :
    afterDots segments = '.' :: (packageName segments).toList := by
  obtain ⟨s, rest, rfl⟩ := List.exists_cons_of_ne_nil h
  rw [toList_packageName_cons, afterDots]

theorem RepeatedRest.samples_ne_nil (rest : RepeatedRest) (s : Segment) :
    rest.samples s ≠ [] := by
  induction rest generalizing s with
  | done | trailing => simp [samples]
  | dot g rest ih => simp [samples]
  | gap again g rest ih =>
    cases again with
    | zero => simp [samples]
    | succ again => exact ih _

theorem RepeatedRest.isSome_firstFit_samples (rest : RepeatedRest) {ps : List Piece} {s : Segment}
    (h : TakesUp ps s) :
    (firstFit (ps ++ rest.pieces) (packageName (rest.samples s)).toList).isSome = true := by
  induction rest generalizing ps s with
  | done =>
    rw [samples, toList_packageName_cons]
    exact h _ _ rfl
  | trailing again =>
    have hnothing := firstFit_trailingGaps_of_head? (s := []) (by simp) (again + 1) []
    rw [List.append_nil] at hnothing
    rw [samples, toList_packageName_cons]
    refine h _ _ ?_
    rw [pieces, afterDots, hnothing]
    rfl
  | dot g rest ih =>
    rw [samples, toList_packageName_cons, afterDots_of_ne_nil (rest.samples_ne_nil _)]
    refine h _ _ ?_
    rw [pieces, firstFit, expect, if_pos (by decide)]
    exact ih (takesUp_sample g)
  | gap again g rest ih =>
    cases again with
    | zero =>
      rw [samples, toList_packageName_cons, afterDots_of_ne_nil (rest.samples_ne_nil _)]
      refine h _ _ ?_
      rw [pieces, innerGaps, List.singleton_append, firstFit, orElse_eq_or, Option.isSome_or]
      have hdot : (expect '.' (firstFit (g.pieces ++ rest.pieces))
          ('.' :: (packageName (rest.samples g.sample)).toList)).isSome = true := by
        rw [expect, if_pos (by decide)]
        exact ih (takesUp_sample g)
      rw [hdot, Bool.or_true]
    | succ again =>
      rw [samples, pieces, innerGaps, ← List.append_assoc, ← List.append_assoc, List.append_assoc ps]
      exact ih (h.join (again + 1) g)

def Step.isOne : Step → Bool
  | .one _ => true
  | .gap => false

theorem Aligned.countP_le {steps : List Step} {segments : List Segment}
    {blocks : List (List Segment)} (h : Aligned steps segments blocks) :
    steps.countP Step.isOne ≤ segments.length := by
  induction steps generalizing segments blocks with
  | nil => simp
  | cons step steps ih =>
    cases step with
    | one g =>
      obtain ⟨s, rest, others, rfl, rfl, _, hrest⟩ := aligned_one_iff.1 h
      have hle := ih hrest
      rw [List.countP_cons_of_pos rfl, List.length_cons]
      omega
    | gap =>
      obtain ⟨skipped, rest, others, rfl, rfl, hrest⟩ := aligned_gap_iff.1 h
      have hle := ih hrest
      rw [List.countP_cons_of_neg (by simp [Step.isOne]), List.length_append]
      omega

theorem RepeatedRest.length_samples (rest : RepeatedRest) (s : Segment) :
    (rest.samples s).length + rest.innerRepeats = rest.once.steps.countP Step.isOne + 1 := by
  induction rest generalizing s with
  | done => rfl
  | trailing again => rfl
  | dot g rest ih =>
    have hrest := ih g.sample
    rw [samples, innerRepeats, once, Rest.steps, List.countP_cons_of_pos rfl, List.length_cons]
    omega
  | gap again g rest ih =>
    rw [once, Rest.steps, List.countP_cons_of_neg (by simp [Step.isOne]),
      List.countP_cons_of_pos rfl, innerRepeats]
    cases again with
    | zero =>
      have hrest := ih g.sample
      rw [samples, List.length_cons, if_pos rfl]
      omega
    | succ again =>
      have hrest := ih (s.append g.sample)
      rw [samples, if_neg (Nat.succ_ne_zero again)]
      omega

theorem RepeatedShape.accepts_eq_isSome (p : RepeatedShape) (package : String) :
    p.pattern.accepts package = (firstFit p.pieces package.toList).isSome := by
  rw [Pattern.accepts, Pattern.captures?, p.pattern_eq, Option.isSome_map]

/-- A pattern with a gap repeated between two globs accepts a package with fewer segments than it has
globs, and with the gap written once it does not. -/
theorem RepeatedShape.exists_accepts {p : RepeatedShape} (h : p.innerRepeats ≠ 0) :
    ∃ segments, p.pattern.accepts (packageName segments) = true ∧
      p.once.pattern.accepts (packageName segments) = false := by
  cases p with
  | anything again => exact absurd rfl h
  | globs leading first rest =>
    refine ⟨rest.samples first.sample, ?_, ?_⟩
    · have hfirst := rest.isSome_firstFit_samples (takesUp_sample first)
      obtain ⟨_, hhead⟩ := dotsApart_packageName (rest.samples first.sample)
      rw [accepts_eq_isSome]
      cases leading with
      | none => exact hfirst
      | some again =>
        rw [← firstFit_trailingGaps_of_head? hhead again] at hfirst
        rw [pieces, Option.elim_some, List.cons_append, firstFit, orElse_eq_or, Option.isSome_or,
          hfirst, Bool.or_true]
    · rw [← Bool.not_eq_true, accepts_iff_aligned]
      rintro ⟨blocks, haligned⟩
      have hle := haligned.countP_le
      have hlength := rest.length_samples first.sample
      have hones : (globs leading first rest).once.steps.countP Step.isOne
          = rest.once.steps.countP Step.isOne + 1 := by
        cases leading <;> simp [once, Shape.steps, Step.isOne, List.countP_cons]
      have hrepeats : rest.innerRepeats ≠ 0 := h
      omega

/-- Writing gaps of a pattern several times in a row makes no difference, neither for the packages
that it accepts nor for their slices, exactly if no gap between two globs is written so. -/
theorem repeating_makes_no_difference_iff (p : RepeatedShape) :
    (∀ segments, p.pattern.accepts (packageName segments)
          = p.once.pattern.accepts (packageName segments) ∧
        p.pattern.slice? (packageName segments) = p.once.pattern.slice? (packageName segments)) ↔
      p.innerRepeats = 0 := by
  constructor
  · intro h
    by_contra hrepeats
    obtain ⟨segments, hrepeated, honce⟩ := RepeatedShape.exists_accepts hrepeats
    rw [(h segments).1, honce] at hrepeated
    contradiction
  · intro h segments
    have hcaptures : p.pattern.captures? (packageName segments)
        = p.once.pattern.captures? (packageName segments) := by
      rw [Pattern.captures?, Pattern.captures?, p.pattern_eq, p.once.pattern_eq,
        p.firstFit_once h segments]
    rw [Pattern.accepts, Pattern.accepts, Pattern.slice?, Pattern.slice?, hcaptures]
    exact ⟨rfl, rfl⟩

/-- With the gap written twice the pattern accepts a package in which both globs lie in one segment,
and a slice is the end of a segment. -/
theorem repeating_reaches_into_segments :
    (Pattern.ofString "a..b").accepts "ab" = false ∧
      (Pattern.ofString "a....b").accepts "ab" = true ∧
      (Pattern.ofString "a..(*)").slice? "a.bc" = some "bc" ∧
      (Pattern.ofString "a....(*)").slice? "a.bc" = some "c" := by
  decide +kernel

end Conformance.Package
