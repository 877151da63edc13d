import Conformance.Proofs.Package.Alignment

/-! Slices. Where every glob of a pattern is a literal or one star, the slice of a package is made
of the whole segments that the greatest alignment gives to the capturing stars. -/
namespace Conformance.Package

namespace SegmentGlob

def star (captured : Bool) : SegmentGlob where
  globs := [.segment captured]
  nonempty := by simp
  inside := by simp [Glob.isInside]
  apart := .singleton _

def literal (s : Segment) : SegmentGlob where
  globs := s.chars.map .literal
  nonempty := by simpa using s.nonempty
  inside := by simpa [Glob.isInside] using s.plain
  apart := by
    refine List.Pairwise.isChain (List.pairwise_map.2 (List.pairwise_of_forall fun _ _ => ?_))
    simp

def IsSimple (g : SegmentGlob) : Prop := (∃ captured, g = star captured) ∨ ∃ s, g = literal s

def captures (g : SegmentGlob) : Bool := g.globs == [.segment true]

end SegmentGlob

def Step.captures : Step → Bool
  | .one g => g.captures
  | .gap => false

namespace Shape

def IsSimple (p : Shape) : Prop := ∀ g, Step.one g ∈ p.steps → g.IsSimple

def captures (p : Shape) : Bool := p.steps.any Step.captures

end Shape

def captured : List Step → List (List Segment) → List Segment
  | step :: steps, block :: blocks =>
    (if step.captures then block else []) ++ captured steps blocks
  | _, _ => []

/-- The numbers that the gaps take tell how the segments are cut. -/
theorem Aligned.eq_of_skips {steps : List Step} {segments : List Segment}
    {blocks others : List (List Segment)} (hblocks : Aligned steps segments blocks)
    (hothers : Aligned steps segments others) (h : skips steps blocks = skips steps others) :
    blocks = others := by
  induction steps generalizing segments blocks others with
  | nil => rw [(aligned_nil_iff.1 hblocks).2, (aligned_nil_iff.1 hothers).2]
  | cons step steps ih =>
    cases step with
    | one g =>
      obtain ⟨s, rest, bs, rfl, rfl, _, hbs⟩ := aligned_one_iff.1 hblocks
      obtain ⟨t, rest', cs, hcut, rfl, _, hcs⟩ := aligned_one_iff.1 hothers
      obtain ⟨rfl, rfl⟩ := List.cons.inj hcut
      rw [ih hbs hcs h]
    | gap =>
      obtain ⟨b, rest, bs, rfl, rfl, hbs⟩ := aligned_gap_iff.1 hblocks
      obtain ⟨c, rest', cs, hcut, rfl, hcs⟩ := aligned_gap_iff.1 hothers
      obtain ⟨hlength, hskips⟩ := List.cons.inj h
      obtain ⟨rfl, rfl⟩ := List.append_inj hcut hlength
      rw [ih hbs hcs hskips]

theorem Greatest.unique {steps : List Step} {segments : List Segment}
    {blocks others : List (List Segment)} (hblocks : Greatest steps segments blocks)
    (hothers : Greatest steps segments others) : blocks = others :=
  hblocks.aligned.eq_of_skips hothers.aligned
    (le_antisymm (hothers.skips_le _ hblocks.aligned) (hblocks.skips_le _ hothers.aligned))

theorem fit_eq_some_iff {steps : List Step} {segments : List Segment}
    {found : List (List Char)} :
    fit steps segments = some found ↔
      ∃ blocks, Greatest steps segments blocks ∧ taken steps blocks = found := by
  constructor
  · exact exists_greatest_of_fit
  · rintro ⟨blocks, hgreatest, rfl⟩
    cases h : fit steps segments with
    | none => exact absurd hgreatest.aligned (not_aligned_of_fit h blocks)
    | some found =>
      obtain ⟨others, hothers, rfl⟩ := exists_greatest_of_fit h
      rw [hgreatest.unique hothers]

theorem fit_eq_none_iff {steps : List Step} {segments : List Segment} :
    fit steps segments = none ↔ ∀ blocks, ¬Aligned steps segments blocks := by
  constructor
  · exact not_aligned_of_fit
  · intro h
    cases hfit : fit steps segments with
    | none => rfl
    | some found =>
      obtain ⟨blocks, hgreatest, _⟩ := exists_greatest_of_fit hfit
      exact absurd hgreatest.aligned (h blocks)

theorem firstFit_star (star : Bool) (s : Segment) :
    firstFit [.glob (.segment star)] s.chars = some (if star then [s.chars] else []) := by
  obtain ⟨c, cs, h⟩ := List.exists_cons_of_ne_nil s.nonempty
  have hplain : ∀ d ∈ c :: cs, isSegmentChar d = true := h ▸ s.plain
  have hrun : greedy isSegmentChar (capture star (c :: cs) (firstFit [])) cs
      = some (if star then [c :: cs] else []) := by
    apply greedy_eq_of_nil
    · cases star <;> simp [capture, firstFit, consumed]
    · exact fun d hd => hplain d (by simp [hd])
  rw [h, firstFit, if_pos (hplain c (by simp)), hrun]

theorem firstFit_literals {gs : List Glob} (literal : ∀ x ∈ gs, ∃ c, x = .literal c)
    (s : List Char) : (firstFit (gs.map .glob) s).getD [] = [] := by
  induction gs generalizing s with
  | nil =>
    rw [List.map_nil, firstFit]
    split <;> rfl
  | cons x gs ih =>
    obtain ⟨c, rfl⟩ := literal x (by simp)
    cases s with
    | nil => rfl
    | cons d s =>
      have ih := ih (fun y hy => literal y (by simp [hy])) s
      by_cases hd : d = c
      · simpa [firstFit, expect, hd] using ih
      · simp [firstFit, expect, hd]

theorem SegmentGlob.IsSimple.getD_firstFit {g : SegmentGlob} (simple : g.IsSimple) (s : Segment) :
    (firstFit g.pieces s.chars).getD [] = if g.captures then [s.chars] else [] := by
  rcases simple with ⟨captured, rfl⟩ | ⟨t, rfl⟩
  · have hstar : firstFit (star captured).pieces s.chars
        = some (if captured then [s.chars] else []) := firstFit_star captured s
    rw [hstar]
    cases captured <;> rfl
  · have hcaptures : (literal t).captures = false := by
      simp [captures, literal, List.map_eq_cons_iff]
    have hliteral : ∀ x ∈ (literal t).globs, ∃ c, x = .literal c := by
      simp [literal]
    rw [pieces, firstFit_literals hliteral, hcaptures]
    rfl

theorem taken_eq_map_captured {steps : List Step} (simple : ∀ g, Step.one g ∈ steps → g.IsSimple)
    {segments : List Segment} {blocks : List (List Segment)}
    (halign : Aligned steps segments blocks) :
    taken steps blocks = (captured steps blocks).map Segment.chars := by
  induction steps generalizing segments blocks with
  | nil => rw [(aligned_nil_iff.1 halign).2]; rfl
  | cons step steps ih =>
    have ih {rest others} := @ih (fun g hg => simple g (by simp [hg])) rest others
    cases step with
    | one g =>
      obtain ⟨s, rest, others, rfl, rfl, _, hrest⟩ := aligned_one_iff.1 halign
      have hs := (simple g (by simp)).getD_firstFit s
      rw [taken, captured, Step.captures, ih hrest, List.map_append]
      cases h : g.captures <;> simp [hs, h]
    | gap =>
      obtain ⟨skipped, rest, others, rfl, rfl, hrest⟩ := aligned_gap_iff.1 halign
      rw [taken, captured, ih hrest]
      rfl

theorem captured_sublist {steps : List Step} {segments : List Segment}
    {blocks : List (List Segment)} (halign : Aligned steps segments blocks) :
    (captured steps blocks).Sublist segments := by
  induction steps generalizing segments blocks with
  | nil => rw [(aligned_nil_iff.1 halign).2]; exact List.nil_sublist _
  | cons step steps ih =>
    cases step with
    | one g =>
      obtain ⟨s, rest, others, rfl, rfl, _, hrest⟩ := aligned_one_iff.1 halign
      rw [captured, Step.captures]
      cases g.captures
      · exact (ih hrest).cons s
      · exact (ih hrest).cons_cons s
    | gap =>
      obtain ⟨skipped, rest, others, rfl, rfl, hrest⟩ := aligned_gap_iff.1 halign
      exact (ih hrest).trans (List.sublist_append_right skipped rest)

theorem captured_eq_nil_iff {steps : List Step} {segments : List Segment}
    {blocks : List (List Segment)} (halign : Aligned steps segments blocks) :
    captured steps blocks = [] ↔ steps.any Step.captures = false := by
  induction steps generalizing segments blocks with
  | nil => rw [(aligned_nil_iff.1 halign).2]; simp [captured]
  | cons step steps ih =>
    cases step with
    | one g =>
      obtain ⟨s, rest, others, rfl, rfl, _, hrest⟩ := aligned_one_iff.1 halign
      rw [captured, List.any_cons]
      cases h : Step.captures (.one g) <;> simp [ih hrest]
    | gap =>
      obtain ⟨skipped, rest, others, rfl, rfl, hrest⟩ := aligned_gap_iff.1 halign
      rw [captured, List.any_cons]
      simp [Step.captures, ih hrest]

theorem Shape.slice?_eq_map (p : Shape) (segments : List Segment) :
    p.pattern.slice? (packageName segments) = (fit p.steps segments).map fun found =>
      match (found.map String.ofList).filter (· != "") with
      | [] => packageName segments
      | parts => ".".intercalate parts := by
  rw [Pattern.slice?, Pattern.captures?, p.pattern_eq, p.firstFit_packageName, Option.map_map]
  rfl

theorem sliceName_of_aligned {p : Shape} (simple : p.IsSimple) {segments : List Segment}
    {blocks : List (List Segment)} (halign : Aligned p.steps segments blocks) :
    (match ((taken p.steps blocks).map String.ofList).filter (· != "") with
      | [] => packageName segments
      | parts => ".".intercalate parts)
      = if p.captures then packageName (captured p.steps blocks) else packageName segments := by
  have hnames : ((taken p.steps blocks).map String.ofList).filter (· != "")
      = (captured p.steps blocks).map Segment.name := by
    rw [taken_eq_map_captured simple halign, List.map_map, List.filter_eq_self.2]
    · rfl
    · intro name hname
      obtain ⟨s, _, rfl⟩ := List.mem_map.1 hname
      simpa [Segment.name] using s.nonempty
  rw [hnames]
  cases hcaptured : captured p.steps blocks with
  | nil =>
    have hnone : p.captures = false := (captured_eq_nil_iff halign).1 hcaptured
    simp [hnone]
  | cons s rest =>
    have hsome : p.captures = true := by
      rw [← Bool.not_eq_false]
      intro h
      simp [(captured_eq_nil_iff halign).2 h] at hcaptured
    rw [hsome]
    rfl

/-- A package has no slice exactly if no alignment of its segments exists. Otherwise the slice
joins the segments that the greatest alignment gives to the capturing stars, or it is the whole
package where no star captures. What is captured are segments of the package, in order. -/
theorem slice?_greatest (p : Shape) (simple : p.IsSimple) (segments : List Segment) :
    (p.pattern.slice? (packageName segments) = none ↔
        ∀ blocks, ¬Aligned p.steps segments blocks) ∧
      (∀ name, p.pattern.slice? (packageName segments) = some name ↔
        ∃ blocks, Greatest p.steps segments blocks ∧ name =
          if p.captures then packageName (captured p.steps blocks) else packageName segments) ∧
      ∀ blocks, Aligned p.steps segments blocks →
        (captured p.steps blocks).Sublist segments := by
  rw [p.slice?_eq_map, Option.map_eq_none_iff, fit_eq_none_iff]
  refine ⟨Iff.rfl, fun name => ?_, fun blocks halign => captured_sublist halign⟩
  rw [Option.map_eq_some_iff]
  constructor
  · rintro ⟨found, hfound, rfl⟩
    obtain ⟨blocks, hgreatest, rfl⟩ := fit_eq_some_iff.1 hfound
    exact ⟨blocks, hgreatest, sliceName_of_aligned simple hgreatest.aligned⟩
  · rintro ⟨blocks, hgreatest, rfl⟩
    refine ⟨taken p.steps blocks, fit_eq_some_iff.2 ⟨blocks, hgreatest, rfl⟩, ?_⟩
    exact sliceName_of_aligned simple hgreatest.aligned

def Segment.single (c : Char) (h : isSegmentChar c = true) : Segment :=
  ⟨[c], List.cons_ne_nil c [], by simpa using h⟩

def belowT : Shape := .globs true (.literal (.single 't' rfl)) (.dot (.star true) .trailing)

/-- Where `t` occurs twice it is the second one that counts. -/
theorem slice?_belowT :
    belowT.IsSimple ∧ ∃ blocks, Greatest belowT.steps
      [.single 't' rfl, .single 'v' rfl, .single 't' rfl, .single 'b' rfl] blocks ∧
      "b" = if belowT.captures then packageName (captured belowT.steps blocks) else "t.v.t.b" := by
  have simple : belowT.IsSimple := by
    intro g hg
    simp only [belowT, Shape.steps, Rest.steps, if_true, List.singleton_append, List.mem_cons,
      reduceCtorEq, Step.one.injEq, List.not_mem_nil, or_false, false_or] at hg
    rcases hg with rfl | rfl
    · exact .inr ⟨_, rfl⟩
    · exact .inl ⟨true, rfl⟩
  exact ⟨simple, ((slice?_greatest belowT simple _).2.1 "b").1 (by decide +kernel)⟩

end Conformance.Package
