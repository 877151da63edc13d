import Mathlib.Data.List.Forall2
import Mathlib.Data.List.Lex
import Conformance.Proofs.Package.Fit

/-! Patterns segment by segment. A package is accepted exactly if its segments can be cut into
blocks, one for each step of the pattern, where a glob takes one segment and a gap any number of
them. Of all such cuts the first fit is the one whose gaps are greatest, from left to right. -/
namespace Conformance.Package

variable {α : Type}

/-- Whether globs cover some characters, where a star stands for one or more of them. -/
inductive Covers : List Glob → List Char → Prop
  | nil : Covers [] []
  | literal (c : Char) {gs : List Glob} {s : List Char} : Covers gs s →
      Covers (.literal c :: gs) (c :: s)
  | star (captured : Bool) {gs : List Glob} {run s : List Char} : run ≠ [] → Covers gs s →
      Covers (.segment captured :: gs) (run ++ s)

/-- Whether a step takes a block of segments: a glob one that it covers, a gap any number. -/
def Step.Takes : Step → List Segment → Prop
  | .one g, block => ∃ s, block = [s] ∧ Covers g.globs s.chars
  | .gap, _ => True

/-- A cut of segments into blocks, one for each step. -/
structure Aligned (steps : List Step) (segments : List Segment)
    (blocks : List (List Segment)) : Prop where
  takes : List.Forall₂ Step.Takes steps blocks
  cut : blocks.flatten = segments

def skips : List Step → List (List Segment) → List Nat
  | .one _ :: steps, _ :: blocks => skips steps blocks
  | .gap :: steps, block :: blocks => block.length :: skips steps blocks
  | _, _ => []

/-- An alignment whose gaps are greatest in lexicographic order. -/
structure Greatest (steps : List Step) (segments : List Segment)
    (blocks : List (List Segment)) : Prop where
  aligned : Aligned steps segments blocks
  skips_le : ∀ other, Aligned steps segments other → skips steps other ≤ skips steps blocks

theorem greedy_isSome_iff {ok : Char → Bool} {next : List Char → Option α} {s : List Char} :
    (greedy ok next s).isSome = true ↔
      ∃ u v, s = u ++ v ∧ (∀ c ∈ u, ok c = true) ∧ (next v).isSome = true := by
  induction s with
  | nil => simp [greedy]
  | cons c s ih =>
    cases hc : ok c with
    | false =>
      rw [greedy_of_head? (by simpa using hc)]
      constructor
      · intro h
        exact ⟨[], c :: s, rfl, by simp, h⟩
      · rintro ⟨u, v, huv, hu, hv⟩
        cases u with
        | nil =>
          rw [huv]
          exact hv
        | cons d u =>
          obtain ⟨rfl, rfl⟩ := List.cons.inj huv
          simp [hc] at hu
    | true =>
      rw [greedy_cons hc, Option.isSome_or, Bool.or_eq_true, ih]
      constructor
      · rintro (⟨u, v, rfl, hu, hv⟩ | h)
        · exact ⟨c :: u, v, rfl, by simpa [hc] using hu, hv⟩
        · exact ⟨[], c :: s, rfl, by simp, h⟩
      · rintro ⟨u, v, huv, hu, hv⟩
        cases u with
        | nil => exact .inr (huv ▸ hv)
        | cons d u =>
          obtain ⟨rfl, rfl⟩ := List.cons.inj huv
          exact .inl ⟨u, v, rfl, fun e he => hu e (by simp [he]), hv⟩

theorem firstFit_isSome_iff_covers {gs : List Glob} (inside : ∀ g ∈ gs, g.isInside = true)
    {s : List Char} (hs : ∀ c ∈ s, isSegmentChar c = true) :
    (firstFit (gs.map .glob) s).isSome = true ↔ Covers gs s := by
  induction gs generalizing s with
  | nil =>
    cases s with
    | nil => simpa [firstFit] using Covers.nil
    | cons c s =>
      constructor
      · simp [firstFit]
      · rintro ⟨⟩
  | cons g gs ih =>
    have hg : g.isInside = true := inside g (by simp)
    have ih {v : List Char} (hv : ∀ c ∈ v, isSegmentChar c = true) :=
      ih (fun h hh => inside h (by simp [hh])) hv
    cases g with
    | segments => cases hg
    | literal c =>
      rw [List.map_cons, firstFit]
      constructor
      · intro h
        cases s with
        | nil => simp [expect] at h
        | cons d s =>
          by_cases hd : d = c
          · subst hd
            exact .literal d ((ih fun e he => hs e (by simp [he])).1 (by simpa [expect] using h))
          · simp [expect, hd] at h
      · rintro (_ | ⟨_, h⟩)
        simpa [expect] using (ih fun e he => hs e (by simp [he])).2 h
    | segment captured =>
      rw [List.map_cons]
      cases s with
      | nil =>
        constructor
        · simp [firstFit]
        · intro h
          generalize hnil : ([] : List Char) = s at h
          cases h with
          | star _ hrun _ => exact absurd (List.append_eq_nil_iff.1 hnil.symm).1 hrun
      | cons d s =>
        have hd : isSegmentChar d = true := hs d (by simp)
        rw [firstFit, if_pos hd, greedy_isSome_iff]
        simp only [capture, Option.isSome_map]
        constructor
        · rintro ⟨u, v, rfl, _, hv⟩
          have hrun : d :: u ≠ [] := List.cons_ne_nil d u
          exact .star captured hrun
            ((ih fun e he => hs e (by simp [he])).1 hv)
        · intro h
          generalize hcons : d :: s = whole at h
          cases h with
          | @star _ _ run v hrun h =>
            cases run with
            | nil => exact absurd rfl hrun
            | cons e u =>
              obtain ⟨rfl, rfl⟩ := List.cons.inj hcons
              refine ⟨u, v, rfl, fun e he => hs e (by simp [he]), ?_⟩
              exact (ih fun e he => hs e (by simp [he])).2 h

theorem aligned_nil_iff {segments : List Segment} {blocks : List (List Segment)} :
    Aligned [] segments blocks ↔ segments = [] ∧ blocks = [] := by
  constructor
  · rintro ⟨⟨⟩, rfl⟩
    exact ⟨rfl, rfl⟩
  · rintro ⟨rfl, rfl⟩
    exact ⟨.nil, rfl⟩

theorem aligned_one_iff {g : SegmentGlob} {steps : List Step} {segments : List Segment}
    {blocks : List (List Segment)} :
    Aligned (.one g :: steps) segments blocks ↔ ∃ s rest others, segments = s :: rest ∧
      blocks = [s] :: others ∧ Covers g.globs s.chars ∧ Aligned steps rest others := by
  constructor
  · rintro ⟨htakes, rfl⟩
    obtain ⟨block, others, ⟨s, rfl, hs⟩, hrest, rfl⟩ := List.forall₂_cons_left_iff.1 htakes
    exact ⟨s, others.flatten, others, rfl, rfl, hs, hrest, rfl⟩
  · rintro ⟨s, rest, others, rfl, rfl, hs, hrest, rfl⟩
    exact ⟨.cons ⟨s, rfl, hs⟩ hrest, rfl⟩

theorem aligned_gap_iff {steps : List Step} {segments : List Segment}
    {blocks : List (List Segment)} :
    Aligned (.gap :: steps) segments blocks ↔ ∃ skipped rest others,
      segments = skipped ++ rest ∧ blocks = skipped :: others ∧ Aligned steps rest others := by
  constructor
  · rintro ⟨htakes, rfl⟩
    obtain ⟨block, others, _, hrest, rfl⟩ := List.forall₂_cons_left_iff.1 htakes
    exact ⟨block, others.flatten, others, rfl, rfl, hrest, rfl⟩
  · rintro ⟨skipped, rest, others, rfl, rfl, hrest, rfl⟩
    exact ⟨.cons trivial hrest, rfl⟩

theorem longestSkip_eq_none_iff {next : List Segment → Option α} {segments : List Segment} :
    longestSkip next segments = none ↔
      ∀ skipped rest, segments = skipped ++ rest → next rest = none := by
  induction segments with
  | nil => simp [longestSkip]
  | cons s segments ih =>
    rw [longestSkip, Option.or_eq_none_iff, ih]
    constructor
    · rintro ⟨hmore, hhere⟩ skipped rest h
      cases skipped with
      | nil =>
        obtain rfl : s :: segments = rest := h
        exact hhere
      | cons t skipped => exact hmore skipped rest (List.cons.inj h).2
    · intro h
      exact ⟨fun skipped rest hs => h (s :: skipped) rest (by simp [hs]), h [] _ rfl⟩

/-- Skipping ends where going on succeeds, and nowhere further on does it succeed. -/
theorem exists_of_longestSkip {next : List Segment → Option α} {segments : List Segment}
    {found : α} (h : longestSkip next segments = some found) :
    ∃ skipped rest, segments = skipped ++ rest ∧ next rest = some found ∧
      ∀ skipped' rest', segments = skipped' ++ rest' → skipped.length < skipped'.length →
        next rest' = none := by
  induction segments with
  | nil =>
    refine ⟨[], [], rfl, h, ?_⟩
    intro skipped' rest' hs hlt
    obtain ⟨rfl, -⟩ := List.append_eq_nil_iff.1 hs.symm
    exact absurd hlt (by simp)
  | cons s segments ih =>
    rw [longestSkip] at h
    cases hmore : longestSkip next segments with
    | some other =>
      obtain rfl : other = found := by simpa [hmore] using h
      obtain ⟨skipped, rest, hcut, hnext, hfar⟩ := ih hmore
      refine ⟨s :: skipped, rest, by simp [hcut], hnext, ?_⟩
      intro skipped' rest' hs hlt
      cases skipped' with
      | nil => simp at hlt
      | cons t skipped' => exact hfar skipped' rest' (List.cons.inj hs).2 (by simpa using hlt)
    | none =>
      refine ⟨[], s :: segments, rfl, by simpa [hmore] using h, ?_⟩
      intro skipped' rest' hs hlt
      cases skipped' with
      | nil => simp at hlt
      | cons t skipped' =>
        exact longestSkip_eq_none_iff.1 hmore skipped' rest' (List.cons.inj hs).2

theorem not_aligned_of_fit {steps : List Step} {segments : List Segment}
    (h : fit steps segments = none) (blocks : List (List Segment)) :
    ¬Aligned steps segments blocks := by
  induction steps generalizing segments blocks with
  | nil =>
    rintro ⟨⟨⟩, rfl⟩
    simp [fit] at h
  | cons step steps ih =>
    cases step with
    | one g =>
      intro halign
      obtain ⟨s, rest, others, rfl, rfl, hs, hrest⟩ := aligned_one_iff.1 halign
      obtain ⟨found, hfound⟩ :=
        Option.isSome_iff_exists.1 ((firstFit_isSome_iff_covers g.inside s.plain).2 hs)
      rw [fit, SegmentGlob.pieces, hfound, Option.bind_some, Option.map_eq_none_iff] at h
      exact ih h others hrest
    | gap =>
      intro halign
      obtain ⟨skipped, rest, others, rfl, rfl, hrest⟩ := aligned_gap_iff.1 halign
      exact ih (longestSkip_eq_none_iff.1 h skipped rest rfl) others hrest

def taken : List Step → List (List Segment) → List (List Char)
  | .one g :: steps, block :: blocks =>
    block.flatMap (fun s => (firstFit g.pieces s.chars).getD []) ++ taken steps blocks
  | .gap :: steps, _ :: blocks => taken steps blocks
  | _, _ => []

/-- The first fit is the one with the greatest gaps. -/
theorem exists_greatest_of_fit {steps : List Step} {segments : List Segment}
    {found : List (List Char)} (h : fit steps segments = some found) :
    ∃ blocks, Greatest steps segments blocks ∧ taken steps blocks = found := by
  induction steps generalizing segments found with
  | nil =>
    rw [fit] at h
    split at h
    · next hempty =>
      obtain rfl : [] = found := Option.some.inj h
      have hnil : Aligned [] segments [] := aligned_nil_iff.2 ⟨List.isEmpty_iff.1 hempty, rfl⟩
      exact ⟨[], ⟨hnil, fun other _ => le_refl _⟩, rfl⟩
    · contradiction
  | cons step steps ih =>
    cases step with
    | one g =>
      cases segments with
      | nil => simp [fit] at h
      | cons s rest =>
        obtain ⟨here, hhere, h⟩ := Option.bind_eq_some_iff.1 h
        obtain ⟨later, hlater, rfl⟩ := Option.map_eq_some_iff.1 h
        obtain ⟨blocks, hgreatest, htaken⟩ := ih hlater
        have hs : Covers g.globs s.chars :=
          (firstFit_isSome_iff_covers g.inside s.plain).1 (Option.isSome_of_eq_some hhere)
        refine ⟨[s] :: blocks, ⟨?_, ?_⟩, ?_⟩
        · exact aligned_one_iff.2 ⟨s, rest, blocks, rfl, rfl, hs, hgreatest.aligned⟩
        · intro other hother
          obtain ⟨t, rest', others, hcons, rfl, _, hothers⟩ := aligned_one_iff.1 hother
          obtain ⟨rfl, rfl⟩ := List.cons.inj hcons
          exact hgreatest.skips_le others hothers
        · simp [taken, hhere, htaken]
    | gap =>
      obtain ⟨skipped, rest, rfl, hnext, hfar⟩ := exists_of_longestSkip h
      obtain ⟨blocks, hgreatest, htaken⟩ := ih hnext
      refine ⟨skipped :: blocks, ⟨?_, ?_⟩, htaken⟩
      · exact aligned_gap_iff.2 ⟨skipped, rest, blocks, rfl, rfl, hgreatest.aligned⟩
      · intro other hother
        obtain ⟨skipped', rest', others, hcut, rfl, hothers⟩ := aligned_gap_iff.1 hother
        -- taking fewer loses at once, and after taking more nothing aligns
        rcases lt_trichotomy skipped'.length skipped.length with hlt | heq | hgt
        · exact le_of_lt (List.Lex.rel hlt)
        · obtain ⟨rfl, rfl⟩ := List.append_inj hcut.symm heq
          exact List.cons_le_cons _ (hgreatest.skips_le others hothers)
        · exact absurd hothers (not_aligned_of_fit (hfar skipped' rest' hcut hgt) others)

/-- A pattern accepts a package exactly if the segments of the package can be cut into blocks so
that every glob takes one segment and every gap any number of them. -/
theorem accepts_iff_aligned (p : Shape) (segments : List Segment) :
    p.pattern.accepts (packageName segments) = true ↔
      ∃ blocks, Aligned p.steps segments blocks := by
  have hfit : p.pattern.accepts (packageName segments) = (fit p.steps segments).isSome := by
    rw [Pattern.accepts, Pattern.captures?, p.pattern_eq, p.firstFit_packageName,
      Option.isSome_map]
  rw [hfit]
  constructor
  · intro h
    obtain ⟨found, hfound⟩ := Option.isSome_iff_exists.1 h
    obtain ⟨blocks, hgreatest, _⟩ := exists_greatest_of_fit hfound
    exact ⟨blocks, hgreatest.aligned⟩
  · rintro ⟨blocks, halign⟩
    cases h : fit p.steps segments with
    | none => exact absurd halign (not_aligned_of_fit h blocks)
    | some found => rfl

end Conformance.Package
