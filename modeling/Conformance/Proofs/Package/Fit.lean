import Conformance.Package.Match
import Conformance.Proofs.Package.Shape

/-! Matching by characters comes to matching by segments: a glob can end nowhere but at the end of
a segment, and a gap takes whole segments. The order in which fits are tried is kept as well, so
the first fit by characters is the first fit by segments. -/
namespace Conformance.Package

variable {α β : Type}

def afterDots : List Segment → List Char
  | [] => []
  | s :: rest => '.' :: (s.chars ++ afterDots rest)

theorem toList_packageName_cons (s : Segment) (rest : List Segment) :
    (packageName (s :: rest)).toList = s.chars ++ afterDots rest := by
  induction rest generalizing s with
  | nil => simp [packageName, Segment.name, afterDots]
  | cons t rest ih =>
    have h := ih t
    simp only [packageName, List.map_cons] at h
    simp [packageName, String.intercalate_cons_cons, Segment.name, afterDots, ← h]

/-- Continues after every number of segments at the start, the greatest first, up to the first
success. -/
def longestSkip (next : List Segment → Option α) : List Segment → Option α
  | [] => next []
  | s :: rest => (longestSkip next rest).or (next (s :: rest))

/-- The captures of the first fit of some steps with some segments. -/
def fit : List Step → List Segment → Option (List (List Char))
  | [], segments => if segments.isEmpty then some [] else none
  | .one _ :: _, [] => none
  | .one g :: steps, s :: rest =>
    (firstFit g.pieces s.chars).bind fun found => (fit steps rest).map (found ++ ·)
  | .gap :: steps, segments => longestSkip (fit steps) segments

theorem isPathChar_of_isSegmentChar {c : Char} (h : isSegmentChar c = true) :
    isPathChar c = true := by
  simp [isPathChar, h]

theorem all_isPathChar_afterDots (segments : List Segment) :
    ∀ c ∈ afterDots segments, isPathChar c = true := by
  induction segments with
  | nil => simp [afterDots]
  | cons s rest ih =>
    intro c hc
    simp only [afterDots, List.mem_cons, List.mem_append] at hc
    rcases hc with rfl | hc | hc
    · decide
    · exact isPathChar_of_isSegmentChar (s.plain c hc)
    · exact ih c hc

theorem all_isPathChar_packageName (segments : List Segment) :
    ∀ c ∈ (packageName segments).toList, isPathChar c = true := by
  cases segments with
  | nil => simp [packageName]
  | cons s rest =>
    intro c hc
    rw [toList_packageName_cons] at hc
    rcases List.mem_append.1 hc with h | h
    · exact isPathChar_of_isSegmentChar (s.plain c h)
    · exact all_isPathChar_afterDots rest c h

theorem isSegmentChar_head?_afterDots (segments : List Segment) :
    ∀ c ∈ (afterDots segments).head?, isSegmentChar c = false := by
  cases segments with
  | nil => simp [afterDots]
  | cons s rest =>
    intro c hc
    obtain rfl : '.' = c := Option.some.inj hc
    exact isSegmentChar_dot

@[simp] theorem orElse_eq_or (f g : List Char → Option α) (s : List Char) :
    orElse f g s = (f s).or (g s) := by
  rw [orElse]
  cases f s <;> rfl

theorem greedy_cons {ok : Char → Bool} {c : Char} (hc : ok c = true)
    (next : List Char → Option α) (s : List Char) :
    greedy ok next (c :: s) = (greedy ok next s).or (next (c :: s)) := by
  rw [greedy, if_pos hc]
  cases greedy ok next s <;> rfl

theorem greedy_of_head? {ok : Char → Bool} {s : List Char} (hs : ∀ c ∈ s.head?, ok c = false)
    (next : List Char → Option α) : greedy ok next s = next s := by
  cases s with
  | nil => rfl
  | cons c s => simp [greedy, hs c rfl]

theorem greedy_eq_none {ok : Char → Bool} {next : List Char → Option α}
    (h : ∀ s, next s = none) (s : List Char) : greedy ok next s = none := by
  induction s with
  | nil => exact h []
  | cons c s ih => simp [greedy, ih, h]

theorem greedy_eq_of_nil {ok : Char → Bool} {next : List Char → Option α} {found : α}
    (h : next [] = some found) {s : List Char} (hs : ∀ c ∈ s, ok c = true) :
    greedy ok next s = some found := by
  induction s with
  | nil => exact h
  | cons c s ih =>
    rw [greedy_cons (hs c (by simp)), ih fun d hd => hs d (by simp [hd])]
    rfl

theorem greedy_append {ok : Char → Bool} {t : List Char} (ht : ∀ c ∈ t.head?, ok c = false)
    (next : List Char → Option β) (inner : List Char → Option α) (f : α → β)
    (h : ∀ v : List Char, (∀ c ∈ v, ok c = true) → next (v ++ t) = (inner v).map f)
    {s : List Char} (hs : ∀ c ∈ s, ok c = true) :
    greedy ok next (s ++ t) = (greedy ok inner s).map f := by
  induction s with
  | nil =>
    rw [List.nil_append, greedy_of_head? ht]
    exact h [] (by simp)
  | cons c s ih =>
    have hc : ok c = true := hs c (by simp)
    rw [List.cons_append, greedy_cons hc, greedy_cons hc, ih fun d hd => hs d (by simp [hd]),
      ← List.cons_append, h (c :: s) hs]
    cases greedy ok inner s <;> simp

theorem consumed_append (s v t : List Char) : consumed (s ++ t) (v ++ t) = consumed s v := by
  have hlen : (s ++ t).length - (v ++ t).length = s.length - v.length := by
    simp only [List.length_append]
    omega
  rw [consumed, hlen, List.take_append_of_le_length (by omega)]
  rfl

theorem Rest.firstFit_cons (rest : Rest) {c : Char} (hc : isSegmentChar c = true)
    (s : List Char) : firstFit rest.pieces (c :: s) = none := by
  have hdot : c ≠ '.' := ne_of_isSegmentChar hc isSegmentChar_dot
  cases rest <;> simp [pieces, firstFit, expect, hdot]

theorem greedy_capture_append {captured : Bool} (whole : List Char) {s t : List Char}
    {next inner : List Char → Option (List (List Char))} {last : Option (List (List Char))}
    (ht : ∀ c ∈ t.head?, isSegmentChar c = false) (hs : ∀ c ∈ s, isSegmentChar c = true)
    (h : ∀ v : List Char, (∀ c ∈ v, isSegmentChar c = true) →
      next (v ++ t) = (inner v).bind fun found => last.map (found ++ ·)) :
    greedy isSegmentChar (capture captured (whole ++ t) next) (s ++ t)
      = (greedy isSegmentChar (capture captured whole inner) s).bind fun found =>
        last.map (found ++ ·) := by
  cases last with
  | none =>
    have hfail := greedy_append ht (capture captured (whole ++ t) next) (fun _ => none) id
      (fun v hv => by simp [capture, h v hv]) hs
    rw [hfail, greedy_eq_none fun _ => rfl]
    cases greedy isSegmentChar (capture captured whole inner) s <;> rfl
  | some last =>
    have hfit := greedy_append ht (capture captured (whole ++ t) next)
      (capture captured whole inner) (· ++ last) (fun v hv => by
        rw [capture, capture, h v hv, consumed_append]
        cases inner v with
        | none => rfl
        | some found => cases captured <;> rfl) hs
    rw [hfit]
    cases greedy isSegmentChar (capture captured whole inner) s <;> rfl

theorem firstFit_globs_append {gs : List Glob} (inside : ∀ g ∈ gs, g.isInside = true)
    {after : List Piece} {s t : List Char} (hs : ∀ c ∈ s, isSegmentChar c = true)
    (ht : ∀ c ∈ t.head?, isSegmentChar c = false)
    (hafter : ∀ c v, isSegmentChar c = true → firstFit after (c :: v) = none) :
    firstFit (gs.map .glob ++ after) (s ++ t)
      = (firstFit (gs.map .glob) s).bind fun found => (firstFit after t).map (found ++ ·) := by
  induction gs generalizing s with
  | nil =>
    -- no glob is left for the rest of the segment, and what follows does not fit there either
    cases s with
    | nil => simp [firstFit]
    | cons c s => simp [firstFit, hafter c _ (hs c (by simp))]
  | cons g gs ih =>
    have hg : g.isInside = true := inside g (by simp)
    have ih {v : List Char} (hv : ∀ c ∈ v, isSegmentChar c = true) :=
      ih (fun h hh => inside h (by simp [hh])) hv
    match g with
    | .literal c =>
      simp only [List.map_cons, List.cons_append, firstFit]
      cases s with
      | nil =>
        cases t with
        | nil => rfl
        | cons d t =>
          have hd : c ≠ d := ne_of_isSegmentChar hg (ht d rfl)
          simp [expect, hd.symm]
      | cons d s =>
        by_cases hd : d = c
        · simpa [expect, hd] using ih fun e he => hs e (by simp [he])
        · simp [expect, hd]
    | .segment captured =>
      simp only [List.map_cons, List.cons_append, firstFit]
      cases s with
      | nil =>
        cases t with
        | nil => rfl
        | cons d t => simp [ht d rfl]
      | cons d s =>
        have hd : isSegmentChar d = true := hs d (by simp)
        simp only [List.cons_append, hd, if_true]
        exact greedy_capture_append (d :: s) ht (fun e he => hs e (by simp [he]))
          fun v hv => ih hv

theorem SegmentGlob.firstFit_append (g : SegmentGlob) (rest : Rest) (s : Segment)
    (segments : List Segment) :
    firstFit (g.pieces ++ rest.pieces) (s.chars ++ afterDots segments)
      = (firstFit g.pieces s.chars).bind fun found =>
        (firstFit rest.pieces (afterDots segments)).map (found ++ ·) :=
  firstFit_globs_append g.inside s.plain (isSegmentChar_head?_afterDots segments)
    fun _ v hc => rest.firstFit_cons hc v

theorem SegmentGlob.firstFit_nil (g : SegmentGlob) (after : List Piece) :
    firstFit (g.pieces ++ after) [] = none := by
  obtain ⟨x, gs, h⟩ := List.exists_cons_of_ne_nil g.nonempty
  have hx : x.isInside = true := g.inside x (by simp [h])
  rw [pieces, h]
  cases x with
  | literal c => simp [firstFit, expect]
  | segment captured => simp [firstFit]
  | segments => cases hx

theorem greedy_expect_dot_append (next : List Char → Option α) {s : List Char}
    (hs : ∀ c ∈ s, isSegmentChar c = true) (t : List Char) :
    greedy isPathChar (expect '.' next) (s ++ t) = greedy isPathChar (expect '.' next) t := by
  induction s with
  | nil => rfl
  | cons c s ih =>
    have hc : isSegmentChar c = true := hs c (by simp)
    have hdot : c ≠ '.' := ne_of_isSegmentChar hc isSegmentChar_dot
    rw [List.cons_append, greedy_cons (isPathChar_of_isSegmentChar hc),
      ih fun d hd => hs d (by simp [hd])]
    simp [expect, hdot]

/-- A run before a dot takes whole segments, as many as it can. -/
theorem greedy_expect_dot {next : List Char → Option α} {f : List Segment → Option α}
    (hf : ∀ segments, expect '.' next (afterDots segments) = f segments)
    {s : List Char} (hs : ∀ c ∈ s, isSegmentChar c = true) (segments : List Segment) :
    greedy isPathChar (expect '.' next) (s ++ afterDots segments) = longestSkip f segments := by
  rw [greedy_expect_dot_append next hs]
  induction segments with
  | nil => exact hf []
  | cons t rest ih =>
    have hdot : isPathChar '.' = true := by decide
    rw [afterDots, greedy_cons hdot, greedy_expect_dot_append next t.plain, ih, longestSkip, ← hf]
    rfl

theorem longestSkip_fit_nil (segments : List Segment) :
    longestSkip (fit []) segments = some [] := by
  induction segments with
  | nil => rfl
  | cons s rest ih => simp [longestSkip, ih]

theorem SegmentGlob.expect_dot_firstFit (g : SegmentGlob) {rest : Rest}
    (ih : ∀ segments, firstFit rest.pieces (afterDots segments) = fit rest.steps segments)
    (segments : List Segment) :
    expect '.' (firstFit (g.pieces ++ rest.pieces)) (afterDots segments)
      = fit (.one g :: rest.steps) segments := by
  cases segments with
  | nil => rfl
  | cons s segments =>
    rw [fit, ← ih, ← g.firstFit_append]
    rfl

theorem Rest.firstFit_afterDots (rest : Rest) (segments : List Segment) :
    firstFit rest.pieces (afterDots segments) = fit rest.steps segments := by
  induction rest generalizing segments with
  | done => cases segments <;> rfl
  | trailing =>
    rw [steps, fit, longestSkip_fit_nil]
    cases segments with
    | nil => rfl
    | cons s rest =>
      have hpath : ∀ c ∈ s.chars ++ afterDots rest, isPathChar c = true := by
        rw [← toList_packageName_cons]
        exact all_isPathChar_packageName (s :: rest)
      have hall : greedy isPathChar (firstFit []) (s.chars ++ afterDots rest) = some [] :=
        greedy_eq_of_nil (by simp [firstFit]) hpath
      rw [pieces, firstFit, orElse_eq_or, afterDots, expect, if_pos (by decide), hall]
      rfl
  | dot g rest ih =>
    rw [pieces, firstFit, steps]
    exact g.expect_dot_firstFit ih segments
  | gap g rest ih =>
    have hone := g.expect_dot_firstFit ih
    rw [steps, pieces, fit, firstFit, orElse_eq_or, hone]
    cases segments with
    | nil => rfl
    | cons s segments =>
      rw [longestSkip, ← greedy_expect_dot hone s.plain segments]
      rfl

theorem SegmentGlob.firstFit_packageName (g : SegmentGlob) (rest : Rest)
    (segments : List Segment) :
    firstFit (g.pieces ++ rest.pieces) (packageName segments).toList
      = fit (.one g :: rest.steps) segments := by
  cases segments with
  | nil => exact g.firstFit_nil rest.pieces
  | cons s segments =>
    rw [toList_packageName_cons, g.firstFit_append, rest.firstFit_afterDots, fit]

/-- The first fit of a pattern with a package is the first fit of its steps with the segments. -/
theorem Shape.firstFit_packageName (p : Shape) (segments : List Segment) :
    firstFit p.pieces (packageName segments).toList = fit p.steps segments := by
  match p with
  | .anything =>
    rw [pieces, steps, fit, longestSkip_fit_nil, firstFit]
    exact greedy_eq_of_nil (by simp [capture, firstFit]) (all_isPathChar_packageName segments)
  | .globs false first rest => exact first.firstFit_packageName rest segments
  | .globs true first rest =>
    have hone := first.expect_dot_firstFit rest.firstFit_afterDots
    have hfirst := first.firstFit_packageName rest segments
    rw [pieces, steps, if_pos rfl, if_pos rfl, List.singleton_append, List.singleton_append, fit,
      firstFit, orElse_eq_or, hfirst]
    cases segments with
    | nil =>
      rw [longestSkip]
      rfl
    | cons s segments =>
      rw [toList_packageName_cons, greedy_expect_dot hone s.plain, longestSkip]

end Conformance.Package
