import Conformance.Failure
import Conformance.Proofs.Template.Trial
import Conformance.Rule.Validation

/-! How a trial of a template can fail, and what passes it. Its values are empty texts and zeros, and
what is made of them stays small, so that no number is too large for its format. An empty text has no
parts, so that no part of a text is asked for by a template that passes. -/
namespace Conformance.Template

/-- The faults that the trial of a template foresees. -/
def Foreseen (fault : Fault) : Prop :=
  Failure.templateKind fault ∈ [.key, .index, .value, .member, .type]

theorem foreseen_malformed (m : Malformation) : Foreseen (.malformed m) := by
  simp [Foreseen, Failure.templateKind]

theorem foreseen_format (f : FormatFault) : Foreseen (.format f) := by
  simp [Foreseen, Failure.templateKind]

/-! Formats. -/

theorem digitRun_failsOnlyBy (s : List Char) : FailsOnlyBy Foreseen (digitRun s) :=
  .ite (fun _ => .error (foreseen_malformed _)) fun _ => .ok _

theorem read_failsOnlyBy (type : String) (align : Char) (code : Option Char) (spec : List Char) :
    FailsOnlyBy Foreseen (Layout.read type align code spec) := by
  unfold Layout.read
  dsimp only
  refine (digitRun_failsOnlyBy _).bind fun width _ => ?_
  refine .ite (fun _ => .error (foreseen_format _)) fun _ => ?_
  refine .ite (fun _ => (digitRun_failsOnlyBy _).bind fun precision _ => ?_) fun _ =>
    .bind (.ok _) fun precision _ => ?_
  all_goals
    refine .ite (fun _ => .error (foreseen_format _)) fun _ => ?_
    split
    · refine .bind (.ok _) fun code _ => ?_
      split
      · exact .ite (fun _ => .error (foreseen_format _)) fun _ => .ok _
      · exact .ok _
    · refine .bind (.ok _) fun code _ => ?_
      split
      · exact .ite (fun _ => .error (foreseen_format _)) fun _ => .ok _
      · exact .ok _
    · exact .error (foreseen_format _)

theorem formatText_failsOnlyBy (s : String) (spec : List Char) :
    FailsOnlyBy Foreseen (formatText s spec) := by
  unfold formatText
  refine .ite (fun _ => .ok _) fun _ => (read_failsOnlyBy _ _ _ _).bind fun l _ => ?_
  dsimp only
  split
  · split
    · exact .error (foreseen_format _)
    · exact .error (foreseen_format _)
    · refine .ite (fun _ => .error (foreseen_format _)) fun _ => ?_
      refine .ite (fun _ => .error (foreseen_format _)) fun _ => ?_
      exact .ite (fun _ => .error (foreseen_format _)) fun _ => .ok _
  · exact .error (foreseen_format _)

theorem formatCharacter_failsOnlyBy {n : Int} (h : IsCodePoint n) (l : Layout) :
    FailsOnlyBy Foreseen (formatCharacter l n) := by
  have hlarge : ¬ (n < -(tooLarge : Int) ∨ (tooLarge : Int) ≤ n) := by
    unfold IsCodePoint at h
    unfold tooLarge
    omega
  have hrange : ¬ (n < 0 ∨ 0x110000 ≤ n) := by
    unfold IsCodePoint at h
    omega
  unfold formatCharacter
  refine .ite (fun _ => .error (foreseen_format _)) fun _ => ?_
  refine .ite (fun _ => .error (foreseen_format _)) fun _ => ?_
  exact .ite (fun h => absurd h hlarge) fun _ => .ite (fun h => absurd h hrange) fun _ => .ok _

theorem formatInteger_failsOnlyBy (type : String) {n : Int} (h : IsCodePoint n) (spec : List Char) :
    FailsOnlyBy Foreseen (formatInteger type n spec) := by
  unfold formatInteger
  refine (read_failsOnlyBy _ _ _ _).bind fun l _ => ?_
  refine .ite (fun _ => ?_) fun _ => .ite (fun _ => ?_) fun _ => .error (foreseen_format _)
  · obtain ⟨_, _, _, hfinite⟩ := Number.Binary64.ofInt_finite h
    rw [hfinite]
    exact .ok _
  · refine .ite (fun _ => .error (foreseen_format _)) fun _ => ?_
    refine .ite (fun _ => .error (foreseen_format _)) fun _ => ?_
    exact .ite (fun _ => formatCharacter_failsOnlyBy h l) fun _ => .ok _

theorem format_failsOnlyBy {d e : Datum} (h : Alike True d e) (spec : List Char) :
    FailsOnlyBy Foreseen (format e spec) := by
  cases h with
  | text _ s => exact formatText_failsOnlyBy s spec
  | number _ h =>
    exact .ite (fun _ => .ok _) fun _ => formatInteger_failsOnlyBy "int" (h trivial) spec

/-! Fields. -/

theorem foreseen_missingKey (literal : String) : Foreseen (.missingKey literal) := by
  simp [Foreseen, Failure.templateKind]

theorem foreseen_notIndexed (type : String) : Foreseen (.notIndexed type) := by
  simp [Foreseen, Failure.templateKind]

theorem foreseen_noAttribute (type name : String) : Foreseen (.noAttribute type name) := by
  simp [Foreseen, Failure.templateKind]

theorem apply_failsOnlyBy (d : Datum) (step : Step) : FailsOnlyBy Foreseen (step.apply d) := by
  unfold Step.apply
  split
  · dsimp only
    split
    · refine .ite (fun _ => .ok _) fun _ => .ite (fun _ => .ok _) fun _ => ?_
      exact .ite (fun _ => .ok _) fun _ => .error (foreseen_noAttribute _ _)
    · refine .ite (fun _ => .ok _) fun _ => .ite (fun _ => .ok _) fun _ => ?_
      exact .ite (fun _ => .ok _) fun _ => .error (foreseen_noAttribute _ _)
    · refine .ite (fun _ => .ok _) fun _ => ?_
      exact .ite (fun _ => .ok _) fun _ => .error (foreseen_noAttribute _ _)
    · exact .error (foreseen_noAttribute _ _)
  · split
    · split
      · exact .ok _
      · exact .error (by simp [Foreseen, Failure.templateKind])
    · split
      · exact .ok _
      · exact .error (by simp [Foreseen, Failure.templateKind])
    · split
      · exact .ok _
      · exact .error (foreseen_missingKey _)
    · exact .error (foreseen_notIndexed _)
  · split
    · exact .error (by simp [Foreseen, Failure.templateKind])
    · exact .error (by simp [Foreseen, Failure.templateKind])
    · split
      · exact .ok _
      · exact .error (foreseen_missingKey _)
    · exact .error (foreseen_notIndexed _)

theorem wholeNumber?_failsOnlyBy (s : List Char) : FailsOnlyBy Foreseen (wholeNumber? s) :=
  (digitRun_failsOnlyBy s).bind fun _ _ => .ok _

theorem readStep_failsOnlyBy (s : List Char) : FailsOnlyBy Foreseen (readStep s) := by
  unfold readStep
  split
  · exact .ok _
  · exact .ite (fun _ => .error (foreseen_malformed _)) fun _ => .ok _
  · refine .ite (fun _ => .error (foreseen_malformed _)) fun _ => ?_
    refine (wholeNumber?_failsOnlyBy _).bind fun _ _ => ?_
    exact .ite (fun _ => .error (foreseen_malformed _)) fun _ => .ok _
  · exact .error (foreseen_malformed _)

theorem follow_failsOnlyBy (fuel : Nat) (d : Datum) (s : List Char) :
    FailsOnlyBy Foreseen (follow fuel d s) := by
  induction fuel generalizing d s with
  | zero => exact .ok d
  | succ fuel ih =>
    refine (readStep_failsOnlyBy s).bind fun found _ => ?_
    cases found with
    | none => exact .ok d
    | some found => exact (apply_failsOnlyBy d found.1).bind fun d _ => ih d found.2

theorem resolve_failsOnlyBy (values : Values) (name : List Char) :
    FailsOnlyBy Foreseen (resolve values name) := by
  unfold resolve
  refine (wholeNumber?_failsOnlyBy _).bind fun number _ => ?_
  cases number with
  | some n => exact .error (by simp [Foreseen, Failure.templateKind])
  | none =>
    refine .ite (fun _ => .error (by simp [Foreseen, Failure.templateKind])) fun _ => ?_
    split
    · exact .error (by simp [Foreseen, Failure.templateKind])
    · exact follow_failsOnlyBy _ _ _

theorem convert_failsOnlyBy (d : Datum) (conversion : Option Char) :
    FailsOnlyBy Foreseen (convert d conversion) := by
  unfold convert
  split
  · exact .ok _
  · exact .ok _
  · exact .ok _
  · exact .ok _
  · exact .error (foreseen_malformed _)

section
variable {values : Values} (hvalues : Values.StandFor True values values)
include hvalues

theorem renderField_failsOnlyBy {inner : List Char → Except Fault (List Char)}
    (hinner : ∀ s, FailsOnlyBy Foreseen (inner s)) (f : Field) :
    FailsOnlyBy Foreseen (renderField inner values f) := by
  unfold renderField
  refine (resolve_failsOnlyBy values f.name).bind fun d hd => ?_
  obtain ⟨e, he, hstands⟩ := resolve_covers hvalues f.name d hd
  obtain rfl : d = e := Except.ok.inj (hd.symm.trans he)
  refine (convert_failsOnlyBy d f.conversion).bind fun d hd => ?_
  obtain ⟨e, he, halike⟩ := convert_covers hstands f.conversion d hd
  obtain rfl : d = e := Except.ok.inj (hd.symm.trans he)
  refine .ite (fun _ => (hinner f.spec).bind fun spec _ => ?_) fun _ => ?_
  · exact format_failsOnlyBy halike spec
  · exact format_failsOnlyBy halike f.spec

/-! Templates. -/

theorem renderPieces_failsOnlyBy {inner : List Char → Except Fault (List Char)}
    (hinner : ∀ s, FailsOnlyBy Foreseen (inner s)) (fuel : Nat) (s : List Char) :
    FailsOnlyBy Foreseen (renderPieces inner values fuel s) := by
  induction fuel generalizing s with
  | zero => exact .ok _
  | succ fuel ih =>
    cases s with
    | nil => exact .ok _
    | cons c rest =>
      rw [renderPieces]
      split
      · exact .error (foreseen_malformed _)
      · exact (ih _).bind fun _ _ => .ok _
      · refine (renderField_failsOnlyBy hvalues hinner _).bind fun _ _ => ?_
        exact (ih _).bind fun _ _ => .ok _

theorem renderNested_failsOnlyBy (depth : Nat) (s : List Char) :
    FailsOnlyBy Foreseen (renderNested values depth s) := by
  induction depth generalizing s with
  | zero => exact .error (foreseen_malformed _)
  | succ depth ih => exact renderPieces_failsOnlyBy hvalues ih _ s

end

/-- Whatever is wrong with a template, its trial foresees. -/
theorem trial_failsOnlyBy (template : String) :
    FailsOnlyBy Foreseen (render Rule.trialValues template) := by
  have hvalues : Values.StandFor True Rule.trialValues Rule.trialValues := by
    simp only [Values.StandFor, Rule.trialValues, List.forall₂_cons, true_and]
    exact ⟨.text _, .text _, .text _, .number 0 fun _ => by decide, .number 0 fun _ => by decide,
      .text _, .text _, .nil⟩
  exact (renderNested_failsOnlyBy hvalues 2 _).map _

/-! What a trial lets through. -/

def fieldsThrough (template : String) : List Field :=
  (fields template).flatMap fun f =>
    f :: if f.nested then fieldsWithin (f.spec.length + 1) f.spec else []

/-- The field names a text as a whole, or else a number or a part of one. -/
def Field.TakesTextsWhole (f : Field) : Prop :=
  (∀ c ∈ f.name, isStepStart c = false) ∨
    String.ofList (f.name.takeWhile fun c => !isStepStart c) ∈ ["actual", "expected"]

theorem gives_readStep (s : List Char) : Gives (fun found => found = none → s = []) (readStep s) := by
  unfold readStep
  split
  · exact .ok fun _ => rfl
  · exact .ite (fun _ => .error _) fun _ => .ok (by simp)
  · exact .ite (fun _ => .error _) fun _ => .bind_any fun _ =>
      .ite (fun _ => .error _) fun _ => .ok (by simp)
  · exact .error _

theorem eq_nil_of_follow {fuel : Nat} {s : List Char} {d : Datum}
    (h : follow (fuel + 1) (.text "") s = .ok d) : s = [] := by
  rw [follow] at h
  obtain ⟨found, hfound, h⟩ := bind_eq_ok.1 h
  cases found with
  | none => exact gives_readStep s none hfound rfl
  | some found =>
    obtain ⟨e, he, -⟩ := bind_eq_ok.1 h
    obtain ⟨step, rest⟩ := found
    cases step <;> contradiction

theorem lookup_trialValues {name : String} {d : Datum} (h : Rule.trialValues.lookup name = some d) :
    d = .text "" ∨ name ∈ ["actual", "expected"] := by
  obtain ⟨before, after, heq, -⟩ := List.lookup_eq_some_iff.1 h
  have hmem : (name, d) ∈ Rule.trialValues := by simp [heq]
  simp only [Rule.trialValues, List.mem_cons, Prod.mk.injEq, List.not_mem_nil, or_false] at hmem
  grind

theorem takesTextsWhole_of_resolve {f : Field} {d : Datum}
    (h : resolve Rule.trialValues f.name = .ok d) : f.TakesTextsWhole := by
  obtain ⟨number, -, h⟩ := bind_eq_ok.1 h
  cases number with
  | some n => contradiction
  | none =>
    dsimp only at h
    split at h
    · contradiction
    · split at h
      · contradiction
      · next e he =>
        rcases lookup_trialValues he with rfl | hname
        · have hall : f.name.takeWhile (fun c => !isStepStart c) = f.name :=
            (List.takeWhile_prefix _).eq_of_length_le (List.drop_eq_nil_iff.1 (eq_nil_of_follow h))
          refine .inl fun c hc => ?_
          rw [← hall] at hc
          simpa using List.all_eq_true.1 List.all_takeWhile c hc
        · exact .inr hname

theorem takesTextsWhole_of_renderField {inner : List Char → Except Fault (List Char)} {f : Field}
    {t : List Char} (h : renderField inner Rule.trialValues f = .ok t) : f.TakesTextsWhole := by
  obtain ⟨d, hd, -⟩ := bind_eq_ok.1 h
  exact takesTextsWhole_of_resolve hd

theorem exists_renderField {inner : List Char → Except Fault (List Char)} {values : Values}
    {fuel : Nat} {s t : List Char} (h : renderPieces inner values fuel s = .ok t) :
    ∀ f ∈ fieldsWithin fuel s, ∃ t, renderField inner values f = .ok t := by
  induction fuel generalizing s t with
  | zero => simp [fieldsWithin]
  | succ fuel ih =>
    cases s with
    | nil => simp [fieldsWithin]
    | cons c rest =>
      rw [fieldsWithin]
      rw [renderPieces] at h
      cases hpiece : nextPiece c rest with
      | error m =>
        rw [hpiece] at h
        contradiction
      | ok found =>
        obtain ⟨piece, rest⟩ := found
        rw [hpiece] at h
        cases piece with
        | char c =>
          obtain ⟨t, ht, -⟩ := bind_eq_ok.1 h
          exact ih ht
        | field f =>
          obtain ⟨here, hhere, h⟩ := bind_eq_ok.1 h
          obtain ⟨others, hothers, -⟩ := bind_eq_ok.1 h
          exact List.forall_mem_cons.2 ⟨⟨here, hhere⟩, ih hothers⟩

theorem exists_inner_of_renderField {inner : List Char → Except Fault (List Char)} {values : Values}
    {f : Field} {t : List Char} (hnested : f.nested = true)
    (h : renderField inner values f = .ok t) : ∃ spec, inner f.spec = .ok spec := by
  obtain ⟨_, -, h⟩ := bind_eq_ok.1 h
  obtain ⟨_, -, h⟩ := bind_eq_ok.1 h
  rw [if_pos hnested] at h
  obtain ⟨spec, hspec, -⟩ := bind_eq_ok.1 h
  exact ⟨spec, hspec⟩

/-- A template that passes its trial asks for no part of a text. -/
theorem takesTextsWhole_of_render {template t : String}
    (h : render Rule.trialValues template = .ok t) :
    ∀ f ∈ fieldsThrough template, f.TakesTextsWhole := by
  obtain ⟨out, hpieces, -⟩ := map_eq_ok.1 h
  have hfields := exists_renderField hpieces
  intro f hf
  obtain ⟨g, hg, hf⟩ := List.mem_flatMap.1 hf
  obtain ⟨here, hhere⟩ := hfields g hg
  rcases List.mem_cons.1 hf with rfl | hf
  · exact takesTextsWhole_of_renderField hhere
  · split at hf
    · next hnested =>
      obtain ⟨spec, hspec⟩ := exists_inner_of_renderField hnested hhere
      obtain ⟨inner, hinner⟩ := exists_renderField hspec f hf
      exact takesTextsWhole_of_renderField hinner
    · exact absurd hf List.not_mem_nil

end Conformance.Template
