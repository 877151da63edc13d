import Conformance.Proofs.Result
import Conformance.Template.Basic

/-! What one filling in of a template tells about others. With other values of the same kinds the
same steps are taken. Apart from specifications that are filled in themselves only the size of a
number makes a difference: some formats take code points alone, and some what is not too large for a
floating-point number. -/
namespace Conformance

def IsCodePoint (n : Int) : Prop := 0 ≤ n ∧ n < 0x110000

instance (n : Int) : Decidable (IsCodePoint n) := inferInstanceAs (Decidable (_ ∧ _))

namespace Number

theorem log2Ratio_one_le (num : Nat) : log2Ratio num 1 ≤ num.log2 := by
  have hone : Nat.log2 1 = 0 := by decide
  unfold log2Ratio
  rw [hone]
  dsimp only
  split <;> omega

namespace Binary64

theorem ofRatio_finite (s : Bool) {num den : Nat} (h : log2Ratio num den ≤ 1000) :
    ∃ m e, ofRatio s num den = .finite s m e := by
  unfold ofRatio
  split
  · exact ⟨0, -1074, rfl⟩
  · dsimp only
    split
    · rw [if_neg (by dsimp only; omega)]
      exact ⟨_, _, rfl⟩
    · rw [if_neg (by dsimp only; omega)]
      exact ⟨_, _, rfl⟩

theorem ofInt_finite {n : Int} (h : IsCodePoint n) : ∃ s m e, ofInt n = .finite s m e := by
  unfold IsCodePoint at h
  have hlog : log2Ratio n.natAbs 1 ≤ 1000 := by
    have hle := log2Ratio_one_le n.natAbs
    by_cases hzero : n.natAbs = 0
    · rw [hzero]
      decide
    · have hlt : n.natAbs.log2 < 21 := (Nat.log2_lt hzero).2 (by omega)
      omega
  obtain ⟨m, e, he⟩ := ofRatio_finite (n < 0) hlog
  exact ⟨_, m, e, he⟩

end Binary64

end Number

namespace Template

/-! Formats. -/

def Any {α β : Type} (_ : α) (_ : β) : Prop := True

theorem formatText_covers (s t : String) (spec : List Char) :
    Covers Any (formatText s spec) (formatText t spec) := by
  unfold formatText
  refine .ite (fun _ => .ok trivial) fun _ => .bind (.refl _) ?_
  rintro l _ rfl
  dsimp only
  split
  · split
    · exact .error _ _
    · exact .error _ _
    · refine .ite (fun _ => .error _ _) fun _ => ?_
      refine .ite (fun _ => .error _ _) fun _ => ?_
      exact .ite (fun _ => .error _ _) fun _ => .ok trivial
  · exact .error _ _

theorem formatCharacter_covers (m : Int) {n : Int} (h : IsCodePoint n) (l : Layout) :
    Covers Any (formatCharacter l m) (formatCharacter l n) := by
  unfold formatCharacter
  refine .ite (fun _ => .error _ _) fun _ => .ite (fun _ => .error _ _) fun _ => ?_
  intro _ _
  have hlarge : ¬ (n < -(tooLarge : Int) ∨ (tooLarge : Int) ≤ n) := by
    unfold IsCodePoint at h
    unfold tooLarge
    omega
  have hrange : ¬ (n < 0 ∨ 0x110000 ≤ n) := by
    unfold IsCodePoint at h
    omega
  rw [if_neg hlarge, if_neg hrange]
  exact ⟨_, rfl, trivial⟩

theorem formatInteger_covers (m : Int) {n : Int} (h : IsCodePoint n) (type : String)
    (spec : List Char) :
    Covers Any (formatInteger type m spec) (formatInteger type n spec) := by
  unfold formatInteger
  refine .bind (.refl _) ?_
  rintro l _ rfl
  refine .ite (fun _ => ?_) fun _ => .ite (fun _ => ?_) fun _ => .error _ _
  · obtain ⟨_, _, _, hfinite⟩ := Number.Binary64.ofInt_finite h
    intro _ _
    rw [hfinite]
    exact ⟨_, rfl, trivial⟩
  · refine .ite (fun _ => .error _ _) fun _ => .ite (fun _ => .error _ _) fun _ => ?_
    exact .ite (fun _ => formatCharacter_covers m h l) fun _ => .ok trivial

/-! Fields. -/

/-- A trial value and a value that it stands for: an empty text for a text, and a number for a
number, which has to be a code point where numbers are to be `small`. -/
inductive StandsFor (small : Prop) : Datum → Datum → Prop
  | text (s : String) : StandsFor small (.text "") (.text s)
  | number (m : Int) {n : Int} (h : small → IsCodePoint n) : StandsFor small (.int m) (.int n)

inductive Alike (small : Prop) : Datum → Datum → Prop
  | text (s t : String) : Alike small (.text s) (.text t)
  | number (m : Int) {n : Int} (h : small → IsCodePoint n) : Alike small (.int m) (.int n)

variable {small : Prop} {d e : Datum}

theorem StandsFor.apply (h : StandsFor small d e) (step : Step) :
    Covers (StandsFor small) (step.apply d) (step.apply e) := by
  cases h with
  | text s =>
    cases step with
    | member name => exact .error _ _
    | index n => exact .error _ _
    | key name => exact .error _ _
  | number m h =>
    cases step with
    | member name =>
      refine .ite (fun _ => .ok (.number m h)) fun _ => ?_
      refine .ite (fun _ => .ok (.number 0 fun _ => by decide)) fun _ => ?_
      exact .ite (fun _ => .ok (.number 1 fun _ => by decide)) fun _ => .error _ _
    | index n => exact .error _ _
    | key name => exact .error _ _

theorem StandsFor.follow (h : StandsFor small d e) (fuel : Nat) (s : List Char) :
    Covers (StandsFor small) (follow fuel d s) (follow fuel e s) := by
  induction fuel generalizing d e s with
  | zero => exact .ok h
  | succ fuel ih =>
    refine .bind (.refl _) ?_
    rintro (_ | ⟨step, rest⟩) _ rfl
    · exact .ok h
    · exact (h.apply step).bind fun _ _ h' => ih h' rest

def Values.StandFor (small : Prop) : Values → Values → Prop :=
  List.Forall₂ fun p q => p.1 = q.1 ∧ StandsFor small p.2 q.2

variable {trial values : Values}

theorem Values.StandFor.lookup (h : Values.StandFor small trial values) (name : String) :
    trial.lookup name = none ∧ values.lookup name = none ∨
      ∃ d e, trial.lookup name = some d ∧ values.lookup name = some e ∧ StandsFor small d e := by
  induction h with
  | nil => exact .inl ⟨rfl, rfl⟩
  | @cons p q ps qs hpq _ ih =>
    obtain ⟨k, d⟩ := p
    obtain ⟨_, e⟩ := q
    obtain ⟨rfl, hde⟩ := hpq
    rw [List.lookup_cons, List.lookup_cons]
    cases name == k with
    | true => exact .inr ⟨d, e, rfl, rfl, hde⟩
    | false => exact ih

theorem resolve_covers (h : Values.StandFor small trial values) (name : List Char) :
    Covers (StandsFor small) (resolve trial name) (resolve values name) := by
  refine .bind (.refl _) ?_
  rintro (_ | n) _ rfl
  · refine .ite (fun _ => .error _ _) fun _ => ?_
    rcases h.lookup (String.ofList (name.takeWhile fun c => !isStepStart c)) with
      ⟨htrial, _⟩ | ⟨d, e, htrial, hvalues, hde⟩
    · rw [htrial]
      exact .error _ _
    · rw [htrial, hvalues]
      exact hde.follow _ _
  · exact .error _ _

theorem convert_covers (h : StandsFor small d e) (conversion : Option Char) :
    Covers (Alike small) (convert d conversion) (convert e conversion) := by
  unfold convert
  split
  · cases h with
    | text s => exact .ok (.text _ s)
    | number m h => exact .ok (.number m h)
  · exact .ok (.text _ _)
  · exact .ok (.text _ _)
  · exact .ok (.text _ _)
  · exact .error _ _

theorem format_covers (h : Alike small d e) {spec : List Char} (hspec : spec ≠ [] → small) :
    Covers Any (format d spec) (format e spec) := by
  cases h with
  | text s t => exact formatText_covers s t spec
  | number m h =>
    refine .ite (fun _ => .ok trivial) fun hne => ?_
    have hsmall : small := hspec (by simpa using hne)
    exact formatInteger_covers m (h hsmall) "int" spec

theorem renderField_covers (h : Values.StandFor small trial values)
    (inner inner' : List Char → Except Fault (List Char)) {f : Field} (hnested : f.nested = false)
    (hspec : f.spec ≠ [] → small) :
    Covers Any (renderField inner trial f) (renderField inner' values f) := by
  unfold renderField
  refine (resolve_covers h f.name).bind fun d e hde => ?_
  refine (convert_covers hde f.conversion).bind fun d e hde => ?_
  rw [hnested]
  exact format_covers hde hspec

/-! Templates. -/

def fieldsWithin : Nat → List Char → List Field
  | 0, _ => []
  | _, [] => []
  | fuel + 1, c :: rest =>
    match nextPiece c rest with
    | .error _ => []
    | .ok (.char _, rest) => fieldsWithin fuel rest
    | .ok (.field f, rest) => f :: fieldsWithin fuel rest

def fields (template : String) : List Field :=
  fieldsWithin (template.toList.length + 1) template.toList

theorem renderPieces_covers {inner inner' : List Char → Except Fault (List Char)} {fuel : Nat}
    {s : List Char} (h : ∀ f ∈ fieldsWithin fuel s,
      Covers Any (renderField inner trial f) (renderField inner' values f)) :
    Covers Any (renderPieces inner trial fuel s) (renderPieces inner' values fuel s) := by
  induction fuel generalizing s with
  | zero => exact .ok trivial
  | succ fuel ih =>
    cases s with
    | nil => exact .ok trivial
    | cons c rest =>
      rw [fieldsWithin] at h
      rw [renderPieces, renderPieces]
      cases hpiece : nextPiece c rest with
      | error m => exact .error _ _
      | ok found =>
        obtain ⟨piece, rest⟩ := found
        simp only [hpiece] at h
        cases piece with
        | char c => exact (ih h).bind fun _ _ _ => .ok trivial
        | field f =>
          obtain ⟨hf, hrest⟩ := List.forall_mem_cons.1 h
          exact hf.bind fun _ _ _ => (ih hrest).bind fun _ _ _ => .ok trivial

/-- A template without nested fields that can be filled in with trial values can be filled in with
all values that these stand for. -/
theorem render_covers (h : Values.StandFor small trial values) {template : String}
    (hfields : ∀ f ∈ fields template, f.nested = false ∧ (f.spec ≠ [] → small)) :
    Covers Any (render trial template) (render values template) := by
  have hpieces : Covers Any (renderNested trial 2 template.toList)
      (renderNested values 2 template.toList) :=
    renderPieces_covers fun f hf => renderField_covers h _ _ (hfields f hf).1 (hfields f hf).2
  exact hpieces.map fun _ _ _ => trivial

end Template

end Conformance
