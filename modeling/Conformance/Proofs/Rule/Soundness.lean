import Conformance.Proofs.Rule.Independence
import Conformance.Proofs.Template.Refusal

/-! What the check of a rule is worth. On a graph without repeated names, and with predicates that
answer, a valid rule can fail over the wording of a violation and over nothing else; and it does not
fail over that if no specification in its template is filled in itself and the counts that are
formatted are code points. -/
namespace Conformance

open Facts

namespace Rule

variable {r : Rule} {g : Graph}

/-- The counts that the messages of a rule over a graph can name. -/
def Names (r : Rule) (g : Graph) (actual : Nat) (expected : Datum) : Prop :=
  actual = 0 ∧ expected = .int 0 ∨
    r.kind = .count ∧ actual = (r.selected g).length ∧ expected = r.expected

section
variable {bad : Failure → Prop}

theorem evaluateEach_failsOnlyBy {condition : Predicate} {wanted : Bool} {items : List Selected}
    (hcondition : condition.Answers (items.map Selected.item))
    (h : ∀ item source target,
      FailsOnlyBy bad (r.violation item (r.values item 0 (.int 0) source target))) :
    FailsOnlyBy bad (r.evaluateEach condition wanted items) := by
  induction items with
  | nil => exact .ok []
  | cons s rest ih =>
    obtain ⟨⟨b, hb⟩, hrest⟩ := List.forall_mem_cons.1 hcondition
    rw [evaluateEach, hb]
    change FailsOnlyBy bad (if _ then _ else _)
    split
    · exact ih hrest
    · exact (h _ _ _).bind fun v _ => (ih hrest).bind fun vs _ => .ok (v :: vs)

theorem evaluate_failsOnlyBy (hvalidate : g.validate = .ok ()) (hcheck : r.check = .ok ())
    (hselection : r.selection.Answers ((candidates g r.scope).map Selected.item))
    (hcondition : ∀ c, r.condition = some c → c.Answers ((r.selected g).map Selected.item))
    (h : ∀ item actual expected source target, r.Names g actual expected →
      FailsOnlyBy bad (r.violation item (r.values item actual expected source target))) :
    FailsOnlyBy bad (r.evaluate g) := by
  have heach : ∀ c wanted, r.condition = some c →
      FailsOnlyBy bad (r.evaluateEach c wanted (r.selected g)) := by
    intro c wanted hc
    exact evaluateEach_failsOnlyBy (hcondition c hc) fun _ _ _ => h _ _ _ _ _ (.inl ⟨rfl, rfl⟩)
  cases hkind : r.kind with
  | independent =>
    rw [evaluate_independent hvalidate hcheck hkind hselection]
    exact .mapM fun p _ => h _ _ _ _ _ (.inl ⟨rfl, rfl⟩)
  | count =>
    rw [evaluate, select_of_answers hvalidate hselection, hkind]
    change FailsOnlyBy bad (r.evaluateCount (r.selected g))
    unfold evaluateCount
    split
    · exact .ok []
    · exact (h _ _ _ _ _ (.inr ⟨hkind, rfl, rfl⟩)).bind fun v _ => .ok [v]
  | all =>
    obtain ⟨c, hc⟩ := exists_condition_of_check hcheck (.inl hkind)
    rw [evaluate, select_of_answers hvalidate hselection, hkind, hc]
    exact heach c _ hc
  | none =>
    obtain ⟨c, hc⟩ := exists_condition_of_check hcheck (.inr hkind)
    rw [evaluate, select_of_answers hvalidate hselection, hkind, hc]
    exact heach c _ hc

end

theorem violation_failsOnlyBy (item : String) (values : Template.Values) :
    FailsOnlyBy (fun failure => ∃ fault, failure = .template fault) (r.violation item values) := by
  unfold violation
  split
  · exact .ok _
  · exact .error ⟨_, rfl⟩

/-! Wording. -/

theorem standFor_values {small : Prop} (item : String) {actual : Nat} {expected : Int}
    (source target : String) (hactual : small → IsCodePoint actual)
    (hexpected : small → IsCodePoint expected) :
    Template.Values.StandFor small trialValues
      (r.values item actual (.int expected) source target) := by
  simp only [Template.Values.StandFor, trialValues, values, List.forall₂_cons, true_and]
  exact ⟨.text _, .text _, .text _, .number 0 hactual, .number 0 hexpected, .text _, .text _, .nil⟩

/-- Some field in the template of a rule has a specification. -/
def Formats (r : Rule) : Prop := ∃ f ∈ Template.fields r.template, f.spec ≠ []

/-- The counts of a rule of number that formats them are code points. -/
def SmallCounts (r : Rule) (g : Graph) : Prop :=
  r.kind = .count → r.Formats →
    IsCodePoint (r.selected g).length ∧ ∀ n : Nat, r.expected = .int n → IsCodePoint n

theorem violation_of_check (hcheck : r.check = .ok ())
    (hnested : ∀ f ∈ Template.fields r.template, f.nested = false) (hsmall : r.SmallCounts g)
    {actual : Nat} {expected : Datum} (hnames : r.Names g actual expected)
    (item source target : String) :
    ∃ v, r.violation item (r.values item actual expected source target) = .ok v := by
  have hstand : Template.Values.StandFor r.Formats trialValues
      (r.values item actual expected source target) := by
    rcases hnames with ⟨rfl, rfl⟩ | ⟨hkind, rfl, rfl⟩
    · exact standFor_values _ _ _ (fun _ => by decide) fun _ => by decide
    · obtain ⟨n, hn⟩ := expected_of_check hcheck hkind
      rw [hn]
      exact standFor_values _ _ _ (fun hformats => (hsmall hkind hformats).1)
        fun hformats => (hsmall hkind hformats).2 n hn
  obtain ⟨trial, htrial⟩ := render_trial_of_check hcheck
  obtain ⟨text, htext, _⟩ := Template.render_covers hstand
    (fun f hf => ⟨hnested f hf, fun hspec => ⟨f, hf, hspec⟩⟩) trial htrial
  rw [violation, htext]
  exact ⟨_, rfl⟩

/-- The messages of a valid rule are made of whole texts and of parts of numbers. What is said of
messages is said of such templates: one that asks a text for an attribute is not among them. -/
theorem takesTextsWhole_of_check (hcheck : r.check = .ok ()) :
    ∀ f ∈ Template.fieldsThrough r.template, f.TakesTextsWhole := by
  obtain ⟨trial, htrial⟩ := render_trial_of_check hcheck
  exact Template.takesTextsWhole_of_render htrial

theorem fields_defaultMessage (k : ConditionKind) :
    ∀ f ∈ Template.fields k.defaultMessage, f.nested = false ∧ f.spec = [] := by
  cases k <;> decide

/-! Evaluation. -/

section
variable (hvalidate : g.validate = .ok ()) (hcheck : r.check = .ok ())
  (hselection : r.selection.Answers ((candidates g r.scope).map Selected.item))
  (hcondition : ∀ c, r.condition = some c → c.Answers ((r.selected g).map Selected.item))

include hvalidate hcheck hselection hcondition

theorem evaluate_of_check (hnested : ∀ f ∈ Template.fields r.template, f.nested = false)
    (hsmall : r.SmallCounts g) : ∃ violations, r.evaluate g = .ok violations := by
  refine FailsOnlyBy.exists_ok (evaluate_failsOnlyBy hvalidate hcheck hselection hcondition ?_)
  intro item actual expected source target hnames failure hfailure
  obtain ⟨v, hv⟩ := violation_of_check hcheck hnested hsmall hnames item source target
  rw [hv] at hfailure
  contradiction

/-- A valid rule that leaves its message to its kind can be evaluated, whatever the counts. -/
theorem evaluate_of_default (hmessage : r.message = none) :
    ∃ violations, r.evaluate g = .ok violations := by
  have htemplate : r.template = r.kind.defaultMessage := by rw [template, hmessage]
  have hfields := fields_defaultMessage r.kind
  rw [← htemplate] at hfields
  apply evaluate_of_check hvalidate hcheck hselection hcondition
  · exact fun f hf => (hfields f hf).1
  · rintro _ ⟨f, hf, hspec⟩
    exact absurd (hfields f hf).2 hspec

/-- What the check of a rule keeps from happening in its evaluation. -/
theorem check_settles_evaluate :
    (∀ failure, r.evaluate g = .error failure → ∃ fault, failure = .template fault) ∧
      ((∀ f ∈ Template.fields r.template, f.nested = false) → r.SmallCounts g →
        ∃ violations, r.evaluate g = .ok violations) := by
  constructor
  · exact evaluate_failsOnlyBy hvalidate hcheck hselection hcondition
      fun _ _ _ _ _ _ => violation_failsOnlyBy _ _
  · exact evaluate_of_check hvalidate hcheck hselection hcondition

end

def refusing (message : String) : Rule :=
  { plain "refusing" .anything .none with condition := some .anything, message := some message }

def single : Graph := Graph.build [Node.known "a.B"] []

theorem single_eq : single = .ofSorted [Node.known "a.B"] [] := by
  rw [single, Graph.build, sortedNodes_eq_self (by decide)]
  rfl

theorem check_settles_padded :
    single.validate = .ok () ∧ (refusing "\x7bitem:>8\x7d").check = .ok () ∧
      ∃ violations, (refusing "\x7bitem:>8\x7d").evaluate single = .ok violations := by
  have hvalidate : single.validate = .ok () := Graph.validate_build_iff.2 (by decide)
  have hcheck : (refusing "\x7bitem:>8\x7d").check = .ok () := by rfl
  have hcondition : ∀ c, (refusing "\x7bitem:>8\x7d").condition = some c →
      c.Answers (((refusing "\x7bitem:>8\x7d").selected single).map Selected.item) := by
    rintro _ ⟨⟩
    exact Predicate.answers_anything _
  refine ⟨hvalidate, hcheck,
    (check_settles_evaluate hvalidate hcheck (Predicate.answers_anything _) hcondition).2 ?_ ?_⟩
  · decide
  · intro hkind
    contradiction

/-- A field inside a specification has a count laid out by the name of an item: the trial, in which
that name is empty, says nothing about it. -/
theorem check_misses_nested :
    ¬ ∀ (r : Rule) (g : Graph), g.validate = .ok () → r.check = .ok () →
      r.selection.Answers ((candidates g r.scope).map Selected.item) →
      (∀ c, r.condition = some c → c.Answers ((r.selected g).map Selected.item)) →
      ∃ violations, r.evaluate g = .ok violations := by
  intro h
  have hfails : (refusing "\x7bactual:\x7bitem\x7d\x7d").evaluate single
      = .error (.template (.format (.invalid "a.B" "int"))) := by
    rw [single_eq]
    rfl
  obtain ⟨violations, hok⟩ := h (refusing "\x7bactual:\x7bitem\x7d\x7d") single
    (Graph.validate_build_iff.2 (by decide)) (by rfl) (Predicate.answers_anything _) (by
      rintro _ ⟨⟩
      exact Predicate.answers_anything _)
  rw [hfails] at hok
  contradiction

end Rule

end Conformance
