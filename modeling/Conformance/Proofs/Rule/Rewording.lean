import Conformance.Proofs.Datum.Entries
import Conformance.Proofs.Predicate.Rearranged
import Conformance.Proofs.Rule.Evaluated
import Conformance.Proofs.Template.Subjects
import Conformance.Report.Check
import Conformance.Rule.File

/-! Edits of a rules document that do not change what it demands: reasons in other words, and
predicates with their entries in another order. The rules find the same violations, under the same
signatures, unless their messages quote the description of their conditions. -/
namespace Conformance

/-! Documents. -/

namespace RuleSet

/-- What may become of an entry of a rule: another reason, or the same predicate rearranged. -/
inductive EntryReworded : Scalar → Datum → Datum → Prop
  | because (d d' : Datum) : EntryReworded (.text "because") d d'
  | predicate {key : String} (hkey : key ∈ ["that", "all", "none"]) {d d' : Datum}
      (h : Rearranged d d') : EntryReworded (.text key) d d'
  | same (key : Scalar) (d : Datum) : EntryReworded key d d

inductive RuleReworded : Datum → Datum → Prop
  | mapping {entries others : Entries} (h : Entrywise EntryReworded entries others) :
      RuleReworded (.mapping entries) (.mapping others)
  | same (d : Datum) : RuleReworded d d

inductive RulesReworded : Scalar → Datum → Datum → Prop
  | rules {items others : List Datum} (h : List.Forall₂ RuleReworded items others) :
      RulesReworded (.text "rules") (.list items) (.list others)
  | same (key : Scalar) (d : Datum) : RulesReworded key d d

inductive Reworded : Datum → Datum → Prop
  | mapping {entries others : Entries} (h : Entrywise RulesReworded entries others) :
      Reworded (.mapping entries) (.mapping others)
  | same (d : Datum) : Reworded d d

theorem EntryReworded.symm {key : Scalar} {d d' : Datum} (h : EntryReworded key d d') :
    EntryReworded key d' d := by
  cases h with
  | because => exact .because d' d
  | predicate hkey h => exact .predicate hkey h.symm
  | same => exact .same key d

theorem RuleReworded.symm {d d' : Datum} (h : RuleReworded d d') : RuleReworded d' d := by
  cases h with
  | mapping h => exact .mapping (h.symm .symm)
  | same => exact .same d

theorem RulesReworded.symm {key : Scalar} {d d' : Datum} (h : RulesReworded key d d') :
    RulesReworded key d' d := by
  cases h with
  | rules h => exact .rules (List.Forall₂.flip (h.imp fun _ _ => RuleReworded.symm))
  | same => exact .same key d

theorem Reworded.symm {d d' : Datum} (h : Reworded d d') : Reworded d' d := by
  cases h with
  | mapping h => exact .mapping (h.symm .symm)
  | same => exact .same d

end RuleSet

/-! Rules. -/

namespace Rule

open Predicate Facts

/-- The same rule but for the reason, with predicates that answer alike on what it may select. -/
inductive Alike : Rule → Rule → Prop
  | mk (r : Rule) {selection : Predicate} {condition : Option Predicate} (because : String)
      (hselection : AnswersAlike r.scope r.selection selection)
      (hcondition : Option.Rel (AnswersAlike r.scope) r.condition condition) :
      Alike r { r with selection, condition, because }

variable {r r' : Rule}

theorem Alike.refl (r : Rule) : Alike r r := by
  refine .mk r r.because (fun _ => rfl) ?_
  cases r.condition with
  | none => exact .none
  | some condition => exact .some fun _ => rfl

theorem Alike.name_eq (h : Alike r r') : r'.name = r.name := by
  cases h
  rfl

theorem Alike.template_eq (h : Alike r r') : r'.template = r.template := by
  cases h
  rfl

theorem Alike.kind_eq (h : Alike r r') : r'.kind = r.kind := by
  cases h
  rfl

theorem Alike.condition (h : Alike r r') :
    Option.Rel (AnswersAlike r.scope) r.condition r'.condition := by
  cases h
  assumption

theorem Alike.freezer?_eq (h : Alike r r') : r'.freezer? = r.freezer? := by
  cases h
  rfl

theorem Alike.check_eq (h : Alike r r') : r'.check = r.check := by
  cases h with
  | @mk _ condition _ _ hcondition =>
    have hnone : condition.isNone = r.condition.isNone := by
      generalize r.condition = c at hcondition
      cases hcondition <;> rfl
    unfold check checkCondition
    rw [hnone]
    rfl

theorem checkAll_of_alike {rules others : List Rule} (h : List.Forall₂ Alike rules others)
    (hcheck : checkAll rules = .ok ()) : checkAll others = .ok () := by
  rw [checkAll_eq_ok_iff] at hcheck ⊢
  have hsame : others.map (·.check) = rules.map (·.check) ∧
      others.map (·.name) = rules.map (·.name) := by
    induction h with
    | nil => exact ⟨rfl, rfl⟩
    | cons h _ ih =>
      have hrest := ih ⟨(List.forall_mem_cons.1 hcheck.1).2, (List.nodup_cons.1 hcheck.2).2⟩
      simp [h.check_eq, h.name_eq, hrest]
  have hchecks : ∀ result ∈ rules.map (·.check), result = .ok () := List.forall_mem_map.2 hcheck.1
  rw [← hsame.1] at hchecks
  exact ⟨List.forall_mem_map.1 hchecks, hsame.2 ▸ hcheck.2⟩

/-! Evaluation. -/

/-- The messages of two rules are the same: where they quote the condition it is described in the
same words. -/
def SameWording (r r' : Rule) : Prop := "condition" ∈ Template.subjects r.template →
  r'.condition.map Predicate.description = r.condition.map Predicate.description

theorem Alike.violation_eq (h : Alike r r') (hwording : SameWording r r') (item : String)
    (actual : Nat) (expected : Datum) (source target : String) :
    r'.violation item (r'.values item actual expected source target)
      = r.violation item (r.values item actual expected source target) := by
  have hrender : Template.render (r'.values item actual expected source target) r.template
      = Template.render (r.values item actual expected source target) r.template := by
    by_cases hquoted : "condition" ∈ Template.subjects r.template
    · rw [values, values, hwording hquoted, h.name_eq]
    · refine Template.render_congr fun name hname => ?_
      have hne : (name == "condition") = false := by
        rw [beq_eq_false_iff_ne]
        rintro rfl
        exact hquoted hname
      simp only [values, h.name_eq, List.lookup_cons, hne]
  rw [violation, violation, h.template_eq, h.name_eq, hrender]

theorem Alike.select_eq (h : Alike r r') (g : Graph) : r'.select g = r.select g := by
  obtain ⟨name, selection, kind, condition, expected, scope, message, because, slices, freeze⟩ := r
  cases h with
  | @mk selection' _ _ hselection _ =>
    have htest : (fun x => selection'.test (scope.item x))
        = fun x => selection.test (scope.item x) := funext fun x => (hselection x).symm
    cases scope
    all_goals
      dsimp only [Scope.item] at htest
      simp only [select, htest]

theorem exists_item_of_select {g : Graph} {selected : List Selected}
    (h : r.select g = .ok selected) :
    ∀ s ∈ selected, ∃ x, s.item = r.scope.item x := by
  obtain ⟨name, selection, kind, condition, expected, scope, message, because, slices, freeze⟩ := r
  cases scope
  all_goals
    obtain ⟨xs, _, hxs⟩ := bind_eq_ok.1 h
    obtain rfl := Except.ok.inj hxs
    exact List.forall_mem_map.2 fun x _ => ⟨x, rfl⟩

theorem evaluateEach_eq {condition condition' : Predicate} {wanted : Bool}
    {selected : List Selected}
    (hviolation : ∀ item actual expected source target,
      r'.violation item (r'.values item actual expected source target)
        = r.violation item (r.values item actual expected source target))
    (h : ∀ s ∈ selected, condition.test s.item = condition'.test s.item) :
    r'.evaluateEach condition' wanted selected = r.evaluateEach condition wanted selected := by
  induction selected with
  | nil => rfl
  | cons s rest ih =>
    obtain ⟨hs, hrest⟩ := List.forall_mem_cons.1 h
    simp only [evaluateEach, hs, hviolation, ih hrest]

section
variable (h : Alike r r') (hwording : SameWording r r')
include h hwording

theorem Alike.evaluateCount_eq (selected : List Selected) :
    r'.evaluateCount selected = r.evaluateCount selected := by
  have hexpected : r'.expected = r.expected := by
    cases h
    rfl
  have hexpects : r'.expects selected.length = r.expects selected.length := by
    rw [expects, expects, hexpected]
  simp only [evaluateCount, hexpects, hexpected, h.violation_eq hwording]

theorem Alike.evaluateIndependent_eq (g : Graph) (selected : List Selected) :
    r'.evaluateIndependent g selected = r.evaluateIndependent g selected := by
  have hslices : r'.slices = r.slices := by
    cases h
    rfl
  simp only [evaluateIndependent, hslices, h.violation_eq hwording]

theorem Alike.evaluate_eq (g : Graph) : r'.evaluate g = r.evaluate g := by
  rw [evaluate, evaluate, h.select_eq g, h.kind_eq]
  cases hselect : r.select g with
  | error failure => rfl
  | ok selected =>
    have heach : ∀ {condition condition'} (wanted : Bool),
        AnswersAlike r.scope condition condition' →
        r'.evaluateEach condition' wanted selected = r.evaluateEach condition wanted selected := by
      intro condition condition' wanted halike
      refine evaluateEach_eq (h.violation_eq hwording) fun s hs => ?_
      obtain ⟨x, hx⟩ := exists_item_of_select hselect s hs
      rw [hx, halike x]
    have hcondition := h.condition
    generalize r'.condition = c' at hcondition
    generalize r.condition = c at hcondition
    cases r.kind with
    | count => exact h.evaluateCount_eq hwording selected
    | independent => exact h.evaluateIndependent_eq hwording g selected
    | all | none =>
      cases hcondition with
      | none => rfl
      | some halike => exact heach _ halike

end

end Rule

/-! Reading. -/

namespace RuleSet

open Rule Predicate

def editable : List String := ["because", "that", "all", "none"]

theorem EntryReworded.eq {key : String} {d d' : Datum} (hkey : key ∉ editable)
    (h : EntryReworded (.text key) d d') : d' = d := by
  cases h with
  | because => exact absurd (List.mem_cons_self) hkey
  | predicate hmem h => exact absurd (List.mem_cons_of_mem _ hmem) hkey
  | same => rfl

theorem EntryReworded.rearranged {key : String} {d d' : Datum} (hkey : key ≠ "because")
    (h : EntryReworded (.text key) d d') : Rearranged d d' := by
  cases h with
  | because => contradiction
  | predicate _ h => exact h
  | same => exact .same d

theorem readDemand_covers {kind : ConditionKind} {value value' : Datum}
    (hvalue : EntryReworded (.text kind.label) value value') (rule : String) {r r' : Rule}
    (halike : Alike r r') :
    Covers Alike (readDemand kind value r.scope rule r)
      (readDemand kind value' r.scope rule r') := by
  obtain ⟨because, hselection, hcondition⟩ := halike
  cases kind with
  | all | none =>
    refine .bind (read_rearranged (hvalue.rearranged (by decide)) r.scope _) fun p q hpq => ?_
    exact .ok (.mk { r with condition := some p } because hselection (.some hpq))
  | count =>
    obtain rfl := hvalue.eq (by decide)
    unfold readDemand
    dsimp only
    split
    · next n => exact .ok (.mk { r with expected := .int n } because hselection hcondition)
    · exact .error _ _
  | independent =>
    obtain rfl := hvalue.eq (by decide)
    unfold readDemand
    dsimp only
    split
    · next entries =>
      exact .ok (.mk { r with slices := textUnder? "slices" entries } because hselection hcondition)
    · exact .ok (.mk r because hselection hcondition)
    · exact .ok (.mk r because hselection hcondition)
    · exact .error _ _

section
variable {entries others : Entries} (h : Entrywise EntryReworded entries others)
include h

theorem lookup?_of_reworded {key : String} (hkey : key ∉ editable) :
    Datum.lookup? key others = Datum.lookup? key entries :=
  h.lookup?_eq fun _ _ => EntryReworded.eq hkey

theorem readKind_covers (rule : String) :
    Covers (fun found found' => found'.1 = found.1 ∧
        EntryReworded (.text found.1.label) found.2 found'.2)
      (readKind entries rule) (readKind others rule) := by
  have hfound : List.Forall₂ (fun found found' : ConditionKind × Datum => found'.1 = found.1 ∧
        EntryReworded (.text found.1.label) found.2 found'.2)
      (ConditionKind.every.filterMap fun kind =>
        (Datum.lookup? kind.label entries).map fun value => (kind, value))
      (ConditionKind.every.filterMap fun kind =>
        (Datum.lookup? kind.label others).map fun value => (kind, value)) := by
    refine List.rel_filterMap (R := Eq) ?_ (List.forall₂_same.2 fun _ _ => rfl)
    rintro kind _ rfl
    have hrel := h.lookup? kind.label
    dsimp only
    generalize Datum.lookup? kind.label entries = found at hrel
    generalize Datum.lookup? kind.label others = found' at hrel
    cases hrel with
    | none => exact .none
    | some hvalue => exact .some ⟨rfl, hvalue⟩
  unfold readKind
  generalize ConditionKind.every.filterMap _ = found at hfound
  generalize ConditionKind.every.filterMap _ = found' at hfound
  rcases hfound with _ | ⟨hfirst, _ | _⟩
  · exact .error _ _
  · exact .ok hfirst
  · exact .error _ _

theorem readRule_covers (index : Nat) :
    Covers Alike (readRule entries index) (readRule others index) := by
  have hname : readName others index = readName entries index := by
    rw [readName, readName, lookup?_of_reworded h (by decide)]
  have hscope : readScope others = readScope entries := by
    funext rule
    rw [readScope, readScope, lookup?_of_reworded h (by decide)]
  have hfreeze : readFreeze others = readFreeze entries := by
    funext rule
    rw [readFreeze, readFreeze, lookup?_of_reworded h (by decide)]
  have hmessage : textUnder? "message" others = textUnder? "message" entries := by
    rw [textUnder?, textUnder?, lookup?_of_reworded h (by decide)]
  have hthat : Rearranged ((Datum.lookup? "that" entries).getD .null)
      ((Datum.lookup? "that" others).getD .null) := by
    have hrel := h.lookup? "that"
    generalize Datum.lookup? "that" entries = found at hrel
    generalize Datum.lookup? "that" others = found' at hrel
    cases hrel with
    | none => exact .same _
    | some hd => exact hd.rearranged (by decide)
  unfold readRule
  rw [hname, hscope, hfreeze, hmessage]
  refine .bind (.refl _) ?_
  rintro name _ rfl
  refine .bind (.refl _) ?_
  rintro scope _ rfl
  refine .bind (readKind_covers h name) ?_
  rintro ⟨kind, value⟩ ⟨kind', value'⟩ ⟨hkind, hvalue⟩
  obtain rfl : kind = kind' := hkind.symm
  refine .bind (read_rearranged hthat scope _) fun selection selection' hselection => ?_
  refine .bind (readDemand_covers hvalue name (.mk { plain name selection kind with scope } ""
    hselection .none)) fun r r' halike => .bind (.refl _) ?_
  rintro freeze _ rfl
  obtain ⟨_, hselection, hcondition⟩ := halike
  exact .ok (.mk { r with
    freeze
    message := textUnder? "message" entries
    because := ((Datum.lookup? "because" entries).getD (.text "")).plain } _ hselection hcondition)

end

theorem readRules_covers {items others : List Datum} (h : List.Forall₂ RuleReworded items others)
    (index : Nat) :
    Covers (List.Forall₂ Rule.Alike) (readRules index items) (readRules index others) := by
  induction h generalizing index with
  | nil => exact .ok .nil
  | @cons d _ _ _ h _ ih =>
    cases h with
    | mapping h =>
      refine .bind (readRule_covers h index) fun r r' halike => ?_
      exact .bind (ih (index + 1)) fun rest rest' hrest => .ok (.cons halike hrest)
    | same =>
      cases d with
      | mapping entries =>
        refine .bind (.refl _) ?_
        rintro r _ rfl
        exact .bind (ih (index + 1)) fun rest rest' hrest => .ok (.cons (.refl r) hrest)
      | scalar _ => exact .error _ _
      | list _ => exact .error _ _
      | set _ => exact .error _ _

/-- The same exclusions, and rules that are alike one by one. -/
structure Alike (s s' : RuleSet) : Prop where
  exclude : s'.exclude = s.exclude
  rules : List.Forall₂ Rule.Alike s.rules s'.rules

theorem RulesReworded.eq {key : String} {d d' : Datum} (hkey : key ≠ "rules")
    (h : RulesReworded (.text key) d d') : d' = d := by
  cases h with
  | rules => contradiction
  | same => rfl

theorem read_covers {d d' : Datum} (h : Reworded d d') : Covers Alike (read d) (read d') := by
  cases h with
  | same d => exact fun s hs => ⟨s, hs, rfl, List.forall₂_same.2 fun r _ => .refl r⟩
  | @mapping entries others h =>
    have hversion : Datum.lookup? "version" others = Datum.lookup? "version" entries :=
      h.lookup?_eq fun _ _ => RulesReworded.eq (by decide)
    have hexclude : Datum.lookup? "exclude" others = Datum.lookup? "exclude" entries :=
      h.lookup?_eq fun _ _ => RulesReworded.eq (by decide)
    have hrules := h.lookup? "rules"
    unfold read
    dsimp only
    rw [hversion, hexclude]
    refine .bind (.refl _) fun _ _ _ => ?_
    generalize Datum.lookup? "rules" entries = found at hrules
    generalize Datum.lookup? "rules" others = found' at hrules
    have hlists : ∀ {items items'}, List.Forall₂ RuleReworded items items' → Covers Alike
        (do
          let rules ← readRules 0 items
          let exclude ← textList ((Datum.lookup? "exclude" entries).getD (.list []))
            "rules.yml: 'exclude'"
          return (⟨rules, exclude⟩ : RuleSet))
        (do
          let rules ← readRules 0 items'
          let exclude ← textList ((Datum.lookup? "exclude" entries).getD (.list []))
            "rules.yml: 'exclude'"
          return (⟨rules, exclude⟩ : RuleSet)) := by
      intro items items' h
      refine .bind (readRules_covers h 0) fun rules rules' hrules => .bind (.refl _) ?_
      rintro exclude _ rfl
      exact .ok ⟨rfl, hrules⟩
    cases hrules with
    | none => exact hlists .nil
    | @some d _ h =>
      cases h with
      | rules h => exact hlists h
      | same =>
        cases d with
        | list items => exact hlists (List.forall₂_same.2 fun d _ => .same d)
        | scalar _ => exact .error _ _
        | mapping _ => exact .error _ _
        | set _ => exact .error _ _

theorem ofDocument_eq_ok_iff {d : Datum} {s : RuleSet} :
    ofDocument d = .ok s ↔ read d = .ok s ∧ checkAll s.rules = .ok () := by
  unfold ofDocument
  cases read d with
  | error failure => cases failure <;> simp
  | ok read =>
    dsimp only
    rw [Except.ok.injEq, validated]
    cases hcheck : checkAll read.rules with
    | error fault =>
      refine ⟨fun h => (nomatch h), fun ⟨hs, h⟩ => ?_⟩
      rw [← hs, hcheck] at h
      contradiction
    | ok _ =>
      refine ⟨fun h => ?_, fun h => congrArg _ h.1⟩
      obtain rfl := Except.ok.inj h
      exact ⟨rfl, hcheck⟩

theorem ofDocument_covers {d d' : Datum} (h : Reworded d d') :
    Covers Alike (ofDocument d) (ofDocument d') := by
  intro s hs
  obtain ⟨hread, hcheck⟩ := ofDocument_eq_ok_iff.1 hs
  obtain ⟨s', hread', halike⟩ := read_covers h s hread
  exact ⟨s', ofDocument_eq_ok_iff.2 ⟨hread', checkAll_of_alike halike.rules hcheck⟩, halike⟩

end RuleSet

namespace RuleSet

open Baseline

/-- A document whose reasons are reworded and whose predicates are rearranged is accepted if and
only if the first one is, and excludes the same. Its rules have the same names, and where a message
does not quote a condition that is described in other words they find the same violations in every
graph and leave the same of them to be reported under every baseline. The messages compared are those
of templates in which texts are taken whole, see `Rule.takesTextsWhole_of_check`. -/
theorem reworded_keeps_signatures {d d' : Datum} (h : Reworded d d') :
    ((∃ s, ofDocument d = .ok s) ↔ ∃ s', ofDocument d' = .ok s') ∧
      ∀ s s', ofDocument d = .ok s → ofDocument d' = .ok s' → s'.exclude = s.exclude ∧
        List.Forall₂ (fun r r' => r'.name = r.name ∧ (r.SameWording r' → ∀ g : Facts.Graph,
            r'.evaluate g = r.evaluate g ∧
            ∀ (σ : Type) [Store σ] (freezer : Option Freezer) (store : σ),
              r'.findings g freezer store = r.findings g freezer store))
          s.rules s'.rules := by
  refine ⟨⟨fun ⟨s, hs⟩ => ?_, fun ⟨s', hs'⟩ => ?_⟩, fun s s' hs hs' => ?_⟩
  · obtain ⟨s', hs', -⟩ := ofDocument_covers h s hs
    exact ⟨s', hs'⟩
  · obtain ⟨s, hs, -⟩ := ofDocument_covers h.symm s' hs'
    exact ⟨s, hs⟩
  · obtain ⟨_, hread, halike⟩ := ofDocument_covers h s hs
    obtain rfl := Except.ok.inj (hread.symm.trans hs')
    refine ⟨halike.exclude, halike.rules.imp fun r r' halike => ⟨halike.name_eq, ?_⟩⟩
    intro hwording g
    have hevaluate := halike.evaluate_eq hwording g
    refine ⟨hevaluate, fun σ _ freezer store => ?_⟩
    rw [Rule.findings, Rule.findings, hevaluate, halike.freezer?_eq, halike.name_eq]

/-! A document with one rule, edited. -/

def demanding (condition : Datum) (particulars : Entries) : Datum :=
  .mapping [(.text "version", .int 1), (.text "rules", .list
    [.mapping ((.text "name", .text "x") :: (.text "all", condition) :: particulars)])]

def demands (conditions : List Predicate) (message : Option String) (because : String) : RuleSet :=
  ⟨[{ Rule.plain "x" .anything .all with
    condition := some (.conj conditions), message, because }], []⟩

theorem reworded_demanding {condition condition' : Datum} {particulars particulars' : Entries}
    (h : Rearranged condition condition')
    (hparticulars : Entrywise EntryReworded particulars particulars') :
    Reworded (demanding condition particulars) (demanding condition' particulars') := by
  have hrule : Entrywise EntryReworded
      ((.text "name", .text "x") :: (.text "all", condition) :: particulars)
      ((.text "name", .text "x") :: (.text "all", condition') :: particulars') :=
    .cons ⟨rfl, .same _ _⟩ (.cons ⟨rfl, .predicate (by decide) h⟩ hparticulars)
  exact .mapping (.cons ⟨rfl, .same _ _⟩
    (.cons ⟨rfl, .rules (.cons (.mapping hrule) .nil)⟩ .nil))

def kindFirst : Datum :=
  .mapping [(.text "kind", .text "interface"), (.text "simple_name", .text "X")]

def nameFirst : Datum :=
  .mapping [(.text "simple_name", .text "X"), (.text "kind", .text "interface")]

theorem rearranged_kindFirst : Rearranged kindFirst nameFirst :=
  @Rearranged.mapping [(.text "kind", .text "interface", .text "interface"),
      (.text "simple_name", .text "X", .text "X")]
    [(.text "simple_name", .text "X", .text "X"),
      (.text "kind", .text "interface", .text "interface")]
    (.swap _ _ _) (by simp [Rearranged.same]) (by simp)

def notFirst : Datum := .mapping [(.text "not", kindFirst), (.text "modifier", .text "final")]

def notLast : Datum := .mapping [(.text "modifier", .text "final"), (.text "not", nameFirst)]

theorem rearranged_notFirst : Rearranged notFirst notLast :=
  @Rearranged.mapping [(.text "not", kindFirst, nameFirst),
      (.text "modifier", .text "final", .text "final")]
    [(.text "modifier", .text "final", .text "final"), (.text "not", kindFirst, nameFirst)]
    (.swap _ _ _) (by simp [Rearranged.same, rearranged_kindFirst]) (by simp [HoldsPredicates])

def explained (because : String) : Entries :=
  [(.text "message", .text "\x7bitem\x7d is open"), (.text "because", .text because)]

theorem reworded_notFirst (because because' : String) :
    Reworded (demanding notFirst (explained because))
      (demanding notLast (explained because')) :=
  reworded_demanding rearranged_notFirst (.cons ⟨rfl, .same _ _⟩ (.cons ⟨rfl, .because _ _⟩ .nil))

def ofInterface : Predicate := .ofNode (.ofKind "interface")

def calledX : Predicate := .ofNode (.simpleName "X")

def isFinal : Predicate := .conj [.ofNode (.hasModifier "final")]

theorem ofDocument_notFirst : ofDocument (demanding notFirst (explained "it is safer"))
    = .ok (demands [.neg (.conj [ofInterface, calledX]), isFinal] (some "\x7bitem\x7d is open")
        "it is safer") := by
  rfl

theorem ofDocument_notLast : ofDocument (demanding notLast (explained "so we said"))
    = .ok (demands [isFinal, .neg (.conj [calledX, ofInterface])] (some "\x7bitem\x7d is open")
        "so we said") := by
  rfl

/-- A message that quotes nothing is the same in both documents. -/
theorem reworded_keeps_signatures_nested :
    Reworded (demanding notFirst (explained "it is safer"))
        (demanding notLast (explained "so we said")) ∧
      ∃ s s', ofDocument (demanding notFirst (explained "it is safer")) = .ok s ∧
        ofDocument (demanding notLast (explained "so we said")) = .ok s' ∧
        List.Forall₂ (fun r r' => r.description ≠ r'.description ∧
          ∀ g : Facts.Graph, r'.evaluate g = r.evaluate g) s.rules s'.rules := by
  refine ⟨reworded_notFirst _ _, _, _, ofDocument_notFirst, ofDocument_notLast, ?_⟩
  obtain ⟨-, hrules⟩ := (reworded_keeps_signatures (reworded_notFirst _ _)).2 _ _
    ofDocument_notFirst ofDocument_notLast
  cases hrules with
  | cons hr _ =>
    refine .cons ⟨by decide +kernel, fun g => (hr.2 fun hquoted => ?_) g |>.1⟩ .nil
    exact absurd hquoted (by decide +kernel)

theorem ofDocument_kindFirst :
    ofDocument (demanding kindFirst []) = .ok (demands [ofInterface, calledX] none "") := by
  rfl

theorem ofDocument_nameFirst :
    ofDocument (demanding nameFirst []) = .ok (demands [calledX, ofInterface] none "") := by
  rfl

/-- Rules without messages of their own quote their conditions, and what a baseline holds of the one
document is nothing that the other finds. -/
theorem rearranging_changes_messages : ¬ ∀ d d', Reworded d d' → ∀ s s',
    ofDocument d = .ok s → ofDocument d' = .ok s' →
    ∀ nodes pairs, (Facts.Graph.build nodes pairs).validate = .ok () →
      List.Forall₂ (fun r r' => r'.evaluate (Facts.Graph.build nodes pairs)
        = r.evaluate (Facts.Graph.build nodes pairs)) s.rules s'.rules := by
  intro h
  have hrules := h _ _ (reworded_demanding rearranged_kindFirst .nil) _ _ ofDocument_kindFirst
    ofDocument_nameFirst [Facts.Node.known "B"] [] (Facts.Graph.validate_build_iff.2 (by decide))
  rw [Facts.Graph.build, Facts.sortedNodes_eq_self (by decide)] at hrules
  cases hrules with
  | cons hmessages _ => exact absurd hmessages (by decide +kernel)

end RuleSet

end Conformance
