import Conformance.Proofs.Rule.Evaluated
import Conformance.Rule.Document

/-! Reading rules and checking them. Whatever document a rule was read from, it has the parts that
its kind asks for and no others, and the check refuses it for a negative count, for independence of
anything but nodes, or for its wording, and for nothing else. -/
namespace Conformance

namespace Rule

variable {r : Rule}

/-- What a rule has and does not have by its kind. -/
structure Formed (r : Rule) : Prop where
  name : ∃ c ∈ r.name.toList, Text.isBlank c = false
  condition : r.condition.isSome = true ↔ r.kind = .all ∨ r.kind = .none
  expected : (∃ n : Int, r.expected = .int n) ↔ r.kind = .count
  slices : r.slices.isSome = true → r.kind = .independent

/-- The template that a rule is worded with: the message that it gives, or else that of its kind. -/
inductive WordedWith (r : Rule) : String → Prop
  | given {message : String} (h : r.message = some message) (hne : message ≠ "") :
      WordedWith r message
  | default (h : ∀ message, r.message = some message → message = "") :
      WordedWith r r.kind.defaultMessage

/-- What can still be wrong with a rule of the right form. -/
inductive Faulty (r : Rule) : Prop
  | negative {n : Int} (h : r.expected = .int n) (hn : n < 0)
  | beyondNodes (hkind : r.kind = .independent) (hscope : r.scope ≠ .nodes)
  | wording {template : String} {fault : Template.Fault} (hworded : r.WordedWith template)
      (h : Template.render trialValues template = .error fault)

/-! The check. -/

theorem wordedWith_iff {template : String} : r.WordedWith template ↔ r.template = template := by
  have htemplate : r.WordedWith r.template := by
    rw [Rule.template]
    split
    · next message hmessage =>
      split
      · next hempty =>
        refine .default fun other hother => ?_
        rw [← Option.some.inj (hmessage.symm.trans hother)]
        exact beq_iff_eq.1 hempty
      · next hne => exact .given hmessage fun hempty => hne (beq_iff_eq.2 hempty)
    · next hnone =>
      exact .default fun message hmessage => absurd (hnone.symm.trans hmessage) (by simp)
  refine ⟨fun h => ?_, fun h => h ▸ htemplate⟩
  cases h with
  | given h hne => simp [Rule.template, h, hne]
  | default h =>
    cases hmessage : r.message with
    | none => rw [Rule.template, hmessage]
    | some message => simp [Rule.template, hmessage, h message hmessage]

theorem checkCondition_of_formed (h : r.Formed) : r.checkCondition = .ok () := by
  have hdemands : ¬ ((r.kind == .all || r.kind == .none) && r.condition.isNone) = true := by
    rw [Bool.and_eq_true, Bool.or_eq_true, beq_iff_eq, beq_iff_eq, Option.isNone_iff_eq_none]
    rintro ⟨hkind, hnone⟩
    have hsome := h.condition.2 hkind
    rw [hnone] at hsome
    contradiction
  rw [checkCondition, if_neg hdemands]

theorem checkCount_eq_ok_iff (h : r.Formed) :
    r.checkCount = .ok () ↔ ¬ ∃ n : Int, r.expected = .int n ∧ n < 0 := by
  by_cases hkind : r.kind = .count
  · obtain ⟨n, hn⟩ := h.expected.2 hkind
    simp [checkCount, hkind, hn, isCount]
  · have hnone : ¬ ∃ n : Int, r.expected = .int n ∧ n < 0 := by
      rintro ⟨n, hn, _⟩
      exact hkind (h.expected.1 ⟨n, hn⟩)
    simp [checkCount, hkind, hnone]

theorem checkIndependent_eq_ok_iff (h : r.Formed) :
    r.checkIndependent = .ok () ↔ ¬ (r.kind = .independent ∧ r.scope ≠ .nodes) := by
  have hslices : ¬ (r.slices.isSome && r.kind != .independent) = true := by
    simpa using h.slices
  rw [checkIndependent, if_neg hslices]
  by_cases hfault : r.kind = .independent ∧ r.scope ≠ .nodes
  · simp [hfault]
  · simp [hfault]

theorem checkTemplate_eq_ok_iff : r.checkTemplate = .ok () ↔
    ¬ ∃ fault, Template.render trialValues r.template = .error fault := by
  rw [checkTemplate]
  cases Template.render trialValues r.template <;> simp

theorem check_eq_error_iff (h : r.Formed) : (∃ fault, r.check = .error fault) ↔ r.Faulty := by
  have hblank : Text.isBlankText r.name = false := by
    obtain ⟨c, hc, hnot⟩ := h.name
    exact List.all_eq_false.2 ⟨c, hc, by simp [hnot]⟩
  rw [exists_eq_error_iff, check_eq_ok_iff, checkCount_eq_ok_iff h, checkIndependent_eq_ok_iff h,
    checkTemplate_eq_ok_iff]
  constructor
  · intro hnot
    by_contra hfaulty
    refine hnot ⟨hblank, checkCondition_of_formed h, ?_, ?_, ?_⟩
    · exact fun ⟨n, hn, hnegative⟩ => hfaulty (.negative hn hnegative)
    · exact fun ⟨hkind, hscope⟩ => hfaulty (.beyondNodes hkind hscope)
    · exact fun ⟨fault, hfault⟩ => hfaulty (.wording (wordedWith_iff.2 rfl) hfault)
  · rintro hfaulty ⟨_, _, hcount, hscope, htemplate⟩
    cases hfaulty with
    | negative hn hnegative => exact hcount ⟨_, hn, hnegative⟩
    | beyondNodes hkind hother => exact hscope ⟨hkind, hother⟩
    | wording hworded hfault => exact htemplate ⟨_, wordedWith_iff.1 hworded ▸ hfault⟩

end Rule

namespace RuleSet

open Rule

/-! Reading. -/

theorem exists_not_blank_of_readName {entries : Entries} {index : Nat} {name : String}
    (h : readName entries index = .ok name) : ∃ c ∈ name.toList, Text.isBlank c = false := by
  unfold readName at h
  split at h
  · split at h
    · contradiction
    · next hblank =>
      obtain rfl := Except.ok.inj h
      simpa [Text.isBlankText] using hblank
  · contradiction

theorem formed_of_readDemand {name rule : String} {selection : Predicate} {kind : ConditionKind}
    {scope : Scope} {value : Datum} {r : Rule}
    (hname : ∃ c ∈ name.toList, Text.isBlank c = false)
    (h : readDemand kind value scope rule { Rule.plain name selection kind with scope } = .ok r) :
    r.Formed := by
  unfold readDemand at h
  split at h
  case h_1 | h_2 =>
    obtain ⟨condition, _, h⟩ := bind_eq_ok.1 h
    obtain rfl := Except.ok.inj h
    exact ⟨hname, by simp [plain], by simp [plain], by simp [plain]⟩
  case h_3 =>
    split at h
    · obtain rfl := Except.ok.inj h
      exact ⟨hname, by simp [plain], by simp [plain], by simp [plain]⟩
    · contradiction
  case h_4 =>
    split at h
    case h_4 => contradiction
    all_goals
      obtain rfl := Except.ok.inj h
      exact ⟨hname, by simp [plain], by simp [plain], by simp [plain]⟩

theorem formed_of_readRule {entries : Entries} {index : Nat} {r : Rule}
    (h : readRule entries index = .ok r) : r.Formed := by
  unfold readRule at h
  obtain ⟨name, hname, h⟩ := bind_eq_ok.1 h
  obtain ⟨scope, _, h⟩ := bind_eq_ok.1 h
  obtain ⟨⟨kind, value⟩, _, h⟩ := bind_eq_ok.1 h
  obtain ⟨selection, _, h⟩ := bind_eq_ok.1 h
  obtain ⟨demanding, hdemand, h⟩ := bind_eq_ok.1 h
  obtain ⟨freeze, _, h⟩ := bind_eq_ok.1 h
  obtain rfl := Except.ok.inj h
  obtain ⟨hname, hcondition, hexpected, hslices⟩ :=
    formed_of_readDemand (exists_not_blank_of_readName hname) hdemand
  exact ⟨hname, hcondition, hexpected, hslices⟩

theorem formed_of_readRules {index : Nat} {items : List Datum} {rules : List Rule}
    (h : readRules index items = .ok rules) : ∀ r ∈ rules, r.Formed := by
  induction items generalizing index rules with
  | nil =>
    obtain rfl := Except.ok.inj h
    simp
  | cons d rest ih =>
    cases d with
    | mapping entries =>
      obtain ⟨r, hr, h⟩ := bind_eq_ok.1 h
      obtain ⟨others, hothers, h⟩ := bind_eq_ok.1 h
      obtain rfl := Except.ok.inj h
      exact List.forall_mem_cons.2 ⟨formed_of_readRule hr, ih hothers⟩
    | scalar _ => contradiction
    | list _ => contradiction
    | set _ => contradiction

theorem formed_of_read {d : Datum} {s : RuleSet} (h : read d = .ok s) :
    ∀ r ∈ s.rules, r.Formed := by
  unfold read at h
  split at h
  · obtain ⟨_, _, h⟩ := bind_eq_ok.1 h
    split at h
    · obtain ⟨rules, hrules, h⟩ := bind_eq_ok.1 h
      obtain ⟨exclude, _, h⟩ := bind_eq_ok.1 h
      obtain rfl := Except.ok.inj h
      exact formed_of_readRules hrules
    · contradiction
  · contradiction

/-- The rules of a document have what their kinds ask for, and the check refuses those of them that
have one of three faults. -/
theorem read_leaves_faults {d : Datum} {s : RuleSet} (h : read d = .ok s) :
    ∀ r ∈ s.rules, r.Formed ∧ ((∃ fault, r.check = .error fault) ↔ r.Faulty) := by
  intro r hr
  have hformed := formed_of_read h r hr
  exact ⟨hformed, check_eq_error_iff hformed⟩

def misfits : Datum :=
  .mapping [(.text "version", .int 1), (.text "rules", .list [
    .mapping [(.text "name", .text "few"), (.text "count", .int (-1))],
    .mapping [(.text "name", .text "apart"), (.text "scope", .text "edges"),
      (.text "independent", .bool true)],
    .mapping [(.text "name", .text "worded"), (.text "independent", .null),
      (.text "message", .text "\x7bnowhere\x7d")]])]

theorem read_leaves_faults_misfits : ∃ few apart worded,
    read misfits = .ok ⟨[few, apart, worded], []⟩ ∧
      (few.Formed ∧ ∃ fault, few.check = .error fault) ∧
      (apart.Formed ∧ ∃ fault, apart.check = .error fault) ∧
      worded.Formed ∧ ∃ fault, worded.check = .error fault := by
  have hread : read misfits = .ok ⟨[
      { Rule.plain "few" .anything .count with expected := .int (-1) },
      { Rule.plain "apart" .anything .independent with scope := .edges },
      { Rule.plain "worded" .anything .independent with
        message := some "\x7bnowhere\x7d" }], []⟩ := rfl
  have hrules := read_leaves_faults hread
  simp only [List.forall_mem_cons] at hrules
  obtain ⟨⟨hfew, hnegative⟩, ⟨hapart, hbeyond⟩, ⟨hworded, hwording⟩, _⟩ := hrules
  refine ⟨_, _, _, hread, ⟨hfew, hnegative.2 ?_⟩, ⟨hapart, hbeyond.2 ?_⟩, hworded, hwording.2 ?_⟩
  · exact .negative rfl (by decide)
  · exact .beyondNodes rfl (by decide)
  · have hfault : Template.render trialValues "\x7bnowhere\x7d"
        = .error (.unknownField "nowhere") := rfl
    exact .wording (.given rfl (by decide)) hfault

end RuleSet

end Conformance
