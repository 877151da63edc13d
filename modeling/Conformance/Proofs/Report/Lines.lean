import Conformance.Proofs.Report.Views
import Conformance.Proofs.Rule.Lines
import Conformance.Rule.File

/-! The lines of a report for programs. A reader who splits it at line breaks finds one line for each
thing that it tells exactly if none of the texts in it has a break of its own: nothing is escaped. -/
namespace Conformance

open Facts Baseline Text

/-- What is told on one line: that an item violates a rule, or, with an empty item, that a rule
without violations did not pass. -/
structure Notice where
  rule : String
  status : Status
  item : String
  text : String

namespace Notice

def start (n : Notice) : String := n.rule ++ ":" ++ n.status.label

def line (n : Notice) : String := n.start ++ ":" ++ n.item ++ ":" ++ n.text

structure IsOneLine (n : Notice) : Prop where
  rule : OneLine n.rule
  item : OneLine n.item
  text : OneLine n.text

theorem oneLine_line_iff {n : Notice} : OneLine n.line ↔ n.IsOneLine := by
  have hlabel : OneLine n.status.label := by cases n.status <;> decide
  have hcolon : OneLine ":" := by decide
  simp only [line, start, oneLine_append, hlabel, hcolon, and_true]
  constructor
  · rintro ⟨⟨hrule, hitem⟩, htext⟩
    exact ⟨hrule, hitem, htext⟩
  · exact fun h => ⟨⟨h.rule, h.item⟩, h.text⟩

/-- The line begins with the rule and its status. -/
def Opens (n : Notice) (line : String) : Prop := ∃ rest, line = n.start ++ rest

theorem opens_line (n : Notice) : n.Opens n.line :=
  ⟨":" ++ n.item ++ ":" ++ n.text, by simp only [line, String.append_assoc]⟩

end Notice

namespace Outcome

/-- One for each violation, and one if there are none. -/
def notices (o : Outcome) : List Notice :=
  if o.status = .passed then []
  else if o.violations = [] then [⟨o.rule, o.status, "", o.error.getD ""⟩]
  else o.violations.map fun v => ⟨o.rule, o.status, v.item, v.message⟩

theorem porcelainLines_eq (o : Outcome) : o.porcelainLines = o.notices.map Notice.line := by
  rw [porcelainLines, notices]
  by_cases hpassed : o.status = .passed
  · simp [hpassed]
  · cases hviolations : o.violations with
    | nil => simp [hpassed, Notice.line, Notice.start, ToString.toString, String.append_assoc]
    | cons v rest =>
      simp [hpassed, Notice.line, Notice.start, ToString.toString, String.append_assoc]

theorem notices_eq_nil_iff {o : Outcome} : o.notices = [] ↔ o.status = .passed := by
  rw [← Report.porcelainLines_eq_nil_iff, porcelainLines_eq, List.map_eq_nil_iff]

theorem isOneLine_notices_iff {o : Outcome} (ho : o.Coherent) (hrule : OneLine o.rule)
    (hviolations : ∀ v ∈ o.violations, v.IsOneLine) :
    (∀ n ∈ o.notices, n.IsOneLine) ↔ ∀ e, o.error = some e → OneLine e := by
  rw [notices]
  by_cases hpassed : o.status = .passed
  · simp [hpassed, (ho.nothing (.inl hpassed)).2]
  · by_cases hnone : o.violations = []
    · rw [if_neg hpassed, if_pos hnone, List.forall_mem_singleton]
      cases herror : o.error with
      | none => exact iff_of_true ⟨hrule, unbroken_nil, unbroken_nil⟩ (by simp)
      | some e =>
        simp only [Option.some.injEq, forall_eq']
        exact ⟨fun h => h.text, fun h => ⟨hrule, unbroken_nil, h⟩⟩
    · have hfailed : o.status = .failed := ho.failed_iff.2 hnone
      have herror : o.error = none := by
        by_contra hsome
        rw [ho.errored_iff.2 hsome] at hfailed
        contradiction
      rw [if_neg hpassed, if_neg hnone, List.forall_mem_map, herror]
      refine iff_of_true (fun v hv => ?_) fun e he => ?_
      · exact ⟨hrule, (hviolations v hv).item, (hviolations v hv).message⟩
      · contradiction

end Outcome

namespace Report

def notices (r : Report) : List Notice := r.outcomes.flatMap Outcome.notices

/-- Of each notice there is a line, in their order, that begins with its rule and the status. -/
def TellsEach (r : Report) : Prop := List.Forall₂ Notice.Opens r.notices (lines r.porcelain)

variable {r : Report}

theorem porcelain_eq (r : Report) : r.porcelain = "\n".intercalate (r.notices.map Notice.line) := by
  have hlines : r.outcomes.flatMap Outcome.porcelainLines = r.notices.map Notice.line := by
    rw [notices, List.map_flatMap]
    exact List.flatMap_congr fun o _ => o.porcelainLines_eq
  rw [porcelain, hlines]

theorem notices_ne_nil (h : r.passed = false) : r.notices ≠ [] := by
  intro hnil
  have hpassed : r.passed = true := by
    refine ((passed_tfae r).out 0 4).2 fun o ho => ?_
    exact Outcome.notices_eq_nil_iff.1 (List.flatMap_eq_nil_iff.1 hnil o ho)
  rw [hpassed] at h
  contradiction

theorem lines_porcelain (h : r.passed = false) :
    lines r.porcelain = (r.notices.map Notice.line).flatMap lines := by
  rw [porcelain_eq, lines_intercalate]
  exact fun hnil => notices_ne_nil h (List.map_eq_nil_iff.1 hnil)

theorem tellsEach_tfae (h : r.passed = false) :
    [r.TellsEach, lines r.porcelain = r.notices.map Notice.line,
      (lines r.porcelain).length = r.notices.length, ∀ n ∈ r.notices, n.IsOneLine].TFAE := by
  have hparts : (∀ part ∈ r.notices.map Notice.line, OneLine part) ↔
      ∀ n ∈ r.notices, n.IsOneLine := by
    simp only [List.forall_mem_map, Notice.oneLine_line_iff]
  tfae_have 1 → 3 := fun h => h.length_eq.symm
  tfae_have 3 → 4 := by
    intro hlength
    rw [← hparts, ← length_flatMap_lines_eq_iff, ← lines_porcelain h, List.length_map, hlength]
  tfae_have 4 → 2 := by
    intro hnotices
    rw [lines_porcelain h]
    exact flatMap_lines_eq (hparts.2 hnotices)
  tfae_have 2 → 1 := by
    intro hlines
    rw [TellsEach, hlines, List.forall₂_map_right_iff, List.forall₂_same]
    exact fun n _ => n.opens_line
  tfae_finish

/-! Reports on rules. -/

section
variable {σ : Type} [Store σ] {g : Graph} {rules : List Rule} {freezer : Option Freezer}
  {isCancelled : Nat → Bool} {s t : σ}

theorem runAll_of_check (h : check g rules freezer isCancelled s = (.ok r, t)) :
    Rule.checkAll rules = .ok () ∧ runAll g freezer isCancelled 0 s rules = (r.outcomes, t) := by
  rw [check] at h
  split at h
  · obtain ⟨hfault, _⟩ := Prod.mk.inj h
    contradiction
  · next hvalid =>
    obtain ⟨hreport, ht⟩ := Prod.mk.inj h
    obtain rfl := Except.ok.inj hreport
    exact ⟨hvalid, Prod.ext rfl ht⟩

theorem isOneLine_notices_iff (h : check g rules freezer isCancelled s = (.ok r, t))
    (hg : g.IsOneLine) (hrules : ∀ x ∈ rules, x.IsOneLine ∧ x.AvoidsTen g) :
    (∀ n ∈ r.notices, n.IsOneLine) ↔ ∀ o ∈ r.outcomes, ∀ e, o.error = some e → OneLine e := by
  obtain ⟨hvalid, hrun⟩ := runAll_of_check h
  have houtcomes : ∀ o ∈ r.outcomes, OneLine o.rule ∧ ∀ v ∈ o.violations, v.IsOneLine := by
    refine forall_mem_runAll (fun x hx cancelled u => ?_) hrun
    obtain ⟨hlines, hten⟩ := hrules x hx
    have hcheck := (Rule.checkAll_eq_ok_iff.1 hvalid).1 x hx
    refine ⟨by rw [Rule.rule_of_turn]; exact hlines.name, fun v hv => ?_⟩
    obtain ⟨violations, hevaluate, hmem⟩ := Rule.exists_evaluate_of_turn hv
    exact Rule.gives_evaluate hlines hg hcheck hten violations hevaluate v hmem
  rw [notices, List.forall_mem_flatMap]
  refine forall₂_congr fun o ho => ?_
  obtain ⟨hrule, hviolations⟩ := houtcomes o ho
  exact Outcome.isOneLine_notices_iff (coherent_runAll hrun o ho) hrule hviolations

/-- A report can be read line by line exactly if nothing in it breaks a line. Where the texts of the
graph and of the rules do not, that is left to the errors. The templates are those that ask a text
for no attribute, which could have lines of its own: see `Rule.takesTextsWhole_of_check`. -/
theorem check_tellsEach (h : check g rules freezer isCancelled s = (.ok r, t))
    (hpassed : r.passed = false) :
    [r.TellsEach, lines r.porcelain = r.notices.map Notice.line,
        (lines r.porcelain).length = r.notices.length, ∀ n ∈ r.notices, n.IsOneLine].TFAE ∧
      (g.IsOneLine → (∀ x ∈ rules, x.IsOneLine ∧ x.AvoidsTen g) →
        (r.TellsEach ↔ ∀ o ∈ r.outcomes, ∀ e, o.error = some e → OneLine e)) := by
  have htfae := tellsEach_tfae hpassed
  refine ⟨htfae, fun hg hrules => ?_⟩
  exact (htfae.out 0 3).trans (isOneLine_notices_iff h hg hrules)

end

def refused (message : String) : Report :=
  ⟨[⟨"refusing", .failed, [⟨"refusing", "a.B", message⟩], none,
    "no nodes that anything should anything", "", false⟩]⟩

theorem check_tellsEach_refused :
    check Rule.single [Rule.refusing "keep {item} out"] none (fun _ => false) Memory.empty
        = (.ok (refused "keep a.B out"), Memory.empty) ∧
      (refused "keep a.B out").passed = false ∧ (refused "keep a.B out").TellsEach := by
  have hcheck : check Rule.single [Rule.refusing "keep {item} out"] none (fun _ => false)
      Memory.empty = (.ok (refused "keep a.B out"), Memory.empty) := by
    rw [Rule.single_eq]
    rfl
  have hpassed : (refused "keep a.B out").passed = false := by decide
  have hgraph : Rule.single.IsOneLine := by
    rw [Rule.single_eq]
    exact ⟨by decide, by decide, by decide, by decide⟩
  have hrules : ∀ x ∈ [Rule.refusing "keep {item} out"],
      x.IsOneLine ∧ x.AvoidsTen Rule.single := by
    refine List.forall_mem_singleton.2 ⟨⟨by decide, by decide, ?_⟩, fun hkind => ?_⟩
    · rintro _ ⟨⟩
      decide
    · contradiction
  refine ⟨hcheck, hpassed, ((check_tellsEach hcheck hpassed).2 hgraph hrules).2 ?_⟩
  decide

def brokenMessage : Datum :=
  .mapping [(.text "version", .int 1), (.text "rules", .list [.mapping [(.text "name",
    .text "refusing"), (.text "none", .null), (.text "message", .text "one\ntwo")]])]

/-- A message may have a break, which makes two lines of one violation. -/
theorem porcelain_breaks :
    ¬ ∀ (d : Datum) (set : RuleSet) (g : Graph) (r : Report) (t : Memory),
      RuleSet.ofDocument d = .ok set →
      check g set.rules none (fun _ => false) Memory.empty = (.ok r, t) →
      r.passed = false → r.TellsEach := by
  intro h
  have hread : RuleSet.ofDocument brokenMessage = .ok ⟨[Rule.refusing "one\ntwo"], []⟩ := by rfl
  have hcheck : check Rule.single [Rule.refusing "one\ntwo"] none (fun _ => false) Memory.empty
      = (.ok (refused "one\ntwo"), Memory.empty) := by
    rw [Rule.single_eq]
    rfl
  have hlength := (h brokenMessage _ Rule.single _ _ hread hcheck (by decide)).length_eq
  revert hlength
  decide

end Report

end Conformance
