import Mathlib.Algebra.Ring.Nat
import Mathlib.Data.List.TFAE
import Mathlib.Tactic.TFAE
import Conformance.Proofs.Report.Isolation
import Conformance.Proofs.Baseline.Refreezing
import Conformance.Report.Document
import Conformance.Report.Text

/-! The views of a report say the same. The status of an outcome tells what it lists, the counts and
the summary of the document account for every rule and every violation, and the ways of asking
whether all is well have one answer. -/
namespace Conformance

open Facts Baseline

def Datum.at? (key : String) : Datum → Option Datum
  | .mapping entries => lookup? key entries
  | _ => none

/-- Whether the status of an outcome tells what it lists, which is about its own rule. -/
structure Outcome.Coherent (o : Outcome) : Prop where
  failed_iff : o.status = .failed ↔ o.violations ≠ []
  errored_iff : o.status = .errored ↔ o.error ≠ none
  nothing : o.status = .passed ∨ o.status = .cancelled → o.violations = [] ∧ o.error = none
  rule_of_violation : ∀ v ∈ o.violations, v.rule = o.rule

/-- Whether the views of a report on some rules say the same: the outcomes stand one by one for the
rules and are found under their names, each is coherent, the counts and the summary account for all
of them, and it is all the same how it is asked whether every rule passed. -/
structure Report.Coherent (rules : List Rule) (r : Report) : Prop where
  names : r.outcomes.map (·.rule) = rules.map (·.name)
  found : ∀ (i : Nat) (x : Rule), rules[i]? = some x →
    ∃ o, r.outcomes[i]? = some o ∧ r.outcome? x.name = some o
  outcomes : ∀ o ∈ r.outcomes, o.Coherent
  counts : r.count .passed + r.count .failed + r.count .errored + r.count .cancelled = rules.length
  summary_counts : ∀ s : Status,
    (r.document.at? "summary").bind (·.at? s.label) = some (.int (r.count s))
  summary_violations : (r.document.at? "summary").bind (·.at? "violations_count")
    = some (.int ((r.outcomes.map fun o => o.violations.length).sum : Nat))
  passed : [r.passed = true, r.exitCode = 0, r.failedRules = [], r.porcelain = "",
    ∀ o ∈ r.outcomes, o.status = .passed].TFAE

namespace Report

/-! What holds of every report. -/

variable (r : Report)

theorem count_add : r.count .passed + r.count .failed + r.count .errored + r.count .cancelled
    = r.outcomes.length := by
  obtain ⟨outcomes⟩ := r
  simp only [count]
  induction outcomes with
  | nil => rfl
  | cons o rest ih =>
    simp only [List.countP_cons, List.length_cons, ← ih]
    cases o.status <;> simp <;> omega

theorem length_violations :
    r.violations.length = (r.outcomes.map fun o => o.violations.length).sum := by
  rw [violations, List.length_flatMap]

theorem summary_count (s : Status) :
    (r.document.at? "summary").bind (·.at? s.label) = some (.int (r.count s)) := by
  cases s <;> rfl

theorem summary_violations : (r.document.at? "summary").bind (·.at? "violations_count")
    = some (.int r.violations.length) := rfl

theorem porcelainLines_eq_nil_iff {o : Outcome} : o.porcelainLines = [] ↔ o.status = .passed := by
  rw [Outcome.porcelainLines]
  by_cases hpassed : o.status = .passed
  · simp [hpassed]
  · cases hviolations : o.violations <;> simp [hpassed]

theorem ne_empty_of_mem_porcelainLines {o : Outcome} : ∀ line ∈ o.porcelainLines, line ≠ "" := by
  intro line hline
  rw [Outcome.porcelainLines] at hline
  split at hline
  · contradiction
  · split at hline
    · rw [List.mem_singleton.1 hline]
      simp [String.append_eq_empty_iff]
    · obtain ⟨v, _, rfl⟩ := List.mem_map.1 hline
      simp [String.append_eq_empty_iff, ToString.toString]

theorem intercalate_eq_empty_iff {separator : String} {lines : List String}
    (h : ∀ line ∈ lines, line ≠ "") : separator.intercalate lines = "" ↔ lines = [] := by
  rcases lines with _ | ⟨line, _ | ⟨next, rest⟩⟩
  · simp
  · simpa using h line (by simp)
  · have hline := h line (by simp)
    simp [String.append_eq_empty_iff, hline]

theorem porcelain_eq_empty_iff : r.porcelain = "" ↔ ∀ o ∈ r.outcomes, o.status = .passed := by
  rw [porcelain, intercalate_eq_empty_iff, List.flatMap_eq_nil_iff]
  · simp only [porcelainLines_eq_nil_iff]
  · intro line hline
    obtain ⟨o, _, ho⟩ := List.mem_flatMap.1 hline
    exact ne_empty_of_mem_porcelainLines line ho

theorem passed_tfae : [r.passed = true, r.exitCode = 0, r.failedRules = [], r.porcelain = "",
    ∀ o ∈ r.outcomes, o.status = .passed].TFAE := by
  tfae_have 1 ↔ 5 := by simp [passed]
  tfae_have 1 ↔ 2 := by simp [exitCode]
  tfae_have 3 ↔ 5 := by simp [failedRules]
  tfae_have 4 ↔ 5 := r.porcelain_eq_empty_iff
  tfae_finish

end Report

/-! What holds of the outcomes of a run. -/

section
variable {σ : Type} [Store σ]

theorem Baseline.Freezer.mem_of_apply {f : Freezer} {s : σ} {n : String}
    {violations remaining : List Violation} (h : (f.apply s n violations).1 = .ok remaining) :
    ∀ v ∈ remaining, v ∈ violations := by
  by_cases hrecords : f.Records s n
  · rw [apply_of_records hrecords, record_eq] at h
    cases hstored : (Store.store s n (violations.map Violation.signature)).1 with
    | error fault =>
      rw [hstored] at h
      contradiction
    | ok _ =>
      rw [hstored] at h
      obtain rfl : [] = remaining := Except.ok.inj h
      simp
  · rcases apply_cases hrecords with ⟨fault, happly⟩ | ⟨e, happly⟩
    · rw [happly] at h
      contradiction
    · rw [happly] at h
      obtain rfl := Except.ok.inj h
      exact fun v hv => List.mem_of_mem_filter hv

namespace Rule

variable {r : Rule} {freezer : Option Freezer}

theorem coherent_outcome {result : Except Failure (List Violation)}
    (h : ∀ violations, result = .ok violations → ∀ v ∈ violations, v.rule = r.name) :
    (r.outcome freezer result).Coherent := by
  rcases result with failure | _ | ⟨v, rest⟩
  · exact ⟨by simp [outcome, cancelled], by simp [outcome], by simp [outcome],
      by simp [outcome, cancelled]⟩
  · exact ⟨by simp [outcome, cancelled], by simp [outcome, cancelled],
      by simp [outcome, cancelled], by simp [outcome, cancelled]⟩
  · exact ⟨by simp [outcome], by simp [outcome, cancelled], by simp [outcome], h _ rfl⟩

theorem evaluate_of_findings {g : Graph} {s : σ} {found : List Violation}
    (h : (r.findings g freezer s).1 = .ok found) :
    ∃ violations, r.evaluate g = .ok violations ∧ ∀ v ∈ found, v ∈ violations := by
  cases hevaluate : r.evaluate g with
  | error failure =>
    rw [findings_of_error hevaluate] at h
    contradiction
  | ok violations =>
    cases hfreezer : r.freezer? freezer with
    | none =>
      rw [findings_of_freezer?_eq_none hevaluate hfreezer] at h
      obtain rfl := Except.ok.inj h
      exact ⟨violations, rfl, fun _ hv => hv⟩
    | some f =>
      rw [findings_of_freezer?_eq_some hevaluate hfreezer] at h
      cases hresult : (f.apply s r.name violations).1 with
      | error fault =>
        rw [hresult] at h
        contradiction
      | ok remaining =>
        rw [hresult] at h
        obtain rfl := Except.ok.inj h
        exact ⟨violations, rfl, Freezer.mem_of_apply hresult⟩

theorem coherent_run (r : Rule) (g : Graph) (freezer : Option Freezer) (s : σ) :
    (r.run g freezer s).1.Coherent := by
  rw [run_eq]
  refine coherent_outcome fun found h v hv => ?_
  obtain ⟨violations, hevaluate, hfound⟩ := evaluate_of_findings h
  exact rule_of_evaluate hevaluate v (hfound v hv)

theorem exists_evaluate_of_turn {g : Graph} {isCancelled : Bool} {s : σ} {v : Violation}
    (h : v ∈ (r.turn g freezer isCancelled s).1.violations) :
    ∃ violations, r.evaluate g = .ok violations ∧ v ∈ violations := by
  cases isCancelled with
  | true => contradiction
  | false =>
    change v ∈ (r.outcome freezer (r.findings g freezer s).1).violations at h
    cases hfindings : (r.findings g freezer s).1 with
    | error failure =>
      rw [hfindings] at h
      contradiction
    | ok found =>
      obtain ⟨violations, hevaluate, hfound⟩ := evaluate_of_findings hfindings
      rw [hfindings, outcome_ok] at h
      exact ⟨violations, hevaluate, hfound v h⟩

theorem coherent_cancelled : (r.cancelled freezer).Coherent :=
  ⟨by simp [cancelled], by simp [cancelled], fun _ => ⟨rfl, rfl⟩, by simp [cancelled]⟩

theorem coherent_turn (r : Rule) (g : Graph) (freezer : Option Freezer) (isCancelled : Bool)
    (s : σ) : (r.turn g freezer isCancelled s).1.Coherent := by
  cases isCancelled with
  | true => exact coherent_cancelled
  | false => exact r.coherent_run g freezer s

end Rule

namespace Report

variable {g : Graph} {freezer : Option Freezer} {isCancelled : Nat → Bool}

theorem coherent_runAll {rules : List Rule} {asked : Nat} {s t : σ} {os : List Outcome}
    (h : runAll g freezer isCancelled asked s rules = (os, t)) : ∀ o ∈ os, o.Coherent :=
  forall_mem_runAll (fun r _ cancelled u => r.coherent_turn g freezer cancelled u) h

theorem outcome?_of_nodup {r : Report} (hnodup : (r.outcomes.map (·.rule)).Nodup) {o : Outcome}
    (ho : o ∈ r.outcomes) : r.outcome? o.rule = some o := by
  cases hfind : r.outcome? o.rule with
  | none => exact absurd (List.find?_eq_none.1 hfind o ho) (by simp)
  | some other =>
    have hrule : other.rule = o.rule := by simpa using List.find?_some hfind
    exact congrArg some
      (List.inj_on_of_nodup_map hnodup (List.mem_of_find?_eq_some hfind) ho hrule)

theorem coherent_of_runAll {rules : List Rule} (hnodup : (rules.map (·.name)).Nodup) {asked : Nat}
    {s t : σ} {os : List Outcome} (h : runAll g freezer isCancelled asked s rules = (os, t)) :
    Coherent rules ⟨os⟩ where
  names := map_rule_runAll h
  found i x hx := by
    have hrules := map_rule_runAll h
    have hi : (os.map (·.rule))[i]? = some x.name := by rw [hrules, List.getElem?_map, hx]; rfl
    rw [List.getElem?_map] at hi
    obtain ⟨o, ho, hrule⟩ := Option.map_eq_some_iff.1 hi
    exact ⟨o, ho, hrule ▸ outcome?_of_nodup (hrules ▸ hnodup) (List.mem_of_getElem? ho)⟩
  outcomes := coherent_runAll h
  counts := by
    have hlength := congrArg List.length (map_rule_runAll h)
    rw [List.length_map, List.length_map] at hlength
    exact (count_add _).trans hlength
  summary_counts := summary_count _
  summary_violations := by rw [summary_violations, length_violations]
  passed := passed_tfae _

/-- A valid set of rules gets a report whose views say the same, whatever becomes of the rules. -/
theorem check_coherent {rules : List Rule} (hvalid : Rule.checkAll rules = .ok ()) (g : Graph)
    (freezer : Option Freezer) (isCancelled : Nat → Bool) (s : σ) :
    ∃ report t, check g rules freezer isCancelled s = (.ok report, t) ∧ report.Coherent rules :=
  ⟨_, _, check_of_valid hvalid g freezer isCancelled s,
    coherent_of_runAll (Rule.nodup_of_checkAll hvalid) rfl⟩

end Report

end

/-- Of a rule that fails and one that finds a type the report tells both. -/
theorem Report.check_coherent_failingAndFinding :
    Rule.checkAll failingAndFinding = .ok () ∧
      ∃ report t, check (Graph.build [.known "app.A"] []) failingAndFinding none
        (fun _ => false) Memory.empty = (.ok report, t) ∧ report.Coherent failingAndFinding := by
  have hvalid : Rule.checkAll failingAndFinding = .ok () := by rfl
  exact ⟨hvalid, check_coherent hvalid _ none _ Memory.empty⟩

end Conformance
