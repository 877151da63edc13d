import Conformance.Proofs.Report.Check

/-! The baseline of a rule over a history of runs with changing graphs and rules. It is what the
last effective run recorded that was told to refreeze; without one it is what was there at the
start, or else what the first effective run found. -/
namespace Conformance.Baseline

/-- A run over a valid set of rules, with a freezing rule of a name. -/
structure Run (n : String) where
  graph : Facts.Graph
  rules : List Rule
  rule : Rule
  refreezes : Bool
  valid : Rule.checkAll rules = .ok ()
  mem : rule ∈ rules
  name_eq : rule.name = n
  freezes : rule.freeze = true

namespace Run

variable {n : String}

/-- The signatures of what the rule finds. A run is effective if there are any, even none at all. -/
def found? (r : Run n) : Option (Finset Signature) :=
  match r.rule.evaluate r.graph with
  | .ok violations => some (signaturesOf violations)
  | .error _ => none

def verdict (r : Run n) (before : Option (Finset Signature)) : Status × List Violation :=
  match r.rule.evaluate r.graph with
  | .ok violations =>
    let left := remaining r.refreezes before violations
    (if left.isEmpty then .passed else .failed, left)
  | .error _ => (.errored, [])

def next (r : Run n) (before : Option (Finset Signature)) : Option (Finset Signature) :=
  match r.found? with
  | some found => if r.refreezes then some found else before.or (some found)
  | none => before

section
variable {σ : Type} [Store σ]

def perform (r : Run n) (s : σ) : Except RuleFault Report × σ :=
  Report.check r.graph r.rules (some ⟨true, r.refreezes⟩) (fun _ => false) s

def after (s : σ) : List (Run n) → σ
  | [] => s
  | r :: runs => after (r.perform s).2 runs

end

def baseline (initial : Option (Finset Signature)) (runs : List (Run n)) :
    Option (Finset Signature) :=
  ((runs.filter (·.refreezes)).filterMap found?).getLast?.or
    (initial.or (runs.filterMap found?).head?)

theorem baseline_concat (initial : Option (Finset Signature)) (past : List (Run n)) (r : Run n) :
    baseline initial (past ++ [r]) = r.next (baseline initial past) := by
  simp only [baseline, next, List.filter_append, List.filterMap_append]
  cases hfound : r.found? with
  | none =>
    cases hrefreezes : r.refreezes <;> simp [hfound, hrefreezes]
  | some found =>
    cases hrefreezes : r.refreezes with
    | true => simp [hfound, hrefreezes]
    | false => simp [hfound, hrefreezes, List.head?_append]

theorem exists_split (r : Run n) : ∃ front back, r.rules = front ++ r.rule :: back ∧
    (∀ x ∈ front, x.name ≠ n) ∧ ∀ x ∈ back, x.name ≠ n := by
  obtain ⟨front, back, hsplit⟩ := List.append_of_mem r.mem
  have hnodup := Rule.nodup_of_checkAll r.valid
  rw [hsplit, List.map_append, List.map_cons, r.name_eq] at hnodup
  obtain ⟨_, hback, hapart⟩ := List.nodup_append.1 hnodup
  refine ⟨front, back, hsplit, fun x hx => ?_, fun x hx heq => ?_⟩
  · exact hapart x.name (List.mem_map_of_mem hx) n (by simp)
  · exact (List.nodup_cons.1 hback).1 (heq ▸ List.mem_map_of_mem hx)

variable {σ : Type} [Store σ] {names : Set String} {k : Keeping σ names}

def Within (names : Set String) (r : Run n) : Prop :=
  ∀ x ∈ r.rules, x.freeze = true → x.name ∈ names

theorem run_rule {r : Run n} (hwithin : r.Within names) {s : σ} (hs : k.Ready s) :
    ∃ o t, r.rule.run r.graph (some ⟨true, r.refreezes⟩) s = (o, t) ∧
      (o.status, o.violations) = r.verdict (k.baseline s n) ∧
      k.Ready t ∧ k.baseline t n = r.next (k.baseline s n) := by
  have hname : r.rule.name ∈ names := hwithin r.rule r.mem r.freezes
  cases h : r.rule.evaluate r.graph with
  | error failure =>
    refine ⟨_, s, Rule.run_of_error h _ s, ?_, hs, ?_⟩
    · rw [verdict, h]
      rfl
    · rw [next, found?, h]
  | ok violations =>
    obtain ⟨t, hrun, hchanges⟩ := Rule.run_of_freeze r.freezes hname h hs r.refreezes
    rw [r.name_eq] at hrun hchanges
    refine ⟨_, t, hrun, ?_, hchanges.ready, ?_⟩
    · simp only [Rule.outcome_ok, verdict, h]
    · rw [hchanges.own, next, found?, h]
      cases r.refreezes <;> cases k.baseline s n <;> rfl

theorem perform_eq {r : Run n} (hwithin : r.Within names) {s : σ} (hs : k.Ready s) :
    ∃ report o t, r.perform s = (.ok report, t) ∧ report.outcome? n = some o ∧
      (o.status, o.violations) = r.verdict (k.baseline s n) ∧
      k.Ready t ∧ k.baseline t n = r.next (k.baseline s n) := by
  have hn : n ∈ names := r.name_eq ▸ hwithin r.rule r.mem r.freezes
  obtain ⟨front, back, hsplit, hfront, hback⟩ := r.exists_split
  have hwithinFront : ∀ x ∈ front, x.freeze = true → x.name ∈ names := fun x hx =>
    hwithin x (hsplit ▸ by simp [hx])
  have hwithinBack : ∀ x ∈ back, x.freeze = true → x.name ∈ names := fun x hx =>
    hwithin x (hsplit ▸ by simp [hx])
  obtain ⟨os, t₁, hfrontRun, hready₁, hkept₁⟩ :=
    Report.runAll_keeps hn hwithinFront hfront r.graph r.refreezes 0 hs
  obtain ⟨o, t₂, hrun, hverdict, hready₂, hnext⟩ := run_rule hwithin hready₁
  obtain ⟨others, t₃, hbackRun, hready₃, hkept₃⟩ :=
    Report.runAll_keeps hn hwithinBack hback r.graph r.refreezes (0 + front.length + 1) hready₂
  have hturn : r.rule.turn r.graph (some ⟨true, r.refreezes⟩) false t₁ = (o, t₂) := hrun
  have hall : Report.runAll r.graph (some ⟨true, r.refreezes⟩) (fun _ => false) 0 s r.rules
      = (os ++ o :: others, t₃) := by
    rw [hsplit, Report.runAll_append hfrontRun, Report.runAll_cons hturn, hbackRun]
  have ho : o.rule = n := by
    have hrule := r.rule.rule_of_run r.graph (some ⟨true, r.refreezes⟩) t₁
    rwa [hrun, r.name_eq] at hrule
  rw [hkept₁] at hverdict hnext
  refine ⟨⟨os ++ o :: others⟩, o, t₃, ?_, ?_, hverdict, hready₃, hkept₃.trans hnext⟩
  · rw [perform, Report.check, r.valid, hall]
  · exact Report.outcome?_eq_some hfrontRun hfront ho others

theorem after_concat (s : σ) (past : List (Run n)) (r : Run n) :
    after s (past ++ [r]) = (r.perform (after s past)).2 := by
  induction past generalizing s with
  | nil => rfl
  | cons x past ih => exact ih _

theorem baseline_after {s : σ} (hs : k.Ready s) {runs : List (Run n)}
    (hwithin : ∀ r ∈ runs, r.Within names) :
    k.Ready (after s runs) ∧ k.baseline (after s runs) n = baseline (k.baseline s n) runs := by
  induction runs using List.reverseRecOn with
  | nil => exact ⟨hs, (Option.or_none).symm⟩
  | append_singleton past r ih =>
    obtain ⟨hready, hpast⟩ := ih fun x hx => hwithin x (by simp [hx])
    obtain ⟨_, _, t, hperform, _, _, ht, hnext⟩ := perform_eq (hwithin r (by simp)) hready
    rw [after_concat, hperform, baseline_concat, ← hpast]
    exact ⟨ht, hnext⟩

/-- After any history, a store in working order holds the baseline that the history leads to, and
the report of the last run gives the verdict on the rule by the baseline before. -/
theorem loaded_after_and_outcome (k : Keeping σ names) {s : σ} (hs : k.Ready s)
    {initial : Option (Finset Signature)} (hinitial : loaded s n = .ok initial)
    {past : List (Run n)} {r : Run n} (hwithin : ∀ x ∈ past ++ [r], x.Within names) :
    loaded (after s (past ++ [r])) n = .ok (baseline initial (past ++ [r])) ∧
      ∃ report o, (r.perform (after s past)).1 = .ok report ∧ report.outcome? n = some o ∧
        (o.status, o.violations) = r.verdict (baseline initial past) := by
  have hr : r.Within names := hwithin r (by simp)
  have hn : n ∈ names := r.name_eq ▸ hr r.rule r.mem r.freezes
  have hstart : k.baseline s n = initial := Except.ok.inj ((k.loaded_eq hs hn).symm.trans hinitial)
  subst hstart
  have hwithinPast : ∀ x ∈ past, x.Within names := fun x hx => hwithin x (by simp [hx])
  obtain ⟨hready, hall⟩ := baseline_after hs hwithin
  obtain ⟨hbefore, hpast⟩ := baseline_after hs hwithinPast
  obtain ⟨report, o, t, hperform, ho, hverdict, _, _⟩ := perform_eq hr hbefore
  refine ⟨?_, report, o, ?_, ho, ?_⟩
  · rw [k.loaded_eq hready hn, hall]
  · rw [hperform]
  · rw [hverdict, hpast]

def noClasses : Rule :=
  { Rule.plain "empty" .anything .none with condition := some .anything, freeze := true }

def overClasses (classes : List String) : Run "empty" where
  graph := .ofSorted (classes.map fun c => { Facts.Node.external c with isExternal := false }) []
  rules := [noClasses]
  rule := noClasses
  refreezes := false
  valid := by rfl
  mem := List.mem_singleton_self _
  name_eq := rfl
  freezes := rfl

example : (overClasses ["a.A", "a.B"]).verdict (baseline none [overClasses ["a.A"]])
    = (.failed, [⟨"empty", "a.B", "a.B satisfies 'anything'"⟩]) := by rfl

theorem loaded_after_overClasses :
    loaded (after Memory.empty ([overClasses ["a.A"]] ++ [overClasses ["a.A", "a.B"]])) "empty"
        = .ok (baseline none ([overClasses ["a.A"]] ++ [overClasses ["a.A", "a.B"]])) ∧
      ∃ report o, ((overClasses ["a.A", "a.B"]).perform
          (after Memory.empty [overClasses ["a.A"]])).1 = .ok report ∧
        report.outcome? "empty" = some o ∧ (o.status, o.violations)
          = (overClasses ["a.A", "a.B"]).verdict (baseline none [overClasses ["a.A"]]) :=
  loaded_after_and_outcome (Memory.keeping Set.univ) trivial rfl fun _ _ _ _ _ => trivial
end Run

end Conformance.Baseline
