import Conformance.Report.Check
import Conformance.Proofs.Baseline.Freezing
import Conformance.Proofs.Rule.Evaluated

/-! A run rule by rule. Every rule has an outcome under its own name, and over a store in working
order it changes its own baseline at most. -/
namespace Conformance

open Facts Baseline

section
variable {σ : Type} [Store σ]

namespace Rule

theorem rule_of_outcome (r : Rule) (freezer : Option Freezer)
    (result : Except Failure (List Violation)) : (r.outcome freezer result).rule = r.name := by
  rcases result with _ | _ | _ <;> rfl

theorem outcome_ok (r : Rule) (freezer : Option Freezer) (violations : List Violation) :
    r.outcome freezer (.ok violations) = { r.cancelled freezer with
      status := if violations.isEmpty then .passed else .failed, violations } := by
  cases violations <;> rfl

theorem rule_of_run (r : Rule) (g : Graph) (freezer : Option Freezer) (s : σ) :
    (r.run g freezer s).1.rule = r.name := r.rule_of_outcome freezer _

def turn (r : Rule) (g : Graph) (freezer : Option Freezer) (isCancelled : Bool) (s : σ) :
    Outcome × σ := if isCancelled then (r.cancelled freezer, s) else r.run g freezer s

theorem rule_of_turn (r : Rule) (g : Graph) (freezer : Option Freezer) (isCancelled : Bool)
    (s : σ) : (r.turn g freezer isCancelled s).1.rule = r.name := by
  cases isCancelled with
  | false => exact r.rule_of_run g freezer s
  | true => rfl

theorem findings_of_error {r : Rule} {g : Graph} {failure : Failure}
    (h : r.evaluate g = .error failure) (freezer : Option Freezer) (s : σ) :
    r.findings g freezer s = (.error failure, s) := by
  rw [findings, h]

theorem findings_of_freezer?_eq_none {r : Rule} {g : Graph} {violations : List Violation}
    (h : r.evaluate g = .ok violations) {freezer : Option Freezer}
    (hnone : r.freezer? freezer = none) (s : σ) :
    r.findings g freezer s = (.ok violations, s) := by
  rw [findings, h]
  simp only [hnone]

theorem findings_of_freezer?_eq_some {r : Rule} {g : Graph} {violations : List Violation}
    (h : r.evaluate g = .ok violations) {freezer : Option Freezer} {f : Freezer}
    (hsome : r.freezer? freezer = some f) (s : σ) :
    r.findings g freezer s = ((f.apply s r.name violations).1.mapError Failure.baseline,
      (f.apply s r.name violations).2) := by
  rw [findings, h]
  simp only [hsome]
  rcases f.apply s r.name violations with ⟨_ | _, t⟩ <;> rfl

theorem run_eq (r : Rule) (g : Graph) (freezer : Option Freezer) (s : σ) :
    r.run g freezer s
      = (r.outcome freezer (r.findings g freezer s).1, (r.findings g freezer s).2) := rfl

theorem run_of_error {r : Rule} {g : Graph} {failure : Failure}
    (h : r.evaluate g = .error failure) (freezer : Option Freezer) (s : σ) :
    r.run g freezer s = (r.outcome freezer (.error failure), s) := by
  rw [run_eq, findings_of_error h]

theorem run_of_not_freeze {r : Rule} (h : r.freeze = false) (g : Graph)
    (freezer : Option Freezer) (s : σ) : (r.run g freezer s).2 = s := by
  have hnone : r.freezer? freezer = none := by rw [freezer?, h]; rfl
  cases hresult : r.evaluate g with
  | error failure => rw [run_of_error hresult]
  | ok violations => rw [run_eq, findings_of_freezer?_eq_none hresult hnone]

variable (σ) in
/-- A rule reports what it found and leaves every store as it is, or it freezes and goes through the
freezer with what it found. -/
theorem run_cases (r : Rule) (g : Graph) (freezer : Option Freezer) :
    (∀ s : σ, r.run g freezer s = (r.outcome freezer (r.evaluate g), s)) ∨
      ∃ f violations, r.freeze = true ∧ freezer = some f ∧ r.evaluate g = .ok violations ∧
        ∀ s : σ, r.run g freezer s =
          (r.outcome freezer ((f.apply s r.name violations).1.mapError Failure.baseline),
            (f.apply s r.name violations).2) := by
  cases hevaluate : r.evaluate g with
  | error failure => exact .inl (run_of_error hevaluate freezer)
  | ok violations =>
    cases hfreezer : r.freezer? freezer with
    | none =>
      refine .inl fun s => ?_
      rw [run_eq, findings_of_freezer?_eq_none hevaluate hfreezer]
    | some f =>
      have happlies : r.freeze = true ∧ freezer = some f := by
        rw [freezer?] at hfreezer
        split at hfreezer
        · next hfreeze => exact ⟨hfreeze, hfreezer⟩
        · contradiction
      refine .inr ⟨f, violations, happlies.1, happlies.2, rfl, fun s => ?_⟩
      rw [run_eq, findings_of_freezer?_eq_some hevaluate hfreezer]

variable {names : Set String} {k : Keeping σ names}

theorem run_of_freeze {r : Rule} (hfreeze : r.freeze = true) (hname : r.name ∈ names) {g : Graph}
    {violations : List Violation} (h : r.evaluate g = .ok violations) {s : σ} (hs : k.Ready s)
    (refreezes : Bool) :
    ∃ t, r.run g (some ⟨true, refreezes⟩) s = (r.outcome (some ⟨true, refreezes⟩)
        (.ok (remaining refreezes (k.baseline s r.name) violations)), t) ∧
      k.Changes r.name (some (frozen refreezes (k.baseline s r.name) violations)) s t := by
  obtain ⟨t, happly, hchanges⟩ := Keeping.apply_eq hs hname (rule_of_evaluate h) refreezes
  have hsome : r.freezer? (some ⟨true, refreezes⟩) = some ⟨true, refreezes⟩ := by
    rw [freezer?, if_pos hfreeze]
  refine ⟨t, ?_, hchanges⟩
  rw [run_eq, findings_of_freezer?_eq_some h hsome, happly]
  rfl

/-- A rule changes its own baseline at most. -/
theorem exists_changes_run {r : Rule} (hname : r.freeze = true → r.name ∈ names) (g : Graph)
    {s : σ} (hs : k.Ready s) (refreezes : Bool) :
    ∃ o t, r.run g (some ⟨true, refreezes⟩) s = (o, t) ∧
      ∃ accepted, k.Changes r.name accepted s t := by
  cases hfreeze : r.freeze with
  | false =>
    have hkeep := run_of_not_freeze hfreeze g (some ⟨true, refreezes⟩) s
    exact ⟨_, s, Prod.ext rfl hkeep, _, Keeping.changes_self hs _⟩
  | true =>
    cases h : r.evaluate g with
    | error failure => exact ⟨_, s, run_of_error h _ s, _, Keeping.changes_self hs _⟩
    | ok violations =>
      obtain ⟨t, hrun, hchanges⟩ := run_of_freeze hfreeze (hname hfreeze) h hs refreezes
      exact ⟨_, t, hrun, _, hchanges⟩

end Rule

namespace Report

variable {g : Graph} {freezer : Option Freezer} {isCancelled : Nat → Bool} {asked : Nat} {s t : σ}

theorem runAll_cons {r : Rule} {o : Outcome}
    (h : r.turn g freezer (isCancelled asked) s = (o, t)) (rest : List Rule) :
    runAll g freezer isCancelled asked s (r :: rest)
      = (o :: (runAll g freezer isCancelled (asked + 1) t rest).1,
        (runAll g freezer isCancelled (asked + 1) t rest).2) := by
  rw [Rule.turn] at h
  rw [runAll, h]

theorem runAll_append {front : List Rule} {os : List Outcome}
    (h : runAll g freezer isCancelled asked s front = (os, t)) (rest : List Rule) :
    runAll g freezer isCancelled asked s (front ++ rest)
      = (os ++ (runAll g freezer isCancelled (asked + front.length) t rest).1,
        (runAll g freezer isCancelled (asked + front.length) t rest).2) := by
  induction front generalizing asked s os with
  | nil =>
    obtain ⟨rfl, rfl⟩ := Prod.mk.inj h
    rfl
  | cons r front ih =>
    obtain ⟨o, u, hturn⟩ : ∃ o u, r.turn g freezer (isCancelled asked) s = (o, u) := ⟨_, _, rfl⟩
    rw [runAll_cons hturn] at h
    obtain ⟨rfl, rfl⟩ := Prod.mk.inj h
    have hasked : asked + (r :: front).length = asked + 1 + front.length := by
      rw [List.length_cons]
      omega
    rw [List.cons_append, runAll_cons hturn, ih rfl, hasked]
    rfl

/-- What holds of each turn holds of a run, outcome by outcome. -/
theorem forall₂_runAll {p : Rule → Outcome → Prop} {rules : List Rule}
    (hp : ∀ r ∈ rules, ∀ cancelled (u : σ), p r (r.turn g freezer cancelled u).1)
    {os : List Outcome} (h : runAll g freezer isCancelled asked s rules = (os, t)) :
    List.Forall₂ p rules os := by
  induction rules generalizing asked s os with
  | nil =>
    obtain ⟨rfl, _⟩ := Prod.mk.inj h
    exact .nil
  | cons r rest ih =>
    obtain ⟨hr, hrest⟩ := List.forall_mem_cons.1 hp
    obtain ⟨o, u, hturn⟩ : ∃ o u, r.turn g freezer (isCancelled asked) s = (o, u) := ⟨_, _, rfl⟩
    have ho := hr (isCancelled asked) s
    rw [hturn] at ho
    rw [runAll_cons hturn] at h
    obtain ⟨rfl, ht⟩ := Prod.mk.inj h
    exact .cons ho (ih hrest (Prod.ext rfl ht))

theorem forall_mem_runAll {p : Outcome → Prop} {rules : List Rule}
    (hp : ∀ r ∈ rules, ∀ cancelled (u : σ), p (r.turn g freezer cancelled u).1)
    {os : List Outcome} (h : runAll g freezer isCancelled asked s rules = (os, t)) :
    ∀ o ∈ os, p o :=
  forall_mem_of_forall₂ (r := fun _ o => p o) (fun _ _ ho => ho) (forall₂_runAll hp h)

theorem map_rule_runAll {rules : List Rule} {os : List Outcome}
    (h : runAll g freezer isCancelled asked s rules = (os, t)) :
    os.map (·.rule) = rules.map (·.name) := by
  have hrules : List.Forall₂ (fun r o => o.rule = r.name) rules os :=
    forall₂_runAll (fun r _ cancelled u => r.rule_of_turn g freezer cancelled u) h
  rw [← List.forall₂_eq_eq_eq, List.forall₂_map_left_iff, List.forall₂_map_right_iff]
  exact hrules.flip

theorem outcome?_eq_some {front : List Rule} {os : List Outcome}
    (h : runAll g freezer isCancelled asked s front = (os, t)) {n : String}
    (hfront : ∀ r ∈ front, r.name ≠ n) {o : Outcome} (ho : o.rule = n) (rest : List Outcome) :
    (⟨os ++ o :: rest⟩ : Report).outcome? n = some o := by
  have hos : os.find? (·.rule == n) = none := by
    rw [List.find?_eq_none]
    intro x hx hrule
    obtain ⟨r, hr, hname⟩ := List.mem_map.1 (map_rule_runAll h ▸ List.mem_map_of_mem hx)
    exact hfront r hr (hname.trans (by simpa using hrule))
  rw [outcome?, List.find?_append, hos, List.find?_cons_of_pos (by simpa using ho)]
  rfl

variable {names : Set String} {k : Keeping σ names}

theorem runAll_keeps {n : String} (hn : n ∈ names) {rules : List Rule}
    (hnames : ∀ r ∈ rules, r.freeze = true → r.name ∈ names) (hother : ∀ r ∈ rules, r.name ≠ n)
    (g : Graph) (refreezes : Bool) (asked : Nat) {s : σ} (hs : k.Ready s) :
    ∃ os t, runAll g (some ⟨true, refreezes⟩) (fun _ => false) asked s rules = (os, t) ∧
      k.Ready t ∧ k.baseline t n = k.baseline s n := by
  induction rules generalizing asked s with
  | nil => exact ⟨[], s, rfl, hs, rfl⟩
  | cons r rest ih =>
    obtain ⟨o, t, hrun, _, hchanges⟩ :=
      Rule.exists_changes_run (hnames r (by simp)) g hs refreezes
    obtain ⟨os, u, hrest, hready, hkept⟩ := ih (fun x hx => hnames x (by simp [hx]))
      (fun x hx => hother x (by simp [hx])) (asked + 1) hchanges.ready
    have hne : n ≠ r.name := (hother r (by simp)).symm
    have hturn : r.turn g (some ⟨true, refreezes⟩) false s = (o, t) := hrun
    refine ⟨o :: os, u, ?_, hready, hkept.trans ?_⟩
    · rw [runAll_cons hturn, hrest]
    · rw [Keeping.baseline, hchanges.others n hn hne, Keeping.baseline]

end Report

end

end Conformance
