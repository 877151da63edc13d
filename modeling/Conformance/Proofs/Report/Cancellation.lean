import Conformance.Proofs.Report.Isolation

/-! Runs that are cancelled on their way. Up to some rule such a run is the run without a
cancellation, and from there on nothing happens: every rule stands as cancelled, whatever its
predicates would answer and whatever the store would say, and the store stays as it was left. -/
namespace Conformance

open Facts Baseline

/-- Whether some questions are cut at the `n`-th of them: the ones before it are answered with no,
and from it on they are answered with yes. -/
structure CutAt (isCancelled : Nat → Bool) (count n : Nat) : Prop where
  le : n ≤ count
  before : ∀ i < n, isCancelled i = false
  after : ∀ i, n ≤ i → i < count → isCancelled i = true

theorem exists_cutAt {isCancelled : Nat → Bool} (hstays : Monotone isCancelled) (count : Nat) :
    ∃ n, CutAt isCancelled count n := by
  induction count with
  | zero => exact ⟨0, le_refl 0, by simp, by simp⟩
  | succ count ih =>
    obtain ⟨n, hle, hbefore, hafter⟩ := ih
    cases hlast : isCancelled count with
    | false =>
      refine ⟨count + 1, le_refl _, fun i hi => ?_, fun i hi hlt => by omega⟩
      exact Bool.eq_false_of_le_false (hlast ▸ hstays (Nat.le_of_lt_succ hi))
    | true =>
      refine ⟨n, by omega, hbefore, fun i hi hlt => ?_⟩
      rcases Nat.lt_succ_iff_lt_or_eq.1 hlt with hlt | rfl
      · exact hafter i hi hlt
      · exact hlast

structure Rule.Skipped (freezer : Option Freezer) (r : Rule) (o : Outcome) : Prop where
  rule : o.rule = r.name
  status : o.status = .cancelled
  violations : o.violations = []
  error : o.error = none
  description : o.description = r.description
  because : o.because = r.because
  frozen_iff : o.frozen = true ↔ r.freeze = true ∧ ∃ f, freezer = some f

/-- Two rules are presented alike, whatever they select and demand. -/
structure Rule.SameHeading (r r' : Rule) : Prop where
  name : r'.name = r.name
  description : r'.description = r.description
  because : r'.because = r.because
  freeze : r'.freeze = r.freeze

namespace Rule

theorem skipped_cancelled (r : Rule) (freezer : Option Freezer) :
    r.Skipped freezer (r.cancelled freezer) where
  rule := rfl
  status := rfl
  violations := rfl
  error := rfl
  description := rfl
  because := rfl
  frozen_iff := by
    cases hfreeze : r.freeze <;> simp [cancelled, freezer?, hfreeze, Option.isSome_iff_exists]

theorem SameHeading.cancelled_eq {r r' : Rule} (h : SameHeading r r') (freezer : Option Freezer) :
    r'.cancelled freezer = r.cancelled freezer := by
  rw [cancelled, cancelled, freezer?, freezer?, h.name, h.description, h.because, h.freeze]

end Rule

namespace Report

/-- Whether nothing happens to some rules but that they are told to be cancelled. Rules that are
presented alike have the same outcomes, whatever their predicates are and whatever graph there is,
and a store of any kind, whatever it answers, stays in the state that it is in. -/
def Idle (freezer : Option Freezer) (isCancelled : Nat → Bool) (asked : Nat) (rules : List Rule)
    (outcomes : List Outcome) : Prop :=
  ∀ (τ : Type) [Store τ] (t : τ) (g : Graph) (others : List Rule),
    List.Forall₂ Rule.SameHeading rules others →
      runAll g freezer isCancelled asked t others = (outcomes, t)

section
variable {σ : Type} [Store σ] {g : Graph} {freezer : Option Freezer} {isCancelled : Nat → Bool}

/-- A run goes by the answers to the questions that it asks. -/
theorem runAll_congr_asked {rules : List Rule} {asked : Nat} {isCancelled' : Nat → Bool}
    (h : ∀ i < rules.length, isCancelled (asked + i) = isCancelled' (asked + i)) (s : σ) :
    runAll g freezer isCancelled asked s rules = runAll g freezer isCancelled' asked s rules := by
  induction rules generalizing asked s with
  | nil => rfl
  | cons r rest ih =>
    have hfirst : isCancelled asked = isCancelled' asked := h 0 (by simp)
    have hrest : ∀ i < rest.length,
        isCancelled (asked + 1 + i) = isCancelled' (asked + 1 + i) := by
      intro i hi
      rw [Nat.add_right_comm, Nat.add_assoc]
      exact h (i + 1) (by simpa using hi)
    simp only [runAll, hfirst, ih hrest]

theorem runAll_of_cancelled {rules : List Rule} {asked : Nat}
    (h : ∀ i < rules.length, isCancelled (asked + i) = true) (s : σ) :
    runAll g freezer isCancelled asked s rules = (rules.map (·.cancelled freezer), s) := by
  have hall : runAll g freezer isCancelled asked s rules
      = runAll g freezer (fun _ => true) asked s rules := runAll_congr_asked h s
  rw [hall]
  clear h hall
  induction rules generalizing asked with
  | nil => rfl
  | cons r rest ih =>
    have hturn : r.turn g freezer true s = (r.cancelled freezer, s) := rfl
    rw [runAll_cons hturn, ih]
    rfl

theorem idle_of_cancelled {rules : List Rule} {asked : Nat}
    (h : ∀ i < rules.length, isCancelled (asked + i) = true) :
    Idle freezer isCancelled asked rules (rules.map (·.cancelled freezer)) := by
  intro τ _ t g others hothers
  have hasked : ∀ i < others.length, isCancelled (asked + i) = true := hothers.length_eq ▸ h
  have hsame : List.Forall₂ (fun r r' => r'.cancelled freezer = r.cancelled freezer)
      rules others := hothers.imp fun _ _ hr => hr.cancelled_eq freezer
  have hmap : others.map (·.cancelled freezer) = rules.map (·.cancelled freezer) := by
    rw [← List.forall₂_eq_eq_eq, List.forall₂_map_left_iff, List.forall₂_map_right_iff]
    exact hsame.flip
  rw [runAll_of_cancelled hasked, hmap]

/-- A run that is cut is the run of the rules before the cut, and the rest is cancelled. -/
theorem runAll_of_cutAt {rules : List Rule} {n : Nat} (h : CutAt isCancelled rules.length n)
    {s t : σ} {os : List Outcome}
    (hran : runAll g freezer (fun _ => false) 0 s (rules.take n) = (os, t)) :
    runAll g freezer isCancelled 0 s rules
      = (os ++ (rules.drop n).map (·.cancelled freezer), t) := by
  have hlength : (rules.take n).length = n := List.length_take_of_le h.le
  have hfront : runAll g freezer isCancelled 0 s (rules.take n) = (os, t) := by
    rw [← hran]
    refine runAll_congr_asked (fun i hi => ?_) s
    rw [Nat.zero_add]
    exact h.before i (hlength ▸ hi)
  have hback : ∀ i < (rules.drop n).length, isCancelled (0 + (rules.take n).length + i) = true := by
    intro i hi
    rw [List.length_drop] at hi
    rw [Nat.zero_add, hlength]
    exact h.after (n + i) (by omega) (by omega)
  have happend := runAll_append hfront (rules.drop n)
  rwa [List.take_append_drop, runAll_of_cancelled hback] at happend

theorem take_runAll {rules : List Rule} {n : Nat} (hn : n ≤ rules.length) {s t : σ}
    {os : List Outcome} (hran : runAll g freezer (fun _ => false) 0 s (rules.take n) = (os, t)) :
    (runAll g freezer (fun _ => false) 0 s rules).1.take n = os := by
  have hlength : os.length = n := by
    have hrules := congrArg List.length (map_rule_runAll hran)
    rwa [List.length_map, List.length_map, List.length_take_of_le hn] at hrules
  have happend := runAll_append hran (rules.drop n)
  rw [List.take_append_drop] at happend
  rw [happend]
  exact List.take_left' hlength

/-- Whether a check that is cancelled on its way is cut cleanly. It has the outcomes of the whole
check up to the first question that was answered with yes, and leaves the store as a check of the
rules before does. To the other rules nothing happens but that they are told to be cancelled. -/
def CutsCleanly (g : Graph) (rules : List Rule) (freezer : Option Freezer)
    (isCancelled : Nat → Bool) (s : σ) : Prop :=
  ∃ n full skipped t u, CutAt isCancelled rules.length n ∧
    check g rules freezer (fun _ => false) s = (.ok full, u) ∧
    check g (rules.take n) freezer (fun _ => false) s = (.ok ⟨full.outcomes.take n⟩, t) ∧
    check g rules freezer isCancelled s = (.ok ⟨full.outcomes.take n ++ skipped⟩, t) ∧
    List.Forall₂ (Rule.Skipped freezer) (rules.drop n) skipped ∧
    Idle freezer isCancelled n (rules.drop n) skipped

/-- A check of a valid set of rules is cut cleanly by a cancellation that is not taken back. -/
theorem check_cutsCleanly {rules : List Rule} (hvalid : Rule.checkAll rules = .ok ()) (g : Graph)
    (freezer : Option Freezer) {isCancelled : Nat → Bool} (hstays : Monotone isCancelled) (s : σ) :
    CutsCleanly g rules freezer isCancelled s := by
  obtain ⟨n, hcut⟩ := exists_cutAt hstays rules.length
  obtain ⟨os, t, hran⟩ :
      ∃ os t, runAll g freezer (fun _ => false) 0 s (rules.take n) = (os, t) := ⟨_, _, rfl⟩
  have hfront : Rule.checkAll (rules.take n) = .ok () := by
    obtain ⟨hchecks, hnodup⟩ := Rule.checkAll_eq_ok_iff.1 hvalid
    refine Rule.checkAll_eq_ok_iff.2 ⟨fun r hr => hchecks r (List.mem_of_mem_take hr), ?_⟩
    exact hnodup.sublist ((List.take_sublist n rules).map _)
  have hback : ∀ i < (rules.drop n).length, isCancelled (n + i) = true := by
    intro i hi
    rw [List.length_drop] at hi
    exact hcut.after (n + i) (by omega) (by omega)
  refine ⟨n, _, (rules.drop n).map (·.cancelled freezer), t, _, hcut,
    check_of_valid hvalid g freezer _ s, ?_, ?_, ?_, idle_of_cancelled hback⟩
  · rw [check_of_valid hfront, hran, take_runAll hcut.le hran]
  · rw [check_of_valid hvalid, runAll_of_cutAt hcut hran, take_runAll hcut.le hran]
  · rw [List.forall₂_map_right_iff, List.forall₂_same]
    exact fun r _ => r.skipped_cancelled freezer

end

/-- A cancellation between a rule that fails and one that would record a baseline. -/
theorem check_cutsCleanly_failingAndFinding :
    Rule.checkAll failingAndFinding = .ok () ∧ Monotone (fun i => decide (1 ≤ i)) ∧
      CutsCleanly (Graph.build [.known "app.A"] []) failingAndFinding (some ⟨true, false⟩)
        (fun i => decide (1 ≤ i)) Memory.empty := by
  have hvalid : Rule.checkAll failingAndFinding = .ok () := by rfl
  have hstays : Monotone (fun i => decide (1 ≤ i)) := by
    intro i j hij
    rw [Bool.le_iff_imp]
    simpa using fun h : 1 ≤ i => le_trans h hij
  exact ⟨hvalid, hstays, check_cutsCleanly hvalid _ _ hstays Memory.empty⟩

end Report

end Conformance
