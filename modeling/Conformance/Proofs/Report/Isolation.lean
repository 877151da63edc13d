import Conformance.Proofs.Baseline.Slots
import Conformance.Proofs.Facts.Canonical
import Conformance.Proofs.Report.Check

/-! Rules do not touch each other. Under a store that falls into slots a rule reads and writes the
slot of its own name, so each rule of a valid set gets the outcome, and leaves the baseline, that it
gets by itself, whatever the others come to and in whatever order they run. -/
namespace Conformance

open Facts Baseline

section
variable {σ : Type} [Store σ]

namespace Rule

variable {names : Set String} (k : Slots σ names)

theorem run_congr (r : Rule) (g : Graph) (freezer : Option Freezer) {s t : σ}
    (h : k.slot s r.name = k.slot t r.name) :
    (r.run g freezer s).1 = (r.run g freezer t).1 ∧
      k.slot (r.run g freezer s).2 r.name = k.slot (r.run g freezer t).2 r.name := by
  rcases r.run_cases σ g freezer with hrun | ⟨f, violations, _, _, _, hrun⟩
  · rw [hrun s, hrun t]
    exact ⟨rfl, h⟩
  · obtain ⟨hresult, hslot⟩ := k.apply_congr f h violations
    rw [hrun s, hrun t, hresult]
    exact ⟨rfl, hslot⟩

theorem run_other (r : Rule) (g : Graph) (freezer : Option Freezer) (s : σ) {n : String}
    (hn : n ∈ names) (hr : r.name ∈ names) (hne : n ≠ r.name) :
    k.slot (r.run g freezer s).2 n = k.slot s n := by
  rcases r.run_cases σ g freezer with hrun | ⟨f, violations, _, _, _, hrun⟩
  · rw [hrun s]
  · rw [hrun s]
    exact k.apply_other f s hn hr hne violations

end Rule

namespace Report

/-- Whether, from any state of a store, the rules of a set get the outcomes and leave the baselines
that each gets by itself, in whatever order they are run. -/
def Isolates (σ : Type) [Store σ] (g : Graph) (rules : List Rule) (freezer : Option Freezer) :
    Prop :=
  ∀ s : σ, ∃ outcome : Rule → Outcome,
    (∀ r ∈ rules, (check g [r] freezer (fun _ => false) s).1 = .ok ⟨[outcome r]⟩) ∧
    ∀ order : List Rule, order.Perm rules →
      (check g order freezer (fun _ => false) s).1 = .ok ⟨order.map outcome⟩ ∧
      ∀ r ∈ rules, Store.load (check g order freezer (fun _ => false) s).2 r.name
        = Store.load (check g [r] freezer (fun _ => false) s).2 r.name

theorem runAll_never_cons (g : Graph) (freezer : Option Freezer) (asked : Nat) (s : σ) (r : Rule)
    (rest : List Rule) :
    runAll g freezer (fun _ => false) asked s (r :: rest)
      = ((r.run g freezer s).1 ::
          (runAll g freezer (fun _ => false) (asked + 1) (r.run g freezer s).2 rest).1,
        (runAll g freezer (fun _ => false) (asked + 1) (r.run g freezer s).2 rest).2) := rfl

theorem check_of_valid {rules : List Rule} (h : Rule.checkAll rules = .ok ()) (g : Graph)
    (freezer : Option Freezer) (isCancelled : Nat → Bool) (s : σ) :
    check g rules freezer isCancelled s = (.ok ⟨(runAll g freezer isCancelled 0 s rules).1⟩,
      (runAll g freezer isCancelled 0 s rules).2) := by
  rw [check, h]

variable {names : Set String}

/-- Each rule of a run has the outcome and leaves the slot that it has and leaves by itself. -/
theorem runAll_eq_map (k : Slots σ names) (g : Graph) (freezer : Option Freezer) {rules : List Rule}
    (hnames : ∀ r ∈ rules, r.name ∈ names) (hnodup : (rules.map (·.name)).Nodup) (asked : Nat)
    (s : σ) :
    (runAll g freezer (fun _ => false) asked s rules).1
        = rules.map (fun r => (r.run g freezer s).1) ∧
      (∀ n ∈ names, (∀ r ∈ rules, n ≠ r.name) →
        k.slot (runAll g freezer (fun _ => false) asked s rules).2 n = k.slot s n) ∧
      ∀ r ∈ rules, k.slot (runAll g freezer (fun _ => false) asked s rules).2 r.name
        = k.slot (r.run g freezer s).2 r.name := by
  induction rules generalizing asked s with
  | nil => exact ⟨rfl, fun _ _ _ => rfl, by simp⟩
  | cons r rest ih =>
    obtain ⟨hr, hrest⟩ := List.forall_mem_cons.1 hnames
    obtain ⟨hfresh, hnodup⟩ := List.nodup_cons.1 hnodup
    obtain ⟨houtcomes, hothers, howns⟩ := ih hrest hnodup (asked + 1) (r.run g freezer s).2
    have hne : ∀ x ∈ rest, x.name ≠ r.name := fun x hx heq =>
      hfresh (List.mem_map.2 ⟨x, hx, heq⟩)
    have hkept : ∀ x ∈ rest, k.slot (r.run g freezer s).2 x.name = k.slot s x.name :=
      fun x hx => r.run_other k g freezer s (hrest x hx) hr (hne x hx)
    rw [runAll_never_cons]
    refine ⟨?_, fun n hn hother => ?_, ?_⟩
    · have hrun : ∀ x ∈ rest,
          (x.run g freezer (r.run g freezer s).2).1 = (x.run g freezer s).1 :=
        fun x hx => (x.run_congr k g freezer (hkept x hx)).1
      rw [houtcomes, List.map_cons, List.map_congr_left hrun]
    · obtain ⟨hfirst, hother⟩ := List.forall_mem_cons.1 hother
      exact (hothers n hn hother).trans (r.run_other k g freezer s hn hr hfirst)
    · refine List.forall_mem_cons.2 ⟨?_, fun x hx => ?_⟩
      · exact hothers r.name hr fun x hx => (hne x hx).symm
      · exact (howns x hx).trans (x.run_congr k g freezer (hkept x hx)).2

theorem isolates_of_slots (k : Slots σ names) {rules : List Rule} (hvalid : Rule.checkAll rules = .ok ())
    (hnames : ∀ r ∈ rules, r.name ∈ names) (g : Graph) (freezer : Option Freezer) :
    Isolates σ g rules freezer := by
  intro s
  obtain ⟨hchecks, hnodup⟩ := Rule.checkAll_eq_ok_iff.1 hvalid
  have hsolo : ∀ r ∈ rules, check g [r] freezer (fun _ => false) s
      = (.ok ⟨[(r.run g freezer s).1]⟩, (r.run g freezer s).2) := by
    intro r hr
    have hone : Rule.checkAll [r] = .ok () :=
      Rule.checkAll_eq_ok_iff.2 ⟨by simpa using hchecks r hr, by simp⟩
    rw [check_of_valid hone]
    rfl
  refine ⟨fun r => (r.run g freezer s).1, fun r hr => by rw [hsolo r hr], fun order hperm => ?_⟩
  have hmem : ∀ r, r ∈ order ↔ r ∈ rules := fun r => hperm.mem_iff
  have horder : (order.map (·.name)).Nodup := (hperm.map _).nodup_iff.2 hnodup
  have hvalidOrder : Rule.checkAll order = .ok () :=
    Rule.checkAll_eq_ok_iff.2 ⟨fun r hr => hchecks r ((hmem r).1 hr), horder⟩
  obtain ⟨houtcomes, _, howns⟩ :=
    runAll_eq_map k g freezer (fun r hr => hnames r ((hmem r).1 hr)) horder 0 s
  rw [check_of_valid hvalidOrder, houtcomes]
  refine ⟨rfl, fun r hr => ?_⟩
  rw [hsolo r hr]
  exact k.load_congr (howns r ((hmem r).2 hr))

def namesOf (rules : List Rule) : Set String := {n | ∃ r ∈ rules, r.name = n}

/-- The rules of a valid set are isolated from each other in memory, in a database, and in a
directory where their names have different files. -/
theorem isolates_everywhere {rules : List Rule} (hvalid : Rule.checkAll rules = .ok ())
    (g : Graph) (freezer : Option Freezer) :
    Isolates Memory g rules freezer ∧ Isolates Database g rules freezer ∧
      ((namesOf rules).InjOn fileName → Isolates Directory g rules freezer) := by
  have hnames : ∀ r ∈ rules, r.name ∈ namesOf rules := fun r hr => ⟨r, hr, rfl⟩
  refine ⟨?_, ?_, fun hapart => ?_⟩
  · exact isolates_of_slots (Memory.slots _) hvalid hnames g freezer
  · exact isolates_of_slots (Database.slots _) hvalid hnames g freezer
  · exact isolates_of_slots (Directory.slots hapart) hvalid hnames g freezer

def failingAndFinding : List Rule :=
  [{ Rule.plain "broken" (.custom "no answer" fun _ => .error (.raised "no answer")) .none with
      condition := some .anything, freeze := true },
    { Rule.plain "empty" .anything .none with condition := some .anything, freeze := true }]

theorem injOn_failingAndFinding : (namesOf failingAndFinding).InjOn fileName := by
  have hnames : namesOf failingAndFinding = {"broken", "empty"} := by
    ext n
    simp [namesOf, failingAndFinding, Rule.plain, eq_comm]
  have hne : fileName "broken" ≠ fileName "empty" := fun h =>
    absurd (head?_slug_eq h) (by decide)
  rw [hnames, Set.injOn_pair]
  intro h
  exact absurd h hne

theorem isolates_failingAndFinding :
    Rule.checkAll failingAndFinding = .ok () ∧
      (namesOf failingAndFinding).InjOn fileName ∧
      Isolates Memory (Graph.build [.known "app.A"] [])
        failingAndFinding (some ⟨true, false⟩) ∧
      Isolates Directory (Graph.build [.known "app.A"] [])
        failingAndFinding (some ⟨true, false⟩) := by
  have hvalid : Rule.checkAll failingAndFinding = .ok () := by rfl
  obtain ⟨hmemory, _, hdirectory⟩ := isolates_everywhere hvalid
    (Graph.build [.known "app.A"] []) (some ⟨true, false⟩)
  exact ⟨hvalid, injOn_failingAndFinding, hmemory, hdirectory injOn_failingAndFinding⟩

end Report

end

end Conformance
