import Mathlib.Logic.Relation
import Conformance.Proofs.Baseline.Refreezing
import Conformance.Proofs.Report.Isolation

/-! Checking twice. Whatever state a store is in, and whichever baselines cannot be read or written,
a second check of the same rules reports what the first one did and leaves every baseline as it was
left. -/
namespace Conformance

open Facts Baseline Relation

section
variable {σ : Type} [Store σ] {names : Set String} {k : Slots σ names}
  {address : String → String} (hk : k.Steady address)

namespace Rule

/-- Running one of some rules takes a store from one state to the other. -/
def Step (g : Graph) (rules : List Rule) (freezer : Option Freezer) (s t : σ) : Prop :=
  ∃ r ∈ rules, (r.run g freezer s).2 = t

variable {g : Graph} {rules : List Rule} {freezer : Option Freezer}

include hk

theorem answers_of_steps (hnodup : (rules.map (·.name)).Nodup) {r : Rule} (hr : r ∈ rules)
    {f : Freezer} {violations : List Violation} (hevaluate : r.evaluate g = .ok violations) {s t : σ}
    (h : ReflTransGen (Step g rules (some f)) (f.apply s r.name violations).2 t) :
    k.Answers f r.name violations (f.apply s r.name violations).1
      (k.slot (f.apply s r.name violations).2 r.name) t := by
  have hrule := rule_of_evaluate hevaluate
  induction h with
  | refl => exact hk.answers_apply f hrule s
  | @tail u _ _ hstep ih =>
    obtain ⟨x, hx, rfl⟩ := hstep
    rcases x.run_cases σ g (some f) with hrun | ⟨f', others, _, hf, hothers, hrun⟩
    · rw [hrun]
      exact ih
    · obtain rfl := Option.some.inj hf
      rw [hrun]
      refine hk.answers_after f (rule_of_evaluate hothers) hrule ih fun hname => ?_
      obtain rfl := List.inj_on_of_nodup_map hnodup hx hr hname
      exact Except.ok.inj (hothers.symm.trans hevaluate)

/-- A rule that was run has the same outcome when it is run later. It leaves each slot as it left it
then, or it did not and does not touch it. -/
theorem run_of_steps (hnodup : (rules.map (·.name)).Nodup) {r : Rule} (hr : r ∈ rules) {s t : σ}
    (h : ReflTransGen (Step g rules freezer) (r.run g freezer s).2 t) :
    (r.run g freezer t).1 = (r.run g freezer s).1 ∧
      ∀ n, k.slot (r.run g freezer t).2 n = k.slot (r.run g freezer s).2 n ∨
        k.slot (r.run g freezer t).2 n = k.slot t n ∧
          k.slot (r.run g freezer s).2 n = k.slot s n := by
  rcases r.run_cases σ g freezer with hrun | ⟨f, violations, _, rfl, hevaluate, hrun⟩
  · rw [hrun s, hrun t]
    exact ⟨rfl, fun n => .inr ⟨rfl, rfl⟩⟩
  · have hrule := rule_of_evaluate hevaluate
    rw [hrun s] at h
    have hanswers := answers_of_steps hk hnodup hr hevaluate h
    simp only [hrun]
    refine ⟨by rw [hanswers.result], fun n => ?_⟩
    by_cases hn : address n = address r.name
    · left
      rw [hk.slot_eq _ hn, hk.slot_eq _ hn, hanswers.slot]
    · exact .inr ⟨hk.apply_other f hrule hn, hk.apply_other f hrule hn⟩

end Rule

namespace Report

variable {g : Graph} {all : List Rule} {freezer : Option Freezer}

omit hk in
theorem steps_runAll {rules : List Rule} (hrules : ∀ r ∈ rules, r ∈ all) (asked : Nat) (s : σ) :
    ReflTransGen (Rule.Step g all freezer) s (runAll g freezer (fun _ => false) asked s rules).2 := by
  induction rules generalizing asked s with
  | nil => exact .refl
  | cons r rest ih =>
    obtain ⟨hr, hrest⟩ := List.forall_mem_cons.1 hrules
    exact (ReflTransGen.single ⟨r, hr, rfl⟩).trans (ih hrest (asked + 1) (r.run g freezer s).2)

include hk

theorem runAll_of_steps (hnodup : (all.map (·.name)).Nodup) {rules : List Rule}
    (hrules : ∀ r ∈ rules, r ∈ all) (asked : Nat) {s t : σ}
    (h : ReflTransGen (Rule.Step g all freezer)
      (runAll g freezer (fun _ => false) asked s rules).2 t) :
    (runAll g freezer (fun _ => false) asked t rules).1
        = (runAll g freezer (fun _ => false) asked s rules).1 ∧
      ∀ n, k.slot (runAll g freezer (fun _ => false) asked t rules).2 n
          = k.slot (runAll g freezer (fun _ => false) asked s rules).2 n ∨
        k.slot (runAll g freezer (fun _ => false) asked t rules).2 n = k.slot t n ∧
          k.slot (runAll g freezer (fun _ => false) asked s rules).2 n = k.slot s n := by
  induction rules generalizing asked s t with
  | nil => exact ⟨rfl, fun n => .inr ⟨rfl, rfl⟩⟩
  | cons r rest ih =>
    obtain ⟨hr, hrest⟩ := List.forall_mem_cons.1 hrules
    rw [runAll_never_cons] at h
    have hsteps := (steps_runAll hrest (asked + 1) (r.run g freezer s).2).trans h
    obtain ⟨hfirst, hslot⟩ := Rule.run_of_steps hk hnodup hr hsteps
    obtain ⟨hothers, hslots⟩ := ih hrest (asked + 1) (h.tail ⟨r, hr, rfl⟩)
    rw [runAll_never_cons, runAll_never_cons, hfirst, hothers]
    refine ⟨rfl, fun n => ?_⟩
    rcases hslots n with hsame | ⟨ht, hs⟩
    · exact .inl hsame
    · rcases hslot n with hsame | ⟨ht', hs'⟩
      · exact .inl (ht.trans (hsame.trans hs.symm))
      · exact .inr ⟨ht.trans ht', hs.trans hs'⟩

end Report

end

namespace Report

section
variable {σ : Type} [Store σ] {names : Set String}

/-- Whether a second check reports what the first one did and leaves every baseline as it was. -/
def Repeats (k : Slots σ names) (g : Graph) (rules : List Rule) (freezer : Option Freezer) :
    Prop :=
  ∀ s : σ, ∃ report t u, check g rules freezer (fun _ => false) s = (.ok report, t) ∧
    check g rules freezer (fun _ => false) t = (.ok report, u) ∧ ∀ n, k.Same t u n

/-- Whether checks are repeated even if baselines at some addresses cannot be read or written. -/
def RepeatsImpaired (k : Slots σ names) (address : String → String) (g : Graph) (rules : List Rule)
    (freezer : Option Freezer) : Prop :=
  Repeats k g rules freezer ∧ Repeats (Impaired.slots address k) g rules freezer

theorem repeats_of_steady {k : Slots σ names} {address : String → String} (hk : k.Steady address)
    {rules : List Rule} (hvalid : Rule.checkAll rules = .ok ()) (g : Graph)
    (freezer : Option Freezer) : Repeats k g rules freezer := by
  intro s
  have hnone : ReflTransGen (Rule.Step g rules freezer)
      (runAll g freezer (fun _ => false) 0 s rules).2 _ := .refl
  obtain ⟨houtcomes, hslots⟩ :=
    runAll_of_steps hk (Rule.nodup_of_checkAll hvalid) (fun _ hr => hr) 0 hnone
  have hsecond := check_of_valid hvalid g freezer (fun _ => false)
    (runAll g freezer (fun _ => false) 0 s rules).2
  rw [houtcomes] at hsecond
  exact ⟨_, _, _, check_of_valid hvalid g freezer _ s, hsecond,
    fun n => k.same_of_slot ((hslots n).elim id And.left)⟩

theorem repeatsImpaired_of_steady {k : Slots σ names} {address : String → String}
    (hk : k.Steady address) {rules : List Rule} (hvalid : Rule.checkAll rules = .ok ()) (g : Graph)
    (freezer : Option Freezer) : RepeatsImpaired k address g rules freezer :=
  ⟨repeats_of_steady hk hvalid g freezer, repeats_of_steady (Impaired.steady hk) hvalid g freezer⟩

end

/-- A valid set of rules can be checked twice in memory, in a database and in a directory, whatever
is found there, and even if two of its names have the same file. The templates of its messages take
texts whole, see `Rule.takesTextsWhole_of_check`. -/
theorem repeats_everywhere {rules : List Rule} (hvalid : Rule.checkAll rules = .ok ()) (g : Graph)
    (freezer : Option Freezer) :
    RepeatsImpaired (Memory.slots Set.univ) id g rules freezer ∧
      RepeatsImpaired (Database.slots Set.univ) id g rules freezer ∧
      RepeatsImpaired Directory.filed fileName g rules freezer := by
  refine ⟨?_, ?_, ?_⟩
  · exact repeatsImpaired_of_steady Memory.steady hvalid g freezer
  · exact repeatsImpaired_of_steady Database.steady hvalid g freezer
  · exact repeatsImpaired_of_steady Directory.steady hvalid g freezer

theorem repeats_failingAndFinding :
    Rule.checkAll failingAndFinding = .ok () ∧
      RepeatsImpaired (Memory.slots Set.univ) id (Graph.build [.known "app.A"] [])
        failingAndFinding (some ⟨true, false⟩) ∧
      RepeatsImpaired Directory.filed fileName (Graph.build [.known "app.A"] [])
        failingAndFinding (some ⟨true, false⟩) := by
  have hvalid : Rule.checkAll failingAndFinding = .ok () := by rfl
  obtain ⟨hmemory, _, hdirectory⟩ := repeats_everywhere hvalid
    (Graph.build [.known "app.A"] []) (some ⟨true, false⟩)
  exact ⟨hvalid, hmemory, hdirectory⟩

end Report

end Conformance
