import Conformance.Baseline.Memory
import Conformance.Facts.File
import Conformance.Proofs.Facts.Canonical
import Conformance.Proofs.Predicate.Reads
import Conformance.Proofs.Rule.Selection
import Conformance.Report.Check

/-! Reports on the same facts. However a document lists its nodes and dependencies, the report on
it is the same, and so is the store after it. -/
namespace Conformance

open Facts Baseline

namespace Rule

theorem evaluate_of_sameFacts {g h : Graph} (hsame : Graph.SameFacts g h) (r : Rule) :
    r.evaluate g = r.evaluate h := by
  by_cases hdup : g.duplicates = []
  · rw [hsame.eq (hsame.indexed.1.duplicates_eq_nil_iff.1 hdup)]
  · have hdup' : h.duplicates ≠ [] := hsame.duplicates_eq ▸ hdup
    rw [evaluate_of_duplicates r hdup, evaluate_of_duplicates r hdup', hsame.duplicates_eq]

end Rule

namespace Report

section
variable {σ : Type} [Store σ] {g h : Graph}

theorem runAll_congr {rules : List Rule} (heval : ∀ r ∈ rules, r.evaluate g = r.evaluate h)
    (freezer : Option Freezer) (isCancelled : Nat → Bool) (asked : Nat) (s : σ) :
    runAll g freezer isCancelled asked s rules = runAll h freezer isCancelled asked s rules := by
  induction rules generalizing asked s with
  | nil => rfl
  | cons r rest ih =>
    obtain ⟨hr, hrest⟩ := List.forall_mem_cons.1 heval
    have hrun : ∀ s : σ, r.run g freezer s = r.run h freezer s := by
      intro s
      rw [Rule.run, Rule.run, Rule.findings, Rule.findings, hr]
    simp only [runAll, hrun, ih hrest]

theorem check_congr {rules : List Rule} (heval : ∀ r ∈ rules, r.evaluate g = r.evaluate h)
    (freezer : Option Freezer) (isCancelled : Nat → Bool) (s : σ) :
    check g rules freezer isCancelled s = check h rules freezer isCancelled s := by
  rw [check, check, runAll_congr heval]

end

end Report

namespace RuleSet

theorem restrict_of_sameFacts (s : RuleSet) {g h : Graph} (hsame : Graph.SameFacts g h) :
    ∃ g' h', s.restrict g = .ok g' ∧ s.restrict h = .ok h' ∧ Graph.SameFacts g' h' := by
  simp only [restrict, test_excluded]
  split
  · exact ⟨g, h, rfl, rfl, hsame⟩
  · exact hsame.excluding _

end RuleSet

namespace Report

def ofDocument {σ : Type} [Store σ] (set : RuleSet) (freezer : Option Freezer)
    (isCancelled : Nat → Bool) (s : σ) (d : Datum) :
    Except Failure (Except RuleFault Report × σ) := do
  let g ← set.restrict (← Graph.ofDocument d)
  return check g set.rules freezer isCancelled s

/-- Documents with the same nodes and the same dependencies between different names have the same
report and leave the same store. Messages are those of templates that take texts whole, see
`Rule.takesTextsWhole_of_check`. -/
theorem ofDocument_eq_of_perm {d e : Datum} {first second : Sheet} (hd : Sheet.read d = .ok first)
    (he : Sheet.read e = .ok second) (hnodes : first.nodes.Perm second.nodes)
    (hpairs : ∀ p : String × String, p.1 ≠ p.2 → (p ∈ first.edges ↔ p ∈ second.edges))
    {σ : Type} [Store σ] (set : RuleSet) (freezer : Option Freezer) (isCancelled : Nat → Bool)
    (s : σ) :
    ∃ result, ofDocument set freezer isCancelled s d = .ok result ∧
      ofDocument set freezer isCancelled s e = .ok result := by
  obtain ⟨g, h, hg, hh, hsame⟩ := set.restrict_of_sameFacts (.build hnodes hpairs)
  refine ⟨check g set.rules freezer isCancelled s, ?_, ?_⟩
  · rw [ofDocument, Graph.ofDocument, hd]
    simp only [bind, Except.bind, hg]
    rfl
  · have hcheck : check g set.rules freezer isCancelled s
        = check h set.rules freezer isCancelled s :=
      check_congr (fun r _ => Rule.evaluate_of_sameFacts hsame r) freezer isCancelled s
    rw [ofDocument, Graph.ofDocument, he, hcheck]
    simp only [bind, Except.bind, hh]
    rfl

def entry (name kind : String) (targets : List String) : Datum :=
  .mapping [(.text "name", .text name), (.text "kind", .text kind),
    (.text "depends_on", .list (targets.map .text))]

def listing : Datum :=
  .mapping [(.text "nodes", .list [entry "app.A" "class" ["app.B", "app.A"],
    entry "app.A" "interface" [], entry "app.B" "class" []])]

def relisting : Datum :=
  .mapping [(.text "nodes", .list [entry "app.A" "interface" [], entry "app.B" "class" [],
      entry "app.A" "class" []]),
    (.text "edges", .list [.mapping [(.text "from", .text "app.A"), (.text "to", .text "app.B")]])]

def listed : Sheet :=
  ⟨[.known "app.A", { Node.known "app.A" with kind := "interface" }, .known "app.B"],
    [("app.A", "app.A"), ("app.A", "app.B")]⟩

def relisted : Sheet :=
  ⟨[{ Node.known "app.A" with kind := "interface" }, .known "app.B", .known "app.A"],
    [("app.A", "app.B")]⟩

def withoutLibraries : RuleSet :=
  ⟨[{ Rule.plain "empty" .anything .none with condition := some .anything, freeze := true }],
    ["lib.."]⟩

theorem ofDocument_relisting :
    Sheet.read listing = .ok listed ∧ Sheet.read relisting = .ok relisted ∧
      listed.nodes.Perm relisted.nodes ∧
      (∀ p : String × String, p.1 ≠ p.2 → (p ∈ listed.edges ↔ p ∈ relisted.edges)) ∧
      ∃ result, ofDocument withoutLibraries (some ⟨true, false⟩) (fun _ => false) Memory.empty
          listing = .ok result ∧
        ofDocument withoutLibraries (some ⟨true, false⟩) (fun _ => false) Memory.empty
          relisting = .ok result := by
  have hlisting : Sheet.read listing = .ok listed := by rfl
  have hrelisting : Sheet.read relisting = .ok relisted := by rfl
  have hnodes : listed.nodes.Perm relisted.nodes := by decide
  have hpairs : ∀ p : String × String, p.1 ≠ p.2 → (p ∈ listed.edges ↔ p ∈ relisted.edges) := by
    rintro ⟨source, target⟩ hne
    simp only [listed, relisted, List.mem_cons, List.not_mem_nil, or_false, Prod.mk.injEq]
    grind
  exact ⟨hlisting, hrelisting, hnodes, hpairs,
    ofDocument_eq_of_perm hlisting hrelisting hnodes hpairs _ _ _ _⟩

end Report

end Conformance
