import Conformance.Facts.Document
import Conformance.Proofs.Facts.Exclusion
import Conformance.Proofs.Predicate.Reads
import Conformance.Proofs.Rule.Judgment

/-! Rules over edges on what a rule set leaves of a graph. A dependency on a node that is left out is
judged as before if the package of that node can be told from its name, which is all that is kept
of it. -/
namespace Conformance

open Facts

def Facts.Edge.candidate (e : Edge) : Rule.Selected := ⟨e.identifier, .edge e⟩

namespace Rule

variable {r : Rule}

theorem exists_marked {α β γ : Type} {f : α → β} {as : List α} {found : List (β × γ)}
    (h : (found.map (·.1)).Sublist (as.map f)) : ∃ marked : List (α × γ),
      (marked.map (·.1)).Sublist as ∧ marked.map (fun x => (f x.1, x.2)) = found := by
  induction as generalizing found with
  | nil =>
    have hnil : found = [] := by simpa using h
    exact ⟨[], .slnil, by simp [hnil]⟩
  | cons a as ih =>
    rw [List.map_cons] at h
    cases found with
    | nil => exact ⟨[], List.nil_sublist _, rfl⟩
    | cons x found =>
      rw [List.map_cons] at h
      rcases List.cons_sublist_cons'.1 h with h | ⟨hx, h⟩
      · obtain ⟨marked, hsub, hmarked⟩ := @ih (x :: found) h
        exact ⟨marked, hsub.cons a, hmarked⟩
      · obtain ⟨marked, hsub, rfl⟩ := ih h
        refine ⟨(a, x.2) :: marked, hsub.cons_cons a, ?_⟩
        rw [List.map_cons, ← hx]

theorem Judged.exists_marked {α : Type} {f : α → Selected} (hf : f.Injective) {condition : Predicate}
    {wanted : Bool} {as : List α} {found : List (Selected × Violation)}
    (h : Judged r condition wanted (as.map f) found) :
    ∃ marked : List (α × Violation), marked.map (fun x => (f x.1, x.2)) = found ∧
      (marked.map (·.1)).Sublist as ∧
      (∀ a, a ∈ marked.map (·.1) ↔ a ∈ as ∧ r.selection.test (f a).item = .ok true ∧
        condition.test (f a).item = .ok (!wanted)) ∧
      ∀ x ∈ marked, r.report (f x.1) = .ok x.2 := by
  obtain ⟨marked, hsub, rfl⟩ := Rule.exists_marked h.sublist
  refine ⟨marked, rfl, hsub, fun a => ?_, fun x hx => h.report_eq _ (List.mem_map_of_mem hx)⟩
  have hitems : (marked.map fun x => (f x.1, x.2)).map (·.1) = (marked.map (·.1)).map f := by
    rw [List.map_map, List.map_map]
    rfl
  have hmem := h.mem_iff (s := f a)
  rwa [hitems, List.mem_map_of_injective hf, List.mem_map_of_injective hf] at hmem

/-- The rule has fault to find with an edge. -/
def Offends (r : Rule) (e : Edge) : Prop :=
  r.selection.test (.edge e) = .ok true ∧
    ∃ condition, r.condition = some condition ∧ condition.test (.edge e) = .ok (r.kind != .all)

def reportEdge (r : Rule) (e : Edge) : Except Failure Violation := r.report e.candidate

theorem reportEdge_congr {e f : Edge} (h : e.names = f.names) : r.reportEdge e = r.reportEdge f := by
  obtain ⟨hsource, htarget⟩ := Prod.mk.inj h
  have hidentifier : e.identifier = f.identifier := by
    rw [Edge.identifier, hsource, htarget, Edge.identifier]
  rw [reportEdge, reportEdge, report, report, Edge.candidate, Edge.candidate]
  dsimp only [endNames]
  rw [hidentifier, h]

/-- The violations of a rule in a graph, each with the edge that it is about: one for every edge
that offends, in graph order. -/
structure Finds (r : Rule) (g : Graph) (found : List (Edge × Violation)) : Prop where
  ordered : (found.map (·.1)).Sublist g.edges
  mem_iff : ∀ e, e ∈ found.map (·.1) ↔ e ∈ g.edges ∧ r.Offends e
  report : ∀ x ∈ found, r.reportEdge x.1 = .ok x.2
  evaluate : r.evaluate g = .ok (found.map (·.2))

section
variable {g : Graph} {condition : Predicate}
  (hvalidate : g.validate = .ok ()) (hscope : r.scope = .edges)
  (hkind : r.kind = .all ∨ r.kind = .none) (hcondition : r.condition = some condition)

include hvalidate hscope hkind hcondition

theorem evaluate_edges_eq_ok {violations : List Violation} :
    r.evaluate g = .ok violations ↔ ∃ found,
      Judged r condition (r.kind == .all) (g.edges.map Edge.candidate) found ∧
        found.map (·.2) = violations := by
  have hcandidates : candidates g r.scope = g.edges.map Edge.candidate := by
    rw [hscope]
    rfl
  rw [evaluate_eq_ok_iff_judged hvalidate hkind hcondition, hcandidates]

theorem exists_finds {violations : List Violation} (h : r.evaluate g = .ok violations) :
    ∃ found, r.Finds g found ∧ found.map (·.2) = violations ∧
      Judged r condition (r.kind == .all) (g.edges.map Edge.candidate)
        (found.map fun x => (x.1.candidate, x.2)) := by
  obtain ⟨_, hjudged, rfl⟩ := (evaluate_edges_eq_ok hvalidate hscope hkind hcondition).1 h
  have hinjective : Edge.candidate.Injective := fun e f hef => Item.edge.inj (Selected.mk.inj hef).2
  obtain ⟨found, rfl, hsub, hmem, hreport⟩ := hjudged.exists_marked hinjective
  have hviolations : (found.map fun x => (x.1.candidate, x.2)).map (·.2) = found.map (·.2) := by
    rw [List.map_map]
    rfl
  refine ⟨found, ⟨hsub, fun e => ?_, hreport, hviolations ▸ h⟩, hviolations.symm, hjudged⟩
  rw [hmem, Offends, hcondition]
  simp [Edge.candidate, bne]

end

/-! Leaving out. -/

/-- What a rule set leaves out of a graph lies in the packages that the names tell. -/
def ExcludesByName (set : RuleSet) (g : Graph) : Prop :=
  ∀ n ∈ g.nodes, set.excludes n = true → n.package = packageOf n.name

section
variable {g rest : Graph} {nodes : List Node} {pairs : List (String × String)} {p : Node → Bool}

theorem source_relink (hform : Graph.Canonical nodes pairs g)
    (hnodup : (g.nodes.map (·.name)).Nodup)
    (hnodes : rest.nodes = g.nodes.filter fun n => Graph.spares p g.nodes n.name) {e : Edge}
    (he : e ∈ g.edges) (hkept : g.isRemoved p e.source = false) :
    e.source = (rest.relink e).source := by
  have hend := hform.isEnd e.source (List.mem_flatMap.2 ⟨e, he, by simp⟩)
  rw [Graph.relink, Graph.resolve_rest hnodup hnodes hend, hkept]
  rfl

theorem package_relink (hform : Graph.Canonical nodes pairs g)
    (hnodup : (g.nodes.map (·.name)).Nodup)
    (hnodes : rest.nodes = g.nodes.filter fun n => Graph.spares p g.nodes n.name)
    (hpackage : ∀ n ∈ g.nodes, p n = true → n.package = packageOf n.name) {e : Edge}
    (he : e ∈ g.edges) : e.target.package = (rest.relink e).target.package := by
  have hend := hform.isEnd e.target (List.mem_flatMap.2 ⟨e, he, by simp⟩)
  rw [Graph.relink, Graph.resolve_rest hnodup hnodes hend]
  cases hremoved : g.isRemoved p e.target with
  | false => rfl
  | true =>
    simp only [Graph.isRemoved, Bool.and_eq_true, List.contains_iff_mem] at hremoved
    exact hpackage _ hremoved.1 hremoved.2

end

def leadsFromKept (g : Graph) (p : Node → Bool) (s : Selected) : Bool :=
  match s.item with
  | .edge e => !g.isRemoved p e.source
  | _ => false

variable {nodes : List Node} {pairs : List (String × String)} {set : RuleSet}
  {violations : List Violation}

/-- Leaving out hides no dependency on what is left out: the violations are those by edges from
nodes that stay. -/
theorem excluding_keeps_violations (hvalidate : (Graph.build nodes pairs).validate = .ok ())
    (hcheck : r.check = .ok ()) (hscope : r.scope = .edges) (hkind : r.kind = .all ∨ r.kind = .none)
    (hselection : r.selection.ReadsEnds)
    (hcondition : ∀ condition, r.condition = some condition → condition.ReadsEnds)
    (hpackage : ExcludesByName set (Graph.build nodes pairs))
    (hviolations : r.evaluate (Graph.build nodes pairs) = .ok violations) :
    ∃ rest found,
      (Graph.build nodes pairs).excluding (fun n => set.excluded.test (.node n)) = .ok rest ∧
      r.Finds (Graph.build nodes pairs) found ∧ found.map (·.2) = violations ∧
      r.evaluate rest = .ok ((found.filter fun x =>
        !(Graph.build nodes pairs).isRemoved set.excludes x.1.source).map (·.2)) := by
  have hform := Graph.canonical_of_build nodes pairs
  have hnodup := (Graph.indexed_build nodes pairs).validate_eq_ok_iff.1 hvalidate
  generalize Graph.build nodes pairs = g at *
  obtain ⟨condition, hsome⟩ := exists_condition_of_check hcheck hkind
  obtain ⟨found, hfinds, hmap, hjudged⟩ := exists_finds hvalidate hscope hkind hsome hviolations
  obtain ⟨rest, hrest, hvalidateRest, hspared, hnodes, hedges⟩ :=
    Graph.exists_excluding hform hnodup set.excludes
  refine ⟨rest, found, ?_, hfinds, hmap, ?_⟩
  · simpa only [RuleSet.test_excluded] using hrest
  have halike : List.Forall₂ (fun s t : Selected =>
      r.selection.test s.item = r.selection.test t.item ∧
        condition.test s.item = condition.test t.item ∧ r.report s = r.report t)
      ((g.edges.filter fun e => !g.isRemoved set.excludes e.source).map Edge.candidate)
      (rest.edges.map Edge.candidate) := by
    rw [hedges, List.map_map, List.forall₂_map_left_iff, List.forall₂_map_right_iff,
      List.forall₂_same]
    intro e he
    obtain ⟨he, hkept⟩ := List.mem_filter.1 he
    have hsource := source_relink hform hnodup hspared he (by simpa using hkept)
    have hname : e.target.name = (rest.relink e).target.name := (Graph.name_resolve _ _).symm
    have htarget := package_relink hform hnodup hspared hpackage he
    exact ⟨hselection.test_eq hsource hname htarget,
      (hcondition condition hsome).test_eq hsource hname htarget,
      reportEdge_congr (Graph.names_relink rest e).symm⟩
  have hkept := hjudged.filter (leadsFromKept g set.excludes)
  rw [List.filter_map, List.filter_map] at hkept
  obtain ⟨same, hsame, hviolations⟩ := hkept.congr halike
  refine (evaluate_edges_eq_ok hvalidateRest hscope hkind hsome).2 ⟨same, hsame, ?_⟩
  rw [hviolations, List.map_map]
  rfl

def quiet : Rule :=
  { plain "quiet" (.source .anything) .none with
    scope := .edges, condition := some (.target (.ofNode (.inPackage "..logging.."))) }

theorem readsEnds_of_quiet (condition : Predicate) (h : quiet.condition = some condition) :
    condition.ReadsEnds := by
  cases h
  exact .part (.inr ⟨_, rfl, .part ⟨_, rfl, by simp [NodeProperty.IsNaming, NodeProperty.part]⟩⟩)

def withoutLogging : RuleSet := ⟨[quiet], ["..logging.."]⟩

def quietViolation (source target : String) : Violation :=
  ⟨"quiet", Edge.identifierOf source target, Edge.identifierOf source target ++
    " satisfies 'depend on classes that reside in a package '..logging..''"⟩

def loggers : List Node := ["app.Code", "app.logging.File", "app.logging.Log"].map Node.known

def calls : List (String × String) :=
  [("app.logging.File", "app.logging.Log"), ("app.Code", "app.logging.Log")]

theorem build_loggers : Graph.build loggers calls
    = .ofSorted loggers [("app.Code", "app.logging.Log"),
      ("app.logging.File", "app.logging.Log")] := by
  rw [Graph.build, sortedNodes_eq_self (by decide)]
  rfl

theorem excluding_keeps_logging :
    (Graph.build loggers calls).validate = .ok () ∧ quiet.check = .ok () ∧
      quiet.scope = .edges ∧ quiet.kind = .none ∧ quiet.selection.ReadsEnds ∧
      (∀ condition, quiet.condition = some condition → condition.ReadsEnds) ∧
      ExcludesByName withoutLogging (Graph.build loggers calls) ∧
      quiet.evaluate (Graph.build loggers calls)
        = .ok [quietViolation "app.Code" "app.logging.Log",
          quietViolation "app.logging.File" "app.logging.Log"] ∧
      ∃ rest found, (Graph.build loggers calls).excluding
          (fun n => withoutLogging.excluded.test (.node n)) = .ok rest ∧
        quiet.Finds (Graph.build loggers calls) found ∧
        found.map (·.2) = [quietViolation "app.Code" "app.logging.Log",
          quietViolation "app.logging.File" "app.logging.Log"] ∧
        quiet.evaluate rest = .ok ((found.filter fun x =>
          !(Graph.build loggers calls).isRemoved withoutLogging.excludes x.1.source).map (·.2)) := by
  have hvalidate : (Graph.build loggers calls).validate = .ok () :=
    Graph.validate_build_iff.2 (by decide)
  have hselection : quiet.selection.ReadsEnds := .part (.inl ⟨_, rfl⟩)
  have hpackage : ExcludesByName withoutLogging (Graph.build loggers calls) := by
    rw [build_loggers]
    rintro n hn -
    obtain ⟨name, -, rfl⟩ := List.mem_map.1 hn
    rfl
  have hviolations : quiet.evaluate (Graph.build loggers calls)
      = .ok [quietViolation "app.Code" "app.logging.Log",
        quietViolation "app.logging.File" "app.logging.Log"] := by
    rw [build_loggers]
    rfl
  exact ⟨hvalidate, by rfl, rfl, rfl, hselection, readsEnds_of_quiet, hpackage, hviolations,
    excluding_keeps_violations hvalidate (by rfl) rfl (.inr rfl) hselection readsEnds_of_quiet
      hpackage hviolations⟩

def misplaced : Datum := .mapping [(.text "nodes", .list
  [.mapping [(.text "name", .text "a.Log"), (.text "package", .text "app.logging")],
    .mapping [(.text "name", .text "b.B"), (.text "depends_on", .list [.text "a.Log"])]])]

def misplacedSheet : Sheet :=
  ⟨[{ Node.known "a.Log" with package := "app.logging" }, .known "b.B"], [("b.B", "a.Log")]⟩

theorem build_misplaced : Graph.build misplacedSheet.nodes misplacedSheet.edges
    = .ofSorted misplacedSheet.nodes [("b.B", "a.Log")] := by
  rw [Graph.build, sortedNodes_eq_self (by decide)]
  rfl

/-- What is left in place of a node has the package that its name tells, and a rule about packages
no longer sees the dependency. -/
theorem excluding_loses_misplaced :
    ¬ ∀ (d : Datum) (sheet : Sheet) (set : RuleSet) (r : Rule) (violations : List Violation),
      Sheet.read d = .ok sheet → (Graph.build sheet.nodes sheet.edges).validate = .ok () →
      r.check = .ok () → r.scope = .edges → (r.kind = .all ∨ r.kind = .none) →
      r.selection.ReadsEnds →
      (∀ condition, r.condition = some condition → condition.ReadsEnds) →
      r.evaluate (Graph.build sheet.nodes sheet.edges) = .ok violations →
      ∃ rest found, (Graph.build sheet.nodes sheet.edges).excluding
          (fun n => set.excluded.test (.node n)) = .ok rest ∧
        r.Finds (Graph.build sheet.nodes sheet.edges) found ∧ found.map (·.2) = violations ∧
        r.evaluate rest = .ok ((found.filter fun x =>
          !(Graph.build sheet.nodes sheet.edges).isRemoved set.excludes x.1.source).map (·.2)) := by
  intro h
  have hvalidate : (Graph.build misplacedSheet.nodes misplacedSheet.edges).validate = .ok () :=
    Graph.validate_build_iff.2 (by decide)
  have hviolations : quiet.evaluate (Graph.build misplacedSheet.nodes misplacedSheet.edges)
      = .ok [quietViolation "b.B" "a.Log"] := by
    rw [build_misplaced]
    rfl
  obtain ⟨rest, found, hrest, hfinds, hfound, hevaluate⟩ := h misplaced misplacedSheet
    withoutLogging quiet _ (by rfl) hvalidate (by rfl) rfl (.inr rfl) (.part (.inl ⟨_, rfl⟩))
    readsEnds_of_quiet hviolations
  have hkept : (found.filter fun x => !(Graph.build misplacedSheet.nodes
      misplacedSheet.edges).isRemoved withoutLogging.excludes x.1.source) = found := by
    rw [List.filter_eq_self]
    intro x hx
    have hedge := hfinds.ordered.subset (List.mem_map_of_mem hx)
    rw [build_misplaced] at hedge ⊢
    rw [List.mem_singleton.1 hedge]
    decide
  rw [hkept, hfound] at hevaluate
  have hleft : (Graph.build misplacedSheet.nodes misplacedSheet.edges).excluding
      (fun n => withoutLogging.excluded.test (.node n))
        = .ok (.ofSorted [.known "b.B"] [("b.B", "a.Log")]) := by
    rw [build_misplaced]
    simp only [RuleSet.test_excluded]
    rw [Graph.excluding_pure, Graph.build, sortedNodes_eq_self (by decide)]
    rfl
  obtain rfl := Except.ok.inj (hleft.symm.trans hrest)
  have hnone : quiet.evaluate (.ofSorted [.known "b.B"] [("b.B", "a.Log")]) = .ok [] := by rfl
  exact absurd (hnone.symm.trans hevaluate) (by simp)

end Rule

end Conformance
