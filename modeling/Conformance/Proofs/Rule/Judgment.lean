import Conformance.Proofs.Rule.Selection

/-! Rules that ask a condition of each item, as a judgment on one candidate after the other: an item
is skipped, accepted or reported, and what is reported of it goes by its identifier. -/
namespace Conformance

open Facts

namespace Facts

theorem select_cons_eq_ok {α : Type} {p : α → Except Failure Bool} {x : α} {xs ys : List α} :
    select p (x :: xs) = .ok ys ↔ ∃ keep others, p x = .ok keep ∧ select p xs = .ok others ∧
      (if keep then x :: others else others) = ys := by
  simp only [select, bind_eq_ok]
  constructor
  · rintro ⟨keep, hkeep, others, hothers, h⟩
    exact ⟨keep, others, hkeep, hothers, Except.ok.inj h⟩
  · rintro ⟨keep, others, hkeep, hothers, rfl⟩
    exact ⟨keep, hkeep, others, hothers, rfl⟩

theorem exists_of_select {α : Type} {p : α → Except Failure Bool} {xs ys : List α}
    (h : select p xs = .ok ys) : ∀ x ∈ xs, ∃ b, p x = .ok b := by
  induction xs generalizing ys with
  | nil => simp
  | cons x xs ih =>
    obtain ⟨keep, others, hkeep, hothers, _⟩ := select_cons_eq_ok.1 h
    exact List.forall_mem_cons.2 ⟨⟨keep, hkeep⟩, ih hothers⟩

end Facts

namespace Rule

def report (r : Rule) (s : Selected) : Except Failure Violation :=
  r.violation s.identifier
    (r.values s.identifier 0 (.int 0) (endNames s.item).1 (endNames s.item).2)

/-- What a rule comes to on its candidates: a violation by each that is selected and whose condition
does not come out as wanted. -/
inductive Judged (r : Rule) (condition : Predicate) (wanted : Bool) :
    List Selected → List (Selected × Violation) → Prop
  | nil : Judged r condition wanted [] []
  | skipped {s rest found} (hselection : r.selection.test s.item = .ok false)
      (h : Judged r condition wanted rest found) : Judged r condition wanted (s :: rest) found
  | accepted {s rest found} (hselection : r.selection.test s.item = .ok true)
      (hcondition : condition.test s.item = .ok wanted) (h : Judged r condition wanted rest found) :
      Judged r condition wanted (s :: rest) found
  | reported {s rest found v} (hselection : r.selection.test s.item = .ok true)
      (hcondition : condition.test s.item = .ok (!wanted)) (hreport : r.report s = .ok v)
      (h : Judged r condition wanted rest found) :
      Judged r condition wanted (s :: rest) ((s, v) :: found)

variable {r : Rule} {condition : Predicate} {wanted : Bool}

theorem evaluateEach_cons_eq_ok {s : Selected} {rest : List Selected} {violations : List Violation} :
    r.evaluateEach condition wanted (s :: rest) = .ok violations ↔
      condition.test s.item = .ok wanted ∧ r.evaluateEach condition wanted rest = .ok violations ∨
      ∃ v others, condition.test s.item = .ok (!wanted) ∧ r.report s = .ok v ∧
        r.evaluateEach condition wanted rest = .ok others ∧ v :: others = violations := by
  rw [evaluateEach]
  cases condition.test s.item with
  | error failure => simp [bind, Except.bind]
  | ok b =>
    change (if (b == wanted) = true then r.evaluateEach condition wanted rest
      else r.report s >>= fun v => r.evaluateEach condition wanted rest >>= fun others =>
        .ok (v :: others)) = .ok violations ↔ _
    by_cases hb : b = wanted
    · simp [hb]
    · have hnot : b = !wanted := by
        cases b <;> cases wanted <;> simp_all
      simp only [hnot, beq_iff_eq, Bool.not_eq_self, ↓reduceIte, bind_eq_ok, Except.ok.injEq,
        false_and, true_and, false_or]
      constructor
      · rintro ⟨v, hv, others, hothers, h⟩
        exact ⟨v, others, hv, hothers, h⟩
      · rintro ⟨v, others, hv, hothers, h⟩
        exact ⟨v, hv, others, hothers, h⟩

/-- To select and then to ask the condition is to judge the candidates one by one. -/
theorem evaluateEach_select_iff {items : List Selected} {violations : List Violation} :
    (∃ selected, Facts.select (fun s => r.selection.test s.item) items = .ok selected ∧
      r.evaluateEach condition wanted selected = .ok violations) ↔
      ∃ found, Judged r condition wanted items found ∧ found.map (·.2) = violations := by
  induction items generalizing violations with
  | nil =>
    constructor
    · rintro ⟨selected, hselected, h⟩
      obtain rfl : [] = selected := Except.ok.inj hselected
      obtain rfl : [] = violations := Except.ok.inj h
      exact ⟨[], .nil, rfl⟩
    · rintro ⟨found, hjudged, rfl⟩
      cases hjudged
      exact ⟨[], rfl, rfl⟩
  | cons s rest ih =>
    constructor
    · rintro ⟨selected, hselected, h⟩
      obtain ⟨keep, others, hkeep, hothers, rfl⟩ := select_cons_eq_ok.1 hselected
      cases keep with
      | false =>
        obtain ⟨found, hjudged, hfound⟩ := ih.1 ⟨others, hothers, h⟩
        exact ⟨found, .skipped hkeep hjudged, hfound⟩
      | true =>
        rcases evaluateEach_cons_eq_ok.1 h with ⟨hcondition, h⟩ | ⟨v, vs, hcondition, hv, hvs, rfl⟩
        · obtain ⟨found, hjudged, hfound⟩ := ih.1 ⟨others, hothers, h⟩
          exact ⟨found, .accepted hkeep hcondition hjudged, hfound⟩
        · obtain ⟨found, hjudged, rfl⟩ := ih.1 ⟨others, hothers, hvs⟩
          exact ⟨(s, v) :: found, .reported hkeep hcondition hv hjudged, rfl⟩
    · rintro ⟨found, hjudged, rfl⟩
      cases hjudged with
      | skipped hselection hjudged =>
        obtain ⟨others, hothers, h⟩ := ih.2 ⟨_, hjudged, rfl⟩
        exact ⟨others, select_cons_eq_ok.2 ⟨false, others, hselection, hothers, rfl⟩, h⟩
      | accepted hselection hcondition hjudged =>
        obtain ⟨others, hothers, h⟩ := ih.2 ⟨_, hjudged, rfl⟩
        exact ⟨s :: others, select_cons_eq_ok.2 ⟨true, others, hselection, hothers, rfl⟩,
          evaluateEach_cons_eq_ok.2 (.inl ⟨hcondition, h⟩)⟩
      | reported hselection hcondition hreport hjudged =>
        obtain ⟨others, hothers, h⟩ := ih.2 ⟨_, hjudged, rfl⟩
        exact ⟨s :: others, select_cons_eq_ok.2 ⟨true, others, hselection, hothers, rfl⟩,
          evaluateEach_cons_eq_ok.2 (.inr ⟨_, _, hcondition, hreport, h, rfl⟩)⟩

theorem evaluate_eq_ok_iff_judged {g : Graph} (hvalidate : g.validate = .ok ())
    (hkind : r.kind = .all ∨ r.kind = .none) (hcondition : r.condition = some condition)
    {violations : List Violation} :
    r.evaluate g = .ok violations ↔
      ∃ found, Judged r condition (r.kind == .all) (candidates g r.scope) found ∧
        found.map (·.2) = violations := by
  rw [← evaluateEach_select_iff, ← select_eq_of_validate hvalidate, evaluate, bind_eq_ok]
  rcases hkind with hkind | hkind <;> simp only [hkind, hcondition]

namespace Judged

variable {items : List Selected} {found : List (Selected × Violation)}

theorem sublist (h : Judged r condition wanted items found) : (found.map (·.1)).Sublist items := by
  induction h with
  | nil => exact .slnil
  | skipped _ _ ih => exact ih.cons _
  | accepted _ _ _ ih => exact ih.cons _
  | reported _ _ _ _ ih => exact ih.cons_cons _

theorem report_eq (h : Judged r condition wanted items found) :
    ∀ x ∈ found, r.report x.1 = .ok x.2 := by
  induction h with
  | nil => simp
  | skipped _ _ ih => exact ih
  | accepted _ _ _ ih => exact ih
  | reported _ _ hreport _ ih => exact List.forall_mem_cons.2 ⟨hreport, ih⟩

theorem mem_iff (h : Judged r condition wanted items found) {s : Selected} :
    s ∈ found.map (·.1) ↔ s ∈ items ∧ r.selection.test s.item = .ok true ∧
      condition.test s.item = .ok (!wanted) := by
  induction h with
  | nil => simp
  | skipped hselection _ ih =>
    rw [ih, List.mem_cons]
    constructor
    · exact fun hs => ⟨.inr hs.1, hs.2⟩
    · rintro ⟨rfl | hs, hsel, hcond⟩
      · rw [hselection] at hsel
        contradiction
      · exact ⟨hs, hsel, hcond⟩
  | accepted _ hcondition _ ih =>
    rw [ih, List.mem_cons]
    constructor
    · exact fun hs => ⟨.inr hs.1, hs.2⟩
    · rintro ⟨rfl | hs, hsel, hcond⟩
      · rw [hcondition] at hcond
        exact absurd (Except.ok.inj hcond) (by simp)
      · exact ⟨hs, hsel, hcond⟩
  | reported hselection hcondition _ _ ih =>
    rw [List.map_cons, List.mem_cons, ih, List.mem_cons]
    constructor
    · rintro (rfl | hs)
      · exact ⟨.inl rfl, hselection, hcondition⟩
      · exact ⟨.inr hs.1, hs.2⟩
    · rintro ⟨rfl | hs, hsel, hcond⟩
      · exact .inl rfl
      · exact .inr ⟨hs, hsel, hcond⟩

theorem filter (h : Judged r condition wanted items found) (p : Selected → Bool) :
    Judged r condition wanted (items.filter p) (found.filter fun x => p x.1) := by
  induction h with
  | nil => exact .nil
  | @skipped s rest found hselection _ ih =>
    rw [List.filter_cons]
    split
    · exact .skipped hselection ih
    · exact ih
  | @accepted s rest found hselection hcondition _ ih =>
    rw [List.filter_cons]
    split
    · exact .accepted hselection hcondition ih
    · exact ih
  | @reported s rest found v hselection hcondition hreport _ ih =>
    rw [List.filter_cons, List.filter_cons]
    split
    · exact .reported hselection hcondition hreport ih
    · exact ih

theorem congr {others : List Selected} (h : Judged r condition wanted items found)
    (halike : List.Forall₂ (fun s t => r.selection.test s.item = r.selection.test t.item ∧
      condition.test s.item = condition.test t.item ∧ r.report s = r.report t) items others) :
    ∃ same, Judged r condition wanted others same ∧ same.map (·.2) = found.map (·.2) := by
  induction h generalizing others with
  | nil =>
    cases halike
    exact ⟨[], .nil, rfl⟩
  | skipped hselection _ ih =>
    obtain ⟨t, rest, ⟨hsel, _, _⟩, hrest, rfl⟩ := List.forall₂_cons_left_iff.1 halike
    obtain ⟨same, hsame, hmap⟩ := ih hrest
    exact ⟨same, .skipped (hsel ▸ hselection) hsame, hmap⟩
  | accepted hselection hcondition _ ih =>
    obtain ⟨t, rest, ⟨hsel, hcond, _⟩, hrest, rfl⟩ := List.forall₂_cons_left_iff.1 halike
    obtain ⟨same, hsame, hmap⟩ := ih hrest
    exact ⟨same, .accepted (hsel ▸ hselection) (hcond ▸ hcondition) hsame, hmap⟩
  | @reported s _ _ v hselection hcondition hreport _ ih =>
    obtain ⟨t, rest, ⟨hsel, hcond, hrep⟩, hrest, rfl⟩ := List.forall₂_cons_left_iff.1 halike
    obtain ⟨same, hsame, hmap⟩ := ih hrest
    refine ⟨(t, v) :: same, .reported (hsel ▸ hselection) (hcond ▸ hcondition) (hrep ▸ hreport)
      hsame, ?_⟩
    rw [List.map_cons, List.map_cons, hmap]

end Judged

end Rule

end Conformance
