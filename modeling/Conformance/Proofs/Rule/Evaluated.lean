import Conformance.Proofs.Result
import Conformance.Rule.Evaluation

/-! What evaluating a rule leads to, and what is known of valid rules and sets of them: every
violation carries the name of its rule, a valid rule has what its kind asks for, and no two rules of
a valid set share a name. -/
namespace Conformance

namespace Rule

variable {r : Rule}

theorem rule_of_violation {item : String} {values : Template.Values} {v : Violation}
    (h : r.violation item values = .ok v) : v.rule = r.name := by
  rw [violation] at h
  split at h
  · obtain rfl := Except.ok.inj h
    rfl
  · contradiction

theorem rule_of_evaluateEach {condition : Predicate} {wanted : Bool} {selected : List Selected}
    {violations : List Violation} (h : r.evaluateEach condition wanted selected = .ok violations) :
    ∀ v ∈ violations, v.rule = r.name := by
  induction selected generalizing violations with
  | nil =>
    obtain rfl : [] = violations := Except.ok.inj h
    simp
  | cons s rest ih =>
    rw [evaluateEach] at h
    obtain ⟨holds, _, h⟩ := bind_eq_ok.1 h
    split at h
    · exact ih h
    · obtain ⟨first, hfirst, h⟩ := bind_eq_ok.1 h
      obtain ⟨others, hothers, h⟩ := bind_eq_ok.1 h
      obtain rfl : first :: others = violations := Except.ok.inj h
      intro v hv
      rcases List.mem_cons.1 hv with rfl | hv
      · exact rule_of_violation hfirst
      · exact ih hothers v hv

theorem rule_of_evaluateCount {selected : List Selected} {violations : List Violation}
    (h : r.evaluateCount selected = .ok violations) : ∀ v ∈ violations, v.rule = r.name := by
  rw [evaluateCount] at h
  split at h
  · obtain rfl : [] = violations := Except.ok.inj h
    simp
  · obtain ⟨first, hfirst, h⟩ := bind_eq_ok.1 h
    obtain rfl : [first] = violations := Except.ok.inj h
    intro v hv
    rw [List.mem_singleton.1 hv]
    exact rule_of_violation hfirst

theorem rule_of_evaluateIndependent {g : Facts.Graph} {selected : List Selected}
    {violations : List Violation} (h : r.evaluateIndependent g selected = .ok violations) :
    ∀ v ∈ violations, v.rule = r.name := by
  obtain ⟨nodes, _, h⟩ := bind_eq_ok.1 h
  exact forall_mem_of_mapM_eq_ok (fun _ _ hv => rule_of_violation hv) h

theorem rule_of_evaluate {g : Facts.Graph} {violations : List Violation}
    (h : r.evaluate g = .ok violations) : ∀ v ∈ violations, v.rule = r.name := by
  obtain ⟨selected, _, h⟩ := bind_eq_ok.1 h
  split at h
  · exact rule_of_evaluateCount h
  · exact rule_of_evaluateIndependent h
  all_goals
    split at h
    · exact rule_of_evaluateEach h
    · contradiction

/-! Valid rules. -/

theorem check_eq_ok_iff : r.check = .ok () ↔ Text.isBlankText r.name = false ∧
    r.checkCondition = .ok () ∧ r.checkCount = .ok () ∧ r.checkIndependent = .ok () ∧
    r.checkTemplate = .ok () := by
  cases hblank : Text.isBlankText r.name with
  | true => simp [check, hblank, throw, throwThe, MonadExceptOf.throw, bind, Except.bind]
  | false => simp [check, hblank, seq_eq_ok]

theorem exists_condition_of_check (hcheck : r.check = .ok ())
    (hkind : r.kind = .all ∨ r.kind = .none) : ∃ c, r.condition = some c := by
  have h := (check_eq_ok_iff.1 hcheck).2.1
  rw [checkCondition] at h
  cases hcondition : r.condition with
  | some c => exact ⟨c, rfl⟩
  | none => rcases hkind with hkind | hkind <;> simp [hkind, hcondition] at h

theorem expected_of_check (hcheck : r.check = .ok ()) (hkind : r.kind = .count) :
    ∃ n : Nat, r.expected = .int n := by
  have h := (check_eq_ok_iff.1 hcheck).2.2.1
  have hcount : isCount r.expected = true := by
    simpa [checkCount, hkind] using h
  unfold isCount at hcount
  split at hcount
  · next n heq =>
    obtain ⟨m, rfl⟩ := Int.eq_ofNat_of_zero_le (of_decide_eq_true hcount)
    exact ⟨m, heq⟩
  · contradiction

theorem scope_of_check (hcheck : r.check = .ok ()) (hkind : r.kind = .independent) :
    r.scope = .nodes := by
  have h := (check_eq_ok_iff.1 hcheck).2.2.2.1
  rw [checkIndependent] at h
  cases hscope : r.scope with
  | nodes => rfl
  | edges => simp [hkind, hscope] at h
  | methods => simp [hkind, hscope] at h

theorem render_trial_of_check (hcheck : r.check = .ok ()) :
    ∃ text, Template.render trialValues r.template = .ok text := by
  have h := (check_eq_ok_iff.1 hcheck).2.2.2.2
  rw [checkTemplate] at h
  split at h
  · next text heq => exact ⟨text, heq⟩
  · contradiction

/-! Valid sets of rules. -/

theorem checkAfter_eq_ok_iff {seen : List String} {rules : List Rule} :
    checkAfter seen rules = .ok () ↔ (∀ r ∈ rules, r.check = .ok () ∧ r.name ∉ seen) ∧
      (rules.map (·.name)).Nodup := by
  induction rules generalizing seen with
  | nil => simp [checkAfter]
  | cons r rest ih =>
    have hcons : checkAfter seen (r :: rest) = .ok () ↔
        r.check = .ok () ∧ r.name ∉ seen ∧ checkAfter (r.name :: seen) rest = .ok () := by
      rw [checkAfter]
      cases r.check with
      | error fault => simp [bind, Except.bind]
      | ok _ =>
        by_cases hseen : r.name ∈ seen <;> simp [bind, Except.bind, hseen, throw, throwThe,
          MonadExceptOf.throw]
    rw [hcons, ih]
    simp only [List.mem_cons, forall_eq_or_imp, not_or, List.map_cons, List.nodup_cons,
      List.mem_map, not_exists, not_and]
    grind

theorem checkAll_eq_ok_iff {rules : List Rule} :
    checkAll rules = .ok () ↔ (∀ r ∈ rules, r.check = .ok ()) ∧ (rules.map (·.name)).Nodup := by
  simp [checkAll, checkAfter_eq_ok_iff]

theorem nodup_of_checkAll {rules : List Rule} (h : checkAll rules = .ok ()) :
    (rules.map (·.name)).Nodup := (checkAll_eq_ok_iff.1 h).2

end Rule

end Conformance
