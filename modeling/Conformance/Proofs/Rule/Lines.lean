import Conformance.Proofs.Facts.Identifiers
import Conformance.Proofs.Package.Fit
import Conformance.Proofs.Rule.Distinct
import Conformance.Proofs.Rule.Soundness
import Conformance.Proofs.Template.Lines

/-! Line breaks in violations. Where neither the texts of a graph nor those of a rule break a line,
the items and messages of the violations that are found do not either. -/
namespace Conformance

open Facts Number Text

theorem Text.oneLine_intercalate {separator : String} (hseparator : OneLine separator)
    {parts : List String} (h : ∀ part ∈ parts, OneLine part) :
    OneLine (separator.intercalate parts) := by
  induction parts with
  | nil => exact unbroken_nil
  | cons part rest ih =>
    obtain ⟨hpart, hrest⟩ := List.forall_mem_cons.1 h
    cases rest with
    | nil => simpa using hpart
    | cons next rest =>
      rw [String.intercalate_cons_cons, oneLine_append, oneLine_append]
      exact ⟨⟨hpart, hseparator⟩, ih hrest⟩

/-! Slices. -/

namespace Package

variable {α : Type}

theorem exists_of_greedy {ok : Char → Bool} {next : List Char → Option α} {s : List Char}
    {found : α} (h : greedy ok next s = some found) : ∃ t, t ⊆ s ∧ next t = some found := by
  induction s with
  | nil => exact ⟨[], List.Subset.refl _, h⟩
  | cons c rest ih =>
    cases hc : ok c with
    | false => exact ⟨c :: rest, List.Subset.refl _, by simpa [greedy, hc] using h⟩
    | true =>
      rw [greedy_cons hc] at h
      rcases Option.or_eq_some_iff.1 h with h | ⟨_, h⟩
      · obtain ⟨t, hsub, ht⟩ := ih h
        exact ⟨t, List.subset_cons_of_subset c hsub, ht⟩
      · exact ⟨c :: rest, List.Subset.refl _, h⟩

theorem exists_of_expect {c : Char} {next : List Char → Option α} {s : List Char} {found : α}
    (h : expect c next s = some found) : ∃ t, t ⊆ s ∧ next t = some found := by
  cases s with
  | nil => contradiction
  | cons d rest =>
    rw [expect] at h
    split at h
    · exact ⟨rest, List.subset_cons_self d rest, h⟩
    · contradiction

theorem subset_of_firstFit {ps : List Piece} {s : List Char} {found : List (List Char)}
    (h : firstFit ps s = some found) : ∀ cs ∈ found, cs ⊆ s := by
  induction ps generalizing s found with
  | nil =>
    rw [firstFit] at h
    split at h
    · obtain rfl := Option.some.inj h
      simp
    · contradiction
  | cons p ps ih =>
    -- however far a piece goes, the pieces behind it see the rest of the text
    have hrest : ∀ {t : List Char}, t ⊆ s → firstFit ps t = some found → ∀ cs ∈ found, cs ⊆ s :=
      fun hsub ht cs hcs => List.Subset.trans (ih ht cs hcs) hsub
    have hcapture : ∀ {captured : Bool} {t : List Char}, t ⊆ s →
        capture captured s (firstFit ps) t = some found → ∀ cs ∈ found, cs ⊆ s := by
      intro captured t hsub ht
      obtain ⟨later, hlater, rfl⟩ := Option.map_eq_some_iff.1 ht
      have hsubsets : ∀ cs ∈ later, cs ⊆ s :=
        fun cs hcs => List.Subset.trans (ih hlater cs hcs) hsub
      refine iteInduction (motive := fun found => ∀ cs ∈ found, cs ⊆ s) (fun _ => ?_) fun _ =>
        hsubsets
      exact List.forall_mem_cons.2 ⟨List.take_subset _ _, hsubsets⟩
    rcases p with (c | captured | captured) | _ | _ | _
    · obtain ⟨t, hsub, ht⟩ := exists_of_expect h
      exact hrest hsub ht
    · cases s with
      | nil => contradiction
      | cons c rest =>
        rw [firstFit] at h
        split at h
        · obtain ⟨t, hsub, ht⟩ := exists_of_greedy h
          exact hcapture (List.subset_cons_of_subset c hsub) ht
        · contradiction
    · obtain ⟨t, hsub, ht⟩ := exists_of_greedy h
      exact hcapture hsub ht
    · rw [firstFit, orElse_eq_or] at h
      rcases Option.or_eq_some_iff.1 h with h | ⟨_, h⟩
      · obtain ⟨t, hsub, ht⟩ := exists_of_greedy h
        obtain ⟨u, hsub', hu⟩ := exists_of_expect ht
        exact hrest (List.Subset.trans hsub' hsub) hu
      · exact hrest (List.Subset.refl s) h
    · rw [firstFit, orElse_eq_or] at h
      rcases Option.or_eq_some_iff.1 h with h | ⟨_, h⟩
      · obtain ⟨t, hsub, ht⟩ := exists_of_expect h
        obtain ⟨u, hsub', hu⟩ := exists_of_greedy ht
        obtain ⟨v, hsub'', hv⟩ := exists_of_expect hu
        exact hrest (List.Subset.trans hsub'' (List.Subset.trans hsub' hsub)) hv
      · obtain ⟨t, hsub, ht⟩ := exists_of_expect h
        exact hrest hsub ht
    · rw [firstFit, orElse_eq_or] at h
      rcases Option.or_eq_some_iff.1 h with h | ⟨_, h⟩
      · obtain ⟨t, hsub, ht⟩ := exists_of_expect h
        obtain ⟨u, hsub', hu⟩ := exists_of_greedy ht
        exact hrest (List.Subset.trans hsub' hsub) hu
      · exact hrest (List.Subset.refl s) h

theorem Pattern.oneLine_slice? {p : Pattern} {package slice : String}
    (h : p.slice? package = some slice) (hpackage : OneLine package) : OneLine slice := by
  obtain ⟨captures, hcaptures, rfl⟩ := Option.map_eq_some_iff.1 h
  obtain ⟨found, hfound, rfl⟩ := Option.map_eq_some_iff.1 hcaptures
  split
  · exact hpackage
  · refine oneLine_intercalate (by decide) fun part hpart => ?_
    obtain ⟨cs, hcs, rfl⟩ := List.mem_map.1 (List.mem_filter.1 hpart).1
    exact oneLine_ofList.2 (Unbroken.subset hpackage (subset_of_firstFit hfound cs hcs))

end Package

/-! Identifiers. -/

namespace Facts

structure Graph.IsOneLine (g : Graph) : Prop where
  name : ∀ n ∈ g.nodes, OneLine n.name
  package : ∀ n ∈ g.nodes, OneLine n.package
  method : ∀ n ∈ g.nodes, ∀ m ∈ n.methods, OneLine m.name ∧ ∀ type ∈ m.types, OneLine type
  edge : ∀ e ∈ g.edges, OneLine e.source.name ∧ OneLine e.target.name

theorem Edge.oneLine_identifierOf {source target : String} (hsource : OneLine source)
    (htarget : OneLine target) : OneLine (identifierOf source target) := by
  change OneLine ((source ++ " -> ") ++ target)
  rw [oneLine_append, oneLine_append]
  exact ⟨⟨hsource, by decide⟩, htarget⟩

theorem ParameterCount.oneLine_plain (count : ParameterCount) : OneLine count.plain := by
  cases count with
  | number n => exact oneLine_toString n
  | flag b => cases b <;> decide

theorem Method.oneLine_signature {m : Method} (hname : OneLine m.name)
    (htypes : ∀ type ∈ m.types, OneLine type) : OneLine m.signature := by
  refine iteInduction (fun _ => ?_) fun _ => ?_
  · change OneLine (((m.name ++ "(") ++ m.count.plain) ++ ")")
    simp only [oneLine_append]
    exact ⟨⟨⟨hname, by decide⟩, m.count.oneLine_plain⟩, by decide⟩
  · change OneLine (((m.name ++ "(") ++ ", ".intercalate m.types) ++ ")")
    simp only [oneLine_append]
    exact ⟨⟨⟨hname, by decide⟩, oneLine_intercalate (by decide) htypes⟩, by decide⟩

theorem MethodRef.oneLine_identifier {r : MethodRef} (howner : OneLine r.owner.name)
    (hsignature : OneLine r.method.signature) : OneLine r.identifier := by
  have hmark : Unbroken r.mark := by
    refine iteInduction (fun _ => unbroken_nil) fun _ => ?_
    exact unbroken_cons.2 ⟨by decide, unbroken_decimal _⟩
  rw [OneLine, toList_identifier, heading]
  simp only [unbroken_append, unbroken_cons]
  exact ⟨⟨howner, by decide, hsignature⟩, hmark⟩

end Facts

namespace Rule

variable {r : Rule} {g : Graph}

structure Selected.IsOneLine (s : Selected) : Prop where
  identifier : OneLine s.identifier
  source : OneLine (endNames s.item).1
  target : OneLine (endNames s.item).2

theorem oneLine_candidates (hg : g.IsOneLine) (scope : Scope) :
    ∀ s ∈ candidates g scope, s.IsOneLine := by
  cases scope with
  | nodes =>
    refine List.forall_mem_map.2 fun n hn => ?_
    exact ⟨hg.name n (List.mem_filter.1 hn).1, unbroken_nil, unbroken_nil⟩
  | edges =>
    refine List.forall_mem_map.2 fun e he => ?_
    obtain ⟨hsource, htarget⟩ := hg.edge e he
    exact ⟨Edge.oneLine_identifierOf hsource htarget, hsource, htarget⟩
  | methods =>
    refine List.forall_mem_map.2 fun m hm => ?_
    obtain ⟨n, hn, href⟩ := List.mem_flatMap.1 hm
    obtain ⟨rfl, hmethod⟩ := Graph.of_mem_methodRefs href
    obtain ⟨hname, htypes⟩ := hg.method _ hn _ hmethod
    exact ⟨MethodRef.oneLine_identifier (hg.name _ hn) (Method.oneLine_signature hname htypes),
      unbroken_nil, unbroken_nil⟩

theorem oneLine_of_select (hg : g.IsOneLine) {selected : List Selected}
    (hvalidate : g.validate = .ok ()) (h : r.select g = .ok selected) :
    ∀ s ∈ selected, s.IsOneLine := by
  rw [select_eq_of_validate hvalidate] at h
  exact fun s hs => oneLine_candidates hg r.scope s ((sublist_of_select h).subset hs)

/-! Evaluation. -/

/-- None of the texts that a rule brings into its messages breaks a line. -/
structure IsOneLine (r : Rule) : Prop where
  name : OneLine r.name
  template : OneLine r.template
  condition : ∀ c, r.condition = some c → OneLine c.description

/-- No count that a rule lays out is the code point of a line break. -/
def AvoidsTen (r : Rule) (g : Graph) : Prop :=
  r.kind = .count → r.Formats → r.expected ≠ .int 10 ∧
    ∀ selected, r.select g = .ok selected → selected.length ≠ 10

end Rule

structure Violation.IsOneLine (v : Violation) : Prop where
  item : OneLine v.item
  message : OneLine v.message

namespace Rule

variable {r : Rule} {g : Graph} (hr : r.IsOneLine)
include hr

theorem isUnbroken_values {item source target : String} {actual : Nat} {expected : Datum}
    (hitem : OneLine item) (hactual : r.Formats → actual ≠ 10)
    (hexpected : Template.IsUnbroken r.Formats expected) (hsource : OneLine source)
    (htarget : OneLine target) :
    ∀ p ∈ r.values item actual expected source target, Template.IsUnbroken r.Formats p.2 := by
  have hcondition : OneLine ((r.condition.map Predicate.description).getD "") := by
    cases hcondition : r.condition with
    | none => exact unbroken_nil
    | some c => exact hr.condition c hcondition
  have hnumber : r.Formats → (actual : Int) ≠ 10 := fun hformats => mod_cast hactual hformats
  simp only [values, List.forall_mem_cons]
  exact ⟨.text hr.name, .text hitem, .text hcondition, .number hnumber, hexpected, .text hsource,
    .text htarget, by simp⟩

theorem gives_violation {item : String} {values : Template.Values} (hitem : OneLine item)
    (hvalues : ∀ p ∈ values, Template.IsUnbroken r.Formats p.2) :
    Gives Violation.IsOneLine (r.violation item values) := by
  unfold violation
  split
  · next message h =>
    have hrender := Template.gives_render hvalues hr.template fun f hf hspec => ⟨f, hf, hspec⟩
    exact .ok ⟨hitem, hrender message h⟩
  · exact .error _

theorem gives_violation_plain {item source target : String} (hitem : OneLine item)
    (hsource : OneLine source) (htarget : OneLine target) :
    Gives Violation.IsOneLine (r.violation item (r.values item 0 (.int 0) source target)) :=
  gives_violation hr hitem (isUnbroken_values hr hitem (fun _ => by decide)
    (.number fun _ => by decide) hsource htarget)

theorem gives_evaluateEach (condition : Predicate) (wanted : Bool) {selected : List Selected}
    (h : ∀ s ∈ selected, s.IsOneLine) :
    Gives (∀ v ∈ ·, Violation.IsOneLine v) (r.evaluateEach condition wanted selected) := by
  induction selected with
  | nil => exact .ok (by simp)
  | cons s rest ih =>
    obtain ⟨hs, hrest⟩ := List.forall_mem_cons.1 h
    rw [evaluateEach]
    refine .bind_any fun holds => .ite (fun _ => ih hrest) fun _ => ?_
    exact .bind (gives_violation_plain hr hs.identifier hs.source hs.target) fun v hv =>
      .bind (ih hrest) fun vs hvs => .ok (List.forall_mem_cons.2 ⟨hv, hvs⟩)

theorem gives_evaluateCount {selected : List Selected}
    (hexpected : Template.IsUnbroken r.Formats r.expected)
    (hactual : r.Formats → selected.length ≠ 10) :
    Gives (∀ v ∈ ·, Violation.IsOneLine v) (r.evaluateCount selected) := by
  have hwhole : OneLine wholeSelection := by decide
  refine .ite (fun _ => .ok (by simp)) fun _ => .bind (r := Violation.IsOneLine) ?_ fun v hv => ?_
  · exact gives_violation hr hwhole
      (isUnbroken_values hr hwhole hactual hexpected unbroken_nil unbroken_nil)
  · exact .ok (List.forall_mem_singleton.2 hv)

theorem gives_evaluateIndependent {chosen : List Node}
    (h : ∀ n ∈ chosen, OneLine n.name ∧ OneLine n.package) :
    Gives (∀ v ∈ ·, Violation.IsOneLine v)
      (r.evaluateIndependent g (chosen.map fun n => ⟨n.name, .node n⟩)) := by
  have hunit : ∀ {name n}, Belongs (units r.slices chosen) name n → OneLine name := by
    intro name n hbelongs
    obtain ⟨hn, hname⟩ := belongs_units_iff.1 hbelongs
    obtain ⟨hnode, hpackage⟩ := h n hn
    cases hslices : r.slices with
    | none =>
      rw [hslices] at hname
      exact Option.some.inj hname ▸ hnode
    | some pattern =>
      rw [hslices] at hname
      exact Package.Pattern.oneLine_slice? hname hpackage
  rw [evaluateIndependent, mapM_node?]
  refine .mapM fun p hp => ?_
  obtain ⟨_, _, _, hx, hy, _⟩ := mem_dependentPairs.1 hp
  exact gives_violation_plain hr (Edge.oneLine_identifierOf (hunit hx) (hunit hy)) (hunit hx)
    (hunit hy)

theorem gives_evaluate (hg : g.IsOneLine) (hcheck : r.check = .ok ()) (hten : r.AvoidsTen g) :
    Gives (∀ v ∈ ·, Violation.IsOneLine v) (r.evaluate g) := by
  by_cases hduplicates : g.duplicates = []
  · have hvalidate : g.validate = .ok () := Graph.validate_eq_ok hduplicates
    intro violations h
    obtain ⟨selected, hselected, h⟩ := bind_eq_ok.1 h
    have hlines := oneLine_of_select hg hvalidate hselected
    cases hkind : r.kind with
    | all =>
      obtain ⟨c, hc⟩ := exists_condition_of_check hcheck (.inl hkind)
      rw [hkind, hc] at h
      exact gives_evaluateEach hr c _ hlines violations h
    | none =>
      obtain ⟨c, hc⟩ := exists_condition_of_check hcheck (.inr hkind)
      rw [hkind, hc] at h
      exact gives_evaluateEach hr c _ hlines violations h
    | count =>
      rw [hkind] at h
      obtain ⟨n, hn⟩ := expected_of_check hcheck hkind
      have hexpected : Template.IsUnbroken r.Formats r.expected := by
        rw [hn]
        refine .number fun hformats heq => (hten hkind hformats).1 ?_
        rw [hn, heq]
      exact gives_evaluateCount hr hexpected (fun hformats => (hten hkind hformats).2 _ hselected)
        violations h
    | independent =>
      rw [hkind] at h
      obtain ⟨chosen, hchosen, rfl⟩ :=
        exists_selectedNodes hvalidate (scope_of_check hcheck hkind) hselected
      refine gives_evaluateIndependent hr (fun n hn => ?_) violations h
      exact ⟨hg.name n (hchosen.subset hn), hg.package n (hchosen.subset hn)⟩
  · rw [evaluate_of_duplicates r hduplicates]
    exact .error _

end Rule

end Conformance
