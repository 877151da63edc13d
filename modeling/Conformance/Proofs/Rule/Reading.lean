import Conformance.Proofs.Predicate.Reading
import Conformance.Proofs.Rule.Evaluated
import Conformance.Proofs.Template.Refusal
import Conformance.Rule.File

/-! What becomes of rules files. A file gives a set of valid rules or is refused as a fault of
configuration, but for versions that cannot be looked up, for expressions that cannot be read and
for some faults of the parser. -/
namespace Conformance

theorem Datum.mem_of_lookup? {key : String} {entries : List (Scalar × Datum)} {value : Datum}
    (h : lookup? key entries = some value) : ∃ k, (k, value) ∈ entries := by
  obtain ⟨⟨k, d⟩, hmem, heq⟩ := List.exists_of_findSome?_eq_some h
  split at heq
  · obtain rfl : d = value := Option.some.inj heq
    exact ⟨k, hmem⟩
  · contradiction

namespace RuleSet

open Failure Predicate

/-! Rules. -/

theorem readName_failsOnlyBy (entries : Entries) (index : Nat) :
    FailsOnlyBy IsShape (readName entries index) := by
  unfold readName
  split
  · exact .ite (fun _ => .error (isShape _)) fun _ => .ok _
  · exact .error (isShape _)

theorem readScope_failsOnlyBy (entries : Entries) (rule : String) :
    FailsOnlyBy IsShape (readScope entries rule) := by
  unfold readScope
  dsimp only
  split
  · exact .ok _
  · exact .error (isShape _)

theorem readFreeze_failsOnlyBy (entries : Entries) (rule : String) :
    FailsOnlyBy IsShape (readFreeze entries rule) := by
  unfold readFreeze
  split
  · exact .ok _
  · exact .error (isShape _)

theorem readKind_failsOnlyBy (entries : Entries) (rule : String) :
    FailsOnlyBy IsShape (readKind entries rule) := by
  unfold readKind
  split
  · exact .ok _
  · exact .error (isShape _)

theorem mem_of_readKind {entries : Entries} {rule : String} {found : ConditionKind × Datum}
    (h : readKind entries rule = .ok found) : ∃ key, (key, found.2) ∈ entries := by
  unfold readKind at h
  split at h
  · next only heq =>
    obtain rfl : only = found := Except.ok.inj h
    have hmem : only ∈ [only] := List.mem_singleton_self only
    rw [← heq] at hmem
    obtain ⟨kind, _, hkind⟩ := List.mem_filterMap.1 hmem
    obtain ⟨value, hlookup, rfl⟩ := Option.map_eq_some_iff.1 hkind
    exact Datum.mem_of_lookup? hlookup
  · contradiction

theorem readDemand_failsOnlyBy (kind : ConditionKind) (value : Datum) (scope : Scope)
    (rule : String) (r : Rule) :
    FailsOnlyBy (Refuses value) (readDemand kind value scope rule r) := by
  unfold readDemand
  split
  · exact (read_failsOnlyBy _ _ _).bind fun _ _ => .ok _
  · exact (read_failsOnlyBy _ _ _).bind fun _ _ => .ok _
  · split
    · exact .ok _
    · exact .error (.inl (isShape _))
  · split
    · exact .ok _
    · exact .ok _
    · exact .ok _
    · exact .error (.inl (isShape _))

theorem readRule_failsOnlyBy (entries : Entries) (index : Nat) :
    FailsOnlyBy (Refuses (.mapping entries)) (readRule entries index) := by
  have hshape {α : Type} {x : Except Failure α} (h : FailsOnlyBy IsShape x) :
      FailsOnlyBy (Refuses (.mapping entries)) x := h.weaken fun _ h => .inl h
  unfold readRule
  refine (hshape (readName_failsOnlyBy _ _)).bind fun name _ => ?_
  refine (hshape (readScope_failsOnlyBy _ _)).bind fun scope _ => ?_
  refine (hshape (readKind_failsOnlyBy _ _)).bind fun found hfound => ?_
  obtain ⟨key, hkey⟩ := mem_of_readKind hfound
  have hselection (context : String) : FailsOnlyBy (Refuses (.mapping entries))
      (Predicate.read scope context ((Datum.lookup? "that" entries).getD .null)) := by
    cases hthat : Datum.lookup? "that" entries with
    | none => exact .ok _
    | some that =>
      obtain ⟨key, hkey⟩ := Datum.mem_of_lookup? hthat
      exact (read_failsOnlyBy _ _ _).weaken fun _ h => h.of_value hkey
  refine (hselection _).bind fun selection _ => ?_
  refine ((readDemand_failsOnlyBy _ _ _ _ _).weaken fun _ h => h.of_value hkey).bind fun r _ => ?_
  exact (hshape (readFreeze_failsOnlyBy _ _)).bind fun freeze _ => .ok _

theorem readRules_failsOnlyBy (index : Nat) (items : List Datum) :
    FailsOnlyBy (Refuses (.list items)) (readRules index items) := by
  induction items generalizing index with
  | nil => exact .ok _
  | cons d rest ih =>
    cases d with
    | mapping entries =>
      have hrule : FailsOnlyBy (Refuses (.list (.mapping entries :: rest)))
          (readRule entries index) :=
        (readRule_failsOnlyBy entries index).weaken fun _ h => h.of_item List.mem_cons_self
      have hrest : FailsOnlyBy (Refuses (.list (.mapping entries :: rest)))
          (readRules (index + 1) rest) := (ih _).weaken fun _ h => h.of_items
      exact hrule.bind fun _ _ => hrest.bind fun _ _ => .ok _
    | _ => exact .error (.inl (isShape _))

end RuleSet

/-! Checks. -/

def RuleFault.IsForeseen : RuleFault → Prop
  | .badTemplate _ _ fault => Template.Foreseen fault
  | _ => True

namespace Rule

theorem check_failsOnlyBy (r : Rule) : FailsOnlyBy RuleFault.IsForeseen r.check := by
  unfold check
  refine .ite (fun _ => .error trivial) fun _ => ?_
  refine .bind (.ite (fun _ => .error trivial) fun _ => .ok _) fun _ _ => ?_
  refine .bind (.ite (fun _ => .error trivial) fun _ => .ok _) fun _ _ => ?_
  refine .bind (.ite (fun _ => .error trivial) fun _ => .ite (fun _ => .error trivial) fun _ =>
    .ok _) fun _ _ => ?_
  unfold checkTemplate
  split
  · exact .ok _
  · next fault heq => exact .error (Template.trial_failsOnlyBy r.template fault heq)

theorem checkAfter_failsOnlyBy (seen : List String) (rules : List Rule) :
    FailsOnlyBy RuleFault.IsForeseen (checkAfter seen rules) := by
  induction rules generalizing seen with
  | nil => exact .ok _
  | cons r rest ih =>
    refine r.check_failsOnlyBy.bind fun _ _ => ?_
    exact .ite (fun _ => .error trivial) fun _ => ih _

end Rule

namespace RuleSet

open Failure

/-! Documents. -/

def IsCollection (d : Datum) : Prop := (∃ items, d = .list items) ∨ ∃ entries, d = .mapping entries

theorem checkVersion_failsOnlyBy (version : Option Datum) :
    FailsOnlyBy (fun failure => failure.IsShape ∨
      ∃ d, version = some d ∧ IsCollection d ∧ failure = .unhashable d.typeName)
      (checkVersion version) := by
  unfold checkVersion
  split
  · exact .error (.inl (isShape _))
  · exact .error (.inl (isShape _))
  · exact .ite (fun _ => .ok _) fun _ => .error (.inl (isShape _))
  · exact .error (.inl (isShape _))
  · next d _ hscalar hset =>
    cases d with
    | scalar s => exact absurd rfl (hscalar s)
    | set members => exact absurd rfl (hset members)
    | list items => exact .error (.inr ⟨_, rfl, .inl ⟨_, rfl⟩, rfl⟩)
    | mapping entries => exact .error (.inr ⟨_, rfl, .inr ⟨_, rfl⟩, rfl⟩)

/-- What reading a rule set fails with. -/
inductive Rejects (d : Datum) : Failure → Prop
  | shape {failure} (h : failure.IsShape) : Rejects d failure
  | expression (h : d.Misspells) : Rejects d .badExpression
  | version {entries version} (hd : d = .mapping entries)
      (hversion : Datum.lookup? "version" entries = some version) (h : IsCollection version) :
      Rejects d (.unhashable version.typeName)

theorem read_failsOnlyBy (d : Datum) : FailsOnlyBy (Rejects d) (read d) := by
  cases d with
  | mapping entries =>
    refine ((checkVersion_failsOnlyBy _).weaken ?_).bind fun _ _ => ?_
    · rintro failure (hshape | ⟨version, hversion, hcollection, rfl⟩)
      · exact .shape hshape
      · exact .version rfl hversion hcollection
    · split
      · next items hitems =>
        have hrules : FailsOnlyBy (Rejects (.mapping entries)) (readRules 0 items) := by
          cases hlookup : Datum.lookup? "rules" entries with
          | none =>
            rw [hlookup] at hitems
            obtain rfl : [] = items := Datum.list.inj hitems
            exact .ok _
          | some rules =>
            rw [hlookup] at hitems
            obtain rfl : rules = .list items := hitems
            obtain ⟨key, hkey⟩ := Datum.mem_of_lookup? hlookup
            refine (readRules_failsOnlyBy 0 items).weaken fun failure h => ?_
            rcases h.of_value hkey with hshape | ⟨rfl, hmisspells⟩
            · exact .shape hshape
            · exact .expression hmisspells
        refine hrules.bind fun rules _ => ?_
        exact ((textList_failsOnlyBy _ _).weaken fun _ h => .shape h).bind fun _ _ => .ok _
      · exact .error (.shape (isShape _))
  | _ => exact .error (.shape (isShape _))

end RuleSet

/-! Files. -/

theorem Found.file_of_content {path : String} {found : Found} {content : ByteArray}
    (h : found.content path = .ok content) : found = .file content := by
  cases found with
  | file c => exact congrArg file (Except.ok.inj h)
  | directory => contradiction
  | missing => contradiction
  | notDirectory => contradiction
  | nameTooLong => contradiction
  | denied => contradiction

/-- A fault of configuration, and, where it is in a template, one that the trial of the template
foresees. -/
structure Failure.IsRefusal (failure : Failure) : Prop where
  kind : failure.kind = .configuration
  foreseen : ∀ fault, failure = .rule fault → fault.IsForeseen

namespace RuleSet

/-- What becomes of a document: rules that are valid, a refusal, or one of two failures that nothing
turns into refusals. -/
inductive Settled (d : Datum) : Except Failure RuleSet → Prop
  | valid {s} (h : Rule.checkAll s.rules = .ok ()) : Settled d (.ok s)
  | refused {failure} (h : failure.IsRefusal) : Settled d (.error failure)
  | expression (h : d.Misspells) : Settled d (.error .badExpression)
  | version {entries version} (hd : d = .mapping entries)
      (hversion : Datum.lookup? "version" entries = some version) (h : IsCollection version) :
      Settled d (.error (.unhashable version.typeName))

theorem isRefusal_rulesFile (cause : String) : (Failure.rulesFile cause).IsRefusal :=
  ⟨rfl, fun _ h => by contradiction⟩

theorem ofDocument_settled (d : Datum) : Settled d (ofDocument d) := by
  unfold ofDocument
  split
  · next s _ =>
    unfold validated
    split
    · next hcheck => exact .valid hcheck
    · next fault hcheck =>
      refine .refused ⟨rfl, ?_⟩
      rintro _ ⟨⟩
      exact Rule.checkAfter_failsOnlyBy [] s.rules fault hcheck
  · exact .refused (isRefusal_rulesFile _)
  · next failure hrules hread =>
    cases read_failsOnlyBy d failure hread with
    | shape h =>
      obtain ⟨fault, rfl⟩ := h
      exact absurd rfl (hrules fault)
    | expression h => exact .expression h
    | version hd hversion h => exact .version hd hversion h

/-- What becomes of a file: what becomes of its document, a refusal, or a fault of the parser that
is not foreseen. -/
inductive Loaded (found : Found) : Except Failure RuleSet → Prop
  | document {content d result} (hfound : found = .file content)
      (hread : Yaml.readFile content = .ok d) (h : Settled d result) : Loaded found result
  | refused {failure} (h : failure.IsRefusal) : Loaded found (.error failure)
  | parser {content fault} (hfound : found = .file content)
      (hread : Yaml.readFile content = .error fault) (hfault : coversFault fault = false) :
      Loaded found (.error (.document fault))

/-- Whatever a document says, and whatever there is at a path. -/
theorem settled_and_loaded (d : Datum) (path : String) (found : Found) :
    Settled d (ofDocument d) ∧ Loaded found (ofFound path found) := by
  refine ⟨ofDocument_settled d, ?_⟩
  unfold ofFound
  split
  · next content hcontent =>
    have hfound : found = .file content := Found.file_of_content hcontent
    unfold ofFile
    split
    · next d hread => exact .document hfound hread (ofDocument_settled d)
    · next fault hread =>
      split
      · exact .refused (isRefusal_rulesFile _)
      · next hfault => exact .parser hfound hread (by simpa using hfault)
  · exact .refused (isRefusal_rulesFile _)

/-- A list for a version is not refused: looking it up fails. -/
theorem ofDocument_escapes :
    ¬ ∀ d, (∃ s, ofDocument d = .ok s ∧ Rule.checkAll s.rules = .ok ()) ∨
      ∃ failure, ofDocument d = .error failure ∧ failure.kind = .configuration := by
  intro h
  have hescapes : ofDocument (.mapping [(.text "version", .list []), (.text "rules", .list [])])
      = .error (.unhashable "list") := rfl
  rcases h (.mapping [(.text "version", .list []), (.text "rules", .list [])]) with
    ⟨s, hs, _⟩ | ⟨failure, hfailure, hkind⟩
  · rw [hescapes] at hs
    contradiction
  · rw [hescapes] at hfailure
    obtain rfl := Except.error.inj hfailure
    contradiction

end RuleSet

end Conformance
