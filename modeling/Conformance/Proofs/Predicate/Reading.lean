import Conformance.Predicate.Document
import Conformance.Proofs.Result

/-! How reading a predicate can fail. Whatever is wrong with the shape of a document is found to be
so; what is left is an expression for names that cannot be read. -/
namespace Conformance

/-- Some entry, however deep, gives an expression for names that cannot be read. -/
inductive Datum.Misspells : Datum → Prop
  | entry {entries key value} (hmem : (key, value) ∈ entries) (hkey : key.plain = "name_matches")
      (hvalue : Regex.compile? value.plain = none) : Misspells (.mapping entries)
  | value {entries key value} (hmem : (key, value) ∈ entries) (hvalue : Misspells value) :
      Misspells (.mapping entries)
  | item {items d} (hmem : d ∈ items) (hd : Misspells d) : Misspells (.list items)

def Failure.IsShape (failure : Failure) : Prop := ∃ fault, failure = .rules fault

theorem Failure.isShape (fault : RulesFault) : (Failure.rules fault).IsShape := ⟨fault, rfl⟩

theorem textList_failsOnlyBy (d : Datum) (context : String) :
    FailsOnlyBy Failure.IsShape (textList d context) := by
  unfold textList
  split
  · exact .ok _
  · exact .ok _
  · exact .error (Failure.isShape _)

namespace Predicate

open Failure

theorem readFieldProperty_failsOnlyBy (value : Datum) (context : String) :
    FailsOnlyBy IsShape (readFieldProperty value context) := by
  unfold readFieldProperty
  split
  · split
    · refine .ite (fun _ => .error (isShape _)) fun _ => ?_
      exact (textList_failsOnlyBy _ _).bind fun _ _ => .ok _
    · exact .error (isShape _)
  · exact .error (isShape _)

theorem readBound_failsOnlyBy (value : Datum) (context bound : String) :
    FailsOnlyBy IsShape (readBound value context bound) := by
  unfold readBound
  split
  · exact .ite (fun _ => .error (isShape _)) fun _ => .ok _
  · exact .error (isShape _)

theorem readMethodEntry_failsOnlyBy (key : String) (value : Datum) (context : String) :
    FailsOnlyBy IsShape (readMethodEntry key value context) := by
  unfold readMethodEntry
  refine .ite (fun _ => .ok _) fun _ => .ite (fun _ => .ok _) fun _ => ?_
  refine .ite (fun _ => ?_) fun _ => .error (isShape _)
  split
  · refine (readBound_failsOnlyBy _ _ _).bind fun _ _ => ?_
    exact (readBound_failsOnlyBy _ _ _).bind fun _ _ => .ok _
  · exact .error (isShape _)

def RefusesEntry (key : String) (value : Datum) (failure : Failure) : Prop :=
  failure.IsShape ∨
    failure = .badExpression ∧ key = "name_matches" ∧ Regex.compile? value.plain = none

theorem readNodeEntry_failsOnlyBy (key : String) (value : Datum) (context : String) :
    FailsOnlyBy (RefusesEntry key value) (readNodeEntry key value context) := by
  unfold readNodeEntry
  split
  · exact .ok _
  · refine .ite (fun hkey => ?_) fun _ => ?_
    · split
      · exact .ok _
      · next hnone => exact .error (.inr ⟨rfl, by simpa using hkey, hnone⟩)
    · refine FailsOnlyBy.weaken (?_ : FailsOnlyBy IsShape _) fun _ h => .inl h
      refine .ite (fun _ => (textList_failsOnlyBy _ _).bind fun _ _ => .ok _) fun _ => ?_
      refine .ite (fun _ => .ok _) fun _ => ?_
      refine .ite (fun _ => (textList_failsOnlyBy _ _).bind fun _ _ => .ok _) fun _ => ?_
      refine .ite (fun _ => (readFieldProperty_failsOnlyBy _ _).bind fun _ _ => .ok _) fun _ => ?_
      exact .error (isShape _)

theorem readEntry_failsOnlyBy (scope : Scope) (key : String) (value : Datum) (context : String) :
    FailsOnlyBy (RefusesEntry key value) (readEntry scope key value context) := by
  cases scope with
  | nodes => exact readNodeEntry_failsOnlyBy key value context
  | edges => exact .error (.inl (isShape _))
  | methods => exact (readMethodEntry_failsOnlyBy key value context).weaken fun _ h => .inl h

def Refuses (d : Datum) (failure : Failure) : Prop :=
  failure.IsShape ∨ failure = .badExpression ∧ d.Misspells

section
variable {entries rest : List (Scalar × Datum)} {key : Scalar} {value : Datum} {failure : Failure}

theorem RefusesEntry.refuses (h : RefusesEntry key.plain value failure) :
    Refuses (.mapping ((key, value) :: rest)) failure :=
  h.imp_right fun ⟨hfailure, hkey, hvalue⟩ => ⟨hfailure, .entry List.mem_cons_self hkey hvalue⟩

theorem Refuses.of_value (hmem : (key, value) ∈ entries) (h : Refuses value failure) :
    Refuses (.mapping entries) failure :=
  h.imp_right fun ⟨hfailure, hvalue⟩ => ⟨hfailure, .value hmem hvalue⟩

theorem Refuses.of_rest {e : Scalar × Datum} (h : Refuses (.mapping rest) failure) :
    Refuses (.mapping (e :: rest)) failure := by
  refine h.imp_right fun ⟨hfailure, hrest⟩ => ⟨hfailure, ?_⟩
  cases hrest with
  | entry hmem hkey hvalue => exact .entry (List.mem_cons_of_mem e hmem) hkey hvalue
  | value hmem hvalue => exact .value (List.mem_cons_of_mem e hmem) hvalue

theorem Refuses.of_item {d : Datum} {ds : List Datum} (hmem : d ∈ ds) (h : Refuses d failure) :
    Refuses (.list ds) failure :=
  h.imp_right fun ⟨hfailure, hd⟩ => ⟨hfailure, .item hmem hd⟩

theorem Refuses.of_items {d : Datum} {ds : List Datum} (h : Refuses (.list ds) failure) :
    Refuses (.list (d :: ds)) failure := by
  refine h.imp_right fun ⟨hfailure, hds⟩ => ⟨hfailure, ?_⟩
  cases hds with
  | item hmem hd => exact .item (List.mem_cons_of_mem d hmem) hd

end

mutual

theorem read_failsOnlyBy (scope : Scope) (context : String) (d : Datum) :
    FailsOnlyBy (Refuses d) (read scope context d) := by
  match d with
  | .scalar s =>
    cases s with
    | null =>
      rw [read]
      exact .ok _
    | _ => exact .error (.inl (isShape _))
  | .mapping entries =>
    rw [read]
    exact (readEntries_failsOnlyBy scope context entries).bind fun _ _ => .ok _
  | .list _ | .set _ => exact .error (.inl (isShape _))

theorem readEntries_failsOnlyBy (scope : Scope) (context : String)
    (entries : List (Scalar × Datum)) :
    FailsOnlyBy (Refuses (.mapping entries)) (readEntries scope context entries) := by
  match entries with
  | [] =>
    rw [readEntries]
    exact .ok _
  | (key, value) :: rest =>
    rw [readEntries]
    have hread (scope : Scope) (context : String) :
        FailsOnlyBy (Refuses (.mapping ((key, value) :: rest)))
          (read scope context value) :=
      (read_failsOnlyBy scope context value).weaken fun _ h => h.of_value List.mem_cons_self
    have hchoices (context choice : String) :
        FailsOnlyBy (Refuses (.mapping ((key, value) :: rest)))
          (readChoices scope context choice value) :=
      (readChoices_failsOnlyBy scope context choice value).weaken
        fun _ h => h.of_value List.mem_cons_self
    have hrest (part : Predicate) :
        FailsOnlyBy (Refuses (.mapping ((key, value) :: rest)))
          (readEntries scope context rest >>= fun parts => pure (part :: parts)) :=
      ((readEntries_failsOnlyBy scope context rest).weaken fun _ h => h.of_rest).bind
        fun _ _ => .ok _
    split
    · exact ((hread _ _).map _).bind fun part _ => hrest part
    · exact ((hchoices _ _).map _).bind fun part _ => hrest part
    · exact ((hchoices _ _).map _).bind fun part _ => hrest part
    · exact ((hread _ _).map _).bind fun part _ => hrest part
    · exact ((hread _ _).map _).bind fun part _ => hrest part
    · exact ((hread _ _).map _).bind fun part _ => hrest part
    · exact ((readEntry_failsOnlyBy _ _ _ _).weaken fun _ h => h.refuses).bind
        fun part _ => hrest part

theorem readChoices_failsOnlyBy (scope : Scope) (context key : String) (d : Datum) :
    FailsOnlyBy (Refuses d) (readChoices scope context key d) := by
  match d with
  | .list (d :: rest) =>
    rw [readChoices]
    exact readAll_failsOnlyBy scope (extend context key) (d :: rest)
  | .list [] => exact .error (.inl (isShape _))
  | .scalar _ | .mapping _ | .set _ => exact .error (.inl (isShape _))

theorem readAll_failsOnlyBy (scope : Scope) (context : String) (ds : List Datum) :
    FailsOnlyBy (Refuses (.list ds)) (readAll scope context ds) := by
  match ds with
  | [] =>
    rw [readAll]
    exact .ok _
  | d :: rest =>
    rw [readAll]
    have hd : FailsOnlyBy (Refuses (.list (d :: rest))) (read scope context d) :=
      (read_failsOnlyBy scope context d).weaken fun _ h => h.of_item List.mem_cons_self
    have hrest : FailsOnlyBy (Refuses (.list (d :: rest)))
        (readAll scope context rest) :=
      (readAll_failsOnlyBy scope context rest).weaken fun _ h => h.of_items
    exact hd.bind fun _ _ => hrest.bind fun _ _ => .ok _

end

end Predicate

end Conformance
