import Conformance.Predicate.Document

/-! The grammar of predicates in documents, and what each form of it means. A mapping means that
all of its entries hold. An entry negates or combines others, looks at an end of a dependency or at
the owner of a method, or asks for one property. -/
namespace Conformance

open Facts

abbrev Scope.Subject : Scope → Type
  | nodes => Node
  | edges => Edge
  | methods => MethodRef

def Scope.item : (scope : Scope) → scope.Subject → Item
  | nodes, n => .node n
  | edges, e => .edge e
  | methods, r => .method r

/-- A list of values, each by its plain text, or a text by itself. -/
inductive Datum.Lists : Datum → List String → Prop
  | text (s : String) : Lists (.text s) [s]
  | list (items : List Datum) : Lists (.list items) (items.map Datum.plain)

def SameName (wanted actual : String) : Prop :=
  wanted = actual ∨ '.' ∉ wanted.toList ∧ simpleNameOf actual = wanted

def Carries (modifiers : NameSet) (wanted : List String) : Prop :=
  ∀ w ∈ wanted, ∃ m ∈ modifiers, Text.lower m = Text.lower w

namespace Predicate

inductive NodeEntry : String → Datum → (Node → Prop) → Prop
  | package {value : Datum} : NodeEntry "package" value fun n =>
      (Package.Pattern.ofString value.plain).accepts n.package = true
  | packagePrefix {value : Datum} : NodeEntry "package_prefix" value fun n =>
      n.package = value.plain ∨ value.plain.toList ++ ['.'] <+: n.package.toList
  | simpleName {value : Datum} : NodeEntry "simple_name" value fun n => n.simpleName = value.plain
  | nameContains {value : Datum} : NodeEntry "name_contains" value fun n =>
      value.plain.toList <:+: n.simpleName.toList
  | nameMatches {value : Datum} {r : Regex.Compiled} (h : Regex.compile? value.plain = some r) :
      NodeEntry "name_matches" value fun n => r.matchesAll n.name = true
  | kind {value : Datum} : NodeEntry "kind" value fun n => n.kind = value.plain
  | implements {value : Datum} : NodeEntry "implements" value fun n =>
      ∃ c ∈ n.capabilities, SameName value.plain c
  | annotatedWith {value : Datum} : NodeEntry "annotated_with" value fun n =>
      ∃ a ∈ n.annotations, SameName value.plain a
  | lowercasePackage {value : Datum} : NodeEntry "lowercase_package" value fun n =>
      n.package = Text.lower n.package ↔ value.isTruthy = true
  | modifier {value : Datum} {wanted : List String} (h : value.Lists wanted) :
      NodeEntry "modifier" value fun n => Carries n.modifiers wanted
  | accesses {value : Datum} {members : List String} (h : value.Lists members) :
      NodeEntry "accesses" value fun n => ∃ m ∈ members, m ∈ n.accesses
  | hasField {entries : List (Scalar × Datum)} {name : Datum} {wanted : List String}
      (hname : Datum.lookup? "name" entries = some name) (htruthy : name.isTruthy = true)
      (hwanted : ((Datum.lookup? "modifiers" entries).getD (.list [])).Lists wanted) :
      NodeEntry "has_field" (.mapping entries) fun n =>
        ∃ f, n.fields.find? (·.name == name.plain) = some f ∧ Carries f.modifiers wanted ∧
          ∀ type, Datum.lookup? "type" entries = some type → type.isNull = false →
            SameName type.plain f.type

inductive MethodEntry : String → Datum → (Method → Prop) → Prop
  | name {value : Datum} : MethodEntry "name" value fun m => m.name = value.plain
  | annotatedWith {value : Datum} : MethodEntry "annotated_with" value fun m =>
      ∃ a ∈ m.annotations, SameName value.plain a
  | parameters {entries : List (Scalar × Datum)} {low high : Nat}
      (hlow : (Datum.lookup? "min" entries).getD (.int 0) = .int low)
      (hhigh : (Datum.lookup? "max" entries).getD (.int 255) = .int high) :
      MethodEntry "parameters" (.mapping entries) fun m =>
        (low : Int) ≤ m.count.value ∧ m.count.value ≤ high

mutual

/-- The documents of a scope that are predicates, with what they mean. -/
inductive Denotes : (scope : Scope) → Datum → (scope.Subject → Prop) → Prop
  | anything {scope : Scope} : Denotes scope .null fun _ => True
  | all {scope : Scope} {entries : List (Scalar × Datum)}
      {meaning : Scalar × Datum → scope.Subject → Prop}
      (h : ∀ e ∈ entries, EntryDenotes scope e.1 e.2 (meaning e)) :
      Denotes scope (.mapping entries) fun x => ∀ e ∈ entries, meaning e x

inductive EntryDenotes : (scope : Scope) → Scalar → Datum → (scope.Subject → Prop) → Prop
  | neg {scope : Scope} {value : Datum} {m : scope.Subject → Prop} (h : Denotes scope value m) :
      EntryDenotes scope (.text "not") value fun x => ¬ m x
  | anyOf {scope : Scope} {items : List Datum} {meaning : Datum → scope.Subject → Prop}
      (hne : items ≠ []) (h : ∀ d ∈ items, Denotes scope d (meaning d)) :
      EntryDenotes scope (.text "any_of") (.list items) fun x => ∃ d ∈ items, meaning d x
  | allOf {scope : Scope} {items : List Datum} {meaning : Datum → scope.Subject → Prop}
      (hne : items ≠ []) (h : ∀ d ∈ items, Denotes scope d (meaning d)) :
      EntryDenotes scope (.text "all_of") (.list items) fun x => ∀ d ∈ items, meaning d x
  | node {key : String} {value : Datum} {m : Node → Prop} (h : NodeEntry key value m) :
      EntryDenotes .nodes (.text key) value m
  | source {value : Datum} {m : Node → Prop} (h : Denotes .nodes value m) :
      EntryDenotes .edges (.text "from") value fun e => m e.source
  | target {value : Datum} {m : Node → Prop} (h : Denotes .nodes value m) :
      EntryDenotes .edges (.text "to") value fun e => m e.target
  | owner {value : Datum} {m : Node → Prop} (h : Denotes .nodes value m) :
      EntryDenotes .methods (.text "declared_in") value fun r => m r.owner
  | method {key : String} {value : Datum} {m : Method → Prop} (h : MethodEntry key value m) :
      EntryDenotes .methods (.text key) value fun r => m r.method

end

end Predicate

end Conformance
