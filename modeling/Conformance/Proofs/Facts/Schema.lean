import Conformance.Facts.Document
import Conformance.Failure
import Conformance.Proofs.Result

/-! The schema of a facts document, and what the facts are that a document of this schema gives. A
document is read exactly if it follows the schema, and nothing that it says is lost. -/
namespace Conformance.Facts

theorem NameSet.notMem_empty (x : String) : ¬ x ∈ NameSet.empty := List.not_mem_nil

namespace Sheet

/-! The schema. -/

section
variable (key : String) (entries : Entries)

/-- What is under a key is as it should be, if there is anything. -/
def Under (p : Datum → Prop) : Prop := ∀ d, Datum.lookup? key entries = some d → p d

def Given : Prop := ∃ d, Datum.lookup? key entries = some d ∧ d.isTruthy = true

end

inductive IsSet : Datum → Prop
  | null : IsSet .null
  | list (items : List Datum) : IsSet (.list items)

inductive IsListOf (p : Datum → Prop) : Datum → Prop
  | empty {d : Datum} (h : d.isTruthy = false) : IsListOf p d
  | list {items : List Datum} (h : ∀ d ∈ items, p d) : IsListOf p (.list items)

inductive IsField : Datum → Prop
  | mapping {entries : Entries} (name : Given "name" entries)
      (modifiers : Under "modifiers" entries IsSet) : IsField (.mapping entries)

/-- The types of the parameters, or their number; a truth value is a number. -/
inductive IsParameters : Datum → Prop
  | types (items : List Datum) : IsParameters (.list items)
  | flag (b : Bool) : IsParameters (.bool b)
  | number (n : Nat) : IsParameters (.int n)

inductive IsMethod : Datum → Prop
  | mapping {entries : Entries} (name : Given "name" entries)
      (parameters : Under "parameters" entries IsParameters)
      (annotations : Under "annotations" entries IsSet) : IsMethod (.mapping entries)

def setKeys : List String := ["modifiers", "implements", "annotations", "accesses", "depends_on"]

structure HasParts (entries : Entries) : Prop where
  kind : Under "kind" entries fun d => d.plain ∈ nodeKinds
  fields : Under "fields" entries (IsListOf IsField)
  methods : Under "methods" entries (IsListOf IsMethod)
  sets : ∀ key ∈ setKeys, Under key entries IsSet

inductive IsNode : Datum → Prop
  | mapping {entries : Entries}
      (name : ∃ name, Datum.lookup? "name" entries = some (.text name) ∧ name ≠ "")
      (parts : HasParts entries) : IsNode (.mapping entries)

inductive IsEdge : Datum → Prop
  | mapping {entries : Entries} (source : Given "from" entries) (target : Given "to" entries) :
      IsEdge (.mapping entries)

inductive InSchema : Datum → Prop
  | null : InSchema .null
  | mapping {entries : Entries} (nodes : Under "nodes" entries (IsListOf IsNode))
      (edges : Under "edges" entries (IsListOf IsEdge)) : InSchema (.mapping entries)

/-! The facts. -/

def entriesOf : Datum → Entries
  | .mapping entries => entries
  | _ => []

def itemsUnder (key : String) (entries : Entries) : List Datum :=
  match Datum.lookup? key entries with
  | some (.list items) => items
  | _ => []

inductive TextUnder (key : String) (entries : Entries) (default : String) : String → Prop
  | given {d : Datum} (h : Datum.lookup? key entries = some d) :
    TextUnder key entries default d.plain
  | absent (h : Datum.lookup? key entries = none) : TextUnder key entries default default

def TextsUnder (key : String) (entries : Entries) (s : NameSet) : Prop :=
  ∀ x, x ∈ s ↔ x ∈ (itemsUnder key entries).map Datum.plain

structure FieldSaid (d : Datum) (f : Field) : Prop where
  name : TextUnder "name" (entriesOf d) "" f.name
  type : TextUnder "type" (entriesOf d) "" f.type
  modifiers : TextsUnder "modifiers" (entriesOf d) f.modifiers

inductive ParametersSaid : Option Datum → ParameterCount → List String → Prop
  | absent : ParametersSaid none (.number 0) []
  | types (items : List Datum) :
      ParametersSaid (some (.list items)) (.number items.length) (items.map Datum.plain)
  | flag (b : Bool) : ParametersSaid (some (.bool b)) (.flag b) []
  | number (n : Nat) : ParametersSaid (some (.int n)) (.number n) []

theorem ParametersSaid.count_eq {value : Option Datum} {count : ParameterCount}
    {types : List String} (h : ParametersSaid value count types) (htypes : types ≠ []) :
    count = .number types.length := by
  cases h with
  | types items => rw [List.length_map]
  | absent => contradiction
  | flag => contradiction
  | number => contradiction

structure MethodSaid (d : Datum) (m : Method) : Prop where
  name : TextUnder "name" (entriesOf d) "" m.name
  parameters : ParametersSaid (Datum.lookup? "parameters" (entriesOf d)) m.count m.types
  annotations : TextsUnder "annotations" (entriesOf d) m.annotations

structure NodeSaid (d : Datum) (n : Node) : Prop where
  name : TextUnder "name" (entriesOf d) "" n.name
  package : TextUnder "package" (entriesOf d) (packageOf n.name) n.package
  kind : TextUnder "kind" (entriesOf d) "class" n.kind
  modifiers : TextsUnder "modifiers" (entriesOf d) n.modifiers
  fields : List.Forall₂ FieldSaid (itemsUnder "fields" (entriesOf d)) n.fields
  methods : List.Forall₂ MethodSaid (itemsUnder "methods" (entriesOf d)) n.methods
  capabilities : TextsUnder "implements" (entriesOf d) n.capabilities
  annotations : TextsUnder "annotations" (entriesOf d) n.annotations
  accesses : TextsUnder "accesses" (entriesOf d) n.accesses
  isKnownKind : n.kind ∈ nodeKinds
  isExternal : n.isExternal = false

structure EdgeSaid (d : Datum) (e : String × String) : Prop where
  source : TextUnder "from" (entriesOf d) "" e.1
  target : TextUnder "to" (entriesOf d) "" e.2

def inlineEdges (nodes : List Node) (targets : List NameSet) : List (String × String) :=
  (List.zipWith (fun n t => t.names.map (n.name, ·)) nodes targets).flatten

/-- The nodes that items give, with the dependencies that stand in them. -/
structure NodesSaid (items : List Datum) (s : Sheet) : Prop where
  nodes : List.Forall₂ NodeSaid items s.nodes
  edges : ∃ targets,
    List.Forall₂ (fun d t => TextsUnder "depends_on" (entriesOf d) t) items targets ∧
    s.edges = inlineEdges s.nodes targets

/-- What a whole document gives: its nodes, their dependencies, and then the edges listed apart. -/
structure Said (d : Datum) (s : Sheet) : Prop where
  nodes : List.Forall₂ NodeSaid (itemsUnder "nodes" (entriesOf d)) s.nodes
  edges : ∃ targets others,
    List.Forall₂ (fun d t => TextsUnder "depends_on" (entriesOf d) t)
      (itemsUnder "nodes" (entriesOf d)) targets ∧
    List.Forall₂ EdgeSaid (itemsUnder "edges" (entriesOf d)) others ∧
    s.edges = inlineEdges s.nodes targets ++ others

/-! What is under a key. -/

section
variable {key : String} {entries : Entries} {p : Datum → Prop}

theorem under_of_none (h : Datum.lookup? key entries = none) : Under key entries p := by
  intro d hd
  rw [h] at hd
  contradiction

theorem under_of_some {d : Datum} (h : Datum.lookup? key entries = some d) :
    Under key entries p ↔ p d := by
  simp [Under, h]

theorem textUnder_plainUnder (default : String) :
    TextUnder key entries default (plainUnder entries key default) := by
  unfold plainUnder
  split
  · exact .given ‹_›
  · exact .absent ‹_›

theorem truthy?_eq_some_iff {d : Datum} :
    truthy? entries key = some d ↔ Datum.lookup? key entries = some d ∧ d.isTruthy = true :=
  Option.filter_eq_some_iff

theorem not_given_of_none (h : truthy? entries key = none) : ¬ Given key entries := by
  rintro ⟨d, hd⟩
  rw [truthy?_eq_some_iff.2 hd] at h
  contradiction

theorem given_of_some {d : Datum} (h : truthy? entries key = some d) : Given key entries :=
  ⟨d, truthy?_eq_some_iff.1 h⟩

theorem textUnder_of_some {d : Datum} (h : truthy? entries key = some d) (default : String) :
    TextUnder key entries default d.plain :=
  .given (truthy?_eq_some_iff.1 h).1

theorem yields_readSet (context : String) :
    Yields (readSet entries key context) (Under key entries IsSet) (TextsUnder key entries) := by
  unfold readSet
  split
  · next h => exact .ok (under_of_none h) fun x => by simp [itemsUnder, h, NameSet.notMem_empty]
  · next h =>
    exact .ok ((under_of_some h).2 .null) fun x => by simp [itemsUnder, h, NameSet.notMem_empty]
  · next items h =>
    refine .ok ((under_of_some h).2 (.list items)) fun x => ?_
    rw [itemsUnder, h]
    exact NameSet.mem_ofList
  · next d hnull hlist h =>
    refine .error fun hset => ?_
    cases (under_of_some h).1 hset with
    | null => exact hnull rfl
    | list items => exact hlist items rfl

theorem isListOf_list {items : List Datum} : IsListOf p (.list items) ↔ ∀ d ∈ items, p d := by
  refine ⟨fun h => ?_, .list⟩
  cases h with
  | empty h =>
    obtain rfl : items = [] := by simpa [Datum.isTruthy] using h
    simp
  | list h => exact h

theorem under_listOf_of_some {items : List Datum} (h : readList? entries key = some items) :
    Under key entries (IsListOf p) ↔ ∀ d ∈ items, p d := by
  unfold readList? at h
  split at h
  · next hlookup =>
    obtain rfl := Option.some.inj h
    simp [under_of_none hlookup]
  · next hlookup =>
    obtain rfl := Option.some.inj h
    rw [under_of_some hlookup, isListOf_list]
  · next hlookup =>
    split at h
    · contradiction
    · next hfalsy =>
      obtain rfl := Option.some.inj h
      simp [under_of_some hlookup, IsListOf.empty (Bool.eq_false_iff.2 hfalsy)]

theorem not_under_listOf_of_none (h : readList? entries key = none) :
    ¬ Under key entries (IsListOf p) := by
  unfold readList? at h
  split at h
  · contradiction
  · contradiction
  · next hlist hlookup =>
    split at h
    · next htruthy =>
      rw [under_of_some hlookup]
      rintro (hfalsy | hitems)
      · exact Bool.false_ne_true (hfalsy.symm.trans htruthy)
      · exact hlist _ rfl
    · contradiction

theorem itemsUnder_of_some {items : List Datum} (h : readList? entries key = some items) :
    itemsUnder key entries = items := by
  unfold readList? at h
  unfold itemsUnder
  split at h
  · simp_all
  · simp_all
  · next hlist hlookup =>
    split at h
    · contradiction
    · rw [hlookup]
      split
      · next hitems => exact absurd (Option.some.inj hitems) (hlist _)
      · exact Option.some.inj h

end

/-! Reading. -/

theorem yields_readField (node : String) (d : Datum) :
    Yields (readField node d) (IsField d) (FieldSaid d) := by
  unfold readField
  split
  · next entries =>
    split
    · next h => exact .error fun ⟨hname, _⟩ => not_given_of_none h hname
    · next name h =>
      refine .congr (.bind (yields_readSet _) fun modifiers hmodifiers => .ok trivial
        ⟨textUnder_of_some h "", textUnder_plainUnder "", hmodifiers⟩) ?_
      rw [and_true]
      exact ⟨fun hset => .mapping (given_of_some h) hset, fun ⟨_, hset⟩ => hset⟩
  · next h => exact .error fun ⟨_, _⟩ => h _ rfl

theorem yields_readParameters (node : String) (entries : Entries) :
    Yields (readParameters node (Datum.lookup? "parameters" entries))
      (Under "parameters" entries IsParameters)
      fun c => ParametersSaid (Datum.lookup? "parameters" entries) c.1 c.2 := by
  unfold readParameters
  cases h : Datum.lookup? "parameters" entries with
  | none => exact .ok (under_of_none h) .absent
  | some d =>
    refine .congr ?_ (under_of_some h).symm
    split
    · contradiction
    · next items hd => exact Option.some.inj hd ▸ .ok (.types items) (.types items)
    · next b hd => exact Option.some.inj hd ▸ .ok (.flag b) (.flag b)
    · next n hd =>
      obtain rfl := Option.some.inj hd
      split
      · next hneg =>
        refine .error fun hparameters => ?_
        cases hparameters
        omega
      · next hneg =>
        obtain ⟨k, rfl⟩ := Int.eq_ofNat_of_zero_le (Int.not_lt.1 hneg)
        exact .ok (.number k) (.number k)
    · next hlist hbool hint hd =>
      obtain rfl := Option.some.inj hd
      refine .error fun hparameters => ?_
      cases hparameters with
      | types items => exact hlist items rfl
      | flag b => exact hbool b rfl
      | number n => exact hint n rfl

theorem yields_readMethod (node : String) (d : Datum) :
    Yields (readMethod node d) (IsMethod d) (MethodSaid d) := by
  unfold readMethod
  split
  · next entries =>
    split
    · next h => exact .error fun ⟨hname, _, _⟩ => not_given_of_none h hname
    · next name h =>
      refine .congr (.bind (yields_readParameters node entries) fun parameters hparameters =>
        .bind (yields_readSet _) fun annotations hannotations => .ok trivial
          ⟨textUnder_of_some h "", hparameters, hannotations⟩) ?_
      rw [and_true]
      exact ⟨fun ⟨hparameters, hset⟩ => .mapping (given_of_some h) hparameters hset,
        fun ⟨_, hparameters, hset⟩ => ⟨hparameters, hset⟩⟩
  · next h => exact .error fun ⟨_, _, _⟩ => h _ rfl

theorem yields_readName (entries : Entries) (index : Nat) :
    Yields (readName entries index)
      (∃ name, Datum.lookup? "name" entries = some (.text name) ∧ name ≠ "")
      (TextUnder "name" entries "") := by
  unfold readName
  split
  · next name h =>
    split
    · next hempty =>
      refine .error fun ⟨name', h', hne⟩ => ?_
      simp_all
    · next hne => exact .ok ⟨name, h, by simpa using hne⟩ (.given h)
  · next hname => exact .error fun ⟨name, h, _⟩ => hname name h

structure NodeRead (d : Datum) (x : Node × NameSet) : Prop where
  node : NodeSaid d x.1
  targets : TextsUnder "depends_on" (entriesOf d) x.2

theorem under_kind_iff {entries : Entries} :
    Under "kind" entries (fun d => d.plain ∈ nodeKinds) ↔
      plainUnder entries "kind" "class" ∈ nodeKinds := by
  unfold plainUnder
  split
  · next h => exact under_of_some h
  · next h => exact iff_of_true (under_of_none h) (by decide)

theorem yields_readNode (entries : Entries) (index : Nat) :
    Yields (readNode entries index) (IsNode (.mapping entries)) (NodeRead (.mapping entries)) := by
  unfold readNode
  refine .congr (q := IsNode (.mapping entries)) (.bind (q := HasParts entries)
    (yields_readName entries index) fun name hname => ?_)
    ⟨fun h => .mapping h.1 h.2, fun ⟨h, hparts⟩ => ⟨h, hparts⟩⟩
  dsimp only
  split
  · next hkind =>
    refine .error fun hparts => ?_
    simp [under_kind_iff.1 hparts.kind] at hkind
  · next hkind =>
    have hkind : plainUnder entries "kind" "class" ∈ nodeKinds := by simpa using hkind
    split
    · next fields methods hfields hmethods =>
      refine .congr (.bind (yields_readSet _) fun modifiers hmodifiers =>
        .bind (.mapM fun d _ => yields_readField name d) fun fields' hfields' =>
        .bind (.mapM fun d _ => yields_readMethod name d) fun methods' hmethods' =>
        .bind (yields_readSet _) fun capabilities hcapabilities =>
        .bind (yields_readSet _) fun annotations hannotations =>
        .bind (yields_readSet _) fun accesses haccesses =>
        .bind (yields_readSet _) fun targets htargets => .ok trivial ⟨{
          name := hname
          package := textUnder_plainUnder _
          kind := textUnder_plainUnder _
          isKnownKind := hkind
          modifiers := hmodifiers
          fields := (itemsUnder_of_some hfields).symm ▸ hfields'
          methods := (itemsUnder_of_some hmethods).symm ▸ hmethods'
          capabilities := hcapabilities
          annotations := hannotations
          accesses := haccesses
          isExternal := rfl }, htargets⟩) ?_
      rw [← under_listOf_of_some hfields, ← under_listOf_of_some hmethods]
      constructor
      · rintro ⟨hmod, hfields, hmethods, himp, hann, hacc, hdep, -⟩
        exact ⟨under_kind_iff.2 hkind, hfields, hmethods, by simp [setKeys, *]⟩
      · rintro ⟨-, hfields, hmethods, hsets⟩
        simp only [setKeys, List.forall_mem_cons] at hsets
        obtain ⟨hmod, himp, hann, hacc, hdep, -⟩ := hsets
        exact ⟨hmod, hfields, hmethods, himp, hann, hacc, hdep, trivial⟩
    · next hlists =>
      refine .error fun hparts => ?_
      cases hfields : readList? entries "fields" with
      | none => exact not_under_listOf_of_none hfields hparts.fields
      | some fields =>
        cases hmethods : readList? entries "methods" with
        | none => exact not_under_listOf_of_none hmethods hparts.methods
        | some methods => exact hlists fields methods hfields hmethods

theorem NodesSaid.cons {d : Datum} {items : List Datum} {x : Node × NameSet} {s : Sheet}
    (hx : NodeRead d x) (hs : NodesSaid items s) :
    NodesSaid (d :: items) ⟨x.1 :: s.nodes, x.2.names.map (x.1.name, ·) ++ s.edges⟩ := by
  obtain ⟨targets, htargets, hedges⟩ := hs.edges
  refine ⟨.cons hx.node hs.nodes, x.2 :: targets, .cons hx.targets htargets, ?_⟩
  rw [hedges]
  rfl

theorem yields_readNodes (index : Nat) (items : List Datum) :
    Yields (readNodes index items) (∀ d ∈ items, IsNode d) (NodesSaid items) := by
  induction items generalizing index with
  | nil => exact .ok (by simp) ⟨.nil, [], .nil, rfl⟩
  | cons d rest ih =>
    rw [List.forall_mem_cons]
    cases d with
    | mapping entries =>
      rw [readNodes]
      refine .congr (.bind (yields_readNode entries index) fun x hx =>
        .bind (ih (index + 1)) fun others hothers => .ok trivial (hothers.cons hx)) ?_
      rw [and_true]
    | scalar _ => exact .error fun h => nomatch h.1
    | list _ => exact .error fun h => nomatch h.1
    | set _ => exact .error fun h => nomatch h.1

theorem yields_readEdges (index : Nat) (items : List Datum) :
    Yields (readEdges index items) (∀ d ∈ items, IsEdge d) (List.Forall₂ EdgeSaid items) := by
  induction items generalizing index with
  | nil => exact .ok (by simp) .nil
  | cons d rest ih =>
    rw [List.forall_mem_cons]
    cases d with
    | mapping entries =>
      rw [readEdges]
      split
      · next source target hsource htarget =>
        refine .congr (.bind (ih (index + 1)) fun others hothers => .ok trivial
          (.cons ⟨textUnder_of_some hsource "", textUnder_of_some htarget ""⟩ hothers)) ?_
        rw [and_true, and_iff_right (.mapping (given_of_some hsource) (given_of_some htarget))]
      · next hends =>
        refine .error fun ⟨⟨⟨source, hsource⟩, ⟨target, htarget⟩⟩, _⟩ => ?_
        exact hends _ _ (truthy?_eq_some_iff.2 hsource) (truthy?_eq_some_iff.2 htarget)
    | scalar _ => exact .error fun h => nomatch h.1
    | list _ => exact .error fun h => nomatch h.1
    | set _ => exact .error fun h => nomatch h.1

theorem inSchema_mapping_iff {entries : Entries} : InSchema (.mapping entries) ↔
    Under "nodes" entries (IsListOf IsNode) ∧ Under "edges" entries (IsListOf IsEdge) := by
  refine ⟨fun h => ?_, fun h => .mapping h.1 h.2⟩
  cases h with
  | mapping hnodes hedges => exact ⟨hnodes, hedges⟩

theorem yields_read (d : Datum) : Yields (read d) (InSchema d) (Said d) := by
  unfold read
  split
  · exact .ok .null ⟨.nil, [], [], .nil, .nil, rfl⟩
  · next entries =>
    refine .congr ?_ inSchema_mapping_iff.symm
    cases hnodes : readList? entries "nodes" with
    | none => exact .error fun h => not_under_listOf_of_none hnodes h.1
    | some nodes =>
      cases hedges : readList? entries "edges" with
      | none => exact .error fun h => not_under_listOf_of_none hedges h.2
      | some edges =>
        have hsaid : ∀ s others, NodesSaid nodes s → List.Forall₂ EdgeSaid edges others →
            Said (.mapping entries) { s with edges := s.edges ++ others } := by
          rw [← itemsUnder_of_some hnodes, ← itemsUnder_of_some hedges]
          rintro s others ⟨hnodes, targets, htargets, hinline⟩ hothers
          exact ⟨hnodes, targets, others, htargets, hothers, hinline ▸ rfl⟩
        change Yields (do
          let s ← readNodes 0 nodes
          return { s with edges := s.edges ++ (← readEdges 0 edges) }) _ _
        refine .congr (.bind (yields_readNodes 0 nodes) fun s hs =>
          .bind (yields_readEdges 0 edges) fun others hothers => .ok trivial
            (hsaid s others hs hothers)) ?_
        rw [and_true, under_listOf_of_some hnodes, under_listOf_of_some hedges]
  · next hnull hmapping =>
    refine .error fun h => ?_
    cases h with
    | null => exact hnull rfl
    | mapping => exact hmapping _ rfl

/-- A document is read exactly if it is of the schema, and anything else is refused as a bad value.
What is read is what the document says: each node once and in order, methods with known parameter
types with as many parameters, and the dependencies of each node before those listed apart. -/
theorem read_iff_inSchema (d : Datum) :
    ((∃ s, read d = .ok s ∧ Said d s ∧ ∀ n ∈ s.nodes, n.isExternal = false ∧ n.kind ∈ nodeKinds ∧
        ∀ m ∈ n.methods, m.types ≠ [] → m.count = .number m.types.length) ↔ InSchema d) ∧
      ((∃ fault, read d = .error fault ∧ (Failure.facts fault).kind = .value) ↔ ¬ InSchema d) := by
  have hread := yields_read d
  have hmembers : ∀ s, Said d s → ∀ n ∈ s.nodes, n.isExternal = false ∧ n.kind ∈ nodeKinds ∧
      ∀ m ∈ n.methods, m.types ≠ [] → m.count = .number m.types.length := by
    refine fun s hs => forall_mem_of_forall₂ (fun _ n hn => ?_) hs.nodes
    refine ⟨hn.isExternal, hn.isKnownKind, ?_⟩
    exact forall_mem_of_forall₂ (fun _ m hm => hm.parameters.count_eq) hn.methods
  rw [← hread.ok_iff]
  constructor
  · refine exists_congr fun s => and_iff_left_of_imp fun hs => ?_
    exact ⟨hread.result s hs, hmembers s (hread.result s hs)⟩
  · cases read d with
    | error fault => simp [Failure.kind]
    | ok s => simp

end Sheet

end Conformance.Facts
