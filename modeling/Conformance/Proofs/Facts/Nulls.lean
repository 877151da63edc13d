import Conformance.Proofs.Datum.Entries
import Conformance.Proofs.Facts.Schema

/-! Null in a facts document. A list that is null is an empty one, as if its key were not there; but
null as a package, a kind or a type is the text of null, and as parameters it is refused. -/
namespace Conformance.Facts

namespace Sheet

/-! Entries left out. -/

def documentKeys : List String := ["nodes", "edges"]

def nodeKeys : List String := ["package", "kind", "fields", "methods"] ++ setKeys

def fieldKeys : List String := ["type", "modifiers"]

def methodKeys : List String := ["parameters", "annotations"]

inductive Itemwise (r : Datum → Datum → Prop) : Datum → Datum → Prop
  | list {items others : List Datum} (h : List.Forall₂ r items others) :
      Itemwise r (.list items) (.list others)
  | same (d : Datum) : Itemwise r d d

section
variable (keys : List String)

inductive MappingTrimmed (optional : List String) (r : Scalar → Datum → Datum → Prop) :
    Datum → Datum → Prop
  | mapping {entries others : Entries}
      (h : Trimmed (fun key => key ∈ optional ∧ key ∈ keys) r entries others) :
      MappingTrimmed optional r (.mapping entries) (.mapping others)
  | same (d : Datum) : MappingTrimmed optional r d d

def FieldTrimmed : Datum → Datum → Prop := MappingTrimmed keys fieldKeys fun _ => Eq

def MethodTrimmed : Datum → Datum → Prop := MappingTrimmed keys methodKeys fun _ => Eq

def NodeEntryTrimmed : Scalar → Datum → Datum → Prop
  | .text "fields" => Itemwise (FieldTrimmed keys)
  | .text "methods" => Itemwise (MethodTrimmed keys)
  | _ => Eq

def NodeTrimmed : Datum → Datum → Prop := MappingTrimmed keys nodeKeys (NodeEntryTrimmed keys)

def DocumentEntryTrimmed : Scalar → Datum → Datum → Prop
  | .text "nodes" => Itemwise (NodeTrimmed keys)
  | _ => Eq

/-- A document without some of its nulls, at every level, under those of the keys that are optional
there. -/
def NullsLeftOut : Datum → Datum → Prop :=
  MappingTrimmed keys documentKeys (DocumentEntryTrimmed keys)

end

/-! What is under a key. -/

/-- The text of null has become the default. -/
def Reread (left : Prop) (default old new : String) : Prop :=
  new = old ∨ left ∧ old = "None" ∧ new = default

section
variable {optional : String → Prop} {r : Scalar → Datum → Datum → Prop} {entries others : Entries}
  (h : Trimmed optional r entries others) (key : String)
include h

theorem readList?_rel {q : Datum → Datum → Prop} (hq : ∀ d, q d d)
    (hr : ∀ d d', r (.text key) d d' → Itemwise q d d') :
    Option.Rel (List.Forall₂ q) (readList? entries key) (readList? others key) := by
  unfold readList?
  rcases h.lookup? key with hrel | ⟨-, hnull, hnone⟩
  · generalize Datum.lookup? key entries = found at hrel
    generalize Datum.lookup? key others = found' at hrel
    cases hrel with
    | none => exact .some .nil
    | some hd =>
      cases hr _ _ hd with
      | list hitems => exact .some hitems
      | same d =>
        split
        · exact .some .nil
        · exact .some (List.forall₂_same.2 fun _ _ => hq _)
        · split
          · exact .none
          · exact .some .nil
  · rw [hnull, hnone]
    exact .some .nil

variable (hr : ∀ d d', r (.text key) d d' → d' = d)
include hr

theorem readSet_eq (context : String) :
    readSet others key context = readSet entries key context := by
  unfold readSet
  rcases h.lookup?_eq_or hr with heq | ⟨-, hnull, hnone⟩
  · rw [heq]
  · rw [hnull, hnone]

theorem readList?_eq : readList? others key = readList? entries key := by
  unfold readList?
  rcases h.lookup?_eq_or hr with heq | ⟨-, hnull, hnone⟩
  · rw [heq]
  · rw [hnull, hnone]
    rfl

theorem plainUnder_reread (default : String) :
    Reread (optional key) default (plainUnder entries key default)
      (plainUnder others key default) := by
  unfold plainUnder
  rcases h.lookup?_eq_or hr with heq | ⟨hkey, hnull, hnone⟩
  · rw [heq]
    exact .inl rfl
  · rw [hnull, hnone]
    exact .inr ⟨hkey, rfl, rfl⟩

theorem truthy?_eq : truthy? others key = truthy? entries key := by
  unfold truthy?
  rcases h.lookup?_eq_or hr with heq | ⟨-, hnull, hnone⟩
  · rw [heq]
  · rw [hnull, hnone]
    rfl

end

/-! Reading. -/

section
variable {keys : List String}

inductive FieldReread (keys : List String) : Field → Field → Prop
  | mk (f : Field) {type : String} (h : Reread ("type" ∈ keys) "" f.type type) :
      FieldReread keys f { f with type }

inductive NodeReread (keys : List String) : Node → Node → Prop
  | mk (n : Node) {package : String} {fields : List Field}
      (hpackage : Reread ("package" ∈ keys) (packageOf n.name) n.package package)
      (hfields : List.Forall₂ (FieldReread keys) n.fields fields) :
      NodeReread keys n { n with package, fields }

structure SheetReread (keys : List String) (s s' : Sheet) : Prop where
  nodes : List.Forall₂ (NodeReread keys) s.nodes s'.nodes
  edges : s'.edges = s.edges

/-- The keys that can make a document acceptable where they are left out. -/
def Mends (keys : List String) : Prop := "kind" ∈ keys ∨ "parameters" ∈ keys

theorem FieldReread.refl (f : Field) : FieldReread keys f f := .mk f (.inl rfl)

theorem NodeReread.refl (n : Node) : NodeReread keys n n :=
  .mk n (.inl rfl) (List.forall₂_same.2 fun _ _ => .refl _)

theorem NodeReread.name_eq {n n' : Node} (h : NodeReread keys n n') : n'.name = n.name := by
  cases h
  rfl

theorem SheetReread.refl (s : Sheet) : SheetReread keys s s :=
  ⟨List.forall₂_same.2 fun _ _ => .refl _, rfl⟩

theorem readField_follows (node : String) {d d' : Datum} (h : FieldTrimmed keys d d') :
    Follows (Mends keys) (FieldReread keys) (readField node d) (readField node d') := by
  cases h with
  | same => exact .refl .refl _
  | mapping h =>
    unfold readField
    dsimp only
    rw [truthy?_eq h _ fun _ _ => Eq.symm]
    split
    · exact .error _
    · rw [readSet_eq h _ fun _ _ => Eq.symm]
      refine .bind_same _ fun modifiers => ?_
      have htype := plainUnder_reread h "type" (fun _ _ => Eq.symm) ""
      exact .ok (.mk _ (htype.imp_right fun hleft => ⟨hleft.1.2, hleft.2⟩))

theorem readParameters_follows (node : String) {entries others : Entries}
    (h : Trimmed (fun key => key ∈ methodKeys ∧ key ∈ keys) (fun _ => Eq) entries others) :
    Follows (Mends keys) Eq (readParameters node (Datum.lookup? "parameters" entries))
      (readParameters node (Datum.lookup? "parameters" others)) := by
  rcases h.lookup?_eq_or fun _ _ => Eq.symm with heq | ⟨hkey, hnull, -⟩
  · rw [heq]
    exact .refl (fun _ => rfl) _
  · rw [hnull]
    exact .mend (.inr hkey.2) _ _

theorem readMethod_follows (node : String) {d d' : Datum} (h : MethodTrimmed keys d d') :
    Follows (Mends keys) Eq (readMethod node d) (readMethod node d') := by
  cases h with
  | same => exact .refl (fun _ => rfl) _
  | mapping h =>
    unfold readMethod
    dsimp only
    rw [truthy?_eq h _ fun _ _ => Eq.symm]
    split
    · exact .error _
    · rw [readSet_eq h _ fun _ _ => Eq.symm]
      refine .bind (readParameters_follows node h) ?_
      rintro ⟨count, types⟩ _ rfl
      exact .refl (fun _ => rfl) _

theorem readName_eq {r : Scalar → Datum → Datum → Prop} {entries others : Entries}
    (h : Trimmed (fun key => key ∈ nodeKeys ∧ key ∈ keys) r entries others)
    (hr : ∀ d d', r (.text "name") d d' → d' = d) (index : Nat) :
    readName others index = readName entries index := by
  unfold readName
  rw [h.lookup?_eq hr fun hkey => absurd hkey.1 (by decide)]

def TargetedReread (keys : List String) (x x' : Node × NameSet) : Prop :=
  NodeReread keys x.1 x'.1 ∧ x'.2 = x.2

theorem readSets_eq {entries others : Entries}
    (h : Trimmed (fun key => key ∈ nodeKeys ∧ key ∈ keys) (NodeEntryTrimmed keys) entries others) :
    ∀ key ∈ setKeys, ∀ context, readSet others key context = readSet entries key context := by
  intro key hkey
  simp only [setKeys, List.mem_cons, List.not_mem_nil, or_false] at hkey
  rcases hkey with rfl | rfl | rfl | rfl | rfl
  all_goals exact readSet_eq h _ fun _ _ => Eq.symm

theorem readNode_follows {entries others : Entries}
    (h : Trimmed (fun key => key ∈ nodeKeys ∧ key ∈ keys) (NodeEntryTrimmed keys) entries others)
    (index : Nat) :
    Follows (Mends keys) (TargetedReread keys) (readNode entries index)
      (readNode others index) := by
  unfold readNode
  rw [readName_eq h fun _ _ => Eq.symm]
  refine .bind_same _ fun name => ?_
  dsimp only
  rcases plainUnder_reread h "kind" (fun _ _ => Eq.symm) "class" with
    hkind | ⟨hkey, hnone, -⟩
  · rw [hkind]
    split
    · exact .error _
    · have hfields := readList?_rel h "fields" (q := FieldTrimmed keys) .same fun _ _ => id
      have hmethods := readList?_rel h "methods" (q := MethodTrimmed keys) .same fun _ _ => id
      have hpackage := plainUnder_reread h "package" (fun _ _ => Eq.symm) (packageOf name)
      have hsets := readSets_eq h
      simp only [setKeys, List.forall_mem_cons] at hsets
      obtain ⟨hmod, himp, hann, hacc, hdep, -⟩ := hsets
      generalize readList? entries "fields" = fields at hfields
      generalize readList? others "fields" = fields' at hfields
      generalize readList? entries "methods" = methods at hmethods
      generalize readList? others "methods" = methods' at hmethods
      cases hfields with
      | none => exact .error _
      | some hfields =>
        cases hmethods with
        | none => exact .error _
        | some hmethods =>
          simp only [hmod, himp, hann, hacc, hdep]
          refine .bind_same _ fun modifiers => ?_
          refine .bind (.mapM hfields fun _ _ => readField_follows name) fun _ _ hreread => ?_
          refine .bind (.mapM hmethods fun _ _ => readMethod_follows name) fun methods _ hsame => ?_
          obtain rfl := List.forall₂_eq_eq_eq ▸ hsame
          refine .bind_same _ fun capabilities => ?_
          refine .bind_same _ fun annotations => ?_
          refine .bind_same _ fun accesses => ?_
          refine .bind_same _ fun targets => ?_
          exact .ok ⟨.mk _ (hpackage.imp_right fun hleft => ⟨hleft.1.2, hleft.2⟩) hreread, rfl⟩
  · rw [hnone]
    exact .mend (.inl hkey.2) _ _

theorem readNodes_cons_follows {entries others : Entries} {rest rest' : List Datum} {index : Nat}
    (h : Trimmed (fun key => key ∈ nodeKeys ∧ key ∈ keys) (NodeEntryTrimmed keys) entries others)
    (hrest : Follows (Mends keys) (SheetReread keys) (readNodes (index + 1) rest)
      (readNodes (index + 1) rest')) :
    Follows (Mends keys) (SheetReread keys) (readNodes index (.mapping entries :: rest))
      (readNodes index (.mapping others :: rest')) := by
  unfold readNodes
  refine .bind (readNode_follows h index) ?_
  rintro ⟨node, targets⟩ ⟨_, _⟩ ⟨hnode, rfl⟩
  refine .bind hrest fun s s' hs => ?_
  have hname := hnode.name_eq
  refine .ok ⟨.cons hnode hs.nodes, ?_⟩
  dsimp only at hname ⊢
  rw [hname, hs.edges]

theorem NodeEntryTrimmed.refl (key : Scalar) (d : Datum) : NodeEntryTrimmed keys key d d := by
  unfold NodeEntryTrimmed
  split
  · exact .same d
  · exact .same d
  · rfl

theorem readNodes_follows {items others : List Datum}
    (h : List.Forall₂ (NodeTrimmed keys) items others) (index : Nat) :
    Follows (Mends keys) (SheetReread keys) (readNodes index items) (readNodes index others) := by
  induction h generalizing index with
  | nil => exact .refl .refl _
  | @cons d _ _ _ hd _ ih =>
    cases hd with
    | mapping h => exact readNodes_cons_follows h (ih _)
    | same =>
      cases d with
      | mapping entries => exact readNodes_cons_follows (.refl .refl entries) (ih _)
      | scalar _ => exact .error _
      | list _ => exact .error _
      | set _ => exact .error _

theorem read_follows {d d' : Datum} (h : NullsLeftOut keys d d') :
    Follows (Mends keys) (SheetReread keys) (read d) (read d') := by
  cases h with
  | same => exact .refl .refl _
  | mapping h =>
    have hnodes := readList?_rel h "nodes" (q := NodeTrimmed keys) .same fun _ _ => id
    have hedges := readList?_eq h "edges" fun _ _ => Eq.symm
    unfold read
    dsimp only
    rw [hedges]
    generalize readList? _ "nodes" = nodes at hnodes
    generalize readList? _ "nodes" = nodes' at hnodes
    cases hnodes with
    | none => exact .error _
    | some hitems =>
      refine .bind (.ok hitems) fun nodes nodes' hitems => ?_
      refine .bind_same _ fun edges => ?_
      refine .bind (readNodes_follows hitems 0) fun s s' hs => ?_
      refine .bind_same _ fun others => ?_
      exact .ok ⟨hs.nodes, by rw [hs.edges]⟩

theorem Reread.eq {left : Prop} {default old new : String} (h : Reread left default old new)
    (hleft : ¬ left) : new = old :=
  h.resolve_right fun hread => hleft hread.1

theorem FieldReread.eq {f f' : Field} (h : FieldReread keys f f') (htype : "type" ∉ keys) :
    f' = f := by
  cases h with
  | mk hread => rw [hread.eq htype]

theorem NodeReread.eq {n n' : Node} (h : NodeReread keys n n') (hpackage : "package" ∉ keys)
    (htype : "type" ∉ keys) : n' = n := by
  cases h with
  | @mk _ fields hread hfields =>
    have hsame : n.fields = fields :=
      List.forall₂_eq_eq_eq ▸ hfields.imp fun _ _ hf => (hf.eq htype).symm
    rw [hread.eq hpackage, ← hsame]

theorem SheetReread.eq {s s' : Sheet} (h : SheetReread keys s s') (hpackage : "package" ∉ keys)
    (htype : "type" ∉ keys) : s' = s := by
  have hnodes : s.nodes = s'.nodes :=
    List.forall₂_eq_eq_eq ▸ h.nodes.imp fun _ _ hn => (hn.eq hpackage htype).symm
  cases s
  cases s'
  rw [Sheet.mk.injEq]
  exact ⟨hnodes.symm, h.edges⟩

/-- Under these keys null is not the same as nothing. -/
def tellingKeys : List String := ["package", "kind", "type", "parameters"]

theorem eq_of_follows {x y : Except Fault Sheet} (h : Follows (Mends keys) (SheetReread keys) x y)
    (hkeys : ∀ key ∈ tellingKeys, key ∉ keys) : y = x := by
  simp only [tellingKeys, List.forall_mem_cons] at hkeys
  obtain ⟨hpackage, hkind, htype, hparameters, -⟩ := hkeys
  cases x with
  | error fault => exact h.error_eq (by simp [Mends, hkind, hparameters]) fault rfl
  | ok s =>
    obtain ⟨s', rfl, hs⟩ := h.covers s rfl
    rw [hs.eq hpackage htype]

def ofNode (entries : Entries) : Datum :=
  .mapping [(.text "nodes", .list [.mapping ((.text "name", .text "a.B") :: entries)])]

def ofMember (entries : Entries) : Datum := .list [.mapping ((.text "name", .text "x") :: entries)]

theorem nullsLeftOut_ofNode {entries others : Entries}
    (h : Trimmed (fun key => key ∈ nodeKeys ∧ key ∈ keys) (NodeEntryTrimmed keys) entries others) :
    NullsLeftOut keys (ofNode entries) (ofNode others) :=
  .mapping (.keep (.list (.cons (.mapping (.keep rfl h)) .nil)) .nil)

theorem exists_told_apart {key : String} (hkey : key ∈ tellingKeys) (hmem : key ∈ keys) :
    ∃ d d', NullsLeftOut keys d d' ∧ (read d').toOption ≠ (read d).toOption := by
  simp only [tellingKeys, List.mem_cons, List.not_mem_nil, or_false] at hkey
  rcases hkey with rfl | rfl | rfl | rfl
  · exact ⟨ofNode [(.text "package", .null)], ofNode [],
      nullsLeftOut_ofNode (.leave ⟨by decide, hmem⟩ rfl .nil), by decide +kernel⟩
  · exact ⟨ofNode [(.text "kind", .null)], ofNode [],
      nullsLeftOut_ofNode (.leave ⟨by decide, hmem⟩ rfl .nil), by decide +kernel⟩
  · exact ⟨ofNode [(.text "fields", ofMember [(.text "type", .null)])],
      ofNode [(.text "fields", ofMember [])],
      nullsLeftOut_ofNode (.keep (.list (.cons (.mapping
        (.keep rfl (.leave ⟨by decide, hmem⟩ rfl .nil))) .nil)) .nil), by decide +kernel⟩
  · exact ⟨ofNode [(.text "methods", ofMember [(.text "parameters", .null)])],
      ofNode [(.text "methods", ofMember [])],
      nullsLeftOut_ofNode (.keep (.list (.cons (.mapping
        (.keep rfl (.leave ⟨by decide, hmem⟩ rfl .nil))) .nil)) .nil), by decide +kernel⟩

/-- Nulls may be left out without a trace exactly if none of them stands for a package, a kind, a
type or parameters. In any case what is read stays so, in the same order, but for packages and types
that were the text of null; and what is refused stays so with the same fault, but for null kinds and
parameters. -/
theorem leaving_out_nulls (keys : List String) :
    ((∀ d d', NullsLeftOut keys d d' → read d' = read d) ↔ ∀ key ∈ tellingKeys, key ∉ keys) ∧
      ∀ d d', NullsLeftOut keys d d' →
        Follows (Mends keys) (SheetReread keys) (read d) (read d') := by
  refine ⟨⟨fun h key hkey hmem => ?_, fun hkeys d d' h => ?_⟩, fun _ _ => read_follows⟩
  · obtain ⟨d, d', hleft, hne⟩ := exists_told_apart hkey hmem
    exact hne (congrArg Except.toOption (h d d' hleft))
  · exact eq_of_follows (read_follows h) hkeys

end

def optionalKeys : List String := documentKeys ++ nodeKeys ++ fieldKeys ++ methodKeys

/-- Nulls at every level of a document; one of them stands for a type. -/
theorem leaving_out_nulls_everywhere :
    ∃ d d', NullsLeftOut optionalKeys d d' ∧ ∃ s s', read d = .ok s ∧ read d' = .ok s' ∧
      SheetReread optionalKeys s s' ∧ s' ≠ s := by
  have hleft : NullsLeftOut optionalKeys
      (ofNode [(.text "modifiers", .null),
        (.text "fields", ofMember [(.text "type", .null), (.text "modifiers", .null)]),
        (.text "methods", ofMember [(.text "annotations", .null)]), (.text "depends_on", .null)])
      (ofNode [(.text "fields", ofMember []), (.text "methods", ofMember [])]) := by
    have hfields : Trimmed (fun key => key ∈ fieldKeys ∧ key ∈ optionalKeys) (fun _ => Eq)
        [(.text "type", .null), (.text "modifiers", .null)] [] :=
      .leave (by decide) rfl (.leave (by decide) rfl .nil)
    have hmethods : Trimmed (fun key => key ∈ methodKeys ∧ key ∈ optionalKeys) (fun _ => Eq)
        [(.text "annotations", .null)] [] := .leave (by decide) rfl .nil
    exact nullsLeftOut_ofNode (.leave (by decide) rfl
      (.keep (.list (.cons (.mapping (.keep rfl hfields)) .nil))
        (.keep (.list (.cons (.mapping (.keep rfl hmethods)) .nil))
          (.leave (by decide) rfl .nil))))
  refine ⟨_, _, hleft, ?_⟩
  obtain ⟨s', hs', hreread⟩ := ((leaving_out_nulls optionalKeys).2 _ _ hleft).covers _ rfl
  refine ⟨_, s', rfl, hs', hreread, ?_⟩
  obtain rfl := Except.ok.inj hs'
  decide +kernel

/-- A null package is a package of its own, a missing one the package that the name tells. -/
theorem null_is_no_missing_package : ¬ ∀ d d', NullsLeftOut optionalKeys d d' →
    (read d').toOption = (read d).toOption := by
  intro h
  have hleft : NullsLeftOut optionalKeys (ofNode [(.text "package", .null)]) (ofNode []) :=
    nullsLeftOut_ofNode (.leave (by decide) rfl .nil)
  exact absurd (h _ _ hleft) (by decide +kernel)

end Sheet

end Conformance.Facts
