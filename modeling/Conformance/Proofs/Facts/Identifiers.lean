import Conformance.Proofs.Facts.Canonical
import Conformance.Proofs.Facts.Numbering

/-! What identifiers tell of dependencies and methods. They are put together from names, and the
names can be read off again only where no name holds what stands between them. The methods of one
type are always told apart. -/
namespace Conformance

namespace Text

theorem splitLast?_append {sep : Char} {before after : List Char} (h : sep ∉ after) :
    splitLast? sep (before ++ sep :: after) = some (before, after) := by
  induction before with
  | nil => simp [splitLast?, splitLast?_eq_none_iff.2 h]
  | cons c before ih => simp [splitLast?, ih]

end Text

namespace Facts

/-! Dependencies. -/

def ArrowFree (name : String) : Prop := ¬ ['-', '>'] <:+: name.toList

theorem eq_nil_of_arrow_eq {name : String} {front c x y : List Char} (hfree : ArrowFree name)
    (hname : name.toList = front ++ c) (h : " -> ".toList ++ x = c ++ (" -> ".toList ++ y)) :
    c = [] := by
  have harrow : " -> ".toList = [' ', '-', '>', ' '] := rfl
  rw [harrow] at h
  match c with
  | [] => rfl
  | [_] => simp at h
  | [_, _] => simp at h
  | c₁ :: c₂ :: c₃ :: rest =>
    simp only [List.cons_append, List.cons.injEq] at h
    obtain ⟨-, rfl, rfl, -⟩ := h
    exact absurd ⟨front ++ [c₁], rest, by simp [hname]⟩ hfree

theorem Edge.identifierOf_inj {source target source' target' : String} (hsource : ArrowFree source)
    (hsource' : ArrowFree source') (h : identifierOf source target = identifierOf source' target') :
    (source, target) = (source', target') := by
  have htext : ∀ s t : String, (identifierOf s t).toList
      = s.toList ++ (" -> ".toList ++ t.toList) := by
    intro s t
    change (s ++ " -> " ++ t).toList = _
    rw [String.toList_append, String.toList_append, List.append_assoc]
  have heq := congrArg String.toList h
  rw [htext, htext] at heq
  have hnames : source = source' := by
    rw [← String.toList_inj]
    rcases List.append_eq_append_iff.1 heq with ⟨c, hc, harrow⟩ | ⟨c, hc, harrow⟩
    · rw [hc, eq_nil_of_arrow_eq hsource' hc harrow, List.append_nil]
    · rw [hc, eq_nil_of_arrow_eq hsource hc harrow, List.append_nil]
  rw [hnames, List.append_cancel_left_eq, List.append_cancel_left_eq, String.toList_inj] at heq
  rw [hnames, heq]

theorem Edge.nodup_identifierOf {pairs : List (String × String)}
    (hincreasing : pairs.Pairwise (Text.pairLt · · = true)) (hfree : ∀ p ∈ pairs, ArrowFree p.1) :
    (pairs.map fun p => identifierOf p.1 p.2).Nodup := by
  refine List.pairwise_map.2 (hincreasing.imp_of_mem fun {p q} hp hq hpq heq => ?_)
  obtain rfl : p = q := identifierOf_inj (hfree p hp) (hfree q hq) heq
  exact Text.pairLt_irrefl p hpq

/-! Methods. -/

theorem toList_signature (m : Method) :
    ∃ inner, m.signature.toList = m.name.toList ++ '(' :: inner ++ [')'] := by
  rw [Method.signature]
  split
  · refine ⟨m.count.plain.toList, ?_⟩
    change (m.name ++ "(" ++ m.count.plain ++ ")").toList = _
    simp
  · refine ⟨(", ".intercalate m.types).toList, ?_⟩
    change ((m.name ++ "(") ++ ", ".intercalate m.types ++ ")").toList = _
    simp

namespace MethodRef

def heading (r : MethodRef) : List Char :=
  r.owner.name.toList ++ '.' :: r.method.signature.toList

def mark (r : MethodRef) : List Char :=
  if r.ordinal = 0 then [] else '#' :: Nat.toDigits 10 r.ordinal

theorem toList_identifier (r : MethodRef) : r.identifier.toList = r.heading ++ r.mark := by
  have hheading : (s!"{r.owner.name}." ++ r.method.signature).toList = r.heading := by
    change ((r.owner.name ++ ".") ++ r.method.signature).toList = _
    simp [heading]
  rw [identifier, mark]
  split
  · rw [hheading, List.append_nil]
  · change ((s!"{r.owner.name}." ++ r.method.signature) ++ "#" ++ r.ordinal.repr).toList = _
    rw [String.toList_append, String.toList_append, hheading, Nat.toList_repr, List.append_assoc]
    rfl

theorem close_notMem_mark (r : MethodRef) : ')' ∉ r.mark := by
  rw [mark]
  split
  · exact List.not_mem_nil
  · intro hmem
    rcases List.mem_cons.1 hmem with h | h
    · contradiction
    · exact absurd (Nat.isDigit_of_mem_toDigits (by decide) (by decide) h) (by decide)

theorem ordinal_eq_of_mark_eq {a b : MethodRef} (h : a.mark = b.mark) : a.ordinal = b.ordinal := by
  unfold mark at h
  by_cases ha : a.ordinal = 0 <;> by_cases hb : b.ordinal = 0
  · rw [ha, hb]
  · simp [ha, hb] at h
  · simp [ha, hb] at h
  · rw [if_neg ha, if_neg hb] at h
    have hread := congrArg (Nat.ofDigitChars 10 · 0) (List.tail_eq_of_cons_eq h)
    simpa only [Nat.ofDigitChars_ten_toDigits] using hread

theorem eq_of_identifier_eq {a b : MethodRef} (h : a.identifier = b.identifier) :
    a.heading = b.heading ∧ a.ordinal = b.ordinal := by
  have hsplit : ∀ r : MethodRef, ∃ front, r.heading = front ++ [')'] ∧
      Text.splitLast? ')' r.identifier.toList = some (front, r.mark) := by
    intro r
    obtain ⟨inner, hinner⟩ := toList_signature r.method
    refine ⟨r.owner.name.toList ++ '.' :: (r.method.name.toList ++ '(' :: inner), ?_, ?_⟩
    · simp [heading, hinner]
    · rw [toList_identifier, ← Text.splitLast?_append (close_notMem_mark r)]
      simp [heading, hinner]
  obtain ⟨front, hfront, hlast⟩ := hsplit a
  obtain ⟨front', hfront', hlast'⟩ := hsplit b
  rw [h, hlast', Option.some.injEq, Prod.mk.injEq] at hlast
  exact ⟨by rw [hfront, hfront', hlast.1], (ordinal_eq_of_mark_eq hlast.2).symm⟩

/-- Neither name holds what would end it early or late. -/
structure IsPlain (r : MethodRef) : Prop where
  owner : '(' ∉ r.owner.name.toList
  method : '.' ∉ r.method.name.toList

instance (r : MethodRef) : Decidable r.IsPlain :=
  decidable_of_iff (_ ∧ _) ⟨fun h => ⟨h.1, h.2⟩, fun h => ⟨h.owner, h.method⟩⟩

theorem IsPlain.owner_eq {a b : MethodRef} (ha : a.IsPlain) (hb : b.IsPlain)
    (h : a.heading = b.heading) : a.owner.name = b.owner.name := by
  have hsplit : ∀ r : MethodRef, r.IsPlain → ∃ rest,
      Text.splitLast? '.' (r.heading.takeWhile (· != '(')) = some (r.owner.name.toList, rest) := by
    intro r hr
    obtain ⟨inner, hinner⟩ := toList_signature r.method
    have howner : ∀ c ∈ r.owner.name.toList, (c != '(') = true := by
      intro c hc
      rw [bne_iff_ne]
      rintro rfl
      exact hr.owner hc
    refine ⟨(r.method.name.toList ++ '(' :: inner ++ [')']).takeWhile (· != '('), ?_⟩
    rw [heading, List.takeWhile_append_of_pos howner, List.takeWhile_cons_of_pos (by decide),
      hinner]
    apply Text.splitLast?_append
    intro hdot
    rw [List.append_assoc, List.takeWhile_append] at hdot
    split at hdot
    · simp only [List.cons_append, bne_self_eq_false, Bool.false_eq_true, not_false_eq_true,
        List.takeWhile_cons_of_neg, List.append_nil] at hdot
      exact hr.method hdot
    · exact hr.method ((List.takeWhile_sublist _).mem hdot)
  obtain ⟨rest, hrest⟩ := hsplit a ha
  obtain ⟨rest', hrest'⟩ := hsplit b hb
  rw [h, hrest', Option.some.injEq, Prod.mk.injEq] at hrest
  exact (String.toList_inj.1 hrest.1).symm

end MethodRef

namespace Graph

/-- The methods of one type have different identifiers, whatever their names are. -/
theorem pairwise_identifier_methodRefs (n : Node) :
    (methodRefs n [] n.methods).Pairwise fun a b => a.identifier ≠ b.identifier := by
  refine (pairwise_ordinal_methodRefs (by simp)).imp_of_mem fun {a b} ha hb hordinal hab => ?_
  obtain ⟨hheading, heq⟩ := MethodRef.eq_of_identifier_eq hab
  have hsignature : a.method.signature = b.method.signature := by
    rw [MethodRef.heading, MethodRef.heading, (of_mem_methodRefs ha).1, (of_mem_methodRefs hb).1,
      List.append_cancel_left_eq, List.cons.injEq] at hheading
    exact String.toList_inj.1 hheading.2
  exact absurd heq (Nat.ne_of_lt (hordinal hsignature))

theorem nodup_identifier_methods {g : Graph} (hnodup : (g.nodes.map (·.name)).Nodup)
    (hplain : ∀ r ∈ g.methods, r.IsPlain) : (g.methods.map MethodRef.identifier).Nodup := by
  refine List.pairwise_map.2 (List.pairwise_flatMap.2 ⟨fun n _ => ?_, ?_⟩)
  · exact pairwise_identifier_methodRefs n
  · refine (List.pairwise_map.1 hnodup).imp_of_mem fun {m n} hm hn hname a ha b hb hab => ?_
    have hheading := (MethodRef.eq_of_identifier_eq hab).1
    have howner := (hplain a (List.mem_flatMap.2 ⟨m, hm, ha⟩)).owner_eq
      (hplain b (List.mem_flatMap.2 ⟨n, hn, hb⟩)) hheading
    rw [(of_mem_methodRefs ha).1, (of_mem_methodRefs hb).1] at howner
    exact hname howner

theorem nodup_identifier_edges {nodes : List Node} {pairs : List (String × String)}
    (hfree : ∀ e ∈ (build nodes pairs).edges, ArrowFree e.source.name) :
    ((build nodes pairs).edges.map Edge.identifier).Nodup := by
  have hidentifiers : (build nodes pairs).edges.map Edge.identifier
      = ((build nodes pairs).edges.map Edge.names).map fun p => Edge.identifierOf p.1 p.2 := by
    rw [List.map_map]
    rfl
  have hincreasing : ((build nodes pairs).edges.map Edge.names).Pairwise
      (Text.pairLt · · = true) := by
    rw [map_names_edges_build]
    exact Text.pairwise_sortPairs _
  rw [hidentifiers]
  apply Edge.nodup_identifierOf hincreasing
  intro p hp
  obtain ⟨e, he, rfl⟩ := List.mem_map.1 hp
  exact hfree e he

end Graph

end Facts

end Conformance
