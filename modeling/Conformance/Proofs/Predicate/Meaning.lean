import Conformance.Proofs.Predicate.Grammar
import Conformance.Proofs.Rule.Selection

/-! What predicates mean. Each way to combine them passes from the meanings of the parts to that of
the whole, and an entry that asks for one property is read as what the grammar says of it. -/
namespace Conformance

open Facts

theorem occursIn_iff {part s : List Char} : occursIn part s = true ↔ part <:+: s := by
  induction s with
  | nil => simp [occursIn, List.isEmpty_iff]
  | cons c rest ih =>
    rw [occursIn, Bool.or_eq_true, ih, List.isPrefixOf_iff_prefix, List.infix_cons_iff]

theorem sameName_iff {wanted actual : String} : sameName wanted actual = true ↔
    SameName wanted actual := by
  simp [sameName, SameName]

theorem isUnder_iff {start package : String} : isUnder start package = true ↔
    package = start ∨ start.toList ++ ['.'] <+: package.toList := by
  simp [isUnder, List.isPrefixOf_iff_prefix]

theorem any_sameName_iff {wanted : String} {names : NameSet} :
    names.names.any (sameName wanted) = true ↔ ∃ a ∈ names, SameName wanted a := by
  simp only [List.any_eq_true, sameName_iff]
  rfl

theorem textList_eq_ok_iff {d : Datum} {context : String} {texts : List String} :
    textList d context = .ok texts ↔ d.Lists texts := by
  constructor
  · intro h
    unfold textList at h
    split at h
    · obtain rfl := Except.ok.inj h
      exact .list _
    · obtain rfl := Except.ok.inj h
      exact .text _
    · contradiction
  · rintro (s | items) <;> rfl

theorem mem_loweredModifiers {modifiers : List String} {w : String} :
    w ∈ loweredModifiers modifiers ↔ ∃ m ∈ modifiers, Text.lower m = w := by
  rw [← List.mem_map]
  exact NameSet.mem_ofList

theorem hasModifier_iff {modifier : String} {n : Node} :
    (NodeProperty.hasModifier modifier).holds n = true ↔
      ∃ m ∈ n.modifiers, Text.lower m = Text.lower modifier := by
  rw [NodeProperty.holds, List.contains_iff_mem, List.mem_map]
  rfl

theorem all_loweredModifiers_iff {modifiers : NameSet} {wanted : List String} :
    (loweredModifiers wanted).all (modifiers.names.map Text.lower).contains = true ↔
      Carries modifiers wanted := by
  simp only [List.all_eq_true, mem_loweredModifiers, List.contains_iff_mem, List.mem_map,
    forall_exists_index, and_imp, forall_apply_eq_imp_iff₂]
  rfl

theorem declaresField_iff {name : String} {modifiers : List String} {type : Option String}
    {n : Node} : declaresField name modifiers type n = true ↔
      ∃ f, n.fields.find? (·.name == name) = some f ∧ Carries f.modifiers modifiers ∧
        ∀ t, type = some t → SameName t f.type := by
  rw [declaresField]
  cases n.fields.find? (·.name == name) with
  | none => simp
  | some f =>
    simp only [Bool.and_eq_true, all_loweredModifiers_iff, Option.some.injEq, exists_eq_left']
    cases type <;> simp [sameName_iff]

namespace Predicate

def Means (scope : Scope) (p : Predicate) (m : scope.Subject → Prop) : Prop :=
  ∀ x, ∃ b, p.test (scope.item x) = .ok b ∧ (b = true ↔ m x)

theorem means_ofNode {property : NodeProperty} {m : Node → Prop}
    (h : ∀ n, property.holds n = true ↔ m n) : Means .nodes (.ofNode property) m :=
  fun n => ⟨property.holds n, by rw [test]; rfl, h n⟩

theorem means_ofMethod {property : MethodProperty} {m : Method → Prop}
    (h : ∀ x, property.holds x = true ↔ m x) :
    Means .methods (.ofMethod property) fun r => m r.method :=
  fun r => ⟨property.holds r.method, by rw [test]; rfl, h r.method⟩

section
variable {scope : Scope}

theorem Means.congr {p : Predicate} {m m' : scope.Subject → Prop} (h : Means scope p m)
    (hm : ∀ x, m x ↔ m' x) : Means scope p m' := by
  intro x
  obtain ⟨b, hb, hiff⟩ := h x
  exact ⟨b, hb, hiff.trans (hm x)⟩

theorem Means.neg {p : Predicate} {m : scope.Subject → Prop} (h : Means scope p m) :
    Means scope (.neg p) fun x => ¬ m x := by
  intro x
  obtain ⟨b, hb, hiff⟩ := h x
  refine ⟨!b, by rw [test, hb]; rfl, ?_⟩
  change _ ↔ ¬ m x
  rw [← hiff]
  cases b <;> simp

/-! At an end of a dependency, or at the owner of a method. -/

theorem Means.source {p : Predicate} {m : Node → Prop} (h : Means .nodes p m) :
    Means .edges (.source p) fun e => m e.source := by
  intro e
  obtain ⟨b, hb, hiff⟩ := h e.source
  exact ⟨b, by rw [test]; exact hb, hiff⟩

theorem Means.target {p : Predicate} {m : Node → Prop} (h : Means .nodes p m) :
    Means .edges (.target p) fun e => m e.target := by
  intro e
  obtain ⟨b, hb, hiff⟩ := h e.target
  exact ⟨b, by rw [test]; exact hb, hiff⟩

theorem Means.owner {p : Predicate} {m : Node → Prop} (h : Means .nodes p m) :
    Means .methods (.declaredIn p) fun r => m r.owner := by
  intro r
  obtain ⟨b, hb, hiff⟩ := h r.owner
  exact ⟨b, by rw [test]; exact hb, hiff⟩

theorem Means.satisfiedBy_iff {p : Predicate} {m : scope.Subject → Prop} (h : Means scope p m)
    (x : scope.Subject) : p.satisfiedBy (scope.item x) = true ↔ m x := by
  obtain ⟨b, hb, hiff⟩ := h x
  rw [Predicate.satisfiedBy_iff, hb, Except.ok.injEq, hiff]

variable {α : Type} {as : List α} {ps : List Predicate} {meaning : α → scope.Subject → Prop}

theorem exists_test_of_means (h : List.Forall₂ (fun a p => Means scope p (meaning a)) as ps)
    (x : scope.Subject) : ∀ p ∈ ps, ∃ b, p.test (scope.item x) = .ok b := by
  induction h with
  | nil => simp
  | cons hp _ ih =>
    obtain ⟨b, hb, _⟩ := hp x
    exact List.forall_mem_cons.2 ⟨⟨b, hb⟩, ih⟩

theorem all_satisfiedBy_iff (h : List.Forall₂ (fun a p => Means scope p (meaning a)) as ps)
    (x : scope.Subject) :
    ps.all (·.satisfiedBy (scope.item x)) = true ↔ ∀ a ∈ as, meaning a x := by
  induction h with
  | nil => simp
  | cons hp _ ih =>
    rw [List.all_cons, Bool.and_eq_true, hp.satisfiedBy_iff, ih, List.forall_mem_cons]

theorem any_satisfiedBy_iff (h : List.Forall₂ (fun a p => Means scope p (meaning a)) as ps)
    (x : scope.Subject) :
    ps.any (·.satisfiedBy (scope.item x)) = true ↔ ∃ a ∈ as, meaning a x := by
  induction h with
  | nil => simp
  | cons hp _ ih =>
    rw [List.any_cons, Bool.or_eq_true, hp.satisfiedBy_iff, ih]
    simp

theorem means_conj (h : List.Forall₂ (fun a p => Means scope p (meaning a)) as ps) :
    Means scope (.conj ps) fun x => ∀ a ∈ as, meaning a x := fun x =>
  ⟨_, by rw [test, testAll_of_answers (exists_test_of_means h x)], all_satisfiedBy_iff h x⟩

theorem means_disj (h : List.Forall₂ (fun a p => Means scope p (meaning a)) as ps) :
    Means scope (.disj ps) fun x => ∃ a ∈ as, meaning a x := fun x =>
  ⟨_, by rw [test, testAny_of_answers (exists_test_of_means h x)], any_satisfiedBy_iff h x⟩

end

/-! Entries that hold no predicates themselves. -/

theorem exists_nodeEntry_of_textProperty? {key : String} {f : String → NodeProperty}
    (h : textProperty? key = some f) (value : Datum) : ∃ m, NodeEntry key value m := by
  obtain ⟨before, after, htable, _⟩ := List.lookup_eq_some_iff.1 h
  have hmem := List.mem_append_right before (List.mem_cons_self (a := (key, f)) (l := after))
  rw [← htable] at hmem
  simp only [List.mem_cons, Prod.mk.injEq, List.not_mem_nil, or_false] at hmem
  rcases hmem with ⟨rfl, _⟩ | ⟨rfl, _⟩ | ⟨rfl, _⟩ | ⟨rfl, _⟩ | ⟨rfl, _⟩ | ⟨rfl, _⟩ | ⟨rfl, _⟩
  · exact ⟨_, .package⟩
  · exact ⟨_, .packagePrefix⟩
  · exact ⟨_, .simpleName⟩
  · exact ⟨_, .nameContains⟩
  · exact ⟨_, .kind⟩
  · exact ⟨_, .implements⟩
  · exact ⟨_, .annotatedWith⟩

def wantedType (entries : List (Scalar × Datum)) : Option String :=
  (Datum.lookup? "type" entries).bind fun type => if type.isNull then none else some type.plain

theorem wantedType_eq_some_iff {entries : List (Scalar × Datum)} {t : String} :
    wantedType entries = some t ↔
      ∃ type, Datum.lookup? "type" entries = some type ∧ type.isNull = false ∧ type.plain = t := by
  rw [wantedType, Option.bind_eq_some_iff]
  refine exists_congr fun type => and_congr_right fun _ => ?_
  cases type.isNull <;> simp

theorem forall_wantedType_iff {entries : List (Scalar × Datum)} {P : String → Prop} :
    (∀ t, wantedType entries = some t → P t) ↔
      ∀ type, Datum.lookup? "type" entries = some type → type.isNull = false → P type.plain := by
  constructor
  · intro h type htype hnull
    exact h _ (wantedType_eq_some_iff.2 ⟨type, htype, hnull, rfl⟩)
  · intro h t ht
    obtain ⟨type, htype, hnull, rfl⟩ := wantedType_eq_some_iff.1 ht
    exact h type htype hnull

theorem readFieldProperty_eq_ok_iff {value : Datum} {context : String} {property : NodeProperty} :
    readFieldProperty value context = .ok property ↔
      ∃ entries name wanted, value = .mapping entries ∧ Datum.lookup? "name" entries = some name ∧
        name.isTruthy = true ∧ ((Datum.lookup? "modifiers" entries).getD (.list [])).Lists wanted ∧
        property = .hasField name.plain wanted (wantedType entries) := by
  constructor
  · intro h
    unfold readFieldProperty at h
    split at h
    · next entries =>
      split at h
      · next name hname =>
        split at h
        · contradiction
        · next hnot =>
          obtain ⟨wanted, hwanted, hproperty⟩ := bind_eq_ok.1 h
          exact ⟨entries, name, wanted, rfl, hname, by simpa using hnot,
            textList_eq_ok_iff.1 hwanted, (Except.ok.inj hproperty).symm⟩
      · contradiction
    · contradiction
  · rintro ⟨entries, name, wanted, rfl, hname, htruthy, hwanted, rfl⟩
    simp only [readFieldProperty, hname, htruthy, Bool.not_true, textList_eq_ok_iff.2 hwanted]
    rfl

theorem exists_nodeEntry_of_read {key context : String} {value : Datum} {p : Predicate}
    (h : readNodeEntry key value context = .ok p) : ∃ m, NodeEntry key value m := by
  unfold readNodeEntry at h
  split at h
  · next f hproperty => exact exists_nodeEntry_of_textProperty? hproperty value
  split at h
  · next hkey =>
    obtain rfl := eq_of_beq hkey
    split at h
    · next r hr => exact ⟨_, .nameMatches hr⟩
    · contradiction
  split at h
  · next hkey =>
    obtain rfl := eq_of_beq hkey
    obtain ⟨wanted, hwanted, _⟩ := bind_eq_ok.1 h
    exact ⟨_, .modifier (textList_eq_ok_iff.1 hwanted)⟩
  split at h
  · next hkey =>
    obtain rfl := eq_of_beq hkey
    exact ⟨_, .lowercasePackage⟩
  split at h
  · next hkey =>
    obtain rfl := eq_of_beq hkey
    obtain ⟨members, hmembers, _⟩ := bind_eq_ok.1 h
    exact ⟨_, .accesses (textList_eq_ok_iff.1 hmembers)⟩
  split at h
  · next hkey =>
    obtain rfl := eq_of_beq hkey
    obtain ⟨property, hproperty, _⟩ := bind_eq_ok.1 h
    obtain ⟨entries, name, wanted, rfl, hname, htruthy, hwanted, _⟩ :=
      readFieldProperty_eq_ok_iff.1 hproperty
    exact ⟨_, .hasField hname htruthy hwanted⟩
  · contradiction

theorem readNodeEntry_of_nodeEntry {key : String} {value : Datum} {m : Node → Prop}
    (h : NodeEntry key value m) (context : String) :
    ∃ p, readNodeEntry key value context = .ok p ∧ Means .nodes p m := by
  cases h with
  | package => exact ⟨_, rfl, means_ofNode fun _ => Iff.rfl⟩
  | packagePrefix => exact ⟨_, rfl, means_ofNode fun _ => isUnder_iff⟩
  | simpleName => exact ⟨_, rfl, means_ofNode fun _ => beq_iff_eq⟩
  | nameContains => exact ⟨_, rfl, means_ofNode fun _ => occursIn_iff⟩
  | @nameMatches _ r hr =>
    have hnone : textProperty? "name_matches" = none := rfl
    refine ⟨.ofNode (.nameMatching r), ?_, means_ofNode fun _ => Iff.rfl⟩
    rw [readNodeEntry, hnone, hr]
    rfl
  | kind => exact ⟨_, rfl, means_ofNode fun _ => beq_iff_eq⟩
  | implements => exact ⟨_, rfl, means_ofNode fun _ => any_sameName_iff⟩
  | annotatedWith => exact ⟨_, rfl, means_ofNode fun _ => any_sameName_iff⟩
  | lowercasePackage =>
    have hlower : Means .nodes (.ofNode .lowercasePackage)
        fun n => n.package = Text.lower n.package := means_ofNode fun _ => beq_iff_eq
    refine ⟨_, rfl, ?_⟩
    cases value.isTruthy with
    | true => exact hlower.congr fun n => by simp
    | false => exact hlower.neg.congr fun n => by simp
  | @modifier _ wanted hwanted =>
    refine ⟨.conj (wanted.map fun w => .ofNode (.hasModifier w)),
      bind_eq_ok.2 ⟨wanted, textList_eq_ok_iff.2 hwanted, rfl⟩, means_conj ?_⟩
    rw [List.forall₂_map_right_iff, List.forall₂_same]
    exact fun w _ => means_ofNode fun n => hasModifier_iff
  | @accesses _ members hmembers =>
    refine ⟨.ofNode (.accessing members),
      bind_eq_ok.2 ⟨members, textList_eq_ok_iff.2 hmembers, rfl⟩, means_ofNode fun n => ?_⟩
    simp [NodeProperty.holds]
  | @hasField entries name wanted hname htruthy hwanted =>
    have hproperty : readFieldProperty (.mapping entries) context
        = .ok (.hasField name.plain wanted (wantedType entries)) :=
      readFieldProperty_eq_ok_iff.2 ⟨entries, name, wanted, rfl, hname, htruthy, hwanted, rfl⟩
    refine ⟨_, bind_eq_ok.2 ⟨_, hproperty, rfl⟩, means_ofNode fun n => declaresField_iff.trans ?_⟩
    simp only [forall_wantedType_iff]

theorem readBound_eq_ok_iff {value : Datum} {context bound : String} {k : Int} :
    readBound value context bound = .ok k ↔ ∃ n : Nat, value = .int n ∧ k = n := by
  constructor
  · intro h
    unfold readBound at h
    split at h
    · next n =>
      split at h
      · contradiction
      · next hn =>
        obtain rfl := Except.ok.inj h
        obtain ⟨n, rfl⟩ := Int.eq_ofNat_of_zero_le (Int.not_lt.1 hn)
        exact ⟨n, rfl, rfl⟩
    · contradiction
  · rintro ⟨n, rfl, rfl⟩
    rw [readBound, if_neg (Int.not_lt.2 (Int.natCast_nonneg n))]

theorem exists_methodEntry_of_read {key context : String} {value : Datum} {p : Predicate}
    (h : readMethodEntry key value context = .ok p) : ∃ m, MethodEntry key value m := by
  unfold readMethodEntry at h
  split at h
  · next hkey =>
    obtain rfl := eq_of_beq hkey
    exact ⟨_, .name⟩
  split at h
  · next hkey =>
    obtain rfl := eq_of_beq hkey
    exact ⟨_, .annotatedWith⟩
  split at h
  · next hkey =>
    obtain rfl := eq_of_beq hkey
    split at h
    · next entries =>
      obtain ⟨_, hread, h⟩ := bind_eq_ok.1 h
      obtain ⟨low, hlow, _⟩ := readBound_eq_ok_iff.1 hread
      obtain ⟨_, hread, _⟩ := bind_eq_ok.1 h
      obtain ⟨high, hhigh, _⟩ := readBound_eq_ok_iff.1 hread
      exact ⟨_, .parameters hlow hhigh⟩
    · contradiction
  · contradiction

theorem readMethodEntry_of_methodEntry {key : String} {value : Datum} {m : Method → Prop}
    (h : MethodEntry key value m) (context : String) :
    ∃ property, readMethodEntry key value context = .ok (.ofMethod property) ∧
      ∀ x, property.holds x = true ↔ m x := by
  cases h with
  | name => exact ⟨_, rfl, fun _ => beq_iff_eq⟩
  | annotatedWith => exact ⟨_, rfl, fun _ => any_sameName_iff⟩
  | @parameters entries low high hlow hhigh =>
    refine ⟨.parameterCount low high, ?_, fun x => by simp [MethodProperty.holds]⟩
    exact bind_eq_ok.2 ⟨low, readBound_eq_ok_iff.2 ⟨low, hlow, rfl⟩,
      bind_eq_ok.2 ⟨high, readBound_eq_ok_iff.2 ⟨high, hhigh, rfl⟩, rfl⟩⟩

end Predicate

end Conformance
