import Conformance.Proofs.Datum.Plain
import Conformance.Proofs.Predicate.Meaning

/-! Reading a predicate accepts the grammar and nothing else, and what is read means what the
grammar says. Both are shown together, along the recursion of the reader. -/
namespace Conformance

open Facts

namespace Predicate

/-! Keys. Only texts are keys of the grammar. -/

theorem NodeEntry.isWord {key : String} {value : Datum} {m : Node → Prop}
    (h : NodeEntry key value m) : isWord key = true := by
  cases h <;> rfl

theorem MethodEntry.isWord {key : String} {value : Datum} {m : Method → Prop}
    (h : MethodEntry key value m) : isWord key = true := by
  cases h <;> rfl

theorem NodeEntry.ofKey?_eq_none {key : String} {value : Datum} {m : Node → Prop}
    (h : NodeEntry key value m) : Composition.ofKey? .nodes (.text key) = none := by
  cases h <;> rfl

theorem MethodEntry.ofKey?_eq_none {key : String} {value : Datum} {m : Method → Prop}
    (h : MethodEntry key value m) : Composition.ofKey? .methods (.text key) = none := by
  cases h <;> rfl

inductive ComposesAt : Scope → Scalar → Composition → Prop
  | neg {scope : Scope} : ComposesAt scope (.text "not") .neg
  | anyOf {scope : Scope} : ComposesAt scope (.text "any_of") .anyOf
  | allOf {scope : Scope} : ComposesAt scope (.text "all_of") .allOf
  | source : ComposesAt .edges (.text "from") .source
  | target : ComposesAt .edges (.text "to") .target
  | owner : ComposesAt .methods (.text "declared_in") .owner

theorem composesAt_of_ofKey? {scope : Scope} {key : Scalar} {c : Composition}
    (h : Composition.ofKey? scope key = some c) : ComposesAt scope key c := by
  unfold Composition.ofKey? at h
  split at h
  · obtain rfl := Option.some.inj h
    exact .neg
  · obtain rfl := Option.some.inj h
    exact .anyOf
  · obtain rfl := Option.some.inj h
    exact .allOf
  · split at h
    · next hplain =>
      obtain rfl := Option.some.inj h
      rw [Scalar.eq_text_of_plain hplain rfl]
      exact .source
    · next hplain =>
      obtain rfl := Option.some.inj h
      rw [Scalar.eq_text_of_plain hplain rfl]
      exact .target
    · next hplain =>
      obtain rfl := Option.some.inj h
      rw [Scalar.eq_text_of_plain hplain rfl]
      exact .owner
    · contradiction

/-! Entries, lists and whole documents. -/

/-- Reading succeeds just where there is a meaning, and then it gives a predicate that has it. -/
structure Agrees (scope : Scope) (r : Except Failure Predicate)
    (denotes : (scope.Subject → Prop) → Prop) : Prop where
  sound : ∀ p, r = .ok p → ∃ m, denotes m
  complete : ∀ m, denotes m → ∃ p, r = .ok p ∧ Means scope p m

theorem Agrees.sound_map {scope : Scope} {r : Except Failure Predicate}
    {denotes : (scope.Subject → Prop) → Prop} (h : Agrees scope r denotes)
    {f : Predicate → Predicate} {p : Predicate} (hp : f <$> r = .ok p) : ∃ m, denotes m := by
  obtain ⟨q, hq, _⟩ := map_eq_ok.1 hp
  exact h.sound q hq

theorem Agrees.complete_map {scope other : Scope} {r : Except Failure Predicate}
    {denotes : (scope.Subject → Prop) → Prop} (h : Agrees scope r denotes)
    {f : Predicate → Predicate} {m : scope.Subject → Prop} {m' : other.Subject → Prop}
    (hm : denotes m) (hmeans : ∀ p, Means scope p m → Means other (f p) m') :
    ∃ p, f <$> r = .ok p ∧ Means other p m' := by
  obtain ⟨p, hp, hpm⟩ := h.complete m hm
  exact ⟨f p, map_eq_ok.2 ⟨p, hp, rfl⟩, hmeans p hpm⟩

/-- As `Agrees` for several predicates, where each has a meaning of its own. -/
structure AgreesEach {α : Type} (scope : Scope) (r : Except Failure (List Predicate)) (as : List α)
    (denotes : α → (scope.Subject → Prop) → Prop) : Prop where
  sound : ∀ ps, r = .ok ps → ∀ a ∈ as, ∃ m, denotes a m
  complete : ∀ meaning : α → scope.Subject → Prop, (∀ a ∈ as, denotes a (meaning a)) →
    ∃ ps, r = .ok ps ∧ List.Forall₂ (fun a p => Means scope p (meaning a)) as ps

section
variable {scope : Scope} {α : Type} {as : List α} {a : α}
  {denotes : α → (scope.Subject → Prop) → Prop}

section
variable {r : Except Failure (List Predicate)} {f : List Predicate → Predicate}
  (h : AgreesEach scope r as denotes)

include h

theorem AgreesEach.sound_map {p : Predicate} (hp : f <$> r = .ok p) :
    ∃ meaning : α → scope.Subject → Prop, ∀ a ∈ as, denotes a (meaning a) := by
  obtain ⟨ps, hps, _⟩ := map_eq_ok.1 hp
  have hsome := h.sound ps hps
  choose! meaning hmeaning using hsome
  exact ⟨meaning, hmeaning⟩

theorem AgreesEach.complete_map {meaning : α → scope.Subject → Prop} {m : scope.Subject → Prop}
    (hmeaning : ∀ a ∈ as, denotes a (meaning a))
    (hmeans : ∀ ps, List.Forall₂ (fun a p => Means scope p (meaning a)) as ps →
      Means scope (f ps) m) : ∃ p, f <$> r = .ok p ∧ Means scope p m := by
  obtain ⟨ps, hps, heach⟩ := h.complete meaning hmeaning
  exact ⟨f ps, map_eq_ok.2 ⟨ps, hps, rfl⟩, hmeans ps heach⟩

end

theorem AgreesEach.nil : AgreesEach scope (.ok []) [] denotes where
  sound := by simp
  complete _ _ := ⟨[], rfl, .nil⟩

theorem AgreesEach.cons {r : Except Failure Predicate} {rs : Except Failure (List Predicate)}
    (h : Agrees scope r (denotes a)) (hs : AgreesEach scope rs as denotes) :
    AgreesEach scope (do return (← r) :: (← rs)) (a :: as) denotes where
  sound ps hread := by
    obtain ⟨p, hp, hrest⟩ := bind_eq_ok.1 hread
    obtain ⟨ps, hps, _⟩ := bind_eq_ok.1 hrest
    exact List.forall_mem_cons.2 ⟨h.sound p hp, hs.sound ps hps⟩
  complete meaning hmeaning := by
    obtain ⟨ha, has⟩ := List.forall_mem_cons.1 hmeaning
    obtain ⟨p, hp, hmeans⟩ := h.complete _ ha
    obtain ⟨ps, hps, heach⟩ := hs.complete meaning has
    refine ⟨p :: ps, ?_, .cons hmeans heach⟩
    rw [hp, hps]
    rfl

end

theorem exists_entryDenotes_of_readEntry {scope : Scope} {key : Scalar} {value : Datum}
    {context : String} {p : Predicate} (h : readEntry scope key.plain value context = .ok p) :
    ∃ m, EntryDenotes scope key value m := by
  cases scope with
  | nodes =>
    obtain ⟨m, hm⟩ := exists_nodeEntry_of_read h
    rw [Scalar.eq_text_of_plain rfl hm.isWord]
    exact ⟨m, .node hm⟩
  | edges => contradiction
  | methods =>
    obtain ⟨m, hm⟩ := exists_methodEntry_of_read h
    rw [Scalar.eq_text_of_plain rfl hm.isWord]
    exact ⟨_, .method hm⟩

def readPart (scope : Scope) (context : String) (key : Scalar) (value : Datum) :
    Except Failure Predicate :=
  match Composition.ofKey? scope key with
  | some .neg => Predicate.neg <$> read scope (extend context "not") value
  | some .anyOf => Predicate.disj <$> readChoices scope context "any_of" value
  | some .allOf => Predicate.conj <$> readChoices scope context "all_of" value
  | some .source => Predicate.source <$> read .nodes (extend context "from") value
  | some .target => Predicate.target <$> read .nodes (extend context "to") value
  | some .owner => Predicate.declaredIn <$> read .nodes (extend context "declared_in") value
  | none => readEntry scope key.plain value context

theorem readEntries_cons (scope : Scope) (context : String) (key : Scalar) (value : Datum)
    (rest : List (Scalar × Datum)) :
    readEntries scope context ((key, value) :: rest) = (do
      return (← readPart scope context key value) :: (← readEntries scope context rest)) := by
  rw [readEntries, readPart]
  rcases Composition.ofKey? scope key with _ | _ | _ | _ | _ | _ | _ <;> rfl

structure AgreesChoices (scope : Scope) (r : Except Failure (List Predicate)) (value : Datum) :
    Prop where
  sound : ∀ ps, r = .ok ps → ∃ items, value = .list items ∧ items ≠ []
  each : ∀ items, value = .list items → items ≠ [] → AgreesEach scope r items (Denotes scope)

theorem AgreesChoices.sound_map {scope : Scope} {r : Except Failure (List Predicate)}
    {value : Datum} (h : AgreesChoices scope r value) {f : List Predicate → Predicate}
    {p : Predicate} (hp : f <$> r = .ok p) :
    ∃ items, value = .list items ∧ items ≠ [] ∧ ∃ meaning : Datum → scope.Subject → Prop,
      ∀ d ∈ items, Denotes scope d (meaning d) := by
  obtain ⟨ps, hps, _⟩ := map_eq_ok.1 hp
  obtain ⟨items, hvalue, hne⟩ := h.sound ps hps
  exact ⟨items, hvalue, hne, (h.each items hvalue hne).sound_map hp⟩

section
variable {scope : Scope} {context : String} {key : Scalar} {value : Datum}
  (hread : ∀ scope context, Agrees scope (read scope context value) (Denotes scope value))
  (hchoices : ∀ context word, AgreesChoices scope (readChoices scope context word value) value)

include hread hchoices

theorem exists_entryDenotes_of_readPart {p : Predicate}
    (h : readPart scope context key value = .ok p) : ∃ m, EntryDenotes scope key value m := by
  unfold readPart at h
  cases hcomposition : Composition.ofKey? scope key with
  | none =>
    rw [hcomposition] at h
    exact exists_entryDenotes_of_readEntry h
  | some c =>
    rw [hcomposition] at h
    cases composesAt_of_ofKey? hcomposition with
    | neg =>
      obtain ⟨m, hm⟩ := (hread _ _).sound_map h
      exact ⟨_, .neg hm⟩
    | anyOf =>
      obtain ⟨items, rfl, hne, meaning, hmeaning⟩ := (hchoices _ _).sound_map h
      exact ⟨_, .anyOf hne hmeaning⟩
    | allOf =>
      obtain ⟨items, rfl, hne, meaning, hmeaning⟩ := (hchoices _ _).sound_map h
      exact ⟨_, .allOf hne hmeaning⟩
    | source =>
      obtain ⟨m, hm⟩ := (hread _ _).sound_map h
      exact ⟨_, .source hm⟩
    | target =>
      obtain ⟨m, hm⟩ := (hread _ _).sound_map h
      exact ⟨_, .target hm⟩
    | owner =>
      obtain ⟨m, hm⟩ := (hread _ _).sound_map h
      exact ⟨_, .owner hm⟩

theorem readPart_of_entryDenotes {m : scope.Subject → Prop} (h : EntryDenotes scope key value m) :
    ∃ p, readPart scope context key value = .ok p ∧ Means scope p m := by
  cases h with
  | neg h => exact (hread _ _).complete_map h fun _ hp => hp.neg
  | anyOf hne h => exact ((hchoices _ _).each _ rfl hne).complete_map h fun _ => means_disj
  | allOf hne h => exact ((hchoices _ _).each _ rfl hne).complete_map h fun _ => means_conj
  | node h =>
    obtain ⟨p, hp, hmeans⟩ := readNodeEntry_of_nodeEntry h context
    exact ⟨p, by rw [readPart, h.ofKey?_eq_none]; exact hp, hmeans⟩
  | source h => exact (hread _ _).complete_map h fun _ hp => hp.source
  | target h => exact (hread _ _).complete_map h fun _ hp => hp.target
  | owner h => exact (hread _ _).complete_map h fun _ hp => hp.owner
  | method h =>
    obtain ⟨property, hp, hholds⟩ := readMethodEntry_of_methodEntry h context
    exact ⟨.ofMethod property, by rw [readPart, h.ofKey?_eq_none]; exact hp, means_ofMethod hholds⟩

end

theorem agrees_of_refused {scope : Scope} {r : Except Failure Predicate}
    {denotes : (scope.Subject → Prop) → Prop} (hr : ∀ p, r ≠ .ok p) (hd : ∀ m, ¬ denotes m) :
    Agrees scope r denotes where
  sound p h := absurd h (hr p)
  complete m h := absurd h (hd m)

theorem agrees_mapping {scope : Scope} {entries : List (Scalar × Datum)}
    {r : Except Failure (List Predicate)}
    (h : AgreesEach scope r entries fun e => EntryDenotes scope e.1 e.2) :
    Agrees scope (Predicate.conj <$> r) (Denotes scope (.mapping entries)) where
  sound p hp := by
    obtain ⟨meaning, hmeaning⟩ := h.sound_map hp
    exact ⟨_, .all hmeaning⟩
  complete m hm := by
    cases hm with
    | all hmeaning => exact h.complete_map hmeaning fun _ => means_conj

theorem agreesChoices_of_refused {scope : Scope} {r : Except Failure (List Predicate)}
    {value : Datum} (hr : ∀ ps, r ≠ .ok ps) (hvalue : ∀ items, value = .list items → items = []) :
    AgreesChoices scope r value where
  sound ps h := absurd h (hr ps)
  each items h hne := absurd (hvalue items h) hne

mutual

theorem read_agrees (scope : Scope) (context : String) (d : Datum) :
    Agrees scope (read scope context d) (Denotes scope d) := by
  match d with
  | .scalar s =>
    cases s with
    | null =>
      refine ⟨fun _ _ => ⟨_, .anything⟩, fun m h => ⟨.anything, by rw [read], fun x => ?_⟩⟩
      cases h
      exact ⟨true, by rw [test], by simp⟩
    | _ => exact agrees_of_refused (fun p h => nomatch h) fun m h => nomatch h
  | .mapping entries =>
    rw [read, bind_pure_comp]
    exact agrees_mapping (readEntries_agrees scope context entries)
  | .list _ | .set _ => exact agrees_of_refused (fun p h => nomatch h) fun m h => nomatch h

theorem readEntries_agrees (scope : Scope) (context : String) (entries : List (Scalar × Datum)) :
    AgreesEach scope (readEntries scope context entries) entries
      fun e => EntryDenotes scope e.1 e.2 := by
  match entries with
  | [] =>
    rw [readEntries]
    exact .nil
  | (key, value) :: rest =>
    rw [readEntries_cons]
    -- an entry may read its value at another scope, or as a list, so all readings of it are needed
    have hread (scope : Scope) (context : String) :
        Agrees scope (read scope context value) (Denotes scope value) :=
      read_agrees scope context value
    have hchoices (context word : String) :
        AgreesChoices scope (readChoices scope context word value) value :=
      readChoices_agrees scope context word value
    have hpart : Agrees scope (readPart scope context key value) (EntryDenotes scope key value) :=
      ⟨fun _ => exists_entryDenotes_of_readPart hread hchoices,
        fun _ => readPart_of_entryDenotes hread hchoices⟩
    exact .cons hpart (readEntries_agrees scope context rest)

theorem readChoices_agrees (scope : Scope) (context word : String) (d : Datum) :
    AgreesChoices scope (readChoices scope context word d) d := by
  match d with
  | .list (d :: rest) =>
    refine ⟨fun _ _ => ⟨d :: rest, rfl, by simp⟩, fun items hitems _ => ?_⟩
    obtain rfl : d :: rest = items := Datum.list.inj hitems
    rw [readChoices]
    exact readAll_agrees scope (extend context word) (d :: rest)
  | .list [] => exact agreesChoices_of_refused (fun p h => nomatch h) fun _ h => (Datum.list.inj h).symm
  | .scalar _ | .mapping _ | .set _ =>
    exact agreesChoices_of_refused (fun p h => nomatch h) fun _ h => nomatch h

theorem readAll_agrees (scope : Scope) (context : String) (ds : List Datum) :
    AgreesEach scope (readAll scope context ds) ds (Denotes scope) := by
  match ds with
  | [] =>
    rw [readAll]
    exact .nil
  | d :: rest =>
    rw [readAll]
    exact .cons (read_agrees scope context d) (readAll_agrees scope context rest)

end

/-- A document is read exactly if it is one of the grammar. The predicate that is read answers for
everything in the scope, and it holds of what the document says, all entries of a mapping together. -/
theorem read_denotes (scope : Scope) (context : String) (d : Datum) :
    ((∃ p, read scope context d = .ok p) ↔ ∃ m, Denotes scope d m) ∧
    ∀ p m, read scope context d = .ok p → Denotes scope d m →
      ∀ x, ∃ b, p.test (scope.item x) = .ok b ∧ (b = true ↔ m x) := by
  have hagrees := read_agrees scope context d
  refine ⟨⟨fun ⟨p, hp⟩ => hagrees.sound p hp, fun ⟨m, hm⟩ => ?_⟩, fun p m hp hm => ?_⟩
  · obtain ⟨p, hp, _⟩ := hagrees.complete m hm
    exact ⟨p, hp⟩
  · obtain ⟨q, hq, hmeans⟩ := hagrees.complete m hm
    obtain rfl := Except.ok.inj (hp.symm.trans hq)
    exact hmeans

def fromEither : Datum :=
  .mapping [(.text "from", .mapping [
    (.text "any_of", .list [.mapping [(.text "simple_name", .text "A")],
      .mapping [(.text "modifier", .list [.text "Final"])]]),
    (.text "not", .mapping [(.text "kind", .text "interface")])])]

theorem read_denotes_fromEither : ∃ p m, read .edges "that" fromEither = .ok p ∧
    Denotes .edges fromEither m ∧ m ⟨.external "x.A", .external "y.B"⟩ ∧
    ¬ m ⟨.external "y.B", .external "x.A"⟩ := by
  have hread : read .edges "that" fromEither = .ok (.conj [.source (.conj [
      .disj [.conj [.ofNode (.simpleName "A")], .conj [.conj [.ofNode (.hasModifier "Final")]]],
      .neg (.conj [.ofNode (.ofKind "interface")])])]) := by rfl
  obtain ⟨haccepted, hmeans⟩ := read_denotes .edges "that" fromEither
  obtain ⟨m, hm⟩ := haccepted.1 ⟨_, hread⟩
  obtain ⟨a, ha, hholds⟩ := hmeans _ m hread hm ⟨.external "x.A", .external "y.B"⟩
  obtain ⟨b, hb, hfails⟩ := hmeans _ m hread hm ⟨.external "y.B", .external "x.A"⟩
  obtain rfl : true = a := Except.ok.inj ha
  obtain rfl : false = b := Except.ok.inj hb
  exact ⟨_, m, hread, hm, hholds.1 rfl, fun hm => absurd (hfails.2 hm) (by simp)⟩

end Predicate

end Conformance
