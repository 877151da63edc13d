import Conformance.Proofs.Baseline.Refusal

/-! The file of a baseline is canonical and lossless. Its text lists the accepted violations in
increasing order and tells nothing else, so that a set of signatures has one text, in whatever order
and however often they were given, and the text gives back the set. -/
namespace Conformance

namespace Json

theorem joinWith_eq_intercalate (sep : List Char) (parts : List (List Char)) :
    joinWith sep parts = sep.intercalate parts := by
  induction parts with
  | nil => rfl
  | cons part parts ih =>
    cases parts with
    | nil => simp [joinWith]
    | cons next parts => rw [joinWith_cons_cons, ih, List.intercalate_cons_cons, List.append_assoc]

@[simp] theorem indented_text (depth : Nat) (s : String) :
    indented depth (.text s) = writeText s := rfl

theorem indented_pair (depth : Nat) (a b : String) (x y : Datum) :
    indented depth (.mapping (textEntries [(a, x), (b, y)])) =
      '\x7b' :: newline (depth + 1) ++ entryText (indented (depth + 1)) (a, x) ++
        ',' :: newline (depth + 1) ++ entryText (indented (depth + 1)) (b, y) ++
        newline depth ++ ['\x7d'] := by
  rw [indented, indentedEntries_eq_map]
  simp [enclose, joinWith]

end Json

namespace Baseline

namespace Entries

def quoted (s : String) : String := String.ofList (Json.writeText s)

def entryLines (p : Text.Pair) : String :=
  "    \x7b\n      \"item\": " ++ quoted p.1 ++ ",\n      \"message\": " ++ quoted p.2 ++ "\n    \x7d"

def listLines (pairs : List Text.Pair) : String :=
  if pairs.isEmpty then "[]"
  else "[\n" ++ ",\n".intercalate (pairs.map entryLines) ++ "\n  ]"

def lines (rule : String) (pairs : List Text.Pair) : String :=
  "\x7b\n  \"rule\": " ++ quoted rule ++ ",\n  \"violations\": " ++ listLines pairs ++ "\n\x7d\n"

theorem toList_entryLines (p : Text.Pair) :
    (entryLines p).toList = List.replicate 4 ' ' ++ Json.indented 2 (entryDatum p) := by
  have hitem : Json.writeText "item" = "\"item\"".toList := by decide
  have hmessage : Json.writeText "message" = "\"message\"".toList := by decide
  rw [entryDatum, Json.indented_pair]
  unfold entryLines quoted
  simp only [Json.entryText, Json.indented_text, hitem, hmessage, String.toList_append,
    String.toList_ofList]
  simp [Json.newline]

theorem intercalate_map_append {α : Type} (sep start : List α) {parts : List (List α)}
    (h : parts ≠ []) :
    sep.intercalate (parts.map (start ++ ·)) = start ++ (sep ++ start).intercalate parts := by
  induction parts with
  | nil => contradiction
  | cons part parts ih =>
    cases parts with
    | nil => simp
    | cons next parts =>
      rw [List.map_cons, List.map_cons, List.intercalate_cons_cons, ← List.map_cons,
        ih (List.cons_ne_nil _ _), List.intercalate_cons_cons]
      simp only [List.append_assoc]

theorem toList_intercalate_entryLines {pairs : List Text.Pair} (h : pairs ≠ []) :
    (",\n".intercalate (pairs.map entryLines)).toList = List.replicate 4 ' ' ++
      Json.joinWith (',' :: Json.newline 2) ((pairs.map entryDatum).map (Json.indented 2)) := by
  have hseparator : ',' :: Json.newline 2 = ",\n".toList ++ List.replicate 4 ' ' := by decide
  rw [Json.joinWith_eq_intercalate, hseparator, ← intercalate_map_append _ _ (by simpa using h),
    String.toList_intercalate]
  simp only [List.map_map, Function.comp_def, toList_entryLines]

theorem toList_listLines (pairs : List Text.Pair) :
    (listLines pairs).toList = Json.indented 1 (.list (pairs.map entryDatum)) := by
  cases pairs with
  | nil => rfl
  | cons p pairs =>
    rw [Json.indented, Json.indentedItems_eq_map, Json.enclose, if_neg (by simp), listLines,
      if_neg (by simp)]
    simp only [String.toList_append, toList_intercalate_entryLines (List.cons_ne_nil p pairs)]
    simp [Json.newline]

theorem text_eq_lines (rule : String) (e : Entries) : e.text rule = lines rule e.pairs := by
  have hrule : Json.writeText "rule" = "\"rule\"".toList := by decide
  have hviolations : Json.writeText "violations" = "\"violations\"".toList := by decide
  apply String.toList_inj.1
  rw [text, document_eq, Json.write, Json.indented_pair]
  unfold lines quoted
  simp only [Json.entryText, Json.indented_text, hrule, hviolations, String.toList_append,
    String.toList_ofList, toList_listLines]
  simp [Json.newline]

theorem ofSignatures_of_toFinset {rule : String} {e : Entries} {signatures : List Signature}
    (h : signatures.toFinset = e.signatureSet rule) : ofSignatures rule signatures = .ok e := by
  have hmem : ∀ s, s ∈ signatures ↔ s.rule = rule ∧ s.pair ∈ e.pairs := fun s => by
    rw [← mem_signatureSet, ← h, List.mem_toFinset]
  rw [ofSignatures_eq_ok fun s hs => ((hmem s).1 hs).1]
  refine congrArg Except.ok (eq_of_mem_iff fun p => ?_)
  rw [mem_ofPairs, List.mem_map]
  constructor
  · rintro ⟨s, hs, rfl⟩
    exact ((hmem s).1 hs).2
  · intro hp
    exact ⟨⟨rule, p.1, p.2⟩, (hmem _).2 ⟨rfl, hp⟩, rfl⟩

theorem exists_signatureSet_eq {rule : String} {set : Finset Signature}
    (h : ∀ s ∈ set, s.rule = rule) : ∃ e : Entries, e.signatureSet rule = set := by
  have hown : ∀ s ∈ set.toList, s.rule = rule := fun s hs => h s (Finset.mem_toList.1 hs)
  exact ⟨_, (signatureSet_ofPairs hown).trans set.toList_toFinset⟩

theorem ofContent_text_of_ne {rule other : String} (h : other ≠ rule) (path : String)
    (e : Entries) : ofContent other path (e.text rule).toUTF8 = .error (.foreignFile other path) := by
  rw [ofContent, fromUTF8?_toUTF8, Option.bind_some, text, (e.textual_document rule).read?_write]
  change ofDocument other path (e.document rule) = _
  rw [document_eq, ofDocument, lookup?_rule]
  simp [Ne.symm h]

end Entries

theorem Directory.store_of_not_blocked {d : Directory} {rule : String}
    {signatures : List Signature} {e : Entries} (h : ¬ d.Blocked rule)
    (he : Entries.ofSignatures rule signatures = .ok e) :
    ∃ t : Directory, d.store rule signatures = (.ok (), t) ∧
      t.place.content? (fileName rule) = some (e.text rule).toUTF8 := by
  have hwritable : (d.slot rule).isWritable = true := by
    rw [← Bool.not_eq_false, ← blocked_iff]
    exact h
  have hfilled := congrArg Slot.occupant (slot_store (d := d) he rfl)
  rw [Slot.occupant_filled hwritable] at hfilled
  refine ⟨(d.store rule signatures).2, Prod.ext ((stored_iff he).2 hwritable) rfl, ?_⟩
  have hoccupant : (d.store rule signatures).2.place.occupant? (fileName rule)
      = some (.file (e.text rule).toUTF8) := hfilled
  rw [Place.content?_eq_bind, hoccupant]
  rfl

/-- What is true of a text that stands for a set of signatures of a rule. -/
structure StandsFor (text rule : String) (set : Finset Signature) : Prop where
  /-- It is what is written for the set, in whatever order and however often it is listed. -/
  stored : ∀ (d : Directory) (signatures : List Signature), signatures.toFinset = set →
    ¬ d.Blocked rule → ∃ t : Directory, d.store rule signatures = (.ok (), t) ∧
      t.place.content? (fileName rule) = some text.toUTF8
  /-- It is read as the set, and what is read is written in the same way again. -/
  loaded : ∀ d : Directory, d.place.content? (fileName rule) = some text.toUTF8 →
    ∃ e : Entries, d.load rule = .ok (some e) ∧ (e.signatures rule).toFinset = set ∧
      (¬ d.Blocked rule → ∃ t : Directory, d.store rule (e.signatures rule) = (.ok (), t) ∧
        t.place.content? (fileName rule) = some text.toUTF8)
  /-- It is refused as the file of another rule. -/
  foreign : ∀ (d : Directory) (other : String), other ≠ rule →
    d.place.content? (fileName other) = some text.toUTF8 →
      d.load other = .error (.foreignFile other (d.pathFor other)) ∧
        (Failure.baseline (.foreignFile other (d.pathFor other))).kind = .baselineStore

theorem Entries.standsFor (rule : String) (e : Entries) :
    StandsFor (e.text rule) rule (e.signatureSet rule) where
  stored d signatures hset hfree :=
    Directory.store_of_not_blocked hfree (ofSignatures_of_toFinset hset)
  loaded d hfile := by
    refine ⟨e, ?_, rfl, fun hfree =>
      Directory.store_of_not_blocked hfree (ofSignatures_of_toFinset rfl)⟩
    rw [Directory.load, hfile]
    simp only [ofContent_text]
    rfl
  foreign d other hne hfile := by
    refine ⟨?_, rfl⟩
    rw [Directory.load, hfile]
    simp only [ofContent_text_of_ne hne]
    rfl

/-- Every set of signatures of a rule has one text. It lists them in strictly increasing order of
their items and, for one item, of their messages, and it stands for the set. -/
theorem exists_text_standsFor (rule : String) (set : Finset Signature)
    (h : ∀ s ∈ set, s.rule = rule) :
    ∃ pairs : List Text.Pair,
      pairs.Pairwise (fun a b => a.1 < b.1 ∨ a.1 = b.1 ∧ a.2 < b.2) ∧
      (∀ item message, (item, message) ∈ pairs ↔ ⟨rule, item, message⟩ ∈ set) ∧
      StandsFor (Entries.lines rule pairs) rule set := by
  obtain ⟨e, rfl⟩ := Entries.exists_signatureSet_eq h
  refine ⟨e.pairs, e.increasing.imp Text.pairLt_iff.1, fun item message => ?_, ?_⟩
  · rw [Entries.mem_signatureSet]
    exact (and_iff_right rfl).symm
  · rw [← Entries.text_eq_lines]
    exact e.standsFor rule

def oddSignatures : Finset Signature :=
  {⟨"\"odd\"", "\\a", "\x00\r\n\u2028"⟩, ⟨"\"odd\"", "\\a", "🧩"⟩, ⟨"\"odd\"", "", "\x7f"⟩}

theorem exists_text_standsFor_odd : (∀ s ∈ oddSignatures, s.rule = "\"odd\"") ∧
    ∃ pairs : List Text.Pair,
      pairs.Pairwise (fun a b => a.1 < b.1 ∨ a.1 = b.1 ∧ a.2 < b.2) ∧
      (∀ item message, (item, message) ∈ pairs ↔ ⟨"\"odd\"", item, message⟩ ∈ oddSignatures) ∧
      StandsFor (Entries.lines "\"odd\"" pairs) "\"odd\"" oddSignatures := by
  have hrule : ∀ s ∈ oddSignatures, s.rule = "\"odd\"" := by decide
  exact ⟨hrule, exists_text_standsFor "\"odd\"" oddSignatures hrule⟩

end Baseline

end Conformance
