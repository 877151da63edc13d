import Mathlib.Data.Finset.Basic
import Mathlib.Data.List.Sort
import Conformance.Baseline.Document
import Conformance.Proofs.Json.ReadBack

/-! The entries of a baseline as a set of signatures. Entries with the same members are the same,
so nothing depends on the order in which signatures come or on how often, and what is written into
a file is what is read from it. -/
namespace Conformance.Baseline

def Signature.pair (s : Signature) : Text.Pair := (s.item, s.message)

namespace Entries

theorem nodup_pairs (e : Entries) : e.pairs.Nodup :=
  e.increasing.imp fun {a b} hab => by
    rintro rfl
    exact Text.pairLt_irrefl a hab

theorem eq_of_mem_iff {e f : Entries} (h : ∀ p, p ∈ e.pairs ↔ p ∈ f.pairs) : e = f := by
  have heq : e.pairs = f.pairs := e.increasing.eq_of_mem_iff f.increasing h
  cases e
  cases f
  cases heq
  rfl

@[simp] theorem ofPairs_pairs (e : Entries) : ofPairs e.pairs = e :=
  eq_of_mem_iff fun _ => mem_ofPairs

theorem ofSignatures_eq_ok {rule : String} {signatures : List Signature}
    (h : ∀ s ∈ signatures, s.rule = rule) :
    ofSignatures rule signatures = .ok (ofPairs (signatures.map Signature.pair)) := by
  have hfind : signatures.find? (fun s => s.rule != rule) = none := by
    rw [List.find?_eq_none]
    intro s hs
    simpa using h s hs
  rw [ofSignatures, hfind]
  rfl

theorem ofSignatures_eq_error {rule : String} {signatures : List Signature} {s : Signature}
    (h : signatures.find? (fun s => s.rule != rule) = some s) :
    ofSignatures rule signatures = .error (.foreignSignature rule s.rule) := by
  rw [ofSignatures, h]

/-- The signatures of a rule that a baseline accepts, as a set. -/
def signatureSet (rule : String) (e : Entries) : Finset Signature := (e.signatures rule).toFinset

theorem mem_signatureSet {rule : String} {e : Entries} {s : Signature} :
    s ∈ e.signatureSet rule ↔ s.rule = rule ∧ s.pair ∈ e.pairs := by
  simp only [signatureSet, signatures, List.mem_toFinset, List.mem_map]
  constructor
  · rintro ⟨p, hp, rfl⟩
    exact ⟨rfl, hp⟩
  · rintro ⟨rfl, hs⟩
    exact ⟨s.pair, hs, rfl⟩

theorem accepts_iff {rule : String} {e : Entries} {s : Signature} :
    e.accepts rule s = true ↔ s ∈ e.signatureSet rule := by
  simp [accepts, mem_signatureSet, Signature.pair]

theorem signatureSet_ofPairs {rule : String} {signatures : List Signature}
    (h : ∀ s ∈ signatures, s.rule = rule) :
    (ofPairs (signatures.map Signature.pair)).signatureSet rule = signatures.toFinset := by
  ext s
  rw [mem_signatureSet, mem_ofPairs, List.mem_toFinset, List.mem_map]
  constructor
  · rintro ⟨hrule, t, ht, hpair⟩
    obtain ⟨hitem, hmessage⟩ := Prod.mk.inj hpair
    have heq : t = s := by
      rw [Signature.mk.injEq]
      exact ⟨(h t ht).trans hrule.symm, hitem, hmessage⟩
    exact heq ▸ ht
  · intro hs
    exact ⟨h s hs, s, hs, rfl⟩

/-! The document of a baseline. -/

def entryDatum (p : Text.Pair) : Datum :=
  .mapping (Json.textEntries [("item", .text p.1), ("message", .text p.2)])

theorem document_eq (rule : String) (e : Entries) : e.document rule =
    .mapping (Json.textEntries [("rule", .text rule),
      ("violations", .list (e.pairs.map entryDatum))]) := rfl

theorem textual_document (rule : String) (e : Entries) : Json.Textual (e.document rule) := by
  rw [document_eq]
  refine .mapping ?_ (by simp)
  intro x hx
  simp only [List.mem_cons, List.not_mem_nil, or_false] at hx
  rcases hx with rfl | rfl
  · exact .text rule
  · refine .list fun d hd => ?_
    obtain ⟨p, _, rfl⟩ := List.mem_map.1 hd
    refine .mapping (fun x hx => ?_) (by simp)
    simp only [List.mem_cons, List.not_mem_nil, or_false] at hx
    rcases hx with rfl | rfl
    · exact .text p.1
    · exact .text p.2

theorem mapM_readEntry (path : String) (ps : List Text.Pair) :
    (ps.map entryDatum).mapM (readEntry path) = .ok ps := by
  induction ps with
  | nil => rfl
  | cons p ps ih =>
    have hp : readEntry path (entryDatum p) = .ok p := by
      simp [readEntry, entryDatum, Json.textEntries, Datum.lookup?]
    rw [List.map_cons, List.mapM_cons, hp, ih]
    rfl

theorem lookup?_rule (rule : String) (violations : Datum) : Datum.lookup? "rule"
    (Json.textEntries [("rule", .text rule), ("violations", violations)]) = some (.text rule) := by
  simp [Json.textEntries, Datum.lookup?]

theorem ofDocument_document (rule path : String) (e : Entries) :
    ofDocument rule path (e.document rule) = .ok e := by
  have hviolations : Datum.lookup? "violations" (Json.textEntries [("rule", .text rule),
      ("violations", .list (e.pairs.map entryDatum))])
      = some (.list (e.pairs.map entryDatum)) := by
    simp [Json.textEntries, Datum.lookup?]
  rw [document_eq, ofDocument, lookup?_rule, hviolations]
  simp only [bne_self_eq_false, Bool.false_eq_true, if_false, mapM_readEntry]
  exact congrArg Except.ok e.ofPairs_pairs

theorem fromUTF8?_toUTF8 (s : String) : String.fromUTF8? s.toUTF8 = some s :=
  dif_pos s.isValidUTF8

theorem ofContent_text (rule path : String) (e : Entries) :
    ofContent rule path (e.text rule).toUTF8 = .ok e := by
  rw [ofContent, fromUTF8?_toUTF8, Option.bind_some, text, (e.textual_document rule).read?_write]
  exact e.ofDocument_document rule path

end Entries

end Conformance.Baseline
