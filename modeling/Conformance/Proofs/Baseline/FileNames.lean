import Conformance.Baseline.Directory

/-! The names of baseline files, whatever the rules are called and whatever the digest function is.
Every name has one form and stays inside the directory, and rules that have a file in common have
digests that begin alike. -/
namespace Conformance

namespace Path

/-- Whether a text names something right in a directory. -/
structure IsPlainName (name : String) : Prop where
  slash : '/' ∉ name.toList
  backslash : '\\' ∉ name.toList
  nonempty : name ≠ ""
  dot : name ≠ "."
  dots : name ≠ ".."

theorem ofString_of_plain {name : String} (h : IsPlainName name) :
    ofString name = ⟨"", [name]⟩ := by
  have hroot : rootOf name.toList = "" := by
    unfold rootOf
    split
    · next heq => exact absurd (heq ▸ List.mem_cons_self) h.slash
    · next heq => exact absurd (heq ▸ List.mem_cons_self) h.slash
    · next heq => exact absurd (heq ▸ List.mem_cons_self) h.slash
    · rfl
  simp [ofString, hroot, Text.splitAtEach_of_notMem h.slash, h.nonempty, h.dot]

theorem child_of_plain (p : Path) {name : String} (h : IsPlainName name) :
    p.child name = ⟨p.root, p.names ++ [name]⟩ := by
  rw [child, ofString_of_plain h]
  rfl

theorem exists_intercalate_concat (sep : String) (names : List String) :
    ∃ start, ∀ name, sep.intercalate (names ++ [name]) = start ++ name := by
  by_cases hnil : names = []
  · exact ⟨"", fun name => by simp [hnil]⟩
  · refine ⟨sep.intercalate names ++ sep, fun name => ?_⟩
    rw [String.intercalate_append_of_ne_nil hnil (List.cons_ne_nil name []),
      String.intercalate_singleton]

theorem eq_of_text_child_eq {p : Path} {name other : String} (h : IsPlainName name)
    (hother : IsPlainName other) (htext : (p.child name).text = (p.child other).text) :
    name = other := by
  obtain ⟨start, hstart⟩ := exists_intercalate_concat "/" p.names
  have hchild : ∀ {name}, IsPlainName name → (p.child name).text = p.root ++ start ++ name := by
    intro name h
    simp [child_of_plain p h, text, hstart, String.append_assoc]
  rw [hchild h, hchild hother] at htext
  exact (String.append_right_inj _).1 htext

end Path

namespace Digest

def IsHexDigit (c : Char) : Prop := '0' ≤ c ∧ c ≤ '9' ∨ 'a' ≤ c ∧ c ≤ 'f'

structure IsHexDigest (s : List Char) : Prop where
  length_eq : s.length = 64
  digits : ∀ c ∈ s, IsHexDigit c

theorem isHexDigit_digitChar : ∀ n < 16, IsHexDigit (Nat.digitChar n) := by
  unfold IsHexDigit
  decide

theorem Sha256.isHexDigest_hexDigest (message : List UInt8) : IsHexDigest (hexDigest message) := by
  refine ⟨length_hexDigest message, fun c hc => ?_⟩
  obtain ⟨w, _, hw⟩ := List.mem_flatMap.1 hc
  obtain ⟨i, _, rfl⟩ := List.mem_map.1 hw
  exact isHexDigit_digitChar _ (Nat.mod_lt _ (by decide))

end Digest

namespace Baseline

open Digest

def IsNameChar (c : Char) : Prop :=
  'A' ≤ c ∧ c ≤ 'Z' ∨ 'a' ≤ c ∧ c ≤ 'z' ∨ '0' ≤ c ∧ c ≤ '9' ∨ c = '_' ∨ c = '.' ∨ c = '-'

theorem isNameChar_of_isSafe {c : Char} (h : isSafe c = true) : IsNameChar c := by
  have hchars : (('A' ≤ c ∧ c ≤ 'Z' : Bool) || 'a' ≤ c && c ≤ 'z' || '0' ≤ c && c ≤ '9'
      || c == '_' || c == '.' || c == '-') = true := h
  simp only [Bool.or_eq_true, Bool.and_eq_true, decide_eq_true_eq, beq_iff_eq, or_assoc] at hchars
  exact hchars

theorem isNameChar_of_isHexDigit {c : Char} (h : IsHexDigit c) : IsNameChar c := by
  rcases h with h | ⟨hfirst, hlast⟩
  · exact .inr (.inr (.inl h))
  · exact .inr (.inl ⟨hfirst, Char.le_trans hlast (by decide)⟩)

/-! The readable part. -/

theorem isSafe_of_mem_dashRuns {c : Char} {inRun : Bool} {s : List Char}
    (h : c ∈ dashRuns inRun s) : isSafe c = true := by
  induction s generalizing inRun with
  | nil => contradiction
  | cons first rest ih =>
    rw [dashRuns] at h
    split at h
    · next hsafe =>
      rcases List.mem_cons.1 h with rfl | h
      · exact hsafe
      · exact ih h
    · split at h
      · exact ih h
      · rcases List.mem_cons.1 h with rfl | h
        · rfl
        · exact ih h

theorem mem_of_mem_trimDashes {c : Char} {s : List Char} (h : c ∈ trimDashes s) : c ∈ s := by
  have hend := List.dropWhile_subset _ (List.mem_reverse.1 h)
  exact List.dropWhile_subset _ (List.mem_reverse.1 hend)

theorem slug_cases (rule : List Char) : slug rule = "rule".toList ∨
    slug rule ≠ [] ∧ slug rule = (trimDashes (dashRuns false rule)).take 60 := by
  unfold slug
  split
  · exact .inl rfl
  · next hne => exact .inr ⟨hne, rfl⟩

theorem length_slug (rule : List Char) :
    1 ≤ (slug rule).length ∧ (slug rule).length ≤ 60 := by
  rcases slug_cases rule with h | ⟨hne, h⟩
  · rw [h]
    decide
  · exact ⟨List.length_pos_iff.2 hne, h ▸ List.length_take_le 60 _⟩

theorem isNameChar_of_mem_slug {rule : List Char} {c : Char} (hc : c ∈ slug rule) :
    IsNameChar c := by
  apply isNameChar_of_isSafe
  rcases slug_cases rule with h | ⟨_, h⟩
  · have hall : "rule".toList.all isSafe = true := by decide
    rw [h] at hc
    exact List.all_eq_true.1 hall c hc
  · rw [h] at hc
    exact isSafe_of_mem_dashRuns (mem_of_mem_trimDashes (List.mem_of_mem_take hc))

/-! Whole names. -/

/-- A readable part, a dash, twelve digits and the ending. -/
inductive IsFileName : String → Prop
  | mk {readable digits : List Char} (nonempty : 1 ≤ readable.length)
      (short : readable.length ≤ 60) (plain : ∀ c ∈ readable, IsNameChar c)
      (count : digits.length = 12) (hex : ∀ c ∈ digits, IsHexDigit c) :
      IsFileName (String.ofList (readable ++ '-' :: digits) ++ ".json")

theorem IsFileName.isNameChar {name : String} (h : IsFileName name) :
    ∀ c ∈ name.toList, IsNameChar c := by
  obtain ⟨_, _, plain, _, hex⟩ := h
  intro c hc
  simp only [String.toList_append, String.toList_ofList, List.mem_append, List.mem_cons] at hc
  rcases hc with (hc | rfl | hc) | hc
  · exact plain c hc
  · exact .inr (.inr (.inr (.inr (.inr rfl))))
  · exact isNameChar_of_isHexDigit (hex c hc)
  · have hall : ".json".toList.all isSafe = true := by decide
    exact isNameChar_of_isSafe (List.all_eq_true.1 hall c hc)

theorem IsFileName.length_gt {name : String} (h : IsFileName name) : 2 < name.length := by
  obtain ⟨_, _, _, count, _⟩ := h
  have hending : ".json".length = 5 := rfl
  simp only [String.length_append, String.length_ofList, List.length_append, List.length_cons,
    count, hending]
  omega

theorem IsFileName.isPlainName {name : String} (h : IsFileName name) : Path.IsPlainName name where
  slash hmem := absurd (h.isNameChar _ hmem) (by unfold IsNameChar; decide)
  backslash hmem := absurd (h.isNameChar _ hmem) (by unfold IsNameChar; decide)
  nonempty hname := absurd h.length_gt (by rw [hname]; decide)
  dot hname := absurd h.length_gt (by rw [hname]; decide)
  dots hname := absurd h.length_gt (by rw [hname]; decide)

section
variable {digest : List UInt8 → List Char} (hdigest : ∀ bytes, IsHexDigest (digest bytes))

include hdigest

theorem length_take_digest (bytes : List UInt8) : ((digest bytes).take 12).length = 12 := by
  rw [List.length_take, (hdigest bytes).length_eq]
  rfl

theorem isFileName_fileNameBy (rule : String) : IsFileName (fileNameBy digest rule) := by
  obtain ⟨hnonempty, hshort⟩ := length_slug rule.toList
  exact .mk hnonempty hshort (fun _ hc => isNameChar_of_mem_slug hc) (length_take_digest hdigest _)
    fun c hc => (hdigest _).digits c (List.mem_of_mem_take hc)

/-- Whatever the readable parts are, the digits stand in the same place before the ending. -/
theorem take_digest_eq_of_fileNameBy_eq {rule other : String}
    (h : fileNameBy digest rule = fileNameBy digest other) :
    (digest rule.toUTF8.toList).take 12 = (digest other.toUTF8.toList).take 12 := by
  have hnames := congrArg String.toList ((String.append_left_inj _).1 h)
  rw [String.toList_ofList, String.toList_ofList] at hnames
  have hlength : ∀ bytes, ('-' :: (digest bytes).take 12).length = 13 := fun bytes =>
    congrArg (· + 1) (length_take_digest hdigest bytes)
  have hdigits := (List.append_inj' hnames ((hlength _).trans (hlength _).symm)).2
  exact (List.cons.inj hdigits).2

/-- Whatever a rule is called, its file has a name of the one form, which leads to something right
in the directory; and rules whose files have the same path have digests that begin alike. -/
theorem fileNameBy_confined_and_apart (directory : Path) (rule other : String) :
    IsFileName (fileNameBy digest rule) ∧ Path.IsPlainName (fileNameBy digest rule) ∧
      directory.child (fileNameBy digest rule)
        = ⟨directory.root, directory.names ++ [fileNameBy digest rule]⟩ ∧
      ((directory.child (fileNameBy digest rule)).text
          = (directory.child (fileNameBy digest other)).text →
        (digest rule.toUTF8.toList).take 12 = (digest other.toUTF8.toList).take 12) := by
  have hplain := fun name => (isFileName_fileNameBy hdigest name).isPlainName
  refine ⟨isFileName_fileNameBy hdigest rule, hplain rule,
    directory.child_of_plain (hplain rule), fun hpath => ?_⟩
  exact take_digest_eq_of_fileNameBy_eq hdigest
    (Path.eq_of_text_child_eq (hplain rule) (hplain other) hpath)

end

def baselines : Directory := Directory.ofPlace (Path.ofString "baselines") .absent

theorem fileNameBy_confined_and_apart_climbing :
    (∀ bytes, IsHexDigest (Sha256.hexDigest bytes)) ∧ IsFileName (fileName "../..") ∧
      Path.IsPlainName (fileName "../..") ∧
      baselines.pathFor "../.." = "baselines/" ++ fileName "../.." ∧
      (baselines.pathFor "../.." = baselines.pathFor "rule" →
        (Sha256.hexDigest "../..".toUTF8.toList).take 12
          = (Sha256.hexDigest "rule".toUTF8.toList).take 12) := by
  obtain ⟨hname, hplain, hchild, hapart⟩ := fileNameBy_confined_and_apart
    Sha256.isHexDigest_hexDigest baselines.path "../.." "rule"
  refine ⟨Sha256.isHexDigest_hexDigest, hname, hplain, ?_, hapart⟩
  have hpath : baselines.path = ⟨"", ["baselines"]⟩ := by decide
  rw [Directory.pathFor, fileName, hchild, hpath]
  simp [Path.text]

end Baseline

end Conformance
