import Conformance.Datum.Basic

/-! Values that are no texts do not read like words. A number has a digit or a sign in it, a date a
hyphen, a point in time a space, and bytes stand between quotes. -/
namespace Conformance

open Number

def isWordChar (c : Char) : Bool := c == '_' || 'a' ≤ c && c ≤ 'z'

def isWord (s : String) : Bool := s.toList.all isWordChar && s != "nan" && s != "inf"

def HasMark (s : String) : Prop := ∃ c ∈ s.toList, isWordChar c = false

theorem HasMark.isWord_eq_false {s : String} (h : HasMark s) : isWord s = false := by
  obtain ⟨c, hmem, hc⟩ := h
  have hall : s.toList.all isWordChar = false := List.all_eq_false.2 ⟨c, hmem, by simp [hc]⟩
  rw [isWord, hall]
  rfl

theorem hasMark_append {s t : String} : HasMark (s ++ t) ↔ HasMark s ∨ HasMark t := by
  simp only [HasMark, String.toList_append, List.mem_append, or_and_right, exists_or]

theorem hasMark_ofList {cs : List Char} {c : Char} (hmem : c ∈ cs) (hc : isWordChar c = false) :
    HasMark (String.ofList cs) :=
  ⟨c, by rwa [String.toList_ofList], hc⟩

theorem isWordChar_of_isDigit {c : Char} (h : c.isDigit = true) : isWordChar c = false := by
  have hnine : c ≤ '9' := by
    simp only [Char.isDigit, Bool.and_eq_true, decide_eq_true_eq] at h
    exact h.2
  have hletter : ¬ 'a' ≤ c := fun hc => absurd (Char.le_trans hc hnine) (by decide)
  have hunderscore : c ≠ '_' := by
    rintro rfl
    exact absurd hnine (by decide)
  simp [isWordChar, hletter, hunderscore]

theorem hasMark_repr (n : Nat) : HasMark (Nat.repr n) := by
  obtain ⟨c, hc⟩ := List.exists_mem_of_ne_nil (Nat.toDigits 10 n) Nat.toDigits_ne_nil
  exact hasMark_ofList hc
    (isWordChar_of_isDigit (Nat.isDigit_of_mem_toDigits (by decide) (by decide) hc))

theorem hasMark_toString (n : Int) : HasMark (toString n) := by
  cases n with
  | ofNat n => exact hasMark_repr n
  | negSucc n => exact hasMark_append.2 (.inr (hasMark_repr (n + 1)))

theorem exists_sign_mem_exponentText (e : Int) : ∃ c ∈ exponentText e, isWordChar c = false := by
  rw [exponentText]
  by_cases h : e < 0
  · exact ⟨'-', by simp [h], rfl⟩
  · exact ⟨'+', by simp [h], rfl⟩

theorem exists_mark_mem_shortestText (mantissa : Nat) (exponent : Int) :
    ∃ c ∈ shortestText mantissa exponent, isWordChar c = false := by
  simp only [shortestText]
  split
  · exact ⟨'.', by simp, rfl⟩
  · obtain ⟨c, hmem, hc⟩ := exists_sign_mem_exponentText
      ((digitsText 10 (shortest mantissa exponent).1).length + (shortest mantissa exponent).2 - 1)
    exact ⟨c, by simp [hmem], hc⟩

theorem hasMark_text_finite (negative : Bool) (mantissa : Nat) (exponent : Int) :
    HasMark (Binary64.finite negative mantissa exponent).text := by
  have hbody : ∃ c ∈ if mantissa = 0 then ['0', '.', '0'] else shortestText mantissa exponent,
      isWordChar c = false := by
    split
    · exact ⟨'.', by decide, rfl⟩
    · exact exists_mark_mem_shortestText mantissa exponent
  obtain ⟨c, hmem, hc⟩ := hbody
  cases negative with
  | true => exact hasMark_ofList (List.mem_cons_of_mem '-' hmem) hc
  | false => exact hasMark_ofList hmem hc

theorem isWordChar_quoteFor (s : List Char) : isWordChar (Text.quoteFor s) = false := by
  rw [Text.quoteFor]
  split <;> rfl

theorem hasMark_bytesLiteral (bs : List UInt8) : HasMark (Scalar.bytesLiteral bs) :=
  hasMark_ofList (by simp) (isWordChar_quoteFor (bs.map fun b => Char.ofNat b.toNat))

theorem hasMark_date (d : Date) : HasMark d.plain := by
  simp only [Date.plain, hasMark_append]
  have hhyphen : HasMark "-" := ⟨'-', by decide, rfl⟩
  exact .inl (.inl (.inl (.inr hhyphen)))

theorem hasMark_moment (m : Moment) : HasMark m.plain := by
  simp only [Moment.plain, hasMark_append]
  exact .inl (.inl (.inl (.inl (.inl (.inl (.inl (.inl (hasMark_date m.date))))))))

theorem Scalar.eq_text_of_isWord {s : Scalar} (h : isWord s.plain = true) : ∃ t, s = .text t := by
  have hmark : ¬ HasMark s.plain := fun hmark => by
    rw [hmark.isWord_eq_false] at h
    contradiction
  cases s with
  | text t => exact ⟨t, rfl⟩
  | null => exact absurd h (by decide)
  | bool b => cases b <;> exact absurd h (by decide)
  | int n => exact absurd (hasMark_toString n) hmark
  | float x =>
    cases x with
    | nan => exact absurd h (by decide)
    | infinite negative => cases negative <;> exact absurd h (by decide)
    | finite negative m e => exact absurd (hasMark_text_finite negative m e) hmark
  | date d => exact absurd (hasMark_date d) hmark
  | moment m => exact absurd (hasMark_moment m) hmark
  | bytes bs => exact absurd (hasMark_bytesLiteral bs) hmark

theorem Scalar.eq_text_of_plain {s : Scalar} {word : String} (h : s.plain = word)
    (hword : isWord word = true) : s = .text word := by
  subst h
  obtain ⟨t, rfl⟩ := Scalar.eq_text_of_isWord hword
  rfl

theorem HasMark.enclosed {opening : String} (h : HasMark opening) (inside closing : String) :
    HasMark (opening ++ inside ++ closing) :=
  hasMark_append.2 (.inl (hasMark_append.2 (.inl h)))

theorem Datum.eq_text_of_isWord {d : Datum} (h : isWord d.plain = true) : ∃ t, d = .text t := by
  have hmark : ¬ HasMark d.plain := fun hmark => by
    rw [hmark.isWord_eq_false] at h
    contradiction
  have hbracket : HasMark "[" := ⟨'[', by decide, rfl⟩
  have hbrace : HasMark "\x7b" := ⟨'\x7b', by decide, rfl⟩
  cases d with
  | scalar s =>
    obtain ⟨t, rfl⟩ := Scalar.eq_text_of_isWord h
    exact ⟨t, rfl⟩
  | list items => exact absurd (hbracket.enclosed _ _) hmark
  | mapping entries => exact absurd (hbrace.enclosed _ _) hmark
  | set members =>
    cases members with
    | nil => exact absurd h (by decide)
    | cons first rest => exact absurd (hbrace.enclosed _ _) hmark

theorem Datum.eq_text_of_plain {d : Datum} {word : String} (h : d.plain = word)
    (hword : isWord word = true) : d = .text word := by
  subst h
  obtain ⟨t, rfl⟩ := Datum.eq_text_of_isWord hword
  rfl

end Conformance
