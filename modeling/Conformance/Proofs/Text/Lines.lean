import Conformance.Text.Quoted
import Conformance.Text.Split

/-! The lines of a text. A text that is put together of parts, with a line break between each two of
them, has the lines of all of them, and no more lines than parts only if no part has a break. -/
namespace Conformance.Text

def Unbroken (cs : List Char) : Prop := '\n' ∉ cs

def OneLine (s : String) : Prop := Unbroken s.toList

instance (s : String) : Decidable (OneLine s) := inferInstanceAs (Decidable (_ ∉ _))

@[simp] theorem unbroken_nil : Unbroken [] := List.not_mem_nil

@[simp] theorem unbroken_cons {c : Char} {cs : List Char} :
    Unbroken (c :: cs) ↔ c ≠ '\n' ∧ Unbroken cs := by
  simp [Unbroken, eq_comm]

@[simp] theorem unbroken_append {cs ds : List Char} :
    Unbroken (cs ++ ds) ↔ Unbroken cs ∧ Unbroken ds := by
  simp [Unbroken]

@[simp] theorem unbroken_reverse {cs : List Char} : Unbroken cs.reverse ↔ Unbroken cs := by
  simp [Unbroken]

theorem unbroken_replicate {c : Char} (h : c ≠ '\n') (n : Nat) : Unbroken (List.replicate n c) :=
  fun hmem => h (List.eq_of_mem_replicate hmem).symm

theorem unbroken_flatMap {f : Char → List Char} {cs : List Char}
    (h : ∀ c ∈ cs, Unbroken (f c)) : Unbroken (cs.flatMap f) := by
  intro hmem
  obtain ⟨c, hc, hbreak⟩ := List.mem_flatMap.1 hmem
  exact h c hc hbreak

theorem Unbroken.subset {cs ds : List Char} (h : Unbroken cs) (hsub : ds ⊆ cs) : Unbroken ds :=
  fun hmem => h (hsub hmem)

theorem Unbroken.take {cs : List Char} (h : Unbroken cs) (n : Nat) : Unbroken (cs.take n) :=
  h.subset (List.take_subset n cs)

theorem Unbroken.drop {cs : List Char} (h : Unbroken cs) (n : Nat) : Unbroken (cs.drop n) :=
  h.subset (List.drop_subset n cs)

@[simp] theorem oneLine_append {s t : String} : OneLine (s ++ t) ↔ OneLine s ∧ OneLine t := by
  simp [OneLine]

@[simp] theorem oneLine_ofList {cs : List Char} : OneLine (String.ofList cs) ↔ Unbroken cs := by
  rw [OneLine, String.toList_ofList]

def lines (s : String) : List String := (splitAtEach '\n' s.toList).map String.ofList

theorem OneLine.lines_eq {s : String} (h : OneLine s) : lines s = [s] := by
  simp [lines, splitAtEach_of_notMem h]

theorem lines_append_break (s t : String) : lines (s ++ "\n" ++ t) = lines s ++ lines t := by
  have hlist : (s ++ "\n" ++ t).toList = s.toList ++ '\n' :: t.toList := by simp
  rw [lines, hlist, splitAtEach_append_cons, List.map_append]
  rfl

theorem length_lines_pos (s : String) : 0 < (lines s).length := by
  rw [lines, List.length_map]
  exact List.length_pos_iff.2 (splitAtEach_ne_nil _ _)

theorem length_lines_eq_one_iff {s : String} : (lines s).length = 1 ↔ OneLine s := by
  refine ⟨fun h hmem => ?_, fun h => by rw [h.lines_eq]; rfl⟩
  obtain ⟨before, after, hs⟩ := List.append_of_mem hmem
  have hlines : lines s = lines (String.ofList before) ++ lines (String.ofList after) := by
    rw [← lines_append_break]
    apply congrArg lines
    rw [← String.toList_inj, hs]
    simp
  have hbefore := length_lines_pos (String.ofList before)
  have hafter := length_lines_pos (String.ofList after)
  rw [hlines, List.length_append] at h
  omega

/-- Joining parts with breaks between them keeps the lines of each. -/
theorem lines_intercalate {parts : List String} (h : parts ≠ []) :
    lines ("\n".intercalate parts) = parts.flatMap lines := by
  induction parts with
  | nil => contradiction
  | cons part rest ih =>
    cases rest with
    | nil => simp
    | cons next rest =>
      rw [String.intercalate_cons_cons, lines_append_break, ih (by simp)]
      rfl

theorem length_le_length_flatMap_lines (parts : List String) :
    parts.length ≤ (parts.flatMap lines).length := by
  induction parts with
  | nil => exact Nat.le_refl _
  | cons part rest ih =>
    have hpart := length_lines_pos part
    rw [List.flatMap_cons, List.length_append, List.length_cons]
    omega

theorem length_flatMap_lines_eq_iff {parts : List String} :
    (parts.flatMap lines).length = parts.length ↔ ∀ part ∈ parts, OneLine part := by
  induction parts with
  | nil => simp
  | cons part rest ih =>
    have hpart := length_lines_pos part
    have hrest := length_le_length_flatMap_lines rest
    rw [List.forall_mem_cons, ← ih, ← length_lines_eq_one_iff, List.flatMap_cons,
      List.length_append, List.length_cons]
    omega

theorem flatMap_lines_eq {parts : List String} (h : ∀ part ∈ parts, OneLine part) :
    parts.flatMap lines = parts := by
  induction parts with
  | nil => rfl
  | cons part rest ih =>
    obtain ⟨hpart, hrest⟩ := List.forall_mem_cons.1 h
    rw [List.flatMap_cons, hpart.lines_eq, ih hrest]
    rfl

theorem unbroken_toDigits {base : Nat} (h : 1 < base) (hbase : base ≤ 16) (n : Nat) :
    Unbroken (Nat.toDigits base n) := by
  have hdigit : ∀ k < 16, Nat.digitChar k ≠ '\n' := by decide
  induction n using Nat.strongRecOn with
  | _ n ih =>
    have hlast : n % base < 16 := Nat.lt_of_lt_of_le (Nat.mod_lt n (by omega)) hbase
    rw [Nat.toDigits_eq_if h]
    split
    · next hlt => simp [hdigit n (by omega)]
    · next hle =>
      have hlt : n / base < n := Nat.div_lt_self (by omega) h
      simp [hdigit _ hlast, ih _ hlt]

theorem unbroken_decimal (n : Nat) : Unbroken (Nat.toDigits 10 n) :=
  unbroken_toDigits (by decide) (by decide) n

theorem unbroken_escapeCode (c : Char) : Unbroken (escapeCode c) := by
  have hhex : ∀ width, Unbroken (hex width c.toNat) := by
    intro width
    simp [hex, unbroken_replicate, unbroken_toDigits]
  unfold escapeCode
  repeat' split
  all_goals simp [hhex]

theorem unbroken_escape (plain : Char → Bool) {q : Char} (hq : q ≠ '\n') (c : Char) :
    Unbroken (escape plain q c) := by
  unfold escape
  refine iteInduction (fun hself => ?_) fun _ => iteInduction (fun _ => by simp) fun hbreak => ?_
  · have hc : c ≠ '\n' := by
      rintro rfl
      simp [hq.symm] at hself
    simp [hc]
  · refine iteInduction (fun _ => by simp) fun _ => iteInduction (fun _ => by simp) fun _ => ?_
    refine iteInduction (fun _ => ?_) fun _ => unbroken_escapeCode c
    simpa using hbreak

theorem oneLine_quoted (s : String) : OneLine (quoted s) := by
  have hq : quoteFor s.toList ≠ '\n' := by
    unfold quoteFor
    split <;> decide
  rw [quoted, quoteWith, oneLine_ofList, unbroken_append, unbroken_cons]
  refine ⟨⟨hq, unbroken_flatMap fun c _ => unbroken_escape _ hq c⟩, by simp [hq]⟩

theorem oneLine_asciiOnly {s : String} (h : OneLine s) : OneLine (asciiOnly s) := by
  rw [asciiOnly, oneLine_ofList]
  refine unbroken_flatMap fun c hc => iteInduction (fun _ => ?_) fun _ => unbroken_escapeCode c
  refine unbroken_cons.2 ⟨?_, unbroken_nil⟩
  rintro rfl
  exact h hc

end Conformance.Text
