import Conformance.Proofs.Number.Lines
import Conformance.Proofs.Template.Trial

/-! Line breaks in messages. Filling in a template breaks no line that neither the template nor a
value in it breaks, except that a number can be laid out as the character of its code point, and 10
is that of a line break. -/
namespace Conformance.Template

open Number Text

/-! Layouts. -/

def Decimal.IsUnbroken (d : Decimal) : Prop := Unbroken d.whole ∧ Unbroken d.tail

theorem isUnbroken_ofParts (keepPoint : Bool) {whole fraction : List Char} (hwhole : Unbroken whole)
    (hfraction : Unbroken fraction) : (Decimal.ofParts keepPoint whole fraction).IsUnbroken := by
  refine ⟨hwhole, iteInduction (fun _ => ?_) fun _ => ?_⟩
  · exact iteInduction (fun _ => by simp) fun _ => unbroken_nil
  · exact unbroken_cons.2 ⟨by decide, hfraction⟩

theorem isUnbroken_fixedPoint (keepPoint : Bool) (digits places : Nat) :
    (fixedPoint keepPoint digits places).IsUnbroken := by
  have hdigits : Unbroken (List.replicate (places + 1 - (Nat.toDigits 10 digits).length) '0'
      ++ Nat.toDigits 10 digits) := by
    simp [unbroken_replicate, unbroken_decimal]
  exact isUnbroken_ofParts keepPoint (hdigits.take _) (hdigits.drop _)

theorem isUnbroken_scientific (keepPoint : Bool) {digits : List Char} (h : Unbroken digits)
    (exponent : Int) : (scientific keepPoint digits exponent).IsUnbroken := by
  obtain ⟨hwhole, htail⟩ := isUnbroken_ofParts keepPoint (h.take 1) (h.drop 1)
  refine ⟨hwhole, ?_⟩
  simp only [scientific, unbroken_append, unbroken_cons]
  exact ⟨htail, by decide, unbroken_exponentText exponent⟩

theorem unbroken_leadingDigits (mantissa : Nat) (exponent : Int) (count : Nat) :
    Unbroken (leadingDigits mantissa exponent count).1 := by
  unfold leadingDigits
  split
  · exact unbroken_replicate (by decide) count
  · exact unbroken_decimal _

theorem isUnbroken_generalPoint (keepPoint pointed : Bool) {digits : List Char}
    (h : Unbroken digits) (first : Int) :
    (generalPoint keepPoint pointed digits first).IsUnbroken := by
  obtain ⟨hwhole, hfraction⟩ := unbroken_positional h (first + 1)
  refine isUnbroken_ofParts keepPoint hwhole ?_
  exact iteInduction (fun _ => by simp) fun _ => hfraction

theorem isUnbroken_general (keepPoint pointed : Bool) (mantissa : Nat) (exponent : Int)
    (count : Nat) : (general keepPoint pointed mantissa exponent count).IsUnbroken := by
  have hdigits := unbroken_leadingDigits mantissa exponent count
  unfold general
  generalize leadingDigits mantissa exponent count = found at hdigits
  obtain ⟨digits, first⟩ := found
  have hshort : Unbroken (if keepPoint then digits
      else digits.take 1 ++ ((digits.drop 1).reverse.dropWhile (· == '0')).reverse) := by
    refine iteInduction (fun _ => hdigits) fun _ => ?_
    rw [unbroken_append, unbroken_reverse]
    refine ⟨hdigits.take 1, (unbroken_reverse.2 (hdigits.drop 1)).subset ?_⟩
    exact (List.dropWhile_sublist _).subset
  exact iteInduction (fun _ => isUnbroken_scientific keepPoint hshort first) fun _ =>
    isUnbroken_generalPoint keepPoint pointed hshort first

theorem isUnbroken_magnitude (l : Layout) (code : Option Char) (mantissa : Nat) (exponent : Int) :
    (magnitude l code mantissa exponent).IsUnbroken := by
  unfold magnitude
  dsimp only
  split
  · exact isUnbroken_fixedPoint _ _ _
  · exact isUnbroken_scientific _ (unbroken_leadingDigits _ _ _) _
  · exact isUnbroken_general _ _ _ _ _
  · split
    · exact isUnbroken_general _ _ _ _ _
    · have htext : Unbroken (if mantissa = 0 then ['0', '.', '0']
          else shortestText mantissa exponent) :=
        iteInduction (fun _ => by simp) fun _ => unbroken_shortestText mantissa exponent
      refine ⟨htext.subset (List.takeWhile_sublist _).subset, ?_⟩
      exact iteInduction (fun _ => unbroken_cons.2 ⟨by decide, htext.drop _⟩) fun _ => htext.drop _

structure Layout.IsUnbroken (l : Layout) : Prop where
  fill : l.fill ≠ '\n'
  separator : l.separator ≠ some '\n'

variable {l : Layout}

theorem unbroken_pad (hl : l.IsUnbroken) {sign body : List Char} (hsign : Unbroken sign)
    (hbody : Unbroken body) : Unbroken (pad l sign body) := by
  have hfill := unbroken_replicate hl.fill
  unfold pad
  dsimp only
  repeat' split
  all_goals simp [hsign, hbody, hfill]

theorem unbroken_groupDigits {separator : Char} (hseparator : separator ≠ '\n') (size fuel : Nat)
    (width : Int) {digits : List Char} (h : Unbroken digits) :
    Unbroken (groupDigits separator size fuel width digits) := by
  induction fuel generalizing width digits with
  | zero => exact unbroken_reverse.2 h
  | succ fuel ih =>
    unfold groupDigits
    dsimp only
    generalize min size (max (max digits.length width.toNat) 1) = count
    have hgroup : Unbroken (List.replicate (count - (digits.take count).length) '0'
        ++ (digits.take count).reverse) := by
      rw [unbroken_append, unbroken_reverse]
      exact ⟨unbroken_replicate (by decide) _, h.take count⟩
    refine iteInduction (fun _ => hgroup) fun _ => ?_
    rw [unbroken_append, unbroken_cons]
    exact ⟨ih _ (h.drop count), hseparator, hgroup⟩

theorem unbroken_layNumber (hl : l.IsUnbroken) (negative : Bool) {base digits tail : List Char}
    (hbase : Unbroken base) (hdigits : Unbroken digits) (htail : Unbroken tail) :
    Unbroken (layNumber l negative base digits tail) := by
  unfold layNumber
  refine unbroken_pad hl (unbroken_append.2 ⟨?_, hbase⟩) (unbroken_append.2 ⟨?_, htail⟩)
  · repeat' split
    all_goals simp
  · refine iteInduction (fun _ => unbroken_nil) fun _ => ?_
    split
    · exact unbroken_append.2 ⟨unbroken_replicate (by decide) _, hdigits⟩
    · next separator hseparator =>
      refine unbroken_groupDigits ?_ _ _ _ (unbroken_reverse.2 hdigits)
      rintro rfl
      exact hl.separator hseparator

theorem unbroken_map_toUpper {cs : List Char} (h : Unbroken cs) :
    Unbroken (cs.map Char.toUpper) := by
  have hupper : ∀ c : Char, c.toUpper = '\n' → c = '\n' := by
    intro c hc
    unfold Char.toUpper at hc
    split at hc
    · rw [Char.ext_iff] at hc
      grind [UInt32.toNat_add]
    · exact hc
  intro hmem
  obtain ⟨c, hc, heq⟩ := List.mem_map.1 hmem
  exact h (hupper c heq ▸ hc)

theorem unbroken_layFloat (hl : l.IsUnbroken) (x : Binary64) : Unbroken (layFloat l x) := by
  have hspell : ∀ capital cs, Unbroken cs →
      Unbroken (if capital = true then cs.map Char.toUpper else cs) :=
    fun _ _ h => iteInduction (fun _ => unbroken_map_toUpper h) fun _ => h
  have hsign : ∀ percent : Bool, Unbroken (if percent then ['%'] else []) :=
    fun _ => iteInduction (fun _ => by simp) fun _ => unbroken_nil
  unfold layFloat
  dsimp only
  split
  · next negative m e _ =>
    obtain ⟨hwhole, htail⟩ := isUnbroken_magnitude l
      (if l.code == some '%' then some 'f'
        else l.code.map fun c => if c == 'n' then 'g' else c.toLower) m e
    exact unbroken_layNumber hl _ unbroken_nil (hspell _ _ hwhole)
      (unbroken_append.2 ⟨hspell _ _ htail, hsign _⟩)
  · exact unbroken_layNumber hl _ unbroken_nil unbroken_nil
      (unbroken_append.2 ⟨hspell _ _ (by simp), hsign _⟩)
  · exact unbroken_layNumber hl _ unbroken_nil unbroken_nil
      (unbroken_append.2 ⟨hspell _ _ (by simp), hsign _⟩)

theorem of_takeIf {ok : Char → Bool} {s : List Char} {c : Char} (h : (takeIf ok s).1 = some c) :
    ok c = true := by
  unfold takeIf at h
  split at h
  · contradiction
  · split at h
    · next hok => exact Option.some.inj h ▸ hok
    · contradiction

theorem gives_read (type : String) (align : Char) (code : Option Char) {spec : List Char}
    (h : Unbroken spec) : Gives Layout.IsUnbroken (Layout.read type align code spec) := by
  unfold Layout.read
  split
  next fill aligned rest hstart =>
  have hfill : fill ≠ some '\n' := by
    rintro rfl
    repeat' split at hstart
    all_goals simp_all
  have hpadding : ∀ s, (fill.or (if fill.isNone = true then takeIf (· == '0') s
      else (none, s)).1).getD ' ' ≠ '\n' := by
    intro s
    cases fill with
    | some c => simpa using hfill
    | none =>
      cases hzero : (takeIf (· == '0') s).1 with
      | none => simp [hzero]
      | some c =>
        have hc := of_takeIf hzero
        rw [beq_iff_eq] at hc
        simp [hzero, hc]
  have hseparator : ∀ s t, (takeIf (· == ',') s).1.or (takeIf (· == '_') t).1 ≠ some '\n' := by
    intro s t hor
    rcases Option.or_eq_some_iff.1 hor with hcomma | ⟨_, hunderscore⟩
    · exact absurd (of_takeIf hcomma) (by decide)
    · exact absurd (of_takeIf hunderscore) (by decide)
  dsimp only
  refine .bind_any fun width => .ite (fun _ => .error _) fun _ => ?_
  refine .ite (fun _ => .bind_any fun precision => ?_) fun _ => .bind_any fun precision => ?_
  all_goals
    refine .ite (fun _ => .error _) fun _ => ?_
    split
    · refine .bind_any fun code => ?_
      split
      · exact .ite (fun _ => .error _) fun _ => .ok ⟨hpadding _, hseparator _ _⟩
      · exact .ok ⟨hpadding _, hseparator _ _⟩
    · refine .bind_any fun code => ?_
      split
      · exact .ite (fun _ => .error _) fun _ => .ok ⟨hpadding _, hseparator _ _⟩
      · exact .ok ⟨hpadding _, hseparator _ _⟩
    · exact .error _

/-! Formats. -/

theorem gives_formatText {s : String} {spec : List Char} (hs : OneLine s) (hspec : Unbroken spec) :
    Gives Unbroken (formatText s spec) := by
  unfold formatText
  refine .ite (fun _ => .ok hs) fun _ => (gives_read "str" '<' (some 's') hspec).bind fun l hl => ?_
  dsimp only
  split
  · split
    · exact .error _
    · exact .error _
    · refine .ite (fun _ => .error _) fun _ => .ite (fun _ => .error _) fun _ => ?_
      exact .ite (fun _ => .error _) fun _ => .ok (unbroken_pad hl unbroken_nil (Unbroken.take hs _))
  · exact .error _

theorem unbroken_baseOf (code : Char) : Unbroken (baseOf code).2 := by
  unfold baseOf
  split
  all_goals simp

theorem baseOf_le (code : Char) : 1 < (baseOf code).1 ∧ (baseOf code).1 ≤ 16 := by
  unfold baseOf
  split
  all_goals decide

theorem gives_formatCharacter (hl : l.IsUnbroken) {n : Int} (hn : n ≠ 10) :
    Gives Unbroken (formatCharacter l n) := by
  unfold formatCharacter
  refine .ite (fun _ => .error _) fun _ => .ite (fun _ => .error _) fun _ => ?_
  refine .ite (fun _ => .error _) fun _ => .ite (fun _ => .error _) fun hrange => .ok ?_
  refine unbroken_layNumber hl false unbroken_nil unbroken_nil ?_
  have hchar : Char.ofNat n.toNat ≠ '\n' := by
    intro heq
    have hcode : (Char.ofNat n.toNat).toNat = n.toNat ∨ (Char.ofNat n.toNat).toNat = 0 := by
      by_cases hvalid : n.toNat.isValidChar
      · exact .inl (by rw [Char.ofNat, dif_pos hvalid]; rfl)
      · exact .inr (by rw [Char.ofNat, dif_neg hvalid]; rfl)
    rw [heq] at hcode
    have hbreak : '\n'.toNat = 10 := rfl
    omega
  simp [hchar]

theorem gives_formatInteger (type : String) {n : Int} (hn : n ≠ 10) {spec : List Char}
    (hspec : Unbroken spec) : Gives Unbroken (formatInteger type n spec) := by
  unfold formatInteger
  refine (gives_read type '>' (some 'd') hspec).bind fun l hl => ?_
  refine .ite (fun _ => ?_) fun _ => .ite (fun _ => ?_) fun _ => .error _
  · split
    · exact .error _
    · exact .ok (unbroken_layFloat hl _)
  · refine .ite (fun _ => .error _) fun _ => .ite (fun _ => .error _) fun _ => ?_
    refine .ite (fun _ => gives_formatCharacter hl hn) fun _ => .ok ?_
    obtain ⟨hbase, hle⟩ := baseOf_le (l.code.getD 'd')
    have hdigits := unbroken_toDigits hbase hle n.natAbs
    refine unbroken_layNumber hl _ ?_ ?_ unbroken_nil
    · exact iteInduction (fun _ => unbroken_baseOf _) fun _ => unbroken_nil
    · exact iteInduction (fun _ => unbroken_map_toUpper hdigits) fun _ => hdigits

/-! Reading. -/

/-- What is put in the place of a field by a specification breaks no line, and one with fields in it
is not empty. -/
structure Field.IsUnbroken (f : Field) : Prop where
  spec : Unbroken f.spec
  nested : f.nested = true → f.spec ≠ []

def Piece.IsUnbroken : Piece → Prop
  | .char c => c ≠ '\n'
  | .field f => f.IsUnbroken

theorem unbroken_throughBracket {s : List Char} (h : Unbroken s) :
    Unbroken (throughBracket s).2 := by
  induction s with
  | nil => exact h
  | cons c rest ih =>
    unfold throughBracket
    split
    · contradiction
    · next heq => exact heq ▸ h
    · next heq =>
      obtain ⟨rfl, rfl⟩ := List.cons.inj heq
      exact ih (unbroken_cons.1 h).2

theorem gives_readName (fuel : Nat) {s : List Char} (h : Unbroken s) :
    Gives (fun found => Unbroken found.2.2) (readName fuel s) := by
  induction fuel generalizing s with
  | zero => exact .error _
  | succ fuel ih =>
    cases s with
    | nil => exact .error _
    | cons c rest =>
      have hrest := (unbroken_cons.1 h).2
      refine .ite (fun _ => .error _) fun _ => .ite (fun _ => .ok hrest) fun _ => ?_
      refine (ih ?_).map fun _ hfound => hfound
      exact iteInduction (motive := fun found => Unbroken (Prod.snd found))
        (fun _ => unbroken_throughBracket hrest) fun _ => hrest

theorem gives_readSpec (depth : Nat) {s : List Char} (h : Unbroken s) :
    Gives (fun found => Unbroken found.1 ∧ (found.2.1 = true → found.1 ≠ []) ∧ Unbroken found.2.2)
      (readSpec depth s) := by
  induction s generalizing depth with
  | nil => exact .error _
  | cons c rest ih =>
    obtain ⟨hc, hrest⟩ := unbroken_cons.1 h
    refine .ite (fun _ => .ok ⟨unbroken_nil, by simp, hrest⟩) fun _ => ?_
    refine (ih _ hrest).map fun found hfound => ?_
    exact ⟨unbroken_cons.2 ⟨hc, hfound.1⟩, fun _ => List.cons_ne_nil _ _, hfound.2.2⟩

theorem gives_readField {s : List Char} (h : Unbroken s) :
    Gives (fun found => found.1.IsUnbroken ∧ Unbroken found.2) (readField s) := by
  unfold readField
  refine (gives_readName _ h).bind fun found hrest => ?_
  dsimp only
  refine .ite (fun _ => .ok ⟨⟨unbroken_nil, by simp⟩, hrest⟩) fun _ => ?_
  refine .ite (fun _ => ?_) fun _ => ?_
  · refine (gives_readSpec 0 hrest).bind fun found hfound => ?_
    exact .ok ⟨⟨hfound.1, hfound.2.1⟩, hfound.2.2⟩
  · split
    · exact .error _
    · exact .error _
    · next heq =>
      rw [heq, unbroken_cons, unbroken_cons] at hrest
      exact .ok ⟨⟨unbroken_nil, by simp⟩, hrest.2.2⟩
    · next heq =>
      rw [heq, unbroken_cons, unbroken_cons] at hrest
      refine (gives_readSpec 0 hrest.2.2).bind fun found hfound => ?_
      exact .ok ⟨⟨hfound.1, hfound.2.1⟩, hfound.2.2⟩
    · exact .error _

theorem gives_nextPiece {c : Char} {rest : List Char} (h : Unbroken (c :: rest)) :
    Gives (fun found => found.1.IsUnbroken ∧ Unbroken found.2) (nextPiece c rest) := by
  obtain ⟨hc, hrest⟩ := unbroken_cons.1 h
  refine .ite (fun _ => ?_) fun _ => .ite (fun _ => ?_) fun _ => .ok ⟨hc, hrest⟩
  · split
    · exact .error _
    · exact .ok ⟨by simp [Piece.IsUnbroken], (unbroken_cons.1 hrest).2⟩
    · exact (gives_readField hrest).map fun _ hfound => hfound
  · split
    · exact .ok ⟨by simp [Piece.IsUnbroken], (unbroken_cons.1 hrest).2⟩
    · exact .error _

/-! Fields. -/

/-- A text without a line break, or a number, which is not that of a line break where numbers are
laid out. -/
inductive IsUnbroken (formats : Prop) : Datum → Prop
  | text {s : String} (h : OneLine s) : IsUnbroken formats (.text s)
  | number {n : Int} (h : formats → n ≠ 10) : IsUnbroken formats (.int n)

variable {formats : Prop} {d : Datum}

theorem gives_format (h : IsUnbroken formats d) {spec : List Char} (hspec : Unbroken spec)
    (hformats : spec ≠ [] → formats) : Gives Unbroken (format d spec) := by
  cases h with
  | text hs => exact gives_formatText hs hspec
  | number hn =>
    refine .ite (fun _ => .ok (oneLine_toString _)) fun hne => ?_
    exact gives_formatInteger "int" (hn (hformats (by simpa using hne))) hspec

theorem IsUnbroken.apply (h : IsUnbroken formats d) (step : Step) :
    Gives (IsUnbroken formats) (step.apply d) := by
  cases h with
  | @text s hs =>
    cases step with
    | member name => exact .error _
    | key name => exact .error _
    | index n =>
      unfold Step.apply
      dsimp only
      split
      · next c hc =>
        have hmem : c ∈ s.toList := List.mem_of_getElem? hc
        refine .ok (.text (oneLine_ofList.2 (unbroken_cons.2 ⟨?_, unbroken_nil⟩)))
        rintro rfl
        exact hs hmem
      · exact .error _
  | number hn =>
    cases step with
    | member name =>
      refine .ite (fun _ => .ok (.number hn)) fun _ => ?_
      refine .ite (fun _ => .ok (.number fun _ => by decide)) fun _ => ?_
      exact .ite (fun _ => .ok (.number fun _ => by decide)) fun _ => .error _
    | index n => exact .error _
    | key name => exact .error _

theorem IsUnbroken.follow (h : IsUnbroken formats d) (fuel : Nat) (s : List Char) :
    Gives (IsUnbroken formats) (follow fuel d s) := by
  induction fuel generalizing d s with
  | zero => exact .ok h
  | succ fuel ih =>
    refine .bind_any fun found => ?_
    cases found with
    | none => exact .ok h
    | some found => exact (h.apply found.1).bind fun _ h' => ih h' found.2

variable {values : Values} (hvalues : ∀ p ∈ values, IsUnbroken formats p.2)
include hvalues

theorem gives_resolve (name : List Char) : Gives (IsUnbroken formats) (resolve values name) := by
  refine .bind_any fun number => ?_
  cases number with
  | some n => exact .error _
  | none =>
    refine .ite (fun _ => .error _) fun _ => ?_
    split
    · exact .error _
    · next d hd =>
      obtain ⟨before, after, hsplit, -⟩ := List.lookup_eq_some_iff.1 hd
      have hmem : (_, d) ∈ values := hsplit ▸ List.mem_append_right before List.mem_cons_self
      exact (hvalues _ hmem).follow _ _

omit hvalues

theorem gives_convert (h : IsUnbroken formats d) (conversion : Option Char) :
    Gives (IsUnbroken formats) (convert d conversion) := by
  have hplain : OneLine d.plain := by
    cases h with
    | text hs => exact hs
    | number _ => exact oneLine_toString _
  have hliteral : OneLine d.literal := by
    cases h with
    | text _ => exact oneLine_quoted _
    | number _ => exact oneLine_toString _
  unfold convert
  split
  · exact .ok h
  · exact .ok (.text hplain)
  · exact .ok (.text hliteral)
  · exact .ok (.text (oneLine_asciiOnly hliteral))
  · exact .error _

include hvalues

theorem gives_renderField {inner : List Char → Except Fault (List Char)}
    (hinner : formats → ∀ s, Unbroken s → Gives Unbroken (inner s)) {f : Field}
    (hf : f.IsUnbroken) (hformats : f.spec ≠ [] → formats) :
    Gives Unbroken (renderField inner values f) := by
  unfold renderField
  refine (gives_resolve hvalues f.name).bind fun d hd => ?_
  refine (gives_convert hd f.conversion).bind fun d hd => ?_
  refine .ite (fun hnested => ?_) fun _ => ?_
  · have hformats := hformats (hf.nested hnested)
    exact (hinner hformats f.spec hf.spec).bind fun spec hspec =>
      gives_format hd hspec fun _ => hformats
  · exact gives_format hd hf.spec hformats

/-! Templates. -/

theorem gives_renderPieces {inner : List Char → Except Fault (List Char)}
    (hinner : formats → ∀ s, Unbroken s → Gives Unbroken (inner s)) (fuel : Nat) {s : List Char}
    (h : Unbroken s) (hformats : ∀ f ∈ fieldsWithin fuel s, f.spec ≠ [] → formats) :
    Gives Unbroken (renderPieces inner values fuel s) := by
  induction fuel generalizing s with
  | zero => exact .ok unbroken_nil
  | succ fuel ih =>
    cases s with
    | nil => exact .ok unbroken_nil
    | cons c rest =>
      have hpieces := gives_nextPiece h
      rw [fieldsWithin] at hformats
      rw [renderPieces]
      cases hpiece : nextPiece c rest with
      | error m => exact .error _
      | ok found =>
        obtain ⟨piece, rest⟩ := found
        obtain ⟨hhere, hrest⟩ := hpieces _ hpiece
        simp only [hpiece] at hformats
        cases piece with
        | char c => exact (ih hrest hformats).bind fun _ hs => .ok (unbroken_cons.2 ⟨hhere, hs⟩)
        | field f =>
          obtain ⟨hf, hothers⟩ := List.forall_mem_cons.1 hformats
          refine (gives_renderField hvalues hinner hhere hf).bind fun _ hs => ?_
          exact (ih hrest hothers).bind fun _ ht => .ok (unbroken_append.2 ⟨hs, ht⟩)

theorem gives_renderNested (hformats : formats) (depth : Nat) {s : List Char} (h : Unbroken s) :
    Gives Unbroken (renderNested values depth s) := by
  induction depth generalizing s with
  | zero => exact .error _
  | succ depth ih =>
    exact gives_renderPieces hvalues (fun _ _ => ih) _ h fun _ _ _ => hformats

theorem gives_render {template : String} (h : OneLine template)
    (hformats : ∀ f ∈ fields template, f.spec ≠ [] → formats) :
    Gives OneLine (render values template) := by
  have hinner : formats → ∀ s, Unbroken s → Gives Unbroken (renderNested values 1 s) :=
    fun hformats _ => gives_renderNested hvalues hformats 1
  exact (gives_renderPieces hvalues hinner _ h hformats).map fun _ => oneLine_ofList.2

end Conformance.Template
