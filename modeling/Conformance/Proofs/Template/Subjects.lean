import Conformance.Proofs.Template.Trial

/-! What a template asks for. Its text depends on the values of the names in it and on no others. -/
namespace Conformance.Template

def Field.subject (f : Field) : String := String.ofList (f.name.takeWhile fun c => !isStepStart c)

/-- The names that a template asks for, in its fields and in their specifications. -/
def subjects (template : String) : List String :=
  (fields template).flatMap fun f =>
    f.subject :: (fieldsWithin (f.spec.length + 1) f.spec).map Field.subject

variable {values others : Values} {inner inner' : List Char → Except Fault (List Char)}

theorem resolve_congr {name : List Char}
    (h : values.lookup (String.ofList (name.takeWhile fun c => !isStepStart c))
      = others.lookup (String.ofList (name.takeWhile fun c => !isStepStart c))) :
    resolve values name = resolve others name := by
  simp only [resolve, h]

theorem renderField_congr {f : Field} (h : values.lookup f.subject = others.lookup f.subject)
    (hinner : inner f.spec = inner' f.spec) :
    renderField inner values f = renderField inner' others f := by
  rw [renderField, renderField, resolve_congr h, hinner]

theorem renderPieces_congr {fuel : Nat} {s : List Char} (h : ∀ f ∈ fieldsWithin fuel s,
      renderField inner values f = renderField inner' others f) :
    renderPieces inner values fuel s = renderPieces inner' others fuel s := by
  induction fuel generalizing s with
  | zero => rfl
  | succ fuel ih =>
    cases s with
    | nil => rfl
    | cons c rest =>
      rw [fieldsWithin] at h
      rw [renderPieces, renderPieces]
      cases hpiece : nextPiece c rest with
      | error m => rfl
      | ok found =>
        obtain ⟨piece, rest⟩ := found
        simp only [hpiece] at h
        cases piece with
        | char c => simp only [ih h]
        | field f =>
          obtain ⟨hf, hrest⟩ := List.forall_mem_cons.1 h
          simp only [hf, ih hrest]

theorem render_congr {template : String}
    (h : ∀ name ∈ subjects template, values.lookup name = others.lookup name) :
    render values template = render others template := by
  have hpieces : renderNested values 2 template.toList = renderNested others 2 template.toList := by
    refine renderPieces_congr fun f hf => renderField_congr (h _ ?_) ?_
    · exact List.mem_flatMap.2 ⟨f, hf, List.mem_cons_self⟩
    · refine renderPieces_congr fun g hg => renderField_congr (h _ ?_) rfl
      exact List.mem_flatMap.2 ⟨f, hf, List.mem_cons_of_mem _ (List.mem_map_of_mem hg)⟩
  rw [render, render, hpieces]

end Conformance.Template
