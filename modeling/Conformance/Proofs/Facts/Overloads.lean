import Conformance.Proofs.Facts.Identifiers

/-! How overloads are numbered. The ordinal of a method goes by where it is declared, so that no
selection changes it, and it tells apart the methods of one type that have the same signature. -/
namespace Conformance.Facts

/-- The place of a declaration among those of its signature, from 1; the only one has no number. -/
def overloadAt (signatures : List String) (index : Nat) (signature : String) : Nat :=
  if signatures.count signature = 1 then 0 else (signatures.take (index + 1)).count signature

def Node.overloads (n : Node) : List MethodRef :=
  n.methods.mapIdx fun i m => ⟨n, m, overloadAt (n.methods.map Method.signature) i m.signature⟩

theorem Node.map_method_overloads (n : Node) :
    n.overloads.map (fun r => (r.owner, r.method)) = n.methods.map (n, ·) := by
  apply List.ext_getElem
  · simp [overloads]
  · simp [overloads]

namespace Graph

theorem methodRefs_eq_mapIdx {owner : Node} {before : List String} {ms : List Method}
    (h : owner.methods.map Method.signature = before.reverse ++ ms.map Method.signature) :
    methodRefs owner before ms = ms.mapIdx fun i m =>
      ⟨owner, m, overloadAt (owner.methods.map Method.signature) (before.length + i) m.signature⟩
    := by
  induction ms generalizing before with
  | nil => rfl
  | cons m rest ih =>
    have hordinal : overloadAt (owner.methods.map Method.signature) before.length m.signature
        = if 1 < (owner.methods.map Method.signature).count m.signature
          then before.count m.signature + 1 else 0 := by
      have htake : (owner.methods.map Method.signature).take (before.length + 1)
          = before.reverse ++ [m.signature] := by
        rw [h, List.map_cons, List.append_cons, List.take_left' (by simp)]
      have hpos : 0 < (owner.methods.map Method.signature).count m.signature := by
        rw [h, List.count_pos_iff]
        simp
      rw [overloadAt, htake, List.count_append, List.count_reverse, List.count_singleton_self]
      split <;> split <;> omega
    rw [methodRefs, List.mapIdx_cons, ih (by simpa using h)]
    simp only [List.length_cons, Nat.add_assoc, Nat.add_comm 1, Nat.add_zero, hordinal]

theorem methodRefs_eq_overloads (n : Node) : methodRefs n [] n.methods = n.overloads := by
  rw [methodRefs_eq_mapIdx rfl, Node.overloads]
  simp

theorem methods_eq_overloads (g : Graph) : g.methods = g.nodes.flatMap Node.overloads := by
  simp only [methods, methodRefs_eq_overloads]

theorem pairwise_identifier_methods {g : Graph} (h : g.nodes.Pairwise (·.name < ·.name)) :
    g.methods.Pairwise fun a b => a.owner.name = b.owner.name → a.identifier ≠ b.identifier := by
  refine List.pairwise_flatMap.2 ⟨fun n _ => ?_, h.imp fun {m n} hlt a ha b hb howner => ?_⟩
  · refine (pairwise_identifier_methodRefs n).imp ?_
    intro a b hne _
    exact hne
  · rw [(of_mem_methodRefs ha).1, (of_mem_methodRefs hb).1] at howner
    exact absurd howner (String.ne_of_lt hlt)

/-- Selecting methods leaves out some and changes none. All of them are each method that a type
declares, once, by the names of the types and then as declared; the ordinals go by the declarations,
and within a type no two identifiers are the same. -/
theorem methodsWhere_selects {nodes : List Node} {pairs : List (String × String)}
    (hnodup : (nodes.map (·.name)).Nodup) (p : MethodRef → Bool) :
    ∃ (types : List Node) (all : List MethodRef),
      types.Perm nodes ∧ types.Pairwise (·.name < ·.name) ∧
      (build nodes pairs).methodsWhere (fun _ => .ok true) = .ok all ∧
      (build nodes pairs).methodsWhere (fun r => .ok (p r)) = .ok (all.filter p) ∧
      all.map (fun r => (r.owner, r.method)) = types.flatMap (fun n => n.methods.map (n, ·)) ∧
      all = types.flatMap Node.overloads ∧
      all.Pairwise fun a b => a.owner.name = b.owner.name → a.identifier ≠ b.identifier := by
  have hvalidate : (build nodes pairs).validate = .ok () := validate_build_iff.2 hnodup
  have hincreasing := increasing_nodes hvalidate
  refine ⟨(build nodes pairs).nodes, (build nodes pairs).methods, perm_nodes_build,
    hincreasing, ?_, ?_, ?_, methods_eq_overloads _, pairwise_identifier_methods hincreasing⟩
  · rw [methodsWhere_eq, hvalidate, select_pure, List.filter_true]
    rfl
  · rw [methodsWhere_eq, hvalidate, select_pure]
    rfl
  · rw [methods_eq_overloads, List.map_flatMap]
    simp only [Node.map_method_overloads]

def sharingSignature : Node :=
  { Node.known "b.B" with
    methods := [⟨"m", .number 2, .empty, []⟩, ⟨"n", .number 0, .empty, []⟩,
      ⟨"m", .number 1, .empty, ["2"]⟩] }

example : sharingSignature.overloads.map MethodRef.identifier
    = ["b.B.m(2)#1", "b.B.n(0)", "b.B.m(2)#2"] := by cbv

theorem methodsWhere_selects_sharingSignature :
    ([sharingSignature, Node.known "a.A"].map (·.name)).Nodup ∧
    ∃ (types : List Node) (all : List MethodRef),
      types.Perm [sharingSignature, Node.known "a.A"] ∧ types.Pairwise (·.name < ·.name) ∧
      (build [sharingSignature, Node.known "a.A"] []).methodsWhere (fun _ => .ok true) = .ok all ∧
      (build [sharingSignature, Node.known "a.A"] []).methodsWhere
        (fun r => .ok (r.method.name == "m")) = .ok (all.filter (·.method.name == "m")) ∧
      all.map (fun r => (r.owner, r.method)) = types.flatMap (fun n => n.methods.map (n, ·)) ∧
      all = types.flatMap Node.overloads ∧
      all.Pairwise fun a b => a.owner.name = b.owner.name → a.identifier ≠ b.identifier :=
  have hnodup : ([sharingSignature, Node.known "a.A"].map (·.name)).Nodup := by decide
  ⟨hnodup, methodsWhere_selects hnodup (·.method.name == "m")⟩

end Graph

end Conformance.Facts
