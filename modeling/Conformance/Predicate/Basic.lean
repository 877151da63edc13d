import Conformance.Predicate.Property

/-! Predicates over nodes, edges and methods: composable tests, each with a description that
reports show. -/
namespace Conformance

open Facts

inductive Item
  | node (n : Node)
  | edge (e : Edge)
  | method (r : MethodRef)
  deriving DecidableEq, Inhabited

namespace Item

def typeName : Item → String
  | node _ => "Node"
  | edge _ => "Edge"
  | method _ => "MethodRef"

def lacks (item : Item) (part : String) : Failure := .missingPart ⟨item.typeName, part⟩

def node? (part : String) : Item → Except Failure Node
  | node n => .ok n
  | item => .error (item.lacks part)

def edge? (part : String) : Item → Except Failure Edge
  | edge e => .ok e
  | item => .error (item.lacks part)

def method? (part : String) : Item → Except Failure MethodRef
  | method r => .ok r
  | item => .error (item.lacks part)

end Item

/-- A predicate. Besides those of the library there are `custom` ones, with any test that a caller
brings, and `named` gives another predicate words of its own. -/
inductive Predicate
  | anything
  | nothing
  | custom (description : String) (answer : Item → Except Failure Bool)
  | ofNode (property : NodeProperty)
  | ofMethod (property : MethodProperty)
  | named (description : String) (p : Predicate)
  | neg (p : Predicate)
  | conj (ps : List Predicate)
  | disj (ps : List Predicate)
  | source (p : Predicate)
  | target (p : Predicate)
  | declaredIn (p : Predicate)
  deriving Inhabited

def conjDescription : List String → String
  | [] => "anything"
  | ds => " and ".intercalate ds

def disjDescription : List String → String
  | [] => "nothing"
  | [d] => d
  | ds => "(" ++ " or ".intercalate ds ++ ")"

def negDescription (d : String) : String := "not " ++ d

def sourceDescription (d : String) : String := "originate from classes that " ++ d

def targetDescription (d : String) : String := "depend on classes that " ++ d

def ownerDescription (d : String) : String := "are declared in classes that " ++ d

namespace Predicate

mutual

def description : Predicate → String
  | .anything => "anything"
  | .nothing => "nothing"
  | .custom d _ => d
  | .ofNode property => property.description
  | .ofMethod property => property.description
  | .named d _ => d
  | .neg p => negDescription p.description
  | .conj ps => conjDescription (descriptions ps)
  | .disj ps => disjDescription (descriptions ps)
  | .source p => sourceDescription p.description
  | .target p => targetDescription p.description
  | .declaredIn p => ownerDescription p.description

def descriptions : List Predicate → List String
  | [] => []
  | p :: rest => p.description :: descriptions rest

end

mutual

/-- Whether an item satisfies a predicate. Parts of a conjunction or disjunction are asked from
the left, and no further than needed. -/
def test (item : Item) : Predicate → Except Failure Bool
  | .anything => .ok true
  | .nothing => .ok false
  | .custom _ answer => answer item
  | .ofNode property => return property.holds (← item.node? property.part)
  | .ofMethod property => return property.holds (← item.method? "method").method
  | .named _ p => p.test item
  | .neg p => return !(← p.test item)
  | .conj ps => testAll item ps
  | .disj ps => testAny item ps
  | .source p => do p.test (.node (← item.edge? "source").source)
  | .target p => do p.test (.node (← item.edge? "target").target)
  | .declaredIn p => do p.test (.node (← item.method? "owner").owner)

def testAll (item : Item) : List Predicate → Except Failure Bool
  | [] => .ok true
  | p :: rest => do if ← p.test item then testAll item rest else return false

def testAny (item : Item) : List Predicate → Except Failure Bool
  | [] => .ok false
  | p :: rest => do if ← p.test item then return true else testAny item rest

end

def logging : Predicate := .ofNode (.inPackage "..logging..")

@[simp] theorem description_conj_singleton (p : Predicate) :
    (conj [p]).description = p.description := by
  simp [description, descriptions, conjDescription]

@[simp] theorem description_disj_singleton (p : Predicate) :
    (disj [p]).description = p.description := by
  simp [description, descriptions, disjDescription]

@[simp] theorem test_conj_singleton (p : Predicate) (item : Item) :
    (conj [p]).test item = p.test item := by
  simp only [test, testAll]
  rcases p.test item with e | _ | _ <;> rfl

@[simp] theorem test_disj_singleton (p : Predicate) (item : Item) :
    (disj [p]).test item = p.test item := by
  simp only [test, testAny]
  rcases p.test item with e | _ | _ <;> rfl

end Predicate

end Conformance
