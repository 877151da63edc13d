import Conformance.Facts.Graph
import Conformance.Package.Match
import Conformance.Regex.Compiled
import Conformance.Text.Case

/-! Elementary properties of nodes and methods, each with the words that describe it. -/
namespace Conformance

open Facts

inductive NodeProperty
  | inPackage (pattern : String)
  | packageUnder (start : String)
  | simpleName (name : String)
  | simpleNameContaining (text : String)
  | nameMatching (r : Regex.Compiled)
  | ofKind (kind : String)
  | isInterface
  | hasModifier (modifier : String)
  | implementing (capability : String)
  | annotatedWith (name : String)
  | hasField (name : String) (modifiers : List String) (type : Option String)
  | lowercasePackage
  | accessing (members : List String)
  deriving Inhabited

inductive MethodProperty
  | named (name : String)
  | annotatedWith (name : String)
  | parameterCount (low high : Int)
  deriving Inhabited

def occursIn (part : List Char) : List Char → Bool
  | [] => part.isEmpty
  | c :: rest => part.isPrefixOf (c :: rest) || occursIn part rest

/-- Whether a name is meant by a wanted one: the same name, or, for a wanted name without dots,
one that ends in it. -/
def sameName (wanted actual : String) : Bool :=
  wanted == actual || (!wanted.toList.contains '.' && simpleNameOf actual == wanted)

def loweredModifiers (modifiers : List String) : List String :=
  (NameSet.ofList (modifiers.map Text.lower)).names

def isUnder (start package : String) : Bool :=
  package == start || (start ++ ".").toList.isPrefixOf package.toList

/-- Whether a node declares a field with all the modifiers and, if given, of the type. The first
field of the name decides. -/
def declaresField (name : String) (modifiers : List String) (type : Option String) (n : Node) :
    Bool :=
  match n.fields.find? (·.name == name) with
  | none => false
  | some field =>
    (loweredModifiers modifiers).all (field.modifiers.names.map Text.lower).contains
      && type.all fun type => sameName type field.type

def fieldDescription (name : String) (modifiers : List String) (type : Option String) : String :=
  let wanted := loweredModifiers modifiers
  s!"have a field '{name}'"
    ++ (if wanted.isEmpty then "" else " with modifiers " ++ quotedList wanted)
    ++ ((type.map fun type => s!" of type {type}").getD "")

namespace NodeProperty

def description : NodeProperty → String
  | inPackage pattern => s!"reside in a package '{pattern}'"
  | packageUnder start => s!"reside in a package starting with '{start}'"
  | simpleName name => s!"have simple name '{name}'"
  | simpleNameContaining text => s!"have simple name containing '{text}'"
  | nameMatching r => s!"have name matching '{r.text}'"
  | ofKind kind => s!"are of kind {kind}"
  | isInterface => "are interfaces"
  | hasModifier modifier => "have modifier " ++ Text.upper modifier
  | implementing capability => s!"implement {capability}"
  | annotatedWith name => s!"are annotated with @{name}"
  | hasField name modifiers type => fieldDescription name modifiers type
  | lowercasePackage => "have a lower-case package name"
  | accessing members => "access any of " ++ quotedList (NameSet.ofList members).names

def holds (n : Node) : NodeProperty → Bool
  | inPackage pattern => (Package.Pattern.ofString pattern).accepts n.package
  | packageUnder start => isUnder start n.package
  | simpleName name => n.simpleName == name
  | simpleNameContaining text => occursIn text.toList n.simpleName.toList
  | nameMatching r => r.matchesAll n.name
  | ofKind kind => n.kind == kind
  | isInterface => n.kind == "interface"
  | hasModifier modifier => (n.modifiers.names.map Text.lower).contains (Text.lower modifier)
  | implementing capability => n.capabilities.names.any (sameName capability)
  | annotatedWith name => n.annotations.names.any (sameName name)
  | hasField name modifiers type => declaresField name modifiers type n
  | lowercasePackage => n.package == Text.lower n.package
  | accessing members => members.any fun m => m ∈ n.accesses

def part : NodeProperty → String
  | inPackage _ | packageUnder _ | lowercasePackage => "package"
  | simpleName _ | simpleNameContaining _ => "simple_name"
  | nameMatching _ => "qualified_name"
  | ofKind _ | isInterface => "kind"
  | hasModifier _ => "modifiers"
  | implementing _ => "capabilities"
  | annotatedWith _ => "annotations"
  | hasField .. => "fields"
  | accessing _ => "member_accesses"

end NodeProperty

namespace MethodProperty

def description : MethodProperty → String
  | named name => s!"are named '{name}'"
  | annotatedWith name => s!"are annotated with @{name}"
  | parameterCount low high => s!"have between {low} and {high} parameters"

def holds (m : Method) : MethodProperty → Bool
  | named name => m.name == name
  | annotatedWith name => m.annotations.names.any (sameName name)
  | parameterCount low high => low ≤ m.count.value && m.count.value ≤ high

end MethodProperty

end Conformance
