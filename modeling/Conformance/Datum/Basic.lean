import Conformance.Datum.Moment
import Conformance.Number.Text
import Conformance.Text.Quoted

/-! The value of a document: scalars, lists, and mappings that keep the order of their entries. -/
namespace Conformance

open Number

/-- A value without parts; only these are keys of mappings. -/
inductive Scalar
  | null
  | bool (b : Bool)
  | int (n : Int)
  | float (x : Binary64)
  | text (s : String)
  | date (d : Date)
  | moment (m : Moment)
  | bytes (bs : List UInt8)
  deriving DecidableEq, Repr

inductive Datum
  | scalar (s : Scalar)
  | list (items : List Datum)
  | mapping (entries : List (Scalar × Datum))
  | set (members : List Scalar)
  deriving Repr

instance : Inhabited Datum := ⟨.scalar .null⟩

namespace Scalar

def integer? : Scalar → Option Int
  | bool b => some (if b then 1 else 0)
  | int n => some n
  | float x => x.toInt?
  | _ => none

/-- Equality of keys: numbers by value, where a truth value counts as 0 or 1. -/
def same : Scalar → Scalar → Bool
  | float x, float y => x.same y
  | bool a, bool b => a == b
  | int m, int n => m == n
  | a, b =>
    match a.integer?, b.integer? with
    | some m, some n => m == n
    | none, none => a == b
    | _, _ => false

def isTruthy : Scalar → Bool
  | null => false
  | bool b => b
  | int n => n != 0
  | float x => !x.isZero
  | text s => s != ""
  | date _ | moment _ => true
  | bytes bs => !bs.isEmpty

def escapeByte (q : Char) (b : UInt8) : List Char :=
  let c := Char.ofNat b.toNat
  Text.escape (fun c => 0x20 ≤ c.toNat && c.toNat < 0x7F) q c

def bytesLiteral (bs : List UInt8) : String :=
  let q := Text.quoteFor (bs.map fun b => Char.ofNat b.toNat)
  String.ofList ('b' :: q :: bs.flatMap (escapeByte q) ++ [q])

def plain : Scalar → String
  | null => "None"
  | bool b => if b then "True" else "False"
  | int n => toString n
  | float x => x.text
  | text s => s
  | date d => d.plain
  | moment m => m.plain
  | bytes bs => bytesLiteral bs

/-- A value as it stands inside another: a text between quotes. -/
def literal : Scalar → String
  | text s => Text.quoted s
  | date d => d.literal
  | moment m => m.literal
  | s => s.plain

def typeName : Scalar → String
  | null => "NoneType"
  | bool _ => "bool"
  | int _ => "int"
  | float _ => "float"
  | text _ => "str"
  | date _ => "datetime.date"
  | moment _ => "datetime.datetime"
  | bytes _ => "bytes"

@[simp] theorem same_text (a b : String) : (text a).same (text b) = (a == b) := by
  rw [Bool.eq_iff_iff]
  simp [same, integer?]

end Scalar

namespace Datum

@[match_pattern] abbrev null : Datum := .scalar .null
@[match_pattern] abbrev bool (b : Bool) : Datum := .scalar (.bool b)
@[match_pattern] abbrev int (n : Int) : Datum := .scalar (.int n)
@[match_pattern] abbrev float (x : Binary64) : Datum := .scalar (.float x)
@[match_pattern] abbrev text (s : String) : Datum := .scalar (.text s)

def isTruthy : Datum → Bool
  | .scalar s => s.isTruthy
  | .list items => !items.isEmpty
  | .mapping entries => !entries.isEmpty
  | .set members => !members.isEmpty

def isNull : Datum → Bool
  | null => true
  | _ => false

def lookup? (key : String) (entries : List (Scalar × Datum)) : Option Datum :=
  entries.findSome? fun e => if e.1.same (.text key) then some e.2 else none

/-- Sets an entry: a key that is there keeps its place and takes the new value. -/
def insert (key : Scalar) (value : Datum) :
    List (Scalar × Datum) → List (Scalar × Datum)
  | [] => [(key, value)]
  | e :: rest => if e.1.same key then (e.1, value) :: rest else e :: insert key value rest

def typeName : Datum → String
  | .scalar s => s.typeName
  | .list _ => "list"
  | .mapping _ => "dict"
  | .set _ => "set"

mutual

def literal : Datum → String
  | .scalar s => s.literal
  | .list items => "[" ++ ", ".intercalate (literals items) ++ "]"
  | .mapping entries => "\x7b" ++ ", ".intercalate (entryLiterals entries) ++ "\x7d"
  | .set [] => "set()"
  | .set members => "\x7b" ++ ", ".intercalate (members.map Scalar.literal) ++ "\x7d"

def literals : List Datum → List String
  | [] => []
  | d :: rest => d.literal :: literals rest

def entryLiterals : List (Scalar × Datum) → List String
  | [] => []
  | (k, d) :: rest => (k.literal ++ ": " ++ d.literal) :: entryLiterals rest

end

def plain : Datum → String
  | .scalar s => s.plain
  | d => d.literal

@[simp] theorem plain_text (s : String) : (text s).plain = s := rfl

end Datum

end Conformance
