import Conformance.Yaml.Cursor

/-! Scalars without quotes. They may go on over lines that are indented deep enough. -/
namespace Conformance.Yaml.Token

def isFlowMark (c : Char) : Bool := c == ',' || c == '[' || c == ']' || c == '{' || c == '}'

/-- The characters up to a gap, a line's end, a colon that ends a word, or a mark of the flow
collection around. -/
def plainRun (inFlow : Bool) : List Char → List Char
  | [] => []
  | ch :: rest =>
    let endsWord := rest.head?.all fun n => isGap n || isBreak n || (inFlow && isFlowMark n)
    if isGap ch || isBreak ch || (ch == ':' && endsWord) || (inFlow && (isFlowMark ch || ch == '?'))
    then []
    else ch :: plainRun inFlow rest

def plainBreaks : Nat → Cursor → Option (List Char) × Cursor
  | 0, c => (none, c)
  | fuel + 1, c =>
    let c := c.skipSpaces
    match c.lineBreak? with
    | some (ch, c) =>
      if c.atDocumentMarks then (none, c)
      else
        let (breaks, c) := plainBreaks fuel c
        (breaks.map (ch :: ·), c)
    | none => (some [], c)

/-- What parts the words of a plain scalar, whether it holds a line break, and the point after it.
Nothing parts them if the scalar is over. -/
def plainGap (c : Cursor) : List Char × Bool × Cursor :=
  let (spaces, c) := c.span (· == ' ')
  match c.lineBreak? with
  | none => (spaces, false, c)
  | some (first, c) =>
    if c.atDocumentMarks then ([], true, c)
    else match plainBreaks (c.rest.length + 1) c with
      | (none, c) => ([], true, c)
      | (some breaks, c) =>
        let gap :=
          if first != '\n' then first :: breaks else if breaks.isEmpty then [' '] else breaks
        (gap, true, c)

/-- The words of a plain scalar with the gaps between them, whether a line ended after the last of
them, and the point after it. `gap` stands before the next word. -/
def plainWords (inFlow : Bool) (column : Int) (gap : List Char) (ended : Bool) :
    Nat → Cursor → List Char × Bool × Cursor
  | 0, c => ([], ended, c)
  | fuel + 1, c =>
    let run := if c.peek? 0 == some '#' then [] else plainRun inFlow c.rest
    if run.isEmpty then ([], ended, c)
    else
      let (after, ended, c) := plainGap (c.skip run.length)
      if after.isEmpty || c.peek? 0 == some '#' || (!inFlow && c.column < column) then
        (gap ++ run, ended, c)
      else
        let (others, ended, c) := plainWords inFlow column after ended fuel c
        (gap ++ run ++ others, ended, c)

def plain (inFlow : Bool) (indent : Int) (c : Cursor) : String × Bool × Cursor :=
  let (text, ended, c) := plainWords inFlow (indent + 1) [] false (c.rest.length + 1) c
  (String.ofList text, ended, c)

end Conformance.Yaml.Token
