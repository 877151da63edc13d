/-! Tables as lines of text, with every column as wide as its widest cell. -/
namespace Conformance.CommandLine

def padded (width : Nat) (cell : String) : String :=
  cell ++ String.ofList (List.replicate (width - cell.length) ' ')

def widest : List Nat → List Nat → List Nat
  | a :: as, b :: bs => max a b :: widest as bs
  | [], bs => bs
  | as, [] => as

def tableWidths (rows : List (List String)) : List Nat :=
  rows.foldl (fun widths row => widest widths (row.map String.length)) []

def rowText (widths : List Nat) (row : List String) : String :=
  let cells := (widths.zip row).map fun (width, cell) => padded width cell
  ("  ".intercalate cells).trimAsciiEnd.toString

def tableText (title : String) (columns : List String) (rows : List (List String)) : String :=
  let widths := tableWidths (columns :: rows)
  let line := String.ofList (List.replicate (widths.foldl (· + · + 2) 0) '-')
  "\n".intercalate ([title, rowText widths columns, line] ++ rows.map (rowText widths)) ++ "\n"

end Conformance.CommandLine
