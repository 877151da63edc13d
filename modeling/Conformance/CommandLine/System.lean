import Conformance.Baseline.Database
import Conformance.Baseline.Directory
import Conformance.Found

/-! What a run of the program needs of its surroundings. -/
namespace Conformance.CommandLine

open Baseline

structure System (m : Type → Type) where
  start : Path
  isTerminal : Bool
  clock : m Nat
  find : Path → m Found
  /-- What a baseline directory at a path holds under some names. -/
  place : Path → List String → m Place
  /-- Makes a baseline directory hold what is given; files of other names stay. -/
  setPlace : Path → Place → m Unit
  database : Path → m DatabaseFile
  setDatabase : Path → DatabaseFile → m Unit

end Conformance.CommandLine
