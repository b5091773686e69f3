import ReadGate.Evaluation.Runner
import ReadGate.Evaluation.Sample

/-!
# Command line

Evaluates the cases of a file, prints the report, writes it to a file if asked to, and ends with an
error if any case misses.
-/

namespace ReadGate.CommandLine

open Evaluation

/-- What the command line asks for. -/
structure Options where
  cases : Option String
  tables : Option String
  out : Option String
  deriving Repr

/-- How the program is called. -/
def usage : String :=
  "usage: --cases CASES [--tables TABLES] [--out OUT]"

/-- Reads the arguments; nothing if they do not fit. -/
def Options.read (options : Options) : List String → Option Options
  | [] => some options
  | "--cases" :: path :: rest => read { options with cases := some path } rest
  | "--tables" :: path :: rest => read { options with tables := some path } rest
  | "--out" :: path :: rest => read { options with out := some path } rest
  | _ => none

/-- Ends the program with a complaint. -/
def stop {α : Type} (complaint : String) : IO α :=
  throw (.userError complaint)

/-- A value, or the end of the program. -/
def orStop {α : Type} : Except Mishap α → IO α
  | .ok a => return a
  | .error m => stop m.message

/-- The tables in a file, or the sample if there is none. -/
def loadTables : Option String → IO (List (String × List Row))
  | none => return sampleTables
  | some path => do
    let text ← IO.FS.readFile path
    match Json.read Json.lenient text with
    | .ok v => return tablesOf v
    | .error e => stop (e.message text)

/-- Runs a case and measures how long it takes. -/
def judgeTimed (test : Value) : StateT (World MemoryStore) IO Verdict := do
  let start ← IO.monoNanosNow
  let (verdict, w) ← orStop ((judge test).run (← get))
  let stop ← IO.monoNanosNow
  set w
  return verdict.timed (.ofRatio false (stop - start) 1000000)

/-- Writes the report to a file whose folder is made if it is missing. -/
def write (path report : String) : IO Unit := do
  let folder := String.ofList (Text.dropEnd (· != '/') path.toList)
  if !folder.isEmpty then IO.FS.createDirAll folder
  IO.FS.writeFile path report

/-- Evaluates the cases of a file; the result is the complaint if any case misses. -/
def run (path : String) (options : Options) : IO (Option String) := do
  let tables ← loadTables options.tables
  let tests ← orStop (readCases (← IO.FS.readFile path))
  let verdicts ← (tests.mapM judgeTimed).run' (start tables)
  let report := (reportOf verdicts).text
  IO.println report
  options.out.forM fun out => write out report
  return gate verdicts

end ReadGate.CommandLine

/-- Evaluates the cases that the arguments name. -/
def main (args : List String) : IO UInt32 := do
  match ReadGate.CommandLine.Options.read ⟨none, none, none⟩ args with
  | some ⟨some path, tables, out⟩ =>
    match ← ReadGate.CommandLine.run path ⟨some path, tables, out⟩ with
    | some complaint => IO.eprintln complaint; return 1
    | none => return 0
  | _ => IO.eprintln ReadGate.CommandLine.usage; return 2
