import DumpTransfer.Dump.Extraction
import DumpTransfer.Dump.Line

/-! Passes over the lines of a dump: the databases in it, their number of tables, and the
content of some of them. Each pass also says at which places it reports progress, as one loop over
the lines does that gives them to a visitor.
-/

namespace DumpTransfer.Dump

/-- What happens while lines are read. -/
inductive Event where
  /-- A visitor has been given the text of a line. -/
  | visited (text : Text)
  /-- Progress has been reported. -/
  | reported (location : Location)
  deriving DecidableEq, Repr

/-- Gives one line after the other to a visitor until it wants no more. Progress is reported after
a line only if more are wanted.
-/
def visitLines {State : Type} (interval : Nat) (visitor : State → Text → Step × State)
    : State → List Line → State × List Event
  | state, [] => (state, [])
  | state, line :: rest =>
      match visitor state line.text with
      | (.done, final) => (final, [.visited line.text])
      | (.more, next) =>
          let (final, later) := visitLines interval visitor next rest
          (final, .visited line.text :: (progress interval [line]).map .reported ++ later)

/-- A result of a pass over the lines, with the places at which progress is reported. -/
structure Pass (result : Type) where
  value : result
  progress : List Location

/-- The names that boundaries give, in the order in which they first appear. -/
def databaseNames (lines : List Line) : List Text :=
  (lines.filterMap fun line => boundary? line.text).eraseDups

/-- Notes the name that a boundary gives, each once. -/
def noteName (names : List Text) (line : Text) : Step × List Text :=
  match boundary? line with
  | some name => (.more, if names.contains name then names else names ++ [name])
  | none => (.more, names)

/-- A pass for the names of the databases. -/
def scanNames (interval : Nat) (lines : List Line) : Pass (List Text) :=
  ⟨databaseNames lines, progress interval lines⟩

/-- The number of table definitions of each database so far, and the current database. -/
structure Summary where
  counts : List (Text × Nat) := []
  current : Option Text := none

namespace Summary

/-- The summary with a database made current. -/
def enter (summary : Summary) (database : Text) : Summary :=
  let known := summary.counts.any (·.1 = database)
  ⟨if known then summary.counts else summary.counts ++ [(database, 0)], some database⟩

/-- The summary with one more table in the current database, if there is one. -/
def addTable (summary : Summary) : Summary :=
  { summary with
    counts := summary.counts.map fun entry =>
      if summary.current = some entry.1 then (entry.1, entry.2 + 1) else entry }

/-- The summary after one more line. -/
def read (summary : Summary) (line : Text) : Summary :=
  match Marker.ofLine line with
  | .boundary database => summary.enter database
  | .definition _ => summary.addTable
  | _ => summary

end Summary

/-- The number of table definitions of each database, in the order of first appearance. -/
def tableCounts (lines : List Line) : List (Text × Nat) :=
  (lines.foldl (fun summary line => summary.read line.text) ({} : Summary)).counts

/-- A pass for the number of table definitions. -/
def scanTableCounts (interval : Nat) (lines : List Line) : Pass (List (Text × Nat)) :=
  ⟨tableCounts lines, progress interval lines⟩

/-- Reads lines until the machine is done; the lines before the one that made it so are those
after which progress may be reported.
-/
def runExtraction : Extraction → List Line → Extraction × List Line
  | state, [] => (state, [])
  | state, line :: rest =>
      match state.feed line.text with
      | (.done, final) => (final, [])
      | (.more, next) =>
          let (final, passed) := runExtraction next rest
          (final, line :: passed)

/-- The first content of a name, and the others. -/
def takeContent (name : Text)
    : List Database → Option Database × List Database
  | [] => (none, [])
  | content :: rest =>
      if content.name = name then (some content, rest)
      else
        let (found, others) := takeContent name rest
        (found, content :: others)

/-- The contents with one put in the place of its name, or at the end. -/
def putContent (content : Database) (contents : List Database)
    : List Database :=
  if contents.any (·.name = content.name) then
    contents.map fun entry => if entry.name = content.name then content else entry
  else contents ++ [content]

/-- The contents found, one for each name, in the order of the names. What a name has once
been given is gone, so a name that is repeated ends up with nothing.
-/
def arrange (found : List Database) (names : List Text) : List Database :=
  (names.foldl
    (fun (left, arranged) name =>
      let (content, others) := takeContent name left
      (others, putContent (content.getD { name }) arranged))
    (found, ([] : List Database))).2

/-- A pass for the contents of several databases. -/
def extractAll (interval : Nat) (names : List Text) (lines : List Line)
    : Pass (List Database) :=
  let (final, passed) := runExtraction (.start names) lines
  ⟨arrange final.finish names, progress interval passed⟩

/-- A pass for the content of one database, empty if the dump has none. -/
def extractOne (interval : Nat) (name : Text) (lines : List Line) : Pass Database :=
  let pass := extractAll interval [name] lines
  ⟨(takeContent name pass.value).1.getD { name }, pass.progress⟩

end DumpTransfer.Dump
