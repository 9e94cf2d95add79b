import DumpTransfer.Text.Utf8

/-! The lines of a dump: what stands between line feeds, read as text, with the place in the
file that is reported as progress.
-/

namespace DumpTransfer.Dump

/-- How much of a dump has been read. -/
structure Location where
  /-- The number of lines read. -/
  line : Nat := 0
  /-- The number of bytes read. -/
  byteOffset : Nat := 0
  deriving DecidableEq, Repr

/-- A line of a dump and the place after it. -/
structure Line where
  text : Text
  finish : Location
  deriving DecidableEq, Repr

namespace Line

/-- The byte that ends a line. -/
def terminator : UInt8 :=
  10

/-- The pieces of a file that each end after a line feed; the last need not. -/
def pieces : List UInt8 → List (List UInt8)
  | [] => []
  | byte :: rest =>
      if byte = terminator then [byte] :: pieces rest
      else
        match pieces rest with
        | [] => [[byte]]
        | first :: others => (byte :: first) :: others

/-- The text of a piece, without line feeds and carriage returns at its end. -/
def textOf (piece : List UInt8) : Text :=
  Text.dropEndWhile (fun char => char = '\n' || char = '\r') (Utf8.decode piece)

/-- The lines that pieces hold when some of the file has been read before them. -/
def number : Location → List (List UInt8) → List Line
  | _, [] => []
  | before, piece :: rest =>
      let finish : Location := ⟨before.line + 1, before.byteOffset + piece.length⟩
      ⟨textOf piece, finish⟩ :: number finish rest

/-- The lines of a file. -/
def ofBytes (bytes : List UInt8) : List Line :=
  number {} (pieces bytes)

end Line

/-- The places among lines read at which progress is reported: after every so many lines. -/
def progress (interval : Nat) (lines : List Line) : List Location :=
  (lines.map (·.finish)).filter fun location => location.line % max interval 1 = 0

end DumpTransfer.Dump
