import DumpTransfer.Sql.Parenthesis
import DumpTransfer.Text.Utf8

/-! Parentheses, commas and runs of a statement by their places among its bytes. Every sign that
counts is a single byte, and no byte of a longer character looks like one, so the bytes are passed
over one by one.
-/

namespace DumpTransfer.Sql.Offset

/-- Whether a byte is a quote of literals or names. -/
def isQuote (byte : UInt8) : Bool :=
  byte = '\''.toUInt8 || byte = '"'.toUInt8 || byte = '`'.toUInt8

/-- How the search for a closing parenthesis comes out. -/
inductive Search where
  /-- The parenthesis has the given offset. -/
  | found (offset : Nat)
  /-- The statement ends before the parenthesis is closed. -/
  | missing
  /-- A parenthesis is closed while none is open. -/
  | underflow
  deriving DecidableEq, Repr

/-- The search through bytes of which the first has the given offset, while a quote is pending or
not and a number of parentheses is open. A pending quote that is written twice stays pending.
-/
def searchClose (pending : Option UInt8) (depth offset : Nat) : List UInt8 → Search
  | [] => .missing
  | byte :: rest =>
      match pending with
      | some quote =>
          if byte ≠ quote then searchClose pending depth (offset + 1) rest
          else
            match rest with
            | [] => .missing
            | next :: later =>
                if next = quote then searchClose pending depth (offset + 2) later
                else searchClose none depth (offset + 1) (next :: later)
      | none =>
          if isQuote byte then searchClose (some byte) depth (offset + 1) rest
          else if byte = '('.toUInt8 then searchClose none (depth + 1) (offset + 1) rest
          else if byte = ')'.toUInt8 then
            match depth with
            | 0 => .underflow
            | 1 => .found offset
            | depth + 2 => searchClose none (depth + 1) (offset + 1) rest
          else searchClose none depth (offset + 1) rest

/-- The search for the parenthesis that closes the one at an offset, if there is one there. -/
def closing (statement : Text) (opening : Nat) : Search :=
  match (Utf8.encode statement).drop opening with
  | [] => .missing
  | byte :: rest =>
      if byte = '('.toUInt8 then searchClose none 0 opening (byte :: rest) else .missing

/-- The offset of the first opening parenthesis of a statement. -/
def firstOpen? (statement : Text) : Option Nat :=
  (Parenthesis.firstOpen? statement).map fun (head, _) => Text.byteLength head

/-- Slices with bytes put before the first one. -/
def extendFirst (bytes : List UInt8) : List (List UInt8) → List (List UInt8)
  | [] => [bytes]
  | first :: others => (bytes ++ first) :: others

/-- The slices of bytes between the commas outside quotes and parentheses, at least one. A pending
quote that is written twice stays pending.
-/
def slicesFrom (pending : Option UInt8) (depth : Int) : List UInt8 → List (List UInt8)
  | [] => [[]]
  | byte :: rest =>
      match pending with
      | some quote =>
          if byte ≠ quote then extendFirst [byte] (slicesFrom pending depth rest)
          else
            match rest with
            | [] => [[byte]]
            | next :: later =>
                if next = quote then extendFirst [byte, next] (slicesFrom pending depth later)
                else extendFirst [byte] (slicesFrom none depth (next :: later))
      | none =>
          if isQuote byte then extendFirst [byte] (slicesFrom (some byte) depth rest)
          else if byte = '('.toUInt8 then extendFirst [byte] (slicesFrom none (depth + 1) rest)
          else if byte = ')'.toUInt8 then extendFirst [byte] (slicesFrom none (depth - 1) rest)
          else if byte = ','.toUInt8 && depth = 0 then [] :: slicesFrom none depth rest
          else extendFirst [byte] (slicesFrom none depth rest)

/-- The items of a list, as slices of its bytes. -/
def slices (list : Text) : List (List UInt8) :=
  slicesFrom none 0 (Utf8.encode list)

/-- What the next byte of a statement stands in. -/
inductive Place where
  | code
  | literal
  /-- A name that ends at the given quote. -/
  | name (close : UInt8)
  deriving DecidableEq, Repr

/-- A run of a statement: the offset of its first byte and the one after its last byte. -/
structure Span where
  isLiteral : Bool
  start : Nat
  finish : Nat
  deriving DecidableEq, Repr

/-- A run of code between two offsets, unless they are the same. -/
def codeSpan (start finish : Nat) : List Span :=
  if start < finish then [⟨false, start, finish⟩] else []

/-- The runs of bytes of which the first has the given offset, when the run that it belongs to has
the given start. A quote of a literal or name that is written twice and what follows a backslash in
a literal are passed over together.
-/
def spansFrom (style : LiteralStyle) (place : Place) (start offset : Nat)
    : List UInt8 → List Span
  | [] => if place = .literal then [⟨true, start, offset⟩] else codeSpan start offset
  | byte :: rest =>
      match place with
      | .code =>
          if byte = '\''.toUInt8 then
            codeSpan start offset ++ spansFrom style .literal offset (offset + 1) rest
          else if byte = '`'.toUInt8 || byte = '"'.toUInt8 then
            spansFrom style (.name byte) start (offset + 1) rest
          else spansFrom style .code start (offset + 1) rest
      | .literal =>
          if byte = '\\'.toUInt8 && style = .backslash then
            match rest with
            | [] => [⟨true, start, offset + 1⟩]
            | _ :: later => spansFrom style .literal start (offset + 2) later
          else if byte = '\''.toUInt8 then
            match rest with
            | [] => [⟨true, start, offset + 1⟩]
            | next :: later =>
                if next = '\''.toUInt8 then spansFrom style .literal start (offset + 2) later
                else
                  ⟨true, start, offset + 1⟩
                    :: spansFrom style .code (offset + 1) (offset + 1) (next :: later)
          else spansFrom style .literal start (offset + 1) rest
      | .name close =>
          if byte ≠ close then spansFrom style (.name close) start (offset + 1) rest
          else
            match rest with
            | [] => codeSpan start (offset + 1)
            | next :: later =>
                if next = close then spansFrom style (.name close) start (offset + 2) later
                else spansFrom style .code start (offset + 1) (next :: later)

/-- The runs of a statement by their offsets. -/
def spans (style : LiteralStyle) (statement : Text) : List Span :=
  spansFrom style .code 0 0 (Utf8.encode statement)

end DumpTransfer.Sql.Offset
