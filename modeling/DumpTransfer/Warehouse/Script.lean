import DumpTransfer.Destination
import DumpTransfer.Dump.Scan

/-! Procedures that ask things of their surroundings: of the warehouse, of whoever may cancel
them, and of the place where files for review go. A procedure says what it asks next for every
answer that it may get, and knows nothing else of what surrounds it.
-/

namespace DumpTransfer

/-- What the warehouse knows of a named foreign key on a table. -/
inductive KeyPresence where
  | absent
  /-- Attached without a check of the rows that were there. -/
  | unvalidated
  | validated
  deriving DecidableEq, Repr

/-- What a procedure may ask. -/
inductive Request where
  /-- To make sure that there is a catalog of a name. -/
  | provideCatalog (catalog : Text)
  /-- To open a session in which the names of a schema resolve. -/
  | openSession (target : Destination)
  /-- To execute a statement in the session for a schema that was opened last. -/
  | execute (target : Destination) (statement : Text)
  /-- What is known of a foreign key, in the same session. -/
  | keyPresence (target : Destination) (table key : Text)
  /-- Whether the procedure has been cancelled. -/
  | isCancelled
  /-- To write a file for review, and its directory if there is none. -/
  | writeReview (path text : Text)
  /-- To take note of how much of the dump has been read. -/
  | noteProgress (place : Dump.Location)
  deriving DecidableEq, Repr

namespace Request

/-- What a procedure gets in answer. -/
abbrev Reply : Request → Type
  | provideCatalog _ | openSession _ | writeReview _ _ => Except Failure Unit
  | execute _ _ => Except Failure Nat
  | keyPresence _ _ _ => Except Failure KeyPresence
  | isCancelled => Bool
  | noteProgress _ => Unit

/-- Whether the warehouse is asked. -/
def isForWarehouse : Request → Bool
  | provideCatalog _ | openSession _ | execute _ _ | keyPresence _ _ _ => true
  | isCancelled | writeReview _ _ | noteProgress _ => false

end Request

/-- A procedure that comes to a result. -/
inductive Script (result : Type) where
  | done (value : result)
  /-- Something is asked, and the answer decides what follows. -/
  | call (request : Request) (next : request.Reply → Script result)

namespace Script

/-- A procedure followed by another one that its result decides. -/
def andThen : Script α → (α → Script β) → Script β
  | done value, next => next value
  | call request rest, next => call request fun reply => (rest reply).andThen next

instance : Monad Script where
  pure := done
  bind := andThen

/-- Asks something and comes to the answer. -/
def ask (request : Request) : Script request.Reply :=
  call request done

/-- Executes a statement. -/
def execute (target : Destination) (statement : Text) : Script (Except Failure Nat) :=
  ask (.execute target statement)

/-- Whether the procedure has been cancelled. -/
def isCancelled : Script Bool :=
  ask .isCancelled

/-- Takes note of several places one after the other. -/
def noteProgress : List Dump.Location → Script Unit
  | [] => done ()
  | place :: rest => call (.noteProgress place) fun _ => noteProgress rest

/-- What a pass over the dump has come to, after taking note of its progress. -/
def readPass (pass : Dump.Pass α) : Script α := do
  noteProgress pass.progress
  return pass.value

/-- Procedures one after the other, with their results in order. -/
def inTurn : List (Script α) → Script (List α)
  | [] => done []
  | first :: rest => do
      let value ← first
      return value :: (← inTurn rest)

/-- The result of a procedure in surroundings that answer from a state and change it. -/
def run (answer : (request : Request) → σ → request.Reply × σ) : Script α → σ → α × σ
  | done value, state => (value, state)
  | call request next, state =>
      let (reply, later) := answer request state
      (next reply).run answer later

end Script

end DumpTransfer
