import DumpTransfer.Warehouse.Script

/-! Procedures that share a number of workers. A procedure is started as soon as a worker is
free for it, unless the run has been cancelled by then; what has been started is finished, and
results come in the order of the procedures.
-/

namespace DumpTransfer.Migration.Pool

/-- Starts procedures in order while workers are free; when none is, those that have been
started are finished first, so that the next one takes a worker of theirs. Whether to start
another one is asked before a worker is waited for.
-/
def continueWith (workers : Nat)
    : Nat → List (Script α) → List (Script α) → Script (List α)
  | _, started, [] => Script.inTurn started
  | free, started, next :: rest => do
      if ← Script.isCancelled then Script.inTurn started
      else
        match free with
        | free + 1 => continueWith workers free (started ++ [next]) rest
        | 0 =>
            let finished ← Script.inTurn started
            return finished ++ (← continueWith workers (workers - 1) [next] rest)

/-- The results of procedures that share a number of workers, at least one. -/
def run (workers : Nat) (procedures : List (Script α)) : Script (List α) :=
  continueWith workers (max workers 1) [] procedures

end DumpTransfer.Migration.Pool
