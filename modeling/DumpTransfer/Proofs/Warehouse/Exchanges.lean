import DumpTransfer.Proofs.Warehouse.Mirroring

/-! What a procedure asks and what it is answered. A procedure asks one thing after the other and
each answer decides what is asked next, so a run leaves a record of requests with their replies,
and whoever gives the same replies gets the same record and the same result.
-/

namespace DumpTransfer

/-- A request with the reply that it got. -/
structure Exchange where
  request : Request
  reply : request.Reply

namespace Exchange

/-- Whether the warehouse was asked. -/
def isForWarehouse (exchange : Exchange) : Bool :=
  exchange.request.isForWarehouse

/-- Whether what was asked for was carried out. -/
def Succeeded (exchange : Exchange) : Prop :=
  exchange.request.Granted exchange.reply

end Exchange

namespace Script

variable {σ α β : Type}

/-- The requests of a run with their replies, in order. -/
def exchanges (answer : Answer σ) : Script α → σ → List Exchange
  | done _, _ => []
  | call request next, state =>
      let (reply, later) := answer request state
      ⟨request, reply⟩ :: (next reply).exchanges answer later

/-- The calls on the warehouse among the exchanges of a run. -/
def calls (answer : Answer σ) (script : Script α) (state : σ) : List Exchange :=
  (script.exchanges answer state).filter Exchange.isForWarehouse

section Sequences

variable (answer : Answer σ)

@[simp] theorem run_pure (value : α) (state : σ)
    : (pure value : Script α).run answer state = (value, state) :=
  rfl

@[simp] theorem exchanges_pure (value : α) (state : σ)
    : (pure value : Script α).exchanges answer state = [] :=
  rfl

@[simp] theorem exchanges_ask (request : Request) (state : σ)
    : (ask request).exchanges answer state = [⟨request, (answer request state).1⟩] :=
  rfl

/-- A sequence leaves one record after the other, by induction over the requests of the first
procedure.
-/
theorem exchanges_bind (first : Script α) (next : α → Script β) (state : σ)
    : (first >>= next).exchanges answer state
      = first.exchanges answer state
        ++ (next (first.run answer state).1).exchanges answer (first.run answer state).2 := by
  change (first.andThen next).exchanges answer state = _
  induction first generalizing state with
  | done value => rfl
  | call request rest ih =>
      exact congrArg (_ :: ·) (ih (answer request state).1 (answer request state).2)

@[simp] theorem calls_pure (value : α) (state : σ)
    : (pure value : Script α).calls answer state = [] :=
  rfl

theorem calls_bind (first : Script α) (next : α → Script β) (state : σ)
    : (first >>= next).calls answer state
      = first.calls answer state
        ++ (next (first.run answer state).1).calls answer (first.run answer state).2 := by
  rw [calls, exchanges_bind, List.filter_append]
  rfl

@[simp] theorem calls_isCancelled (state : σ)
    : isCancelled.calls answer state = [] :=
  rfl

/-- Everything in the record is of the kind that the procedure asks. -/
theorem AsksOnly.exchanges {kind : Request → Prop} {script : Script α}
    (only : script.AsksOnly kind) (state : σ)
    : ∀ exchange ∈ script.exchanges answer state, kind exchange.request := by
  induction script generalizing state with
  | done value => simp [Script.exchanges]
  | call request rest ih =>
      intro exchange member
      rcases List.mem_cons.mp member with rfl | later
      · exact only.1
      · exact ih _ (only.2 _) _ exchange later

/-- A procedure that asks nothing but the warehouse makes a call with each request. -/
theorem AsksOnly.calls_eq {script : Script α}
    (only : script.AsksOnly fun request => request.isForWarehouse = true) (state : σ)
    : script.calls answer state = script.exchanges answer state :=
  List.filter_eq_self.mpr (only.exchanges answer state)

end Sequences

-----------------------------------------------------------------------------------------
-- Warehouses that always give the same replies
-----------------------------------------------------------------------------------------

/-- A reply to every request. -/
abbrev Replies :=
  (request : Request) → request.Reply

/-- Surroundings without a state, which give the same reply whenever they are asked. -/
def steadily (replies : Replies) : Answer Unit :=
  fun request _ => (replies request, ())

/-- A warehouse whose replies depend on nothing but what it is asked. -/
def Steady (answer : Answer σ) (replies : Replies) : Prop :=
  ∀ request state, request.isForWarehouse = true → (answer request state).1 = replies request

/-- Against such a warehouse a procedure that asks nothing else comes to the same result wherever
in a run it stands.
-/
theorem Steady.run_eq {answer : Answer σ} {replies : Replies} (steady : Steady answer replies)
    {script : Script α} (only : script.AsksOnly fun request => request.isForWarehouse = true)
    (state : σ)
    : (script.run answer state).1 = (script.run (steadily replies) ()).1 := by
  induction script generalizing state with
  | done value => rfl
  | call request rest ih =>
      have same := steady request state only.1
      change ((rest (answer request state).1).run answer (answer request state).2).1
        = ((rest (replies request)).run (steadily replies) ()).1
      rw [same]
      exact ih _ (only.2 _) _

/-- It also leaves the same record. -/
theorem Steady.exchanges_eq {answer : Answer σ} {replies : Replies}
    (steady : Steady answer replies) {script : Script α}
    (only : script.AsksOnly fun request => request.isForWarehouse = true) (state : σ)
    : script.exchanges answer state = script.exchanges (steadily replies) () := by
  induction script generalizing state with
  | done value => rfl
  | call request rest ih =>
      have same := steady request state only.1
      change ⟨request, (answer request state).1⟩
          :: (rest (answer request state).1).exchanges answer (answer request state).2
        = ⟨request, replies request⟩ :: (rest (replies request)).exchanges (steadily replies) ()
      rw [same]
      exact congrArg _ (ih _ (only.2 _) _)

/-- The result of a procedure is decided by the replies to its own requests. -/
theorem run_steadily_eq {replies others : Replies} {script : Script α}
    (agree : ∀ exchange ∈ script.exchanges (steadily replies) (),
      others exchange.request = exchange.reply)
    : (script.run (steadily others) ()).1 = (script.run (steadily replies) ()).1 := by
  induction script with
  | done value => rfl
  | call request rest ih =>
      have same : others request = replies request := agree ⟨request, replies request⟩ (by
        simp [exchanges, steadily])
      change ((rest (others request)).run (steadily others) ()).1
        = ((rest (replies request)).run (steadily replies) ()).1
      rw [same]
      refine ih (replies request) fun exchange member => agree exchange ?_
      exact List.mem_cons_of_mem _ member

-----------------------------------------------------------------------------------------
-- Cancellation that is never taken back
-----------------------------------------------------------------------------------------

/-- Whether a procedure that asks in a state learns that it has been cancelled. -/
def Cancelled (answer : Answer σ) (state : σ) : Prop :=
  (answer .isCancelled state).1 = true

/-- Nothing that is asked takes a cancellation back. -/
def CancelsForGood (answer : Answer σ) : Prop :=
  ∀ request state, Cancelled answer state → Cancelled answer (answer request state).2

/-- What has been cancelled stays so, by induction over the requests of a procedure. -/
theorem CancelsForGood.run {answer : Answer σ} (forGood : CancelsForGood answer)
    (script : Script α) {state : σ} (cancelled : Cancelled answer state)
    : Cancelled answer (script.run answer state).2 := by
  induction script generalizing state with
  | done value => exact cancelled
  | call request rest ih => exact ih _ (forGood request state cancelled)

end Script

end DumpTransfer
