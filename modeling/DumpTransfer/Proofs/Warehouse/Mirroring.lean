import DumpTransfer.Warehouse.Script
import Mathlib.Data.List.Forall2

/-! Two procedures side by side, each in its own surroundings. One mirrors the other when, from
states that are alike, its result is a given image of the other's result and the states are alike
again. Mirroring goes through sequencing, so it is shown for one request at a time.
-/

namespace DumpTransfer

namespace Request

/-- Whether the answer to a request is that it was carried out. -/
def Granted : (request : Request) → request.Reply → Prop
  | .provideCatalog _, reply | .openSession _, reply | .writeReview _ _, reply =>
      reply = .ok ()
  | .execute _ _, reply => ∃ count, reply = .ok count
  | .keyPresence _ _ _, reply => ∃ presence, reply = .ok presence
  | .isCancelled, _ | .noteProgress _, _ => True

end Request

namespace Script

/-- How surroundings answer requests from a state, and the state after each. -/
abbrev Answer (σ : Type) :=
  (request : Request) → σ → request.Reply × σ

section Runs

variable {σ : Type} (answer : Answer σ)

/-- A sequence is run one procedure after the other, by induction over the requests of the
first.
-/
theorem run_bind {α β : Type} (first : Script α) (next : α → Script β) (state : σ)
    : (first >>= next).run answer state
      = (next (first.run answer state).1).run answer (first.run answer state).2 := by
  change (first.andThen next).run answer state = _
  induction first generalizing state with
  | done value => rfl
  | call request rest ih => exact ih (answer request state).1 (answer request state).2

@[simp] theorem run_ask (request : Request) (state : σ)
    : (ask request).run answer state = answer request state :=
  rfl

end Runs

/-- Every request that the procedure may make, whatever it is answered, is of a kind. -/
def AsksOnly {α : Type} (kind : Request → Prop) : Script α → Prop
  | done _ => True
  | call request next => kind request ∧ ∀ reply, (next reply).AsksOnly kind

section Requests

variable {kind : Request → Prop} {α β : Type}

theorem asksOnly_pure (value : α)
    : (pure value : Script α).AsksOnly kind :=
  trivial

theorem asksOnly_ask {request : Request} (allowed : kind request)
    : (ask request).AsksOnly kind :=
  ⟨allowed, fun _ => trivial⟩

theorem AsksOnly.bind {first : Script α} (firstOnly : first.AsksOnly kind)
    {next : α → Script β} (nextOnly : ∀ value, (next value).AsksOnly kind)
    : (first >>= next).AsksOnly kind := by
  change (first.andThen next).AsksOnly kind
  induction first with
  | done value => exact nextOnly value
  | call request rest ih => exact ⟨firstOnly.1, fun reply => ih reply (firstOnly.2 reply)⟩

theorem AsksOnly.mono {wider : Request → Prop} {script : Script α} (only : script.AsksOnly kind)
    (allowed : ∀ {request}, kind request → wider request)
    : script.AsksOnly wider := by
  induction script with
  | done value => trivial
  | call request rest ih => exact ⟨allowed only.1, fun reply => ih reply (only.2 reply)⟩

theorem asksOnly_noteProgress (allowed : ∀ place, kind (.noteProgress place))
    (places : List Dump.Location)
    : (noteProgress places).AsksOnly kind := by
  induction places with
  | nil => trivial
  | cons place rest ih => exact ⟨allowed place, fun _ => ih⟩

theorem asksOnly_readPass (allowed : ∀ place, kind (.noteProgress place)) (pass : Dump.Pass α)
    : (readPass pass).AsksOnly kind :=
  (asksOnly_noteProgress allowed pass.progress).bind fun _ => asksOnly_pure pass.value

theorem asksOnly_inTurn {procedures : List (Script α)}
    (all : ∀ procedure ∈ procedures, procedure.AsksOnly kind)
    : (inTurn procedures).AsksOnly kind := by
  induction procedures with
  | nil => trivial
  | cons first rest ih =>
      refine (all first (by simp)).bind fun value => ?_
      exact (ih fun procedure member => all procedure (by simp [member])).bind fun _ =>
        asksOnly_pure _

end Requests

-----------------------------------------------------------------------------------------
-- Surroundings that are alike except for the warehouse
-----------------------------------------------------------------------------------------

/-- Surroundings of a rehearsal and of the real procedure between which states are alike. Nobody
cancels either procedure, files for review are written with the same outcome, and every call on
the warehouse of the real procedure succeeds and leaves the rehearsal's state as good as before.
-/
structure Rehearsing {σ τ : Type} (rehearsal : Answer σ) (real : Answer τ)
    (alike : σ → τ → Prop)
    : Prop where
  uncancelled
    : ∀ {before after}, alike before after →
        (rehearsal .isCancelled before).1 = false
        ∧ (real .isCancelled after).1 = false
        ∧ alike (rehearsal .isCancelled before).2 (real .isCancelled after).2
  review
    : ∀ {before after}, alike before after →
        ∀ path text,
          (rehearsal (.writeReview path text) before).1
            = (real (.writeReview path text) after).1
          ∧ alike (rehearsal (.writeReview path text) before).2
              (real (.writeReview path text) after).2
  progress
    : ∀ {before after}, alike before after →
        ∀ place,
          alike (rehearsal (.noteProgress place) before).2 (real (.noteProgress place) after).2
  granted
    : ∀ {before after}, alike before after →
        ∀ request,
          request.isForWarehouse = true →
          request.Granted (real request after).1 ∧ alike before (real request after).2

/-- From states that are alike, the result of the first procedure is the image of the result of
the second, and the states after them are alike.
-/
def Mirrors {σ τ α β : Type} (rehearsal : Answer σ) (real : Answer τ) (alike : σ → τ → Prop)
    (image : α → β) (rehearsed : Script β) (actual : Script α)
    : Prop :=
  ∀ before after, alike before after →
    (rehearsed.run rehearsal before).1 = image (actual.run real after).1
    ∧ alike (rehearsed.run rehearsal before).2 (actual.run real after).2

section Mirroring

variable {σ τ : Type} {rehearsal : Answer σ} {real : Answer τ} {alike : σ → τ → Prop}
variable {α β γ δ : Type} {image : α → β} {later : γ → δ}

theorem mirrors_pure {value : α} {other : β} (same : other = image value)
    : Mirrors rehearsal real alike image (pure other) (pure value) :=
  fun _ _ start => ⟨same, start⟩

/-- Mirroring goes on after procedures that mirror each other. -/
theorem Mirrors.bind {rehearsed : Script β} {actual : Script α}
    (first : Mirrors rehearsal real alike image rehearsed actual)
    {next : β → Script δ} {actualNext : α → Script γ}
    (rest : ∀ value, Mirrors rehearsal real alike later (next (image value)) (actualNext value))
    : Mirrors rehearsal real alike later (rehearsed >>= next) (actual >>= actualNext) := by
  intro before after start
  obtain ⟨same, settled⟩ := first before after start
  rw [run_bind, run_bind, same]
  exact rest _ _ _ settled

/-- A rehearsal that is over stays the image of a procedure that goes on. -/
theorem Mirrors.andThen {value : β} {actual : Script α}
    (first : Mirrors rehearsal real alike image (pure value) actual)
    {actualNext : α → Script γ} {other : δ}
    (rest : ∀ reached, value = image reached →
      Mirrors rehearsal real alike later (pure other) (actualNext reached))
    : Mirrors rehearsal real alike later (pure other) (actual >>= actualNext) := by
  intro before after start
  obtain ⟨same, settled⟩ := first before after start
  rw [run_bind]
  exact rest _ same _ _ settled

variable (surroundings : Rehearsing rehearsal real alike)
include surroundings

/-- The warehouse is called by the real procedure alone, and always with success. -/
theorem mirrors_granted {request : Request} (call : request.isForWarehouse = true)
    {rehearsed : Script δ} {actualNext : request.Reply → Script γ}
    (rest : ∀ reply, request.Granted reply →
      Mirrors rehearsal real alike later rehearsed (actualNext reply))
    : Mirrors rehearsal real alike later rehearsed (ask request >>= actualNext) := by
  intro before after start
  obtain ⟨granted, settled⟩ := surroundings.granted start request call
  rw [run_bind, run_ask]
  exact rest _ granted _ _ settled

theorem mirrors_isCancelled {next : Bool → Script δ} {actualNext : Bool → Script γ}
    (rest : Mirrors rehearsal real alike later (next false) (actualNext false))
    : Mirrors rehearsal real alike later (isCancelled >>= next) (isCancelled >>= actualNext) := by
  intro before after start
  obtain ⟨rehearsedGoes, actualGoes, settled⟩ := surroundings.uncancelled start
  rw [run_bind, run_bind, isCancelled, run_ask, run_ask, rehearsedGoes, actualGoes]
  exact rest _ _ settled

theorem mirrors_writeReview (path text : Text)
    : Mirrors rehearsal real alike id (ask (.writeReview path text))
        (ask (.writeReview path text)) :=
  fun _ _ start => surroundings.review start path text

theorem mirrors_noteProgress (places : List Dump.Location)
    : Mirrors rehearsal real alike id (noteProgress places) (noteProgress places) := by
  induction places with
  | nil => exact mirrors_pure rfl
  | cons place rest ih =>
      intro before after start
      exact ih _ _ (surroundings.progress start place)

/-- Both procedures read the dump alike. -/
theorem mirrors_readPass (pass : Dump.Pass α)
    : Mirrors rehearsal real alike id (readPass pass) (readPass pass) :=
  (mirrors_noteProgress surroundings pass.progress).bind fun _ => mirrors_pure rfl

omit surroundings in
/-- Procedures in turn mirror others that they mirror one by one. -/
theorem mirrors_inTurn {rehearsed : List (Script β)} {actual : List (Script α)}
    (each : List.Forall₂ (Mirrors rehearsal real alike image) rehearsed actual)
    : Mirrors rehearsal real alike (List.map image) (inTurn rehearsed) (inTurn actual) := by
  induction each with
  | nil => exact mirrors_pure rfl
  | cons first _ ih =>
      exact first.bind fun value => ih.bind fun values => mirrors_pure rfl

end Mirroring

end Script

end DumpTransfer
