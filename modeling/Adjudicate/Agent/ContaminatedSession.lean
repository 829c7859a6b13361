/-
This file shows that what the model proposes after a served read stays marked as retrieved.
-/

import Adjudicate.Agent.Loop

namespace Adjudicate.Agent

open Js Canonical Adjudicate.Core Audit Adjudicate.Runtime Adjudicate.Effect
open Adjudicate.Kernel (PolicyBundle)
open Adjudicate.Shell (AdjudicateAndAuditDeps adjudicateAndAudit)
open Program (ofExcept tryCatch)

variable {S C : Type}

/-- The operations on the entry of the session succeed, and a confirmation that is taken belongs
to the session. -/
def EntryAnswers (sessionId : JsString) (before : Option SessionContamination) :
    AgentEvent S C → Option SessionContamination → Prop
  | ⟨.getContamination key, outcome⟩, after =>
      after = before ∧ (key = sessionId → outcome = .ok before)
  | ⟨.putContamination key flag, outcome⟩, after =>
      outcome = .ok () ∧ after = if key = sessionId then some flag else before
  | ⟨.clearContamination key, outcome⟩, after =>
      outcome = .ok () ∧ after = if key = sessionId then none else before
  | ⟨.takeConfirmation _, outcome⟩, after =>
      after = before ∧ ∀ pending, outcome = .ok (some pending) → pending.sessionId = sessionId
  | _, after => after = before

/-- The executor answered a read. -/
def ServesRead (event : AgentEvent S C) : Prop :=
  ∃ name input state result, event = ⟨.invokeRead name input state, .ok result⟩

def Clears (event : AgentEvent S C) : Prop :=
  ∃ sessionId, event.op = .clearContamination sessionId

/-- The kernel is asked about an envelope that was minted from a tool use. -/
def Mints (event : AgentEvent S C) (envelope : IntentEnvelope) : Prop :=
  ∃ call op, event.op = .crossing .intent call op ∧ call.envelope = envelope

/-- What entered the session since it was last cleared. -/
def entered (flag : Option SessionContamination) : AgentEvent S C → Option SessionContamination
  | ⟨.invokeRead _ _ _, .ok _⟩ => contaminateSession flag .retrieved .untrusted
  | ⟨.clearContamination _, _⟩ => none
  | _ => flag

/-- The stored entry is followed beside what really entered. -/
structure Flags where
  stored : Option SessionContamination
  entered : Option SessionContamination

def synced (flag : Option SessionContamination) : Flags := ⟨flag, flag⟩

/-- The envelope carries the flag, and its hash does too. -/
structure Stamped (host : Host) (flag : Option SessionContamination) (envelope : IntentEnvelope) :
    Prop where
  taint : envelope.taint = .untrusted
  origin : envelope.origin = (flag.map SessionContamination.origin).getD .llm
  derives : deriveIntentHash host envelope = .ok envelope.intentHash

def StampedEvent (host : Host) (mayClear : Bool) (flags : Flags) (event : AgentEvent S C) : Prop :=
  match event.op with
  | .crossing .intent call _ => Stamped host flags.entered call.envelope
  | .clearContamination _ => mayClear = true
  | _ => True

/-- Only a resumption may clear the session. -/
def stamping (host : Host) (mayClear : Bool) (sessionId : JsString) :
    Contract (Op S C) Op.Response Thrown Flags where
  respond before event after :=
    EntryAnswers sessionId before.stored event after.stored ∧ after.entered = entered before.entered event
  allowed := StampedEvent host mayClear

/-- The operation has nothing to do with the flag. -/
def Op.Unflagged : Op S C → Prop
  | .getContamination _ => False
  | .putContamination _ _ => False
  | .clearContamination _ => False
  | .invokeRead _ _ _ => False
  | .crossing source _ _ => source ≠ .intent
  | _ => True

variable {host : Host} {options : AdjudicatedAgentOptions S} {mayClear : Bool}
  {sessionId : JsString} {flags : Flags}

theorem stamping_unflagged {op : Op S C} {outcome : Except Thrown op.Response} {before after : Flags}
    (unflagged : op.Unflagged)
    (answered : (stamping host mayClear sessionId).respond before ⟨op, outcome⟩ after) :
    (stamping host mayClear sessionId).allowed before ⟨op, outcome⟩ ∧ after = before := by
  obtain ⟨stored, entered⟩ := answered
  obtain ⟨afterStored, afterEntered⟩ := after
  dsimp only at stored entered
  cases op with
  | getContamination key => exact unflagged.elim
  | putContamination key flag => exact unflagged.elim
  | clearContamination key => exact unflagged.elim
  | invokeRead name input state => exact unflagged.elim
  | takeConfirmation token =>
      obtain ⟨rfl, -⟩ := stored
      obtain rfl := entered
      exact ⟨trivial, rfl⟩
  | crossing source call op =>
      obtain rfl := stored
      obtain rfl := entered
      cases source with
      | intent => exact (unflagged rfl).elim
      | _ => exact ⟨trivial, rfl⟩
  | _ =>
      obtain rfl := stored
      obtain rfl := entered
      exact ⟨trivial, rfl⟩

end Adjudicate.Agent
