/-
This file models the replicas of the distributed kill switch with their polls and messages.
-/

import Adjudicate.Audit.Verify
import Adjudicate.Effect.Machine
import Adjudicate.Kernel.Adjudicate
import Mathlib.Logic.Function.Basic

namespace Adjudicate.KillSwitch

open Js Audit Adjudicate.Kernel Adjudicate.Effect

structure RemoteKillState where
  active : Bool
  reason : JsString
deriving DecidableEq

/-- This is the JSON text that `trip` and `clear` write. -/
def RemoteKillState.text (payload : RemoteKillState) : JsString :=
  (JsValue.obj [("active", .bool payload.active), ("reason", .str payload.reason)]).stringify.getD []

inductive ParsedPayload where
  | state (parsed : RemoteKillState)
  | parseError
  | malformed
deriving DecidableEq

/-- Only the parser is called in a `try` block. -/
def parsePayload (raw : JsString) : Except Thrown ParsedPayload :=
  match JsValue.parse raw with
  | none => return .parseError
  | some obj => do
      match ← readProp obj "active" with
      | .bool active =>
          match ← readProp obj "reason" with
          | .str reason => return .state { active, reason }
          | _ => return .malformed
      | _ => return .malformed

def Matches (current : KillSwitchState) (parsed : RemoteKillState) : Prop :=
  current.active = parsed.active ∧ current.reason = parsed.reason

instance (current : KillSwitchState) (parsed : RemoteKillState) :
    Decidable (Matches current parsed) := inferInstanceAs (Decidable (_ ∧ _))

/-- An equal state keeps the time of its toggle. -/
def applyState (context : Option KillSwitchState) (parsed : RemoteKillState) (now : JsString) :
    Option KillSwitchState :=
  context.map fun current =>
    if Matches current parsed then current
    else { active := parsed.active, reason := parsed.reason, toggledAt := now }

/-- A text from the key or the channel; the number of its write is observed only. -/
structure Stamped where
  text : JsString
  version : Nat
deriving DecidableEq

/-- A read that is under way holds the value that it found at the key. -/
inductive Phase where
  | idle
  | booting (found : Option Stamped)
  | subscribing
  | waiting
  | polling (found : Option Stamped)
  | ended
  | rejected

def Phase.reading : Phase → Option Stamped
  | .booting found => found
  | .polling found => found
  | _ => none

/-- These are the phases of the polling loop. -/
def Phase.looping : Phase → Bool
  | .waiting => true
  | .polling _ => true
  | _ => false

/-- The context is the one of the options. The texts that reached the replica and the versions that
it applied are observed only. -/
structure LocalSwitch where
  context : Option KillSwitchState
  received : List Stamped
  applied : List Nat

/-- The handler and the reads do the same with a text; no result means that it throws. -/
def LocalSwitch.receive (switch : LocalSwitch) (message : Stamped) (now : JsString) :
    Option LocalSwitch :=
  match parsePayload message.text with
  | .error _ => none
  | .ok (.state parsed) => some {
      context := applyState switch.context parsed now
      received := switch.received ++ [message]
      applied := if switch.context.isSome then switch.applied ++ [message.version]
        else switch.applied }
  | .ok _ => some { switch with received := switch.received ++ [message] }

/-- What the last whole poll found and whether a read or a handler threw are observed only. -/
structure Replica where
  switch : LocalSwitch
  phase : Phase
  subscribed : Bool
  stopped : Bool
  inbox : List Stamped
  polled : Option Stamped
  threw : Bool

inductive ReplicaEvent where
  | reads
  | replies (now : JsString)
  | readFails
  | listens
  | subscribes
  | subscribeFails
  | delivers (now : JsString)
  | loses
  | stops
  | unsubscribes

namespace Replica

def afterBoot (replica : Replica) : Replica :=
  { replica with phase := if replica.stopped then .ended else .subscribing }

/-- This is `pollLoop`, which a finished boot sequence and every settled poll call. -/
def pollLoop (replica : Replica) : Replica :=
  { replica with phase := if replica.stopped then .ended else .waiting }

/-- A reply that cannot be read rejects the boot sequence, but not the polling loop. -/
def reply (replica : Replica) (now : JsString) : Option Replica :=
  match replica.phase with
  | .booting none => some replica.afterBoot
  | .booting (some message) => some <|
      match replica.switch.receive message now with
      | some switch => { replica with switch }.afterBoot
      | none => { replica with phase := .rejected, threw := true }
  | .polling none => some { replica.pollLoop with polled := none }
  | .polling (some message) => some <|
      match replica.switch.receive message now with
      | some switch => { replica.pollLoop with switch, polled := some message }
      | none => { replica.pollLoop with threw := true }
  | _ => none

/-- No message is delivered before the promise of `subscribe` is fulfilled. -/
def deliver (replica : Replica) (now : JsString) : Option Replica :=
  match replica.phase, replica.inbox with
  | .idle, _ => none
  | .booting _, _ => none
  | .subscribing, _ => none
  | _, [] => none
  | _, message :: rest => some <|
      match replica.switch.receive message now with
      | some switch => { replica with inbox := rest, switch }
      | none => { replica with inbox := rest, threw := true }

def advance (key : Option Stamped) (replica : Replica) : ReplicaEvent → Option Replica
  | .reads =>
      match replica.phase with
      | .idle => some { replica with phase := .booting key }
      | .waiting => some { replica with phase := .polling key }
      | _ => none
  | .replies now => replica.reply now
  | .readFails =>
      match replica.phase with
      | .booting _ => some replica.afterBoot
      | .polling _ => some replica.pollLoop
      | _ => none
  | .listens =>
      match replica.phase with
      | .subscribing => some { replica with subscribed := true }
      | _ => none
  | .subscribes =>
      match replica.phase, replica.subscribed with
      | .subscribing, true => some replica.pollLoop
      | _, _ => none
  | .subscribeFails =>
      match replica.phase with
      | .subscribing => some { replica.pollLoop with subscribed := false, inbox := [] }
      | _ => none
  | .delivers now => replica.deliver now
  | .loses => if replica.inbox = [] then none else some { replica with inbox := replica.inbox.tail }
  | .stops =>
      match replica.phase with
      | .idle => none
      | .waiting => some { replica with stopped := true, phase := .ended }
      | _ => some { replica with stopped := true }
  | .unsubscribes =>
      if replica.stopped then some { replica with subscribed := false, inbox := [] } else none

/-- A published message reaches the replicas that have subscribed by then. -/
def hear (replica : Replica) (message : Stamped) : Replica :=
  if replica.subscribed then { replica with inbox := replica.inbox ++ [message] } else replica

def initial (context : Option KillSwitchState) : Replica where
  switch := { context, received := [], applied := [] }
  phase := .idle
  subscribed := false
  stopped := false
  inbox := []
  polled := none
  threw := false

end Replica

/-- The writes are observed only; the last one is at the key. A text that is written but not yet
published is pending. -/
structure Network (I : Type) where
  key : Option Stamped
  writes : List JsString
  pending : List Stamped
  replicas : I → Replica

/-- Any text may be stored, with or without a later publication, or be published alone. -/
inductive NetworkEvent (I : Type) where
  | own (i : I) (event : ReplicaEvent)
  | trips (i : I) (reason : JsString)
  | clears (i : I)
  | stores (text : JsString)
  | announces (message : Stamped)
  | publishes (text : JsString)

namespace Network

variable {I : Type}

/-- This is `SET`, whose publication follows later. -/
def store (network : Network I) (text : JsString) : Network I :=
  let message := { text, version := network.writes.length }
  { network with
    key := some message
    writes := network.writes ++ [text]
    pending := network.pending ++ [message] }

def publish (network : Network I) (message : Stamped) : Network I :=
  { network with replicas := fun i => (network.replicas i).hear message }

/-- Only a started replica has a handle. -/
def publishTransition (network : Network I) (i : I) (payload : RemoteKillState) :
    Option (Network I) :=
  match (network.replicas i).phase with
  | .idle => none
  | _ => some (network.store payload.text)

def trip (network : Network I) (i : I) (reason : JsString) : Option (Network I) :=
  network.publishTransition i { active := true, reason }

def clear (network : Network I) (i : I) : Option (Network I) :=
  network.publishTransition i { active := false, reason := "cleared" }

def initial (contexts : I → Option KillSwitchState) : Network I where
  key := none
  writes := []
  pending := []
  replicas := fun i => .initial (contexts i)

variable [DecidableEq I]

def advance (network : Network I) : NetworkEvent I → Option (Network I)
  | .own i event => ((network.replicas i).advance network.key event).map fun replica =>
      { network with replicas := Function.update network.replicas i replica }
  | .trips i reason => network.trip i reason
  | .clears i => network.clear i
  | .stores text => some (network.store text)
  | .announces message =>
      if message ∈ network.pending then
        some ({ network with pending := network.pending.erase message }.publish message)
      else none
  | .publishes text => some (network.publish { text, version := network.writes.length })

end Network

end Adjudicate.KillSwitch
