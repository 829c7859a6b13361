/-
This file models the park and resume calls of one session, one Redis command at a time.
-/

import Adjudicate.Js.Comparison
import Adjudicate.Runtime.ParkedEnvelope
import Mathlib.Data.Fintype.Basic

namespace Adjudicate.Runtime

open Js Canonical Adjudicate.Core Audit

def defaultDeferQuotaPerSession : JsNumber := JsNumber.ofNat 16

def defaultMaxResumeCycles : JsNumber := JsNumber.ofNat 3

/-- The client may offer the atomic check-and-increment. -/
structure ParkDeferredIntentArgs where
  envelope : ParkableEnvelope
  signal : JsString
  parkedAt : JsString
  quotaPerSession : Option JsNumber
  transformEnvelopeBeforePark : Option (ParkableEnvelope → Except Thrown ParkableEnvelope)
  evalIncrCheck : Bool

inductive VerifyHash where
  | strict
  | warn
  | off
deriving DecidableEq

/-- The client may offer `incr` and `decr`. -/
structure ResumeDeferredIntentArgs where
  signal : JsString
  maxResumeCycles : Option JsNumber
  verifyHash : Option VerifyHash
  incr : Bool
  decr : Bool

namespace ParkDeferredIntentArgs

variable (args : ParkDeferredIntentArgs)

def quota : JsNumber := args.quotaPerSession.getD defaultDeferQuotaPerSession

/-- The optional transform may throw. -/
def blob : Except Thrown ParkedEnvelope := do
  let storedEnvelope ←
    match args.transformEnvelopeBeforePark with
    | some transform => transform args.envelope
    | none => .ok args.envelope
  return ⟨storedEnvelope, args.signal, args.parkedAt⟩

end ParkDeferredIntentArgs

namespace ResumeDeferredIntentArgs

variable (args : ResumeDeferredIntentArgs)

def mode : VerifyHash := args.verifyHash.getD .strict

def cap : JsNumber := args.maxResumeCycles.getD defaultMaxResumeCycles

/-- Without a positive cap or an `incr` no cycle is counted. -/
def countsCycles : Bool := JsNumber.below 0 args.cap && args.incr

end ResumeDeferredIntentArgs

inductive Call where
  | park (args : ParkDeferredIntentArgs)
  | resume (args : ResumeDeferredIntentArgs)

inductive ResumeRefusal where
  | noParkedEnvelope
  | malformedEnvelope
  | signalMismatch
  | parkBlobTampered
  | parkBlobUnverifiable
  | cycleCapExceeded
  | duplicateResumeSuppressed
deriving DecidableEq

def deferResumeHash (host : Host) (intentHash signal : JsString) : JsString :=
  host.sha256Hex (intentHash ++ utf16 ":" ++ signal)

/-- The blob that a resume call read, with the park call that wrote it and the hashes that name
the next keys. -/
structure Held (I : Type) where
  parked : JsValue
  writer : I
  intentHash : JsString
  resumeHash : JsString

/-- The commands run between two phases of a call; `resumed` returns the blob. -/
inductive Phase (I : Type) where
  | start
  | refusing (count : Int)
  | accepted (count : Int)
  | refused (observed limit : JsNumber)
  | parked (count : Int)
  | counting (held : Held I)
  | claiming (held : Held I)
  | clearing (held : Held I)
  | releasing (held : Held I)
  | resumed (held : Held I)
  | unresumed (reason : ResumeRefusal)
  | threw (raised : Thrown)

/-- These are the keys of one session, with the author of the pending blob written beside it. -/
structure Redis (I : Type) where
  pending : Option (JsString × I)
  count : Int
  cycle : JsString → Nat
  resumed : JsString → Bool

def Redis.start (I : Type) : Redis I := ⟨none, 0, fun _ => 0, fun _ => false⟩

section

variable {I : Type}

/-- An accepted increment is checked by the script or by the call itself; the expiry that the call
renews then is never reached in a run without expiries. -/
def countPark (args : ParkDeferredIntentArgs) (redis : Redis I) : Phase I × Redis I :=
  let count := redis.count + 1
  if args.evalIncrCheck then
    if args.quota.surpassed count || count == 0 then
      (.refused (args.quota.add 1) args.quota,
        if args.quota.surpassed count then redis else { redis with count := count })
    else (.accepted count, { redis with count := count })
  else if args.quota.surpassed count then (.refusing count, { redis with count := count })
  else (.accepted count, { redis with count := count })

/-- The next command of a park call. -/
def parkDeferredIntent (args : ParkDeferredIntentArgs) (i : I) :
    Phase I × Redis I → Phase I × Redis I
  | (.start, redis) => countPark args redis
  | (.refusing count, redis) =>
      (.refused (JsNumber.ofInt count) args.quota, { redis with count := redis.count - 1 })
  | (.accepted count, redis) =>
      match args.blob with
      | .error raised => (.threw raised, redis)
      | .ok blob => (.parked count, { redis with pending := some (blob.text, i) })
  | (phase, redis) => (phase, redis)

def textOf : JsValue → JsString
  | .str text => text
  | _ => []

/-- These checks run on the blob before the next command; nothing stops a blob that passes. -/
def examine (host : Host) (args : ResumeDeferredIntentArgs) (parked : JsValue) :
    Except Thrown (Option ResumeRefusal) := do
  let signal ← readProp parked "signal"
  if !Audit.isText signal args.signal then return some .signalMismatch
  let envelope ← readProp parked "envelope"
  let _ ← readProp envelope "intentHash"
  if args.mode = .off then return none
  match ← verifyParkedEnvelopeHash host parked with
  | .verified => return none
  | .tampered _ => return some .parkBlobTampered
  | .missingFields => return if args.mode = .strict then some .parkBlobUnverifiable else none

/-- The hash of the intent is a text in every blob that a park call wrote. -/
def hold (host : Host) (args : ResumeDeferredIntentArgs) (parked : JsValue) (writer : I) : Held I :=
  let intentHash := textOf ((parked.getOwn "envelope").getOwn "intentHash")
  ⟨parked, writer, intentHash, deferResumeHash host intentHash args.signal⟩

def afterRead (host : Host) (args : ResumeDeferredIntentArgs) (raw : JsString) (writer : I) :
    Phase I :=
  match JsValue.parse raw with
  | none => .unresumed .malformedEnvelope
  | some parked =>
      match examine host args parked with
      | .error raised => .threw raised
      | .ok (some reason) => .unresumed reason
      | .ok none =>
          if args.countsCycles then .counting (hold host args parked writer)
          else .claiming (hold host args parked writer)

/-- The next command of a resume call. -/
def resumeDeferredIntent (host : Host) (args : ResumeDeferredIntentArgs) :
    Phase I × Redis I → Phase I × Redis I
  | (.start, redis) =>
      match redis.pending with
      | none => (.unresumed .noParkedEnvelope, redis)
      | some (raw, writer) => (afterRead host args raw writer, redis)
  | (.counting held, redis) =>
      let cycles := redis.cycle held.intentHash + 1
      (if args.cap.passed cycles then .unresumed .cycleCapExceeded else .claiming held,
        { redis with cycle := Function.update redis.cycle held.intentHash cycles })
  | (.claiming held, redis) =>
      if redis.resumed held.resumeHash then (.unresumed .duplicateResumeSuppressed, redis)
      else (.clearing held,
        { redis with resumed := Function.update redis.resumed held.resumeHash true })
  | (.clearing held, redis) =>
      (if args.decr then .releasing held else .resumed held, { redis with pending := none })
  | (.releasing held, redis) => (.resumed held, { redis with count := redis.count - 1 })
  | (phase, redis) => (phase, redis)

/-- The keys of the session and the phase of every call. -/
structure World (I : Type) where
  redis : Redis I
  phase : I → Phase I

def World.start (I : Type) : World I := ⟨Redis.start I, fun _ => .start⟩

def nextCommand (host : Host) (calls : I → Call) (world : World I) (i : I) : Phase I × Redis I :=
  match calls i with
  | .park args => parkDeferredIntent args i (world.phase i, world.redis)
  | .resume args => resumeDeferredIntent host args (world.phase i, world.redis)

variable [DecidableEq I]

/-- One call changes its phase and the keys. -/
def World.become (world : World I) (i : I) (phase : Phase I) (redis : Redis I) : World I :=
  ⟨redis, Function.update world.phase i phase⟩

@[simp] theorem World.become_redis (world : World I) (i : I) (phase : Phase I) (redis : Redis I) :
    (world.become i phase redis).redis = redis := rfl

@[simp] theorem World.become_self (world : World I) (i : I) (phase : Phase I) (redis : Redis I) :
    (world.become i phase redis).phase i = phase := Function.update_self ..

theorem World.become_other (world : World I) {i j : I} (phase : Phase I) (redis : Redis I)
    (other : j ≠ i) : (world.become i phase redis).phase j = world.phase j :=
  Function.update_of_ne other ..

theorem World.become_same (world : World I) (i : I) :
    world.become i (world.phase i) world.redis = world := by
  rw [World.become, Function.update_eq_self]

variable (host : Host) (calls : I → Call)

def World.step (world : World I) (i : I) : World I :=
  world.become i (nextCommand host calls world i).1 (nextCommand host calls world i).2

/-- The schedule names the call that runs its next command. -/
def run (schedule : List I) : World I := schedule.foldl (World.step host calls) (World.start I)

end

end Adjudicate.Runtime
