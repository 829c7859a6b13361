/-
This file shows when no interleaving of park and resume calls loses or doubles a parked intent.
-/

import Adjudicate.Runtime.DeferSession
import Mathlib.Data.Fintype.Card

namespace Adjudicate.Runtime

open Js Canonical Adjudicate.Core Audit

section

variable {I : Type}

namespace Phase

/-- The quota check of a park call let it through. -/
def isAccepted : Phase I → Bool
  | .accepted _ => true
  | .parked _ => true
  | _ => false

def isParked : Phase I → Bool
  | .parked _ => true
  | _ => false

def isRefused : Phase I → Bool
  | .refusing _ => true
  | .refused _ _ => true
  | _ => false

/-- The call has read a blob and asks for its resume token next. -/
def aiming : Phase I → Option (Held I)
  | .counting held => some held
  | .claiming held => some held
  | _ => none

/-- The call holds the token and only clears keys before it returns the blob. -/
def taken : Phase I → Option (Held I)
  | .clearing held => some held
  | .releasing held => some held
  | .resumed held => some held
  | _ => none

def handed : Phase I → Option I
  | .resumed held => some held.writer
  | _ => none

end Phase

def ParkedEnvelope.resumeHash (blob : ParkedEnvelope) (host : Host) : JsString :=
  deferResumeHash host blob.envelope.intentHash blob.signal

/-- The call parks this blob. -/
def Call.Writes (call : Call) (blob : ParkedEnvelope) : Prop :=
  ∃ args, call = .park args ∧ args.blob = .ok blob

/-- A resume call for the signal that runs alone from here returns the blob of the park call, unless
its own cycle cap stops it. -/
def Resumable (host : Host) (redis : Redis I) (p : I) (blob : ParkedEnvelope) : Prop :=
  ∀ args : ResumeDeferredIntentArgs, args.signal = blob.signal →
    (args.countsCycles = true →
      args.cap.passed (redis.cycle blob.envelope.intentHash + 1) = false) →
    ((resumeDeferredIntent host args)^[5] (.start, redis)).1.handed = some p

section

variable [Fintype I] [DecidableEq I]

/-- The accepted parks that no resume call has returned yet. -/
def outstanding (world : World I) : Finset I :=
  Finset.univ.filter fun p =>
    (world.phase p).isAccepted = true ∧ ¬∃ i, (world.phase i).handed = some p

/-- What a state owes to the parked intents. -/
structure Kept (host : Host) (calls : I → Call) (quota : JsNumber) (world : World I) : Prop where
  handedOnce : ∀ p i j, (world.phase i).handed = some p → (world.phase j).handed = some p → i = j
  handedParked : ∀ p i, (world.phase i).handed = some p → (world.phase p).isParked = true
  resumable : ∀ p blob, (calls p).Writes blob → (world.phase p).isParked = true →
    (∃ i held, (world.phase i).taken = some held ∧ held.writer = p) ∨
      Resumable host world.redis p blob
  counted : world.redis.count = (outstanding world).card
  bounded : (outstanding world).card = 0 ∨ quota.surpassed (outstanding world).card = false

/-- A park call is only refused when one more would surpass the quota. -/
def RefusedWhenFull (host : Host) (calls : I → Call) (quota : JsNumber) (schedule : List I) :
    Prop :=
  ∀ before i after, schedule = before ++ i :: after →
    ((run host calls before).phase i).isRefused = false →
    ((run host calls (before ++ [i])).phase i).isRefused = true →
    quota.surpassed ((outstanding (run host calls before)).card + 1) = true

end

/-- No blob waits, and the blob of the call verifies and has a free token. -/
def storable (host : Host) (redis : Redis I) (args : ParkDeferredIntentArgs) : Bool :=
  match args.blob with
  | .error _ => false
  | .ok blob =>
      redis.pending.isNone && !redis.resumed (blob.resumeHash host) &&
        decide (verifyParkedEnvelopeHash host blob.reloaded = .ok .verified)

/-- The next command of the call takes no branch that loses track of a parked intent: a counted
park stays within the quota unless the script checks it, a park stores its blob beside no other,
and a resume call can lower the counter. -/
def safeCommand (host : Host) (calls : I → Call) (world : World I) (i : I) : Bool :=
  match calls i, world.phase i with
  | .park args, .start =>
      args.evalIncrCheck || !args.quota.surpassed (world.redis.count + 1)
  | .park args, .accepted _ => storable host world.redis args
  | .resume args, .clearing _ => args.decr
  | _, _ => true

/-- Every command of the schedule is safe where it runs. -/
def safeFrom [DecidableEq I] (host : Host) (calls : I → Call) : World I → List I → Bool
  | _, [] => true
  | world, i :: rest =>
      safeCommand host calls world i && safeFrom host calls (world.step host calls i) rest

theorem storable_iff {host : Host} {redis : Redis I} {args : ParkDeferredIntentArgs} :
    storable host redis args = true ↔
      redis.pending = none ∧ ∃ blob, args.blob = .ok blob ∧
        redis.resumed (blob.resumeHash host) = false ∧
        verifyParkedEnvelopeHash host blob.reloaded = .ok .verified := by
  unfold storable
  cases args.blob with
  | error raised => simp
  | ok blob => simp [and_assoc]

end

section

variable {host : Host} {blob : ParkedEnvelope} {args : ResumeDeferredIntentArgs}

/-- A verified blob passes every check for its own signal. -/
theorem examine_own (verified : verifyParkedEnvelopeHash host blob.reloaded = .ok .verified)
    (signal : args.signal = blob.signal) : examine host args blob.reloaded = .ok none := by
  have reads : readProp blob.reloaded "signal" = .ok (.str blob.signal) := by
    rw [readProp_reloaded]
    exact congrArg Except.ok (reload_str blob.signal)
  have envelope : readProp blob.reloaded "envelope" = .ok (reload blob.envelope.toJs) := by
    rw [readProp_reloaded]
    rfl
  have hash : readProp (reload blob.envelope.toJs) "intentHash" =
      .ok (.str blob.envelope.intentHash) := by
    rw [ParkableEnvelope.toJs, readProp_reload toProps_nodup]
    exact congrArg Except.ok (reload_str blob.envelope.intentHash)
  have named : Audit.isText (.str blob.signal) args.signal = true := by
    rw [signal]
    exact beq_self_eq_true blob.signal
  rw [examine, reads, ok_bind, named, envelope]
  simp only [Bool.not_true, Bool.false_eq_true, if_false, ok_bind, hash, verified]
  split <;> rfl

variable {I : Type} {p : I}

theorem hold_own : hold host args blob.reloaded p =
    ⟨blob.reloaded, p, blob.envelope.intentHash,
      deferResumeHash host blob.envelope.intentHash args.signal⟩ := by
  rw [hold, getOwn_reloaded_envelope, getOwn_intentHash]
  rfl

theorem afterRead_own (verified : verifyParkedEnvelopeHash host blob.reloaded = .ok .verified)
    (signal : args.signal = blob.signal) :
    afterRead host args blob.text p =
      if args.countsCycles then .counting (hold host args blob.reloaded p)
      else .claiming (hold host args blob.reloaded p) := by
  rw [afterRead, parse_text]
  simp only [examine_own verified signal]

/-- A call that reads a blob goes on with it only for the signal of the blob. -/
theorem afterRead_aiming {held : Held I}
    (aims : (afterRead host args blob.text p).aiming = some held) :
    args.signal = blob.signal ∧ held = hold host args blob.reloaded p := by
  rw [afterRead, parse_text] at aims
  simp only at aims
  cases examined : examine host args blob.reloaded with
  | error raised =>
      rw [examined] at aims
      cases aims
  | ok reason =>
      rw [examined] at aims
      cases reason with
      | some reason => cases aims
      | none =>
          have reads : readProp blob.reloaded "signal" = .ok (.str blob.signal) := by
            rw [readProp_reloaded]
            exact congrArg Except.ok (reload_str blob.signal)
          rw [examine, reads, ok_bind] at examined
          cases named : Audit.isText (.str blob.signal) args.signal with
          | false =>
              rw [named] at examined
              cases examined
          | true =>
              have same : blob.signal = args.signal := eq_of_beq named
              refine ⟨same.symm, ?_⟩
              simp only at aims
              split at aims
              · exact (Option.some.inj aims).symm
              · exact (Option.some.inj aims).symm

theorem afterRead_quiet (raw : JsString) :
    (afterRead host args raw p).taken = none ∧ (afterRead host args raw p).isAccepted = false ∧
      (afterRead host args raw p).isRefused = false := by
  unfold afterRead
  split
  · exact ⟨rfl, rfl, rfl⟩
  · split
    · exact ⟨rfl, rfl, rfl⟩
    · exact ⟨rfl, rfl, rfl⟩
    · split <;> exact ⟨rfl, rfl, rfl⟩

/-- A blob that waits with a free token is handed to the next call that its cap lets through. -/
theorem resumable_of_waiting {redis : Redis I}
    (verified : verifyParkedEnvelopeHash host blob.reloaded = .ok .verified)
    (waiting : redis.pending = some (blob.text, p))
    (free : redis.resumed (blob.resumeHash host) = false) : Resumable host redis p blob := by
  intro args signal capped
  have token : (hold host args blob.reloaded p).resumeHash = blob.resumeHash host := by
    rw [hold_own, signal]
    rfl
  have intent : (hold host args blob.reloaded p).intentHash = blob.envelope.intentHash := by
    rw [hold_own]
  have writer : (hold host args blob.reloaded p).writer = p := rfl
  have first : resumeDeferredIntent host args (.start, redis) =
      (if args.countsCycles then .counting (hold host args blob.reloaded p)
        else .claiming (hold host args blob.reloaded p), redis) := by
    rw [← afterRead_own verified signal]
    simp only [resumeDeferredIntent, waiting]
  cases counts : args.countsCycles with
  | true =>
      have within := capped counts
      rw [counts, if_pos rfl] at first
      simp only [Function.iterate_succ, Function.iterate_zero, Function.comp_apply, id, first]
      simp only [resumeDeferredIntent, intent, within, token, free, Bool.false_eq_true, if_false]
      cases args.decr <;> exact congrArg some writer
  | false =>
      rw [counts] at first
      simp only [Function.iterate_succ, Function.iterate_zero, Function.comp_apply, id, first]
      simp only [resumeDeferredIntent, token, free, Bool.false_eq_true, if_false]
      cases args.decr <;> exact congrArg some writer

end

end Adjudicate.Runtime
