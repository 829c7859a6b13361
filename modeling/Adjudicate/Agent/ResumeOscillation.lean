/-
This file runs the deliveries of one signal against an intent that is deferred again and again.
-/

import Adjudicate.Agent.ResumeRounds

namespace Adjudicate.Agent

open Js Canonical Adjudicate.Core Audit Adjudicate.Runtime

/-- A delivery resumes the intent, and after the next deferral it parks the new envelope. -/
inductive Stage where
  | resuming (phase : Phase Nat)
  | parking (held : Held Nat) (envelope : IntentEnvelope) (phase : Phase Nat)

/-- The keys of the session, and for every delivery its stage and the round that it read. -/
structure Oscillation (D : Type) where
  redis : Redis Nat
  stage : D → Stage
  read : D → Option Nat

/-- Every delivery of the signal calls `resume` with the same options. -/
structure ResumeSetup where
  host : Host
  clock : Nat → JsString
  first : IntentEnvelope
  args : ResumeDeferredIntentArgs
  evalIncrCheck : Bool

namespace Stage

/-- The round that the delivery resumed. -/
def took : Stage → Option Nat
  | .resuming phase => phase.taken.map Held.writer
  | .parking held _ _ => some held.writer

/-- The round whose token the delivery asks for next. -/
def claims : Stage → Option Nat
  | .resuming (.claiming held) => some held.writer
  | _ => none

def refusal : Stage → Option ResumeRefusal
  | .resuming (.unresumed reason) => some reason
  | _ => none

def starts : Stage → Bool
  | .resuming .start => true
  | _ => false

end Stage

namespace ResumeSetup

variable (setup : ResumeSetup)

def round (index : Nat) : IntentEnvelope :=
  roundEnvelope setup.host setup.clock setup.args.signal setup.first index

def blob (index : Nat) : ParkedEnvelope :=
  deferredBlob (setup.round index) setup.args.signal (setup.clock index)

def token (index : Nat) : JsString :=
  deferResumeHash setup.host (setup.round index).intentHash setup.args.signal

/-- What a delivery holds after it has read the blob of a round. -/
def holding (index : Nat) : Held Nat :=
  ⟨(setup.blob index).reloaded, index, (setup.round index).intentHash, setup.token index⟩

/-- The policy defers the new envelope again, and `translateDecision` parks it. -/
def parkArgs (held : Held Nat) (envelope : IntentEnvelope) : ParkDeferredIntentArgs where
  envelope := deferredEnvelope envelope
  signal := setup.args.signal
  parkedAt := setup.clock (held.writer + 1)
  quotaPerSession := none
  transformEnvelopeBeforePark := none
  evalIncrCheck := setup.evalIncrCheck

/-- The next command of a delivery. -/
def advance : Stage × Redis Nat → Stage × Redis Nat
  | (.resuming (.resumed held), redis) =>
      match resumedEnvelope setup.host (setup.clock (held.writer + 1)) held.parked with
      | .error raised => (.resuming (.threw raised), redis)
      | .ok envelope => (.parking held envelope .start, redis)
  | (.resuming phase, redis) =>
      let next := resumeDeferredIntent setup.host setup.args (phase, redis)
      (.resuming next.1, next.2)
  | (.parking held envelope phase, redis) =>
      let next := parkDeferredIntent (setup.parkArgs held envelope) (held.writer + 1) (phase, redis)
      (.parking held envelope next.1, next.2)

/-- The first round waits, and no delivery has begun. -/
def start (D : Type) : Oscillation D where
  redis := ⟨some ((setup.blob 0).text, 0), 1, fun _ => 0, fun _ => false⟩
  stage := fun _ => .resuming .start
  read := fun _ => none

section

variable {D : Type} [DecidableEq D]

def step (state : Oscillation D) (i : D) : Oscillation D where
  redis := (setup.advance (state.stage i, state.redis)).2
  stage := Function.update state.stage i (setup.advance (state.stage i, state.redis)).1
  read :=
    if (state.stage i).starts then
      Function.update state.read i (state.redis.pending.map Prod.snd)
    else state.read

/-- The schedule names the delivery that runs its next command. -/
def run (schedule : List D) : Oscillation D := schedule.foldl setup.step (setup.start D)

/-- The resumption of a round is one more cycle than the index of the round. -/
def inCap (round : Nat) : Bool := !setup.args.cap.passed (round + 1)

/-- A delivery that begins here finds no round beyond the cap. -/
def safeStep (state : Oscillation D) (i : D) : Bool :=
  match state.redis.pending with
  | some (_, round) => !(state.stage i).starts || setup.inCap round
  | none => true

def safeFrom : Oscillation D → List D → Bool
  | _, [] => true
  | state, i :: rest => setup.safeStep state i && safeFrom (setup.step state i) rest

/-- Only the rounds within the cap are resumed, each by one delivery, and no later one is. -/
structure Bounded (state : Oscillation D) : Prop where
  once : ∀ i j round, (state.stage i).took = some round → (state.stage j).took = some round → i = j
  first : ∀ i round reason, state.read i = some round → setup.inCap round = true →
    (state.stage i).refusal = some reason →
    (reason = .duplicateResumeSuppressed ∨ reason = .cycleCapExceeded) ∧
      ∃ j, j ≠ i ∧ ((state.stage j).took = some round ∨ (state.stage j).claims = some round)
  later : ∀ i round, state.read i = some round → setup.inCap round = false →
    (state.stage i).took = none ∧
      ∀ reason, (state.stage i).refusal = some reason → reason = .cycleCapExceeded
  unread : ∀ i reason, state.read i = none → (state.stage i).refusal = some reason →
    reason = .noParkedEnvelope
  returns : ∀ i raised, state.stage i ≠ .resuming (.threw raised)

/-- The delivery fits a state in which the rounds below `done` were resumed. -/
def Fits (done : Nat) (pending : Option (JsString × Nat)) (read : Option Nat) : Stage → Prop
  | .resuming .start => read = none
  | .resuming (.counting held) =>
      held = setup.holding held.writer ∧ read = some held.writer ∧
        (held.writer < done ∨ held.writer = done ∧ pending = some ((setup.blob done).text, done))
  | .resuming (.claiming held) =>
      held = setup.holding held.writer ∧ read = some held.writer ∧
        (held.writer < done ∨ held.writer = done ∧ pending = some ((setup.blob done).text, done))
  | .resuming (.clearing held) =>
      held = setup.holding held.writer ∧ read = some held.writer ∧ held.writer + 1 = done ∧
        pending = some ((setup.blob held.writer).text, held.writer)
  | .resuming (.releasing held) =>
      held = setup.holding held.writer ∧ read = some held.writer ∧ held.writer + 1 = done ∧
        pending = none
  | .resuming (.resumed held) =>
      held = setup.holding held.writer ∧ read = some held.writer ∧ held.writer + 1 = done ∧
        pending = none
  | .resuming (.unresumed reason) =>
      match read with
      | none => reason = .noParkedEnvelope
      | some _ => reason = .duplicateResumeSuppressed ∨ reason = .cycleCapExceeded
  | .resuming _ => False
  | .parking held envelope phase =>
      read = some held.writer ∧ envelope = setup.round (held.writer + 1) ∧ held.writer < done ∧
        (phase.isParked = false → held.writer + 1 = done ∧ pending = none)

/-- Who resumed which round, and which round waits. -/
structure Tracks (done : Nat) (state : Oscillation D) : Prop where
  fits : ∀ i, setup.Fits done state.redis.pending (state.read i) (state.stage i)
  tokens : ∀ round, state.redis.resumed (setup.token round) = decide (round < done)
  pending : ∀ raw round, state.redis.pending = some (raw, round) →
    raw = (setup.blob round).text ∧ (round = done ∨ round + 1 = done)
  taken : ∀ round, round < done → ∃ i, (state.stage i).took = some round
  single : ∀ i j round, (state.stage i).took = some round → (state.stage j).took = some round →
    i = j
  cycles : ∀ round, done ≤ round → state.redis.cycle (setup.round round).intentHash = 0 ∨
    ∃ i, (state.stage i).claims = some round
  refused : ∀ i round reason, state.read i = some round → (state.stage i).refusal = some reason →
    round < done ∨ ∃ j, (state.stage j).claims = some round

/-- The hashes of the rounds differ, their blobs verify, and the cap lets a first cycle through. -/
structure Sound : Prop where
  digest : setup.host.InjectiveDigest
  minted : Minted setup.host setup.first
  proposed : setup.first.actor.principal = .llm
  counts : setup.args.countsCycles = true
  one : setup.args.cap.passed 1 = false

end

end ResumeSetup

/-- One delivery changes its stage, and a read changes what it has read. -/
def Oscillation.become {D : Type} [DecidableEq D] (state : Oscillation D) (i : D)
    (redis : Redis Nat) (stage : Stage) (read : Option Nat) : Oscillation D :=
  ⟨redis, Function.update state.stage i stage, Function.update state.read i read⟩

section

variable {D : Type} [DecidableEq D] (state : Oscillation D) (i : D) (redis : Redis Nat)
  (stage : Stage) (read : Option Nat)

@[simp] theorem Oscillation.become_redis : (state.become i redis stage read).redis = redis := rfl

@[simp] theorem Oscillation.become_stage : (state.become i redis stage read).stage i = stage :=
  Function.update_self ..

@[simp] theorem Oscillation.become_read : (state.become i redis stage read).read i = read :=
  Function.update_self ..

variable {j : D} (other : j ≠ i)

include other

theorem Oscillation.become_stage_other :
    (state.become i redis stage read).stage j = state.stage j := Function.update_of_ne other ..

theorem Oscillation.become_read_other :
    (state.become i redis stage read).read j = state.read j := Function.update_of_ne other ..

end

namespace ResumeSetup

section

variable {setup : ResumeSetup} (sound : setup.Sound)

include sound

theorem Sound.hash_injective {left right : Nat}
    (same : (setup.round left).intentHash = (setup.round right).intentHash) : left = right :=
  roundEnvelope_hash_injective sound.digest sound.minted sound.proposed same

theorem Sound.token_injective {left right : Nat}
    (same : setup.token left = setup.token right) : left = right :=
  deferResumeHash_round_injective sound.digest sound.minted sound.proposed same

/-- A delivery that reads the blob of a round goes on to count its cycle. -/
theorem Sound.afterRead (round writer : Nat) :
    afterRead setup.host setup.args (setup.blob round).text writer =
      .counting { setup.holding round with writer := writer } := by
  have minted := (@roundEnvelope_minted setup.host setup.clock setup.args.signal setup.first
    sound.minted round).1
  have verified := minted.verified sound.digest setup.args.signal (setup.clock round)
  have read := @afterRead_own setup.host (setup.blob round) setup.args Nat writer verified rfl
  rw [read, sound.counts, if_pos rfl, hold_own]
  rfl

/-- The resumption of a round mints the envelope of the next. -/
theorem Sound.resumedEnvelope (round : Nat) :
    resumedEnvelope setup.host (setup.clock (round + 1)) (setup.holding round).parked =
      .ok (setup.round (round + 1)) :=
  (@roundEnvelope_minted setup.host setup.clock setup.args.signal setup.first
    sound.minted round).2.1

end

section

variable {setup : ResumeSetup} {D : Type} [DecidableEq D] {done : Nat} {state : Oscillation D} {i : D}

theorem took_of_claims {stage : Stage} {round : Nat} (claims : stage.claims = some round) :
    stage.took = none := by
  cases stage with
  | parking held envelope phase => cases claims
  | resuming phase =>
      cases phase with
      | claiming held => rfl
      | _ => cases claims

/-- A step that resumes no round keeps the tracks when the delivery fits its new stage. -/
theorem Tracks.keep (tracks : setup.Tracks done state) {redis : Redis Nat} {stage : Stage}
    {read : Option Nat} (took : stage.took = (state.stage i).took)
    (fits : setup.Fits done redis.pending read stage)
    (others : ∀ j, j ≠ i → setup.Fits done redis.pending (state.read j) (state.stage j))
    (tokens : redis.resumed = state.redis.resumed)
    (pending : ∀ raw round, redis.pending = some (raw, round) →
      raw = (setup.blob round).text ∧ (round = done ∨ round + 1 = done))
    (claims : ∀ round, (state.stage i).claims = some round →
      stage.claims = some round ∨ round < done)
    (cycles : ∀ round, done ≤ round → redis.cycle (setup.round round).intentHash = 0 ∨
      stage.claims = some round ∨ ∃ j, j ≠ i ∧ (state.stage j).claims = some round)
    (refused : ∀ round reason, read = some round → stage.refusal = some reason →
      round < done ∨ ∃ j, j ≠ i ∧ (state.stage j).claims = some round) :
    setup.Tracks done (state.become i redis stage read) := by
  have view (j : D) : ((state.become i redis stage read).stage j).took = (state.stage j).took := by
    by_cases here : j = i
    · rw [here, Oscillation.become_stage, took]
    · rw [Oscillation.become_stage_other _ _ _ _ _ here]
  constructor
  · intro j
    rw [Oscillation.become_redis]
    by_cases here : j = i
    · rw [here, Oscillation.become_stage, Oscillation.become_read]
      exact fits
    · rw [Oscillation.become_stage_other _ _ _ _ _ here,
        Oscillation.become_read_other _ _ _ _ _ here]
      exact others j here
  · intro round
    rw [Oscillation.become_redis, tokens]
    exact tracks.tokens round
  · exact pending
  · intro round below
    obtain ⟨j, took⟩ := tracks.taken round below
    exact ⟨j, (view j).trans took⟩
  · intro j k round first second
    rw [view] at first second
    exact tracks.single j k round first second
  · intro round bound
    obtain zero | self | ⟨j, here, claimed⟩ := cycles round bound
    · exact .inl zero
    · exact .inr ⟨i, by rw [Oscillation.become_stage, self]⟩
    · exact .inr ⟨j, by rw [Oscillation.become_stage_other _ _ _ _ _ here, claimed]⟩
  · intro j round reason readAt refusal
    by_cases here : j = i
    · rw [here, Oscillation.become_stage] at refusal
      rw [here, Oscillation.become_read] at readAt
      obtain below | ⟨k, away, claimed⟩ := refused round reason readAt refusal
      · exact .inl below
      · exact .inr ⟨k, by rw [Oscillation.become_stage_other _ _ _ _ _ away, claimed]⟩
    · rw [Oscillation.become_stage_other _ _ _ _ _ here] at refusal
      rw [Oscillation.become_read_other _ _ _ _ _ here] at readAt
      obtain below | ⟨k, claimed⟩ := tracks.refused j round reason readAt refusal
      · exact .inl below
      · by_cases same : k = i
        · rw [same] at claimed
          obtain kept | below := claims round claimed
          · exact .inr ⟨i, by rw [Oscillation.become_stage, kept]⟩
          · exact .inl below
        · exact .inr ⟨k, by rw [Oscillation.become_stage_other _ _ _ _ _ same, claimed]⟩

theorem become_same (state : Oscillation D) (i : D) :
    state.become i state.redis (state.stage i) (state.read i) = state := by
  rw [Oscillation.become, Function.update_eq_self, Function.update_eq_self]

theorem step_eq (state : Oscillation D) (i : D) :
    setup.step state i = state.become i (setup.advance (state.stage i, state.redis)).2
      (setup.advance (state.stage i, state.redis)).1
      (if (state.stage i).starts then state.redis.pending.map Prod.snd else state.read i) := by
  rw [step, Oscillation.become]
  split
  · rfl
  · rw [Function.update_eq_self]

theorem Tracks.cycles_other (tracks : setup.Tracks done state)
    (idle : (state.stage i).claims = none) (round : Nat) (bound : done ≤ round) :
    state.redis.cycle (setup.round round).intentHash = 0 ∨
      ∃ j, j ≠ i ∧ (state.stage j).claims = some round := by
  obtain zero | ⟨j, claimed⟩ := tracks.cycles round bound
  · exact .inl zero
  · refine .inr ⟨j, ?_, claimed⟩
    rintro rfl
    rw [idle] at claimed
    cases claimed

/-- A step that neither resumes a round, nor claims one, nor moves a blob or a count. -/
theorem Tracks.idle (tracks : setup.Tracks done state) {count : Int} {stage : Stage}
    (took : stage.took = (state.stage i).took) (idle : (state.stage i).claims = none)
    (calm : stage.refusal = none)
    (fits : setup.Fits done state.redis.pending (state.read i) stage) :
    setup.Tracks done (state.become i { state.redis with count := count } stage (state.read i)) := by
  refine tracks.keep took fits (fun j _ => tracks.fits j) rfl tracks.pending ?_ ?_ ?_
  · intro round claimed
    rw [idle] at claimed
    cases claimed
  · intro round bound
    obtain zero | other := tracks.cycles_other idle round bound
    · exact .inl zero
    · exact .inr (.inr other)
  · intro round reason _ refusal
    rw [calm] at refusal
    cases refusal

/-- The first command reads the waiting blob, if any. -/
theorem Tracks.stepStart (sound : setup.Sound) (tracks : setup.Tracks done state)
    (here : state.stage i = .resuming .start) : setup.Tracks done (setup.step state i) := by
  have idle : (state.stage i).claims = none := by
    rw [here]
    rfl
  have unclaimed (round : Nat) (stage : Stage) (claimed : (state.stage i).claims = some round) :
      stage.claims = some round ∨ round < done := by
    rw [idle] at claimed
    cases claimed
  have cycles (stage : Stage) (round : Nat) (bound : done ≤ round) :
      state.redis.cycle (setup.round round).intentHash = 0 ∨ stage.claims = some round ∨
        ∃ j, j ≠ i ∧ (state.stage j).claims = some round := by
    obtain zero | other := tracks.cycles_other idle round bound
    · exact .inl zero
    · exact .inr (.inr other)
  rw [step_eq, here]
  simp only [Stage.starts, if_pos, advance, resumeDeferredIntent]
  cases waiting : state.redis.pending with
  | none =>
      refine tracks.keep ?_ ?_ (fun j _ => tracks.fits j) rfl tracks.pending
        (fun round => unclaimed round _) (cycles _) ?_
      · rw [here]
        rfl
      · rfl
      · intro round reason readAt
        cases readAt
  | some entry =>
      obtain ⟨raw, round⟩ := entry
      obtain ⟨rfl, place⟩ := tracks.pending raw round waiting
      simp only [sound.afterRead round round, Option.map_some]
      refine tracks.keep ?_ ?_ (fun j _ => tracks.fits j) rfl tracks.pending
        (fun round => unclaimed round _) (cycles _) ?_
      · rw [here]
        rfl
      · refine ⟨rfl, rfl, ?_⟩
        obtain rfl | before := place
        · exact .inr ⟨rfl, waiting⟩
        · left
          change round < done
          omega
      · intro _ reason _ refusal
        cases refusal

/-- A cycle is counted under the hash of the round that was read. -/
theorem Tracks.stepCounting (sound : setup.Sound) (tracks : setup.Tracks done state)
    {held : Held Nat} (here : state.stage i = .resuming (.counting held)) :
    setup.Tracks done (setup.step state i) := by
  obtain ⟨holds, readAt, place⟩ : setup.Fits done state.redis.pending (state.read i)
      (.resuming (.counting held)) := here ▸ tracks.fits i
  have hash : held.intentHash = (setup.round held.writer).intentHash := by
    rw [holds]
    rfl
  have idle : (state.stage i).claims = none := by
    rw [here]
    rfl
  have unclaimed (round : Nat) (stage : Stage) (claimed : (state.stage i).claims = some round) :
      stage.claims = some round ∨ round < done := by
    rw [idle] at claimed
    cases claimed
  -- The counter of another round stays what it was.
  have others (count : Nat) (round : Nat) (other : round ≠ held.writer) :
      Function.update state.redis.cycle held.intentHash count (setup.round round).intentHash =
        state.redis.cycle (setup.round round).intentHash := by
    apply Function.update_of_ne
    intro same
    rw [hash] at same
    exact other (sound.hash_injective same)
  rw [step_eq, here]
  simp only [Stage.starts, if_neg, advance, resumeDeferredIntent]
  split
  · next passed =>
      have claimed (bound : done ≤ held.writer) :
          ∃ j, j ≠ i ∧ (state.stage j).claims = some held.writer := by
        obtain zero | other := tracks.cycles_other idle held.writer bound
        · rw [hash, zero, zero_add, sound.one] at passed
          cases passed
        · exact other
      refine tracks.keep ?_ ?_ (fun j _ => tracks.fits j) rfl tracks.pending
        (fun round => unclaimed round _) ?_ ?_
      · rw [here]
        rfl
      · simp [Fits, readAt]
      · intro round bound
        by_cases same : round = held.writer
        · subst same
          exact .inr (.inr (claimed bound))
        · dsimp only
          rw [others _ round same]
          obtain zero | other := tracks.cycles_other idle round bound
          · exact .inl zero
          · exact .inr (.inr other)
      · intro round reason readRound _
        obtain rfl : held.writer = round := by simpa [readAt] using readRound
        by_cases bound : held.writer < done
        · exact .inl bound
        · exact .inr (claimed (not_lt.mp bound))
  · refine tracks.keep ?_ ?_ (fun j _ => tracks.fits j) rfl tracks.pending
      (fun round => unclaimed round _) ?_ ?_
    · rw [here]
      rfl
    · exact ⟨holds, by simpa using readAt, place⟩
    · intro round bound
      by_cases same : round = held.writer
      · subst same
        exact .inr (.inl rfl)
      · dsimp only
        rw [others _ round same]
        obtain zero | other := tracks.cycles_other idle round bound
        · exact .inl zero
        · exact .inr (.inr other)
    · intro _ reason _ refusal
      cases refusal

/-- A resumed round is one of those that were resumed. -/
theorem took_lt {pending : Option (JsString × Nat)} {read : Option Nat} {stage : Stage} {round : Nat}
    (fits : setup.Fits done pending read stage) (took : stage.took = some round) : round < done := by
  cases stage with
  | parking held envelope phase =>
      obtain rfl := Option.some.inj took
      exact fits.2.2.1
  | resuming phase =>
      cases phase with
      | clearing held =>
          obtain rfl := Option.some.inj took
          have next := fits.2.2.1
          omega
      | releasing held =>
          obtain rfl := Option.some.inj took
          have next := fits.2.2.1
          omega
      | resumed held =>
          obtain rfl := Option.some.inj took
          have next := fits.2.2.1
          omega
      | _ => cases took

/-- The other deliveries do not mind that the waiting round is resumed. -/
theorem Fits.claimed {pending : Option (JsString × Nat)} {read : Option Nat} {stage : Stage}
    (waiting : pending = some ((setup.blob done).text, done))
    (fits : setup.Fits done pending read stage) : setup.Fits (done + 1) pending read stage := by
  cases stage with
  | parking held envelope phase =>
      obtain ⟨readAt, same, below, busy⟩ := fits
      refine ⟨readAt, same, by omega, fun unparked => ?_⟩
      have gone := (busy unparked).2
      rw [waiting] at gone
      cases gone
  | resuming phase =>
      cases phase with
      | start => exact fits
      | counting held =>
          obtain ⟨holds, readAt, below | ⟨same, -⟩⟩ := fits
          · exact ⟨holds, readAt, .inl (by omega)⟩
          · exact ⟨holds, readAt, .inl (by omega)⟩
      | claiming held =>
          obtain ⟨holds, readAt, below | ⟨same, -⟩⟩ := fits
          · exact ⟨holds, readAt, .inl (by omega)⟩
          · exact ⟨holds, readAt, .inl (by omega)⟩
      | clearing held =>
          obtain ⟨-, -, next, own⟩ := fits
          have entry := waiting.symm.trans own
          simp only [Option.some.injEq, Prod.mk.injEq] at entry
          omega
      | releasing held => cases waiting.symm.trans fits.2.2.2
      | resumed held => cases waiting.symm.trans fits.2.2.2
      | unresumed reason => exact fits
      | _ => exact fits.elim

/-- The other deliveries do not mind that the blob of a resumed round is removed. -/
theorem Fits.cleared {pending : Option (JsString × Nat)} {read : Option Nat} {stage : Stage}
    {round : Nat} (waiting : pending = some ((setup.blob round).text, round))
    (last : round + 1 = done) (other : stage.took ≠ some round)
    (fits : setup.Fits done pending read stage) : setup.Fits done none read stage := by
  have moved {held : Held Nat} (place : held.writer < done ∨ held.writer = done ∧
      pending = some ((setup.blob done).text, done)) : held.writer < done := by
    obtain below | ⟨-, own⟩ := place
    · exact below
    · have entry := waiting.symm.trans own
      simp only [Option.some.injEq, Prod.mk.injEq] at entry
      omega
  cases stage with
  | parking held envelope phase =>
      obtain ⟨readAt, same, below, busy⟩ := fits
      refine ⟨readAt, same, below, fun unparked => ?_⟩
      cases waiting.symm.trans (busy unparked).2
  | resuming phase =>
      cases phase with
      | start => exact fits
      | counting held => exact ⟨fits.1, fits.2.1, .inl (moved fits.2.2)⟩
      | claiming held => exact ⟨fits.1, fits.2.1, .inl (moved fits.2.2)⟩
      | clearing held =>
          obtain ⟨-, -, next, -⟩ := fits
          obtain rfl : held.writer = round := by omega
          exact (other rfl).elim
      | releasing held => cases waiting.symm.trans fits.2.2.2
      | resumed held => cases waiting.symm.trans fits.2.2.2
      | unresumed reason => exact fits
      | _ => exact fits.elim

/-- The other deliveries do not mind that the next round is parked. -/
theorem Fits.stored {read : Option Nat} {stage : Stage} {round : Nat} {raw : JsString}
    (last : round + 1 = done) (other : stage.took ≠ some round)
    (fits : setup.Fits done none read stage) : setup.Fits done (some (raw, done)) read stage := by
  have moved {held : Held Nat} (place : held.writer < done ∨ held.writer = done ∧
      none = some ((setup.blob done).text, done)) : held.writer < done :=
    place.resolve_right fun waits => nomatch waits.2
  have busy {held : Held Nat} (next : held.writer + 1 = done)
      (took : stage.took = some held.writer) : False := by
    obtain rfl : held.writer = round := by omega
    exact other took
  cases stage with
  | parking held envelope phase =>
      obtain ⟨readAt, same, below, unstored⟩ := fits
      refine ⟨readAt, same, below, fun unparked => ?_⟩
      exact (busy (unstored unparked).1 rfl).elim
  | resuming phase =>
      cases phase with
      | start => exact fits
      | counting held => exact ⟨fits.1, fits.2.1, .inl (moved fits.2.2)⟩
      | claiming held => exact ⟨fits.1, fits.2.1, .inl (moved fits.2.2)⟩
      | clearing held => cases fits.2.2.2
      | releasing held => exact (busy fits.2.2.1 rfl).elim
      | resumed held => exact (busy fits.2.2.1 rfl).elim
      | unresumed reason => exact fits
      | _ => exact fits.elim

/-- The delivery that finds the token of the waiting round free resumes that round. -/
theorem Tracks.claim (sound : setup.Sound) (tracks : setup.Tracks done state) {held : Held Nat}
    (here : state.stage i = .resuming (.claiming held)) (writer : held.writer = done)
    (holds : held = setup.holding held.writer) (readAt : state.read i = some held.writer)
    (waiting : state.redis.pending = some ((setup.blob done).text, done)) :
    setup.Tracks (done + 1) (state.become i { state.redis with
      resumed := Function.update state.redis.resumed (setup.token done) true }
      (.resuming (.clearing held)) (state.read i)) := by
  have claims : (state.stage i).claims = some done := by
    rw [here, ← writer]
    rfl
  have took : (state.stage i).took = none := took_of_claims claims
  have below {j : D} {round : Nat} (away : (state.stage j).took = some round) : round < done :=
    took_lt (tracks.fits j) away
  constructor
  · intro j
    by_cases same : j = i
    · rw [same, Oscillation.become_stage, Oscillation.become_read]
      refine ⟨holds, readAt, by omega, ?_⟩
      rw [writer]
      exact waiting
    · rw [Oscillation.become_stage_other _ _ _ _ _ same, Oscillation.become_read_other _ _ _ _ _ same]
      exact Fits.claimed waiting (tracks.fits j)
  · intro round
    change Function.update state.redis.resumed (setup.token done) true (setup.token round) = _
    by_cases same : round = done
    · rw [same, Function.update_self]
      simp
    · have other : setup.token round ≠ setup.token done := fun tokens =>
        same (sound.token_injective tokens)
      rw [Function.update_of_ne other, tracks.tokens]
      congr 1
      rw [eq_iff_iff]
      omega
  · intro raw round entry
    have same := waiting.symm.trans entry
    simp only [Option.some.injEq, Prod.mk.injEq] at same
    obtain ⟨rfl, rfl⟩ := same
    exact ⟨rfl, .inr rfl⟩
  · intro round bound
    by_cases same : round = done
    · refine ⟨i, ?_⟩
      rw [Oscillation.become_stage, same, ← writer]
      rfl
    · obtain ⟨j, away⟩ := tracks.taken round (by omega)
      refine ⟨j, ?_⟩
      rw [Oscillation.become_stage_other, away]
      rintro rfl
      rw [took] at away
      cases away
  · intro j k round first second
    have self {round : Nat} (mine : ((state.become i { state.redis with
        resumed := Function.update state.redis.resumed (setup.token done) true }
        (.resuming (.clearing held)) (state.read i)).stage i).took = some round) : round = done := by
      rw [Oscillation.become_stage] at mine
      rw [← writer]
      exact (Option.some.inj mine).symm
    by_cases sameJ : j = i <;> by_cases sameK : k = i
    · rw [sameJ, sameK]
    · rw [Oscillation.become_stage_other _ _ _ _ _ sameK] at second
      rw [sameJ] at first
      have bound := below second
      have same := self first
      omega
    · rw [Oscillation.become_stage_other _ _ _ _ _ sameJ] at first
      rw [sameK] at second
      have bound := below first
      have same := self second
      omega
    · rw [Oscillation.become_stage_other _ _ _ _ _ sameJ] at first
      rw [Oscillation.become_stage_other _ _ _ _ _ sameK] at second
      exact tracks.single j k round first second
  · intro round bound
    obtain zero | ⟨j, claimed⟩ := tracks.cycles round (by omega)
    · exact .inl zero
    · refine .inr ⟨j, ?_⟩
      rw [Oscillation.become_stage_other, claimed]
      rintro rfl
      have same := Option.some.inj (claims.symm.trans claimed)
      omega
  · intro j round reason readRound refusal
    by_cases same : j = i
    · rw [same, Oscillation.become_stage] at refusal
      cases refusal
    · rw [Oscillation.become_stage_other _ _ _ _ _ same] at refusal
      rw [Oscillation.become_read_other _ _ _ _ _ same] at readRound
      obtain bound | ⟨k, claimed⟩ := tracks.refused j round reason readRound refusal
      · exact .inl (by omega)
      · by_cases mine : k = i
        · rw [mine] at claimed
          have last := Option.some.inj (claims.symm.trans claimed)
          exact .inl (by omega)
        · exact .inr ⟨k, by rw [Oscillation.become_stage_other _ _ _ _ _ mine, claimed]⟩

/-- A delivery that asks for a token gets it exactly when its round waits. -/
theorem Tracks.stepClaiming (sound : setup.Sound) (tracks : setup.Tracks done state)
    {held : Held Nat} (here : state.stage i = .resuming (.claiming held)) :
    ∃ later, setup.Tracks later (setup.step state i) := by
  obtain ⟨holds, readAt, place⟩ : setup.Fits done state.redis.pending (state.read i)
      (.resuming (.claiming held)) := here ▸ tracks.fits i
  have token : held.resumeHash = setup.token held.writer := by
    rw [holds]
    rfl
  have free := tracks.tokens held.writer
  rw [step_eq, here]
  simp only [Stage.starts, advance, resumeDeferredIntent, token, free]
  obtain below | ⟨writer, waiting⟩ := place
  · refine ⟨done, ?_⟩
    rw [decide_eq_true below, if_pos rfl]
    refine tracks.keep ?_ ?_ (fun j _ => tracks.fits j) rfl tracks.pending ?_ ?_ ?_
    · rw [here]
      rfl
    · simp [Fits, readAt]
    · intro round claimed
      rw [here] at claimed
      obtain rfl := Option.some.inj claimed
      exact .inr below
    · intro round bound
      obtain zero | ⟨j, claimed⟩ := tracks.cycles round bound
      · exact .inl zero
      · refine .inr (.inr ⟨j, ?_, claimed⟩)
        rintro rfl
        rw [here] at claimed
        obtain rfl := Option.some.inj claimed
        omega
    · intro round reason readRound _
      obtain rfl : held.writer = round := by simpa [readAt] using readRound
      exact .inl below
  · refine ⟨done + 1, ?_⟩
    have unset : decide (held.writer < done) = false := by
      rw [writer]
      simp
    rw [unset, if_neg Bool.false_ne_true, writer]
    exact tracks.claim sound here writer holds readAt waiting

/-- A delivery that resumed a round removes its blob. -/
theorem Tracks.stepClearing (tracks : setup.Tracks done state) {held : Held Nat}
    (here : state.stage i = .resuming (.clearing held)) :
    setup.Tracks done (setup.step state i) := by
  obtain ⟨holds, readAt, last, waiting⟩ : setup.Fits done state.redis.pending (state.read i)
      (.resuming (.clearing held)) := here ▸ tracks.fits i
  have took : (state.stage i).took = some held.writer := by
    rw [here]
    rfl
  have idle : (state.stage i).claims = none := by
    rw [here]
    rfl
  have others (j : D) (other : j ≠ i) : setup.Fits done none (state.read j) (state.stage j) := by
    refine Fits.cleared waiting last ?_ (tracks.fits j)
    intro same
    exact other (tracks.single j i held.writer same took)
  have cleared {stage : Stage} (same : stage.took = some held.writer) (calm : stage.refusal = none)
      (fits : setup.Fits done none (state.read i) stage) :
      setup.Tracks done (state.become i { state.redis with pending := none } stage
        (state.read i)) := by
    refine tracks.keep (same.trans took.symm) fits others rfl nofun ?_ ?_ ?_
    · intro round claimed
      rw [idle] at claimed
      cases claimed
    · intro round bound
      obtain zero | other := tracks.cycles_other idle round bound
      · exact .inl zero
      · exact .inr (.inr other)
    · intro round reason _ refusal
      rw [calm] at refusal
      cases refusal
  rw [step_eq, here]
  simp only [Stage.starts, advance, resumeDeferredIntent]
  cases setup.args.decr with
  | true => exact cleared rfl rfl ⟨holds, readAt, last, rfl⟩
  | false => exact cleared rfl rfl ⟨holds, readAt, last, rfl⟩

/-- The rest of a resumption releases the quota and mints the envelope of the next round. -/
theorem Tracks.stepReturning (sound : setup.Sound) (tracks : setup.Tracks done state)
    {held : Held Nat} (here : state.stage i = .resuming (.releasing held) ∨
      state.stage i = .resuming (.resumed held)) : setup.Tracks done (setup.step state i) := by
  have took : (state.stage i).took = some held.writer := by
    obtain here | here := here <;>
    · rw [here]
      rfl
  have idle : (state.stage i).claims = none := by
    obtain here | here := here <;>
    · rw [here]
      rfl
  rw [step_eq]
  obtain here | here := here
  · have fits : setup.Fits done state.redis.pending (state.read i) (.resuming (.releasing held)) :=
      here ▸ tracks.fits i
    rw [here]
    exact tracks.idle took.symm idle rfl fits
  · obtain ⟨holds, readAt, last, gone⟩ : setup.Fits done state.redis.pending (state.read i)
        (.resuming (.resumed held)) := here ▸ tracks.fits i
    have minted := sound.resumedEnvelope held.writer
    rw [← holds] at minted
    rw [here]
    simp only [Stage.starts, advance, minted]
    exact tracks.idle took.symm idle rfl ⟨readAt, rfl, by omega, fun _ => ⟨last, gone⟩⟩

/-- The next round is parked at most once, where no blob waits. -/
theorem Tracks.stepParking (tracks : setup.Tracks done state) {held : Held Nat}
    {envelope : IntentEnvelope} {phase : Phase Nat}
    (here : state.stage i = .parking held envelope phase) :
    setup.Tracks done (setup.step state i) := by
  have fits : setup.Fits done state.redis.pending (state.read i) (.parking held envelope phase) :=
    here ▸ tracks.fits i
  obtain ⟨readAt, rfl, below, busy⟩ := fits
  have took : (state.stage i).took = some held.writer := by
    rw [here]
    rfl
  have idle : (state.stage i).claims = none := by
    rw [here]
    rfl
  -- Only the counter and the phase of the park change.
  have counted (next : Phase Nat) (count : Int)
      (unstored : next.isParked = false → held.writer + 1 = done ∧ state.redis.pending = none) :
      setup.Tracks done (state.become i { state.redis with count := count }
        (.parking held (setup.round (held.writer + 1)) next) (state.read i)) :=
    tracks.idle took.symm idle rfl ⟨readAt, rfl, below, unstored⟩
  rw [step_eq, here]
  simp only [Stage.starts, advance]
  cases phase with
  | start =>
      simp only [parkDeferredIntent, countPark]
      have open' := busy rfl
      repeat' split
      all_goals exact counted _ _ fun _ => open'
  | refusing count => exact counted _ _ fun _ => busy rfl
  | accepted count =>
      obtain ⟨last, gone⟩ := busy rfl
      refine tracks.keep took.symm ⟨readAt, rfl, below, nofun⟩ ?_ rfl ?_ ?_ ?_ ?_
      · intro j other
        have fits := tracks.fits j
        rw [gone] at fits
        rw [last]
        refine Fits.stored last ?_ fits
        intro same
        exact other (tracks.single j i held.writer same took)
      · intro raw round entry
        obtain ⟨rfl, rfl⟩ := Prod.mk.inj (Option.some.inj entry)
        exact ⟨rfl, .inl last⟩
      · intro round claimed
        rw [idle] at claimed
        cases claimed
      · intro round bound
        obtain zero | other := tracks.cycles_other idle round bound
        · exact .inl zero
        · exact .inr (.inr other)
      · intro round reason _ refusal
        cases refusal
  | _ => exact counted _ _ busy

/-- Every command keeps track of the rounds. -/
theorem Tracks.step (sound : setup.Sound) (tracks : setup.Tracks done state) (i : D) :
    ∃ later, setup.Tracks later (setup.step state i) := by
  cases here : state.stage i with
  | parking held envelope phase => exact ⟨done, tracks.stepParking here⟩
  | resuming phase =>
      have fits : setup.Fits done state.redis.pending (state.read i) (.resuming phase) :=
        here ▸ tracks.fits i
      cases phase with
      | start => exact ⟨done, tracks.stepStart sound here⟩
      | counting held => exact ⟨done, tracks.stepCounting sound here⟩
      | claiming held => exact tracks.stepClaiming sound here
      | clearing held => exact ⟨done, tracks.stepClearing here⟩
      | releasing held => exact ⟨done, tracks.stepReturning sound (.inl here)⟩
      | resumed held => exact ⟨done, tracks.stepReturning sound (.inr here)⟩
      | unresumed reason =>
          refine ⟨done, ?_⟩
          have same : setup.step state i = state := by
            rw [step_eq, here]
            simp only [Stage.starts, advance, resumeDeferredIntent]
            exact (congrArg (fun stage => state.become i state.redis stage (state.read i))
              here.symm).trans (become_same state i)
          rw [same]
          exact tracks
      | _ => exact fits.elim

theorem tracks_start (sound : setup.Sound) : setup.Tracks 0 (setup.start D) where
  fits := fun _ => rfl
  tokens := fun round => (decide_eq_false (Nat.not_lt_zero round)).symm
  pending := by
    intro raw round entry
    obtain ⟨rfl, rfl⟩ := Prod.mk.inj (Option.some.inj entry)
    exact ⟨rfl, .inl rfl⟩
  taken := nofun
  single := nofun
  cycles := fun _ _ => .inl rfl
  refused := nofun

/-- Every schedule keeps track of the rounds. -/
theorem tracks_run (sound : setup.Sound) (schedule : List D) :
    ∃ done, setup.Tracks done (setup.run schedule) := by
  induction schedule using List.reverseRecOn with
  | nil => exact ⟨0, tracks_start sound⟩
  | append_singleton schedule i ih =>
      obtain ⟨done, tracks⟩ := ih
      rw [run, List.foldl_append]
      exact tracks.step sound i

/-- A delivery that resumed a round had read it. -/
theorem read_of_took {pending : Option (JsString × Nat)} {read : Option Nat} {stage : Stage}
    {round : Nat} (fits : setup.Fits done pending read stage) (took : stage.took = some round) :
    read = some round := by
  cases stage with
  | parking held envelope phase => exact fits.1.trans took
  | resuming phase =>
      cases phase with
      | clearing held => exact fits.2.1.trans took
      | releasing held => exact fits.2.1.trans took
      | resumed held => exact fits.2.1.trans took
      | _ => cases took

theorem quiet_of_refusal {stage : Stage} {reason : ResumeRefusal}
    (refusal : stage.refusal = some reason) :
    stage = .resuming (.unresumed reason) := by
  cases stage with
  | parking held envelope phase => cases refusal
  | resuming phase =>
      cases phase with
      | unresumed other =>
          obtain rfl := Option.some.inj refusal
          rfl
      | _ => cases refusal

/-- The rounds that were read lie within the cap. -/
def ReadsInCap (setup : ResumeSetup) (state : Oscillation D) : Prop :=
  ∀ i round, state.read i = some round → setup.inCap round = true

theorem readsInCap_step (within : ReadsInCap setup state) (safe : setup.safeStep state i = true) :
    ReadsInCap setup (setup.step state i) := by
  intro j round readAt
  rw [step_eq] at readAt
  by_cases here : j = i
  · rw [here, Oscillation.become_read] at readAt
    split at readAt
    · next starts =>
        cases waiting : state.redis.pending with
        | none =>
            rw [waiting] at readAt
            cases readAt
        | some entry =>
            obtain ⟨raw, other⟩ := entry
            rw [waiting] at readAt
            obtain rfl : other = round := Option.some.inj readAt
            rw [safeStep, waiting] at safe
            simpa [starts] using safe
    · exact within i round readAt
  · rw [Oscillation.become_read_other _ _ _ _ _ here] at readAt
    exact within j round readAt

theorem readsInCap_run (schedule : List D) (state : Oscillation D)
    (within : ReadsInCap setup state) (safe : setup.safeFrom state schedule = true) :
    ReadsInCap setup (schedule.foldl setup.step state) := by
  induction schedule generalizing state with
  | nil => exact within
  | cons i rest ih =>
      rw [safeFrom, Bool.and_eq_true] at safe
      exact ih _ (readsInCap_step within safe.1) safe.2

theorem Tracks.bounded (tracks : setup.Tracks done state) (within : ReadsInCap setup state) :
    setup.Bounded state where
  once := tracks.single
  first := by
    intro i round reason readAt _ refusal
    have stage := quiet_of_refusal refusal
    have fits := tracks.fits i
    rw [stage, readAt] at fits
    refine ⟨fits, ?_⟩
    obtain below | ⟨j, claimed⟩ := tracks.refused i round reason readAt refusal
    · obtain ⟨j, took⟩ := tracks.taken round below
      refine ⟨j, ?_, .inl took⟩
      rintro rfl
      rw [stage] at took
      cases took
    · refine ⟨j, ?_, .inr claimed⟩
      rintro rfl
      rw [stage] at claimed
      cases claimed
  later := by
    intro i round readAt beyond
    rw [within i round readAt] at beyond
    cases beyond
  unread := by
    intro i reason readAt refusal
    have fits := tracks.fits i
    rw [quiet_of_refusal refusal, readAt] at fits
    exact fits
  returns := by
    intro i raised threw
    have fits := tracks.fits i
    rw [threw] at fits
    exact fits

/-- A resumption of a round beyond the cap breaks the bound. -/
theorem Tracks.unbounded (tracks : setup.Tracks done state) {round : Nat}
    (took : (state.stage i).took = some round) (beyond : setup.inCap round = false) :
    ¬setup.Bounded state := by
  intro bounded
  have readAt := read_of_took (tracks.fits i) took
  rw [(bounded.later i round readAt beyond).1] at took
  cases took

theorem run_append (schedule more : List D) :
    setup.run (schedule ++ more) = more.foldl setup.step (setup.run schedule) := by
  rw [run, List.foldl_append]
  rfl

/-- A claimed round is resumed, at the latest by the delivery that claims it. -/
theorem took_of_claimed (sound : setup.Sound) {schedule : List D} {round : Nat}
    (claimed : ((setup.run schedule).stage i).claims = some round) :
    ∃ more j, ((setup.run (schedule ++ more)).stage j).took = some round := by
  obtain ⟨done, tracks⟩ := tracks_run sound schedule
  have here : ∃ held, (setup.run schedule).stage i = .resuming (.claiming held) ∧
      held.writer = round := by
    cases stage : (setup.run schedule).stage i with
    | parking held envelope phase =>
        rw [stage] at claimed
        cases claimed
    | resuming phase =>
        rw [stage] at claimed
        cases phase with
        | claiming held => exact ⟨held, rfl, Option.some.inj claimed⟩
        | _ => cases claimed
  obtain ⟨held, here, rfl⟩ := here
  obtain ⟨holds, readAt, place⟩ : setup.Fits done (setup.run schedule).redis.pending
      ((setup.run schedule).read i) (.resuming (.claiming held)) := here ▸ tracks.fits i
  obtain below | ⟨writer, waiting⟩ := place
  · obtain ⟨j, took⟩ := tracks.taken held.writer below
    exact ⟨[], j, by rw [List.append_nil, took]⟩
  · refine ⟨[i], i, ?_⟩
    have token : held.resumeHash = setup.token held.writer := by
      rw [holds]
      rfl
    have free : (setup.run schedule).redis.resumed (setup.token held.writer) = false := by
      rw [tracks.tokens, writer]
      simp
    rw [run_append, List.foldl_cons, List.foldl_nil, step_eq, Oscillation.become_stage, here]
    simp only [advance, resumeDeferredIntent, token, free]
    rfl

/-- Where a delivery may read a round beyond the cap, the bound will not last. -/
theorem unbounded_of_unsafe (sound : setup.Sound) {schedule : List D}
    (unsafeStep : setup.safeStep (setup.run schedule) i = false) :
    ∃ more, ¬setup.Bounded (setup.run (schedule ++ more)) := by
  obtain ⟨done, tracks⟩ := tracks_run sound schedule
  rw [safeStep] at unsafeStep
  split at unsafeStep
  · next raw round waiting =>
      rw [Bool.or_eq_false_iff, Bool.not_eq_false'] at unsafeStep
      obtain ⟨starts, beyond⟩ := unsafeStep
      have broken {more : List D} {j : D}
          (took : ((setup.run (schedule ++ more)).stage j).took = some round) :
          ∃ more, ¬setup.Bounded (setup.run (schedule ++ more)) := by
        obtain ⟨later, after⟩ := tracks_run sound (schedule ++ more)
        exact ⟨more, after.unbounded took beyond⟩
      obtain ⟨rfl, rfl | before⟩ := tracks.pending raw round waiting
      · obtain zero | ⟨j, claimed⟩ := tracks.cycles round le_rfl
        · -- Nobody counted a cycle of the round yet, so the delivery itself claims it.
          have here : (setup.run schedule).stage i = .resuming .start := by
            cases stage : (setup.run schedule).stage i with
            | parking held envelope phase =>
                rw [stage] at starts
                cases starts
            | resuming phase =>
                rw [stage] at starts
                cases phase with
                | start => rfl
                | _ => cases starts
          have counted := sound.afterRead round round
          have hash : (setup.holding round).intentHash = (setup.round round).intentHash := rfl
          have claimed : ((setup.run (schedule ++ [i, i])).stage i).claims = some round := by
            rw [run_append, List.foldl_cons, List.foldl_cons, List.foldl_nil, step_eq, step_eq,
              Oscillation.become_stage, Oscillation.become_stage, Oscillation.become_redis, here]
            simp only [advance, resumeDeferredIntent, waiting, counted, hash, zero, zero_add,
              sound.one]
            rfl
          obtain ⟨more, j, took⟩ := took_of_claimed sound claimed
          rw [List.append_assoc] at took
          exact broken took
        · obtain ⟨more, j, took⟩ := took_of_claimed sound claimed
          exact broken took
      · obtain ⟨j, took⟩ := tracks.taken round (by omega)
        rw [← List.append_nil schedule] at took
        exact broken took
  · cases unsafeStep

theorem become_become (state : Oscillation D) (i : D) (redis later : Redis Nat)
    (stage next : Stage) (read again : Option Nat) :
    (state.become i redis stage read).become i later next again =
      state.become i later next again := by
  simp only [Oscillation.become, Function.update_idem]

theorem step_become (state : Oscillation D) (i : D) (redis : Redis Nat) (stage : Stage)
    (read : Option Nat) :
    setup.step (state.become i redis stage read) i =
      state.become i (setup.advance (stage, redis)).2 (setup.advance (stage, redis)).1
        (if stage.starts then redis.pending.map Prod.snd else read) := by
  rw [step_eq, Oscillation.become_stage, Oscillation.become_redis, Oscillation.become_read,
    become_become]

/-- A delivery that runs alone resumes the waiting round and parks the next one. -/
theorem deliver_alone (sound : setup.Sound) (decr : setup.args.decr = true) {round : Nat}
    {cycle : JsString → Nat} {resumed : JsString → Bool}
    (redis : state.redis = ⟨some ((setup.blob round).text, round), 1, cycle, resumed⟩)
    (stage : state.stage i = .resuming .start)
    (uncounted : cycle (setup.round round).intentHash = 0)
    (free : resumed (setup.token round) = false) :
    (List.replicate 8 i).foldl setup.step state =
      state.become i
        ⟨some ((setup.blob (round + 1)).text, round + 1), 1,
          Function.update cycle (setup.round round).intentHash 1,
          Function.update resumed (setup.token round) true⟩
        (.parking (setup.holding round) (setup.round (round + 1)) (.parked 1)) (some round) := by
  have hash : (setup.holding round).intentHash = (setup.round round).intentHash := rfl
  have token : (setup.holding round).resumeHash = setup.token round := rfl
  have within : (defaultDeferQuotaPerSession).surpassed (0 + 1) = false := by decide +kernel
  have reads : setup.advance (.resuming .start,
        ⟨some ((setup.blob round).text, round), 1, cycle, resumed⟩) =
      (.resuming (.counting (setup.holding round)),
        ⟨some ((setup.blob round).text, round), 1, cycle, resumed⟩) := by
    simp only [advance, resumeDeferredIntent, sound.afterRead round round]
    rfl
  have counts : setup.advance (.resuming (.counting (setup.holding round)),
        ⟨some ((setup.blob round).text, round), 1, cycle, resumed⟩) =
      (.resuming (.claiming (setup.holding round)),
        ⟨some ((setup.blob round).text, round), 1,
          Function.update cycle (setup.round round).intentHash 1, resumed⟩) := by
    simp only [advance, resumeDeferredIntent, hash, uncounted, zero_add, sound.one]
    rfl
  have claims (counted : JsString → Nat) : setup.advance
        (.resuming (.claiming (setup.holding round)),
          ⟨some ((setup.blob round).text, round), 1, counted, resumed⟩) =
      (.resuming (.clearing (setup.holding round)),
        ⟨some ((setup.blob round).text, round), 1, counted,
          Function.update resumed (setup.token round) true⟩) := by
    simp only [advance, resumeDeferredIntent, token, free]
    rfl
  have clears (pending : Option (JsString × Nat)) (counted : JsString → Nat)
      (spent : JsString → Bool) :
      setup.advance (.resuming (.clearing (setup.holding round)), ⟨pending, 1, counted, spent⟩) =
      (.resuming (.releasing (setup.holding round)), ⟨none, 1, counted, spent⟩) := by
    simp only [advance, resumeDeferredIntent, decr]
    rfl
  have releases (counted : JsString → Nat) (spent : JsString → Bool) :
      setup.advance (.resuming (.releasing (setup.holding round)), ⟨none, 1, counted, spent⟩) =
      (.resuming (.resumed (setup.holding round)), ⟨none, 0, counted, spent⟩) := rfl
  have mints (counted : JsString → Nat) (spent : JsString → Bool) :
      setup.advance (.resuming (.resumed (setup.holding round)), ⟨none, 0, counted, spent⟩) =
      (.parking (setup.holding round) (setup.round (round + 1)) .start,
        ⟨none, 0, counted, spent⟩) := by
    have minted := sound.resumedEnvelope round
    have writer : (setup.holding round).writer = round := rfl
    simp only [advance, writer, minted]
  have accepts (counted : JsString → Nat) (spent : JsString → Bool) :
      setup.advance (.parking (setup.holding round) (setup.round (round + 1)) .start,
        ⟨none, 0, counted, spent⟩) =
      (.parking (setup.holding round) (setup.round (round + 1)) (.accepted 1),
        ⟨none, 1, counted, spent⟩) := by
    have quota : (setup.parkArgs (setup.holding round) (setup.round (round + 1))).quota =
        defaultDeferQuotaPerSession := rfl
    simp only [advance, parkDeferredIntent, countPark, quota, within]
    cases (setup.parkArgs (setup.holding round) (setup.round (round + 1))).evalIncrCheck <;> rfl
  have parks (counted : JsString → Nat) (spent : JsString → Bool) :
      setup.advance (.parking (setup.holding round) (setup.round (round + 1)) (.accepted 1),
        ⟨none, 1, counted, spent⟩) =
      (.parking (setup.holding round) (setup.round (round + 1)) (.parked 1),
        ⟨some ((setup.blob (round + 1)).text, round + 1), 1, counted, spent⟩) := rfl
  rw [show List.replicate 8 i = [i, i, i, i, i, i, i, i] from rfl]
  simp only [List.foldl_cons, List.foldl_nil]
  rw [step_eq state i, stage, redis, reads, step_become, counts, step_become, claims, step_become, clears,
    step_become, releases, step_become, mints, step_become, accepts, step_become, parks]
  rfl

/-- No delivery begins twice. -/
theorem starts_advance (stage : Stage) (redis : Redis Nat) :
    (setup.advance (stage, redis)).1.starts = false := by
  cases stage with
  | parking held envelope phase => rfl
  | resuming phase =>
      cases phase with
      | start =>
          simp only [advance, resumeDeferredIntent]
          split
          · rfl
          · simp only [Runtime.afterRead]
            repeat' split
            all_goals rfl
      | counting held =>
          simp only [advance, resumeDeferredIntent]
          split <;> rfl
      | claiming held =>
          simp only [advance, resumeDeferredIntent]
          split <;> rfl
      | clearing held =>
          simp only [advance, resumeDeferredIntent]
          split <;> rfl
      | resumed held =>
          simp only [advance]
          split <;> rfl
      | _ => rfl

/-- A delivery that has begun reads nothing anymore. -/
theorem safeFrom_replicate (begun : (state.stage i).starts = false) (count : Nat) :
    setup.safeFrom state (List.replicate count i) = true := by
  induction count generalizing state with
  | zero => rfl
  | succ count ih =>
      rw [List.replicate_succ, safeFrom, ih]
      · rw [Bool.and_true, safeStep, begun]
        split <;> rfl
      · rw [step_eq, Oscillation.become_stage]
        exact starts_advance _ _

end

/-- The deliveries run one after the other. -/
def deliveries (count : Nat) : List Nat := (List.range count).flatMap (List.replicate 8)

/-- Deliveries that run one after the other resume one round each, whatever the cap is. -/
theorem run_deliveries {setup : ResumeSetup} (sound : setup.Sound) (decr : setup.args.decr = true)
    (count : Nat) :
    (setup.run (deliveries count)).redis.pending = some ((setup.blob count).text, count) ∧
      (setup.run (deliveries count)).redis.count = 1 ∧
      (∀ round, count ≤ round →
        (setup.run (deliveries count)).redis.cycle (setup.round round).intentHash = 0 ∧
          (setup.run (deliveries count)).redis.resumed (setup.token round) = false ∧
          (setup.run (deliveries count)).stage round = .resuming .start) ∧
      ∀ round, round < count → ((setup.run (deliveries count)).stage round).took = some round := by
  induction count with
  | zero => exact ⟨rfl, rfl, fun _ _ => ⟨rfl, rfl, rfl⟩, nofun⟩
  | succ count ih =>
      obtain ⟨pending, quota, later, earlier⟩ := ih
      obtain ⟨uncounted, free, stage⟩ := later count le_rfl
      have redis : (setup.run (deliveries count)).redis =
          ⟨some ((setup.blob count).text, count), 1,
            (setup.run (deliveries count)).redis.cycle,
            (setup.run (deliveries count)).redis.resumed⟩ := by
        rw [← pending, ← quota]
      have delivered : setup.run (deliveries (count + 1)) =
          (List.replicate 8 count).foldl setup.step (setup.run (deliveries count)) := by
        rw [deliveries, List.range_succ, List.flatMap_append, List.flatMap_singleton,
          ← deliveries, run_append]
      rw [delivered, deliver_alone sound decr redis stage uncounted free]
      refine ⟨rfl, rfl, fun round after => ?_, fun round before => ?_⟩
      · obtain ⟨zero, unset, idle⟩ := later round (by omega)
        refine ⟨?_, ?_, ?_⟩
        · refine (Function.update_of_ne ?_ _ _).trans zero
          intro same
          have round := sound.hash_injective same
          omega
        · refine (Function.update_of_ne ?_ _ _).trans unset
          intro same
          have round := sound.token_injective same
          omega
        · rw [Oscillation.become_stage_other _ _ _ _ _ (by omega), idle]
      · by_cases last : round = count
        · rw [last, Oscillation.become_stage]
          rfl
        · rw [Oscillation.become_stage_other _ _ _ _ _ last]
          exact earlier round (by omega)

/-- The cap bounds the resumptions in exactly the runs that read no round beyond it: the counter of
every round starts again under a new hash. -/
theorem resumptions_bounded {setup : ResumeSetup} (digest : setup.host.InjectiveDigest)
    {toolUse : BuildEnvelopeFromToolUseArgs} (payload : toolUse.payload.IsJson)
    (built : buildEnvelopeFromToolUse setup.host (setup.clock 0) toolUse = .ok setup.first)
    (counts : setup.args.countsCycles = true) (one : setup.args.cap.passed 1 = false) {D : Type}
    [DecidableEq D] :
    (∀ schedule : List D, setup.safeFrom (setup.start D) schedule = true →
      setup.Bounded (setup.run schedule)) ∧
    ∀ (schedule : List D) (i : D), setup.safeStep (setup.run schedule) i = false →
      ∃ more, ¬setup.Bounded (setup.run (schedule ++ more)) := by
  have sound : setup.Sound :=
    { digest := digest
      minted := minted_of_buildEnvelope payload rfl built
      proposed := by
        obtain ⟨fields, -, -⟩ := buildEnvelope_eq_ok.mp built
        rw [fields]
        rfl
      counts := counts
      one := one }
  refine ⟨fun schedule safe => ?_, fun schedule i unsafeStep => unbounded_of_unsafe sound unsafeStep⟩
  obtain ⟨done, tracks⟩ := tracks_run sound schedule
  exact tracks.bounded (readsInCap_run schedule (setup.start D) nofun safe)

end ResumeSetup

/-- The model proposes the sample payment in a clean session. -/
def paymentToolUse : BuildEnvelopeFromToolUseArgs where
  intentKind := "payment.send"
  payload := .obj [("amount", .num 1)]
  sessionId := "s-1"
  taint := .untrusted
  origin := .llm
  contamination := none
  nonce := "n-1"

/-- The canonical text of the envelope that a resumption mints from the payment. -/
def resumedPaymentText (nonce : JsString) : JsString :=
  utf16 "\x7b\"actor\":\x7b\"principal\":\"system\",\"sessionId\":\"s-1\"\x7d,\"kind\":\"payment.send\"," ++
    utf16 "\"nonce\":\"" ++ nonce ++ utf16 "\",\"origin\":\"LLM\",\"payload\":\x7b\"amount\":1\x7d," ++
    utf16 "\"taint\":\"TRUSTED\",\"version\":2\x7d"

def roundHashes : List JsString :=
  ["1daba7c0306f6af2025d02a343346fb68d1df58b818fa16e1f9c1961b3edd90d",
    "2fe6b858cddeb40ac22b7c37809b6efdc0dbf9f9534e0a44034611493f08dae2",
    "42227dd5a2aa3363a95677f8db46b0d6ff1d7f5af99d4c27c673e42108e9adef",
    "5e2b2cd5b205ff592722482ea3b9ffc95dd6841137b120144912edcfb05313b9",
    "37969d1f17f57112c52300a4a8c7f826aa9815c4ee111d102fbaf7ff74fc24cd"]

def roundTokens : List JsString :=
  ["bbe04bc9c00a630e451fe0ba44444bf4f8e6df2bbd211d8d8305ac445dd5768b",
    "24873eaba9058aba118c14b394a9dee83befe97bdccc5a5596d6719a8d98a47d",
    "9e6cc1987c4339c2eb68c1ab4904f2e8ac0b87727129b117cf42de4cc91676a7",
    "f4a02b6731b38f67aa366c5e80e47bc6d217e8476fcdb1cf7bfd3fcc1253da92"]

/-- The digests of the first five rounds and of the four tokens between them are their SHA-256
digests. -/
def roundDigests : Props JsString :=
  ((samplePaymentText "1" :: roundHashes.dropLast.map resumedPaymentText).zip roundHashes) ++
    ((roundHashes.dropLast.map fun hash => hash ++ utf16 ":kyc.completed").zip roundTokens)

def roundHost : Host := .ofAsciiDigests roundDigests

theorem roundHost_injectiveDigest : roundHost.InjectiveDigest := by
  apply Host.ofAsciiDigests_injectiveDigest
  all_goals
    unfold roundDigests roundHashes roundTokens resumedPaymentText samplePaymentText
    repeat rw [utf16_ofList]
    decide +kernel

/-- The agent passes the signal and leaves the cap at its default. -/
def agentResumeArgs : ResumeDeferredIntentArgs where
  signal := "kyc.completed"
  maxResumeCycles := none
  verifyHash := some .strict
  incr := true
  decr := true

def paymentSetup (first : IntentEnvelope) : ResumeSetup where
  host := roundHost
  clock := fun _ => "2026-01-01T00:00:00.000Z"
  first := first
  args := agentResumeArgs
  evalIncrCheck := true

theorem agentResumeArgs_numbers : JsNumber.isFinite 1 = true ∧
    agentResumeArgs.countsCycles = true ∧ agentResumeArgs.cap.passed 1 = false := by
  decide +kernel

theorem payment_isJson : paymentToolUse.payload.IsJson := by
  simp only [paymentToolUse, JsValue.IsJson, IsJsonProps, and_true]
  exact ⟨by decide, fun _ => agentResumeArgs_numbers.1⟩

theorem agentResumeArgs_counts : agentResumeArgs.countsCycles = true := agentResumeArgs_numbers.2.1

theorem agentResumeArgs_one : agentResumeArgs.cap.passed 1 = false := agentResumeArgs_numbers.2.2

/-- One delivery resumes the payment within the cap. -/
theorem resumptions_bounded_payment :
    ∃ first, buildEnvelopeFromToolUse roundHost "2026-01-01T00:00:00.000Z" paymentToolUse =
        .ok first ∧
      (paymentSetup first).Bounded ((paymentSetup first).run (List.replicate 8 ())) := by
  obtain ⟨first, built, -⟩ :=
    @buildEnvelope_of_json roundHost "2026-01-01T00:00:00.000Z" paymentToolUse.input payment_isJson
  refine ⟨first, built, ?_⟩
  refine (@ResumeSetup.resumptions_bounded (paymentSetup first) roundHost_injectiveDigest
    paymentToolUse payment_isJson built agentResumeArgs_counts agentResumeArgs_one Unit _).1 _ ?_
  have within : (paymentSetup first).safeStep ((paymentSetup first).start Unit) () = true := by
    change (true && !agentResumeArgs.cap.passed 1) = true
    decide +kernel
  rw [List.replicate_succ, ResumeSetup.safeFrom, within, Bool.true_and]
  apply ResumeSetup.safeFrom_replicate
  rw [ResumeSetup.step_eq, Oscillation.become_stage]
  exact ResumeSetup.starts_advance _ _

/-- Four deliveries one after the other resume the payment four times under the cap of three. -/
theorem fourth_resumption_succeeds :
    ∃ first, buildEnvelopeFromToolUse roundHost "2026-01-01T00:00:00.000Z" paymentToolUse =
        .ok first ∧
      agentResumeArgs.cap = 3 ∧ (paymentSetup first).inCap 3 = false ∧
      (((paymentSetup first).run (ResumeSetup.deliveries 4)).stage 3).took = some 3 ∧
      ¬(paymentSetup first).Bounded ((paymentSetup first).run (ResumeSetup.deliveries 4)) := by
  obtain ⟨first, built, fields, -⟩ :=
    @buildEnvelope_of_json roundHost "2026-01-01T00:00:00.000Z" paymentToolUse.input payment_isJson
  have sound : (paymentSetup first).Sound :=
    { digest := roundHost_injectiveDigest
      minted := minted_of_buildEnvelope payment_isJson rfl built
      proposed := by
        change first.actor.principal = _
        rw [fields]
        rfl
      counts := agentResumeArgs_counts
      one := agentResumeArgs_one }
  have beyond : (paymentSetup first).inCap 3 = false := by
    change (!agentResumeArgs.cap.passed 4) = false
    decide +kernel
  have took := (ResumeSetup.run_deliveries sound rfl 4).2.2.2 3 (by decide)
  obtain ⟨done, tracks⟩ := ResumeSetup.tracks_run sound (ResumeSetup.deliveries 4)
  exact ⟨first, built, by decide +kernel, beyond, took, tracks.unbounded took beyond⟩

end Adjudicate.Agent
