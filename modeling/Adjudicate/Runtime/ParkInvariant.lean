/-
This file carries an invariant through every interleaving of safe park and resume commands.
-/

import Adjudicate.Runtime.ParkResume

namespace Adjudicate.Runtime

open Js Canonical Adjudicate.Core Audit

section

variable {I : Type} (host : Host) (calls : I → Call)

/-- A resume call holds the blob of a park call that has returned. -/
def Knows (world : World I) (held : Held I) : Prop :=
  (world.phase held.writer).isParked = true ∧
    ∃ blob, (calls held.writer).Writes blob ∧ held.resumeHash = blob.resumeHash host

/-- The call that asks for a token finds it spent or its blob still waiting. -/
def Aims (world : World I) (held : Held I) : Prop :=
  Knows host calls world held ∧
    (world.redis.resumed held.resumeHash = true ∨
      ∃ raw, world.redis.pending = some (raw, held.writer))

/-- The blob of the park call waits with a free token. -/
def Waits (world : World I) (p : I) (blob : ParkedEnvelope) : Prop :=
  world.redis.pending = some (blob.text, p) ∧ world.redis.resumed (blob.resumeHash host) = false

/-- Who holds which blob, and where every parked blob is. -/
structure Custody (world : World I) : Prop where
  settled : ∀ i count, world.phase i ≠ .refusing count
  pending : ∀ raw p, world.redis.pending = some (raw, p) →
    (world.phase p).isParked = true ∧ ∃ blob, (calls p).Writes blob ∧ raw = blob.text ∧
      verifyParkedEnvelopeHash host blob.reloaded = .ok .verified
  aims : ∀ i held, (world.phase i).aiming = some held → Aims host calls world held
  takes : ∀ i held, (world.phase i).taken = some held →
    Knows host calls world held ∧ world.redis.resumed held.resumeHash = true
  clearing : ∀ i held, world.phase i = .clearing held →
    ∃ raw, world.redis.pending = some (raw, held.writer)
  single : ∀ i j held other, (world.phase i).taken = some held →
    (world.phase j).taken = some other → held.writer = other.writer → i = j
  kept : ∀ p blob, (calls p).Writes blob → (world.phase p).isParked = true →
    (∃ i held, (world.phase i).taken = some held ∧ held.writer = p) ∨ Waits host world p blob

/-- The counter counts the outstanding parks, which stay within the quota. -/
structure Tally [Fintype I] [DecidableEq I] (quota : JsNumber) (world : World I) : Prop where
  counted : world.redis.count = (outstanding world).card
  bounded : (outstanding world).card = 0 ∨ quota.surpassed (outstanding world).card = false

end

section

variable {I : Type} {host : Host} {calls : I → Call} {world : World I}

theorem writes_unique {call : Call} {blob other : ParkedEnvelope} (writes : call.Writes blob)
    (again : call.Writes other) : blob = other := by
  obtain ⟨args, rfl, blobOf⟩ := writes
  obtain ⟨args', same, otherOf⟩ := again
  obtain rfl := Call.park.inj same
  exact Except.ok.inj (blobOf.symm.trans otherOf)

theorem taken_of_handed {phase : Phase I} {p : I} (handed : phase.handed = some p) :
    ∃ held, phase.taken = some held ∧ held.writer = p := by
  cases phase with
  | resumed held => exact ⟨held, rfl, Option.some.inj handed⟩
  | _ => cases handed

theorem isAccepted_of_isParked {phase : Phase I} (parked : phase.isParked = true) :
    phase.isAccepted = true := by
  cases phase with
  | parked count => rfl
  | _ => cases parked

theorem isParked_of_isAccepted {phase : Phase I} (idle : phase.isAccepted = false) :
    phase.isParked = false := by
  cases phase with
  | parked count => cases idle
  | _ => rfl

theorem handed_of_taken_none {phase : Phase I} (idle : phase.taken = none) :
    phase.handed = none := by
  cases phase with
  | resumed held => cases idle
  | _ => rfl

variable [DecidableEq I]

/-- A function of the phases changes only where a phase changes. -/
theorem become_congr {A : Type} {redis : Redis I} {i : I} {phase : Phase I} {view : Phase I → A}
    (same : view phase = view (world.phase i)) (j : I) :
    view ((world.become i phase redis).phase j) = view (world.phase j) := by
  by_cases here : j = i
  · rw [here, World.become_self, same]
  · rw [World.become_other _ _ _ here]

/-- What a resume call knows stays known while no park call loses its phase. -/
theorem Knows.become {held : Held I} {redis : Redis I} {i : I} {phase : Phase I}
    (knows : Knows host calls world held)
    (still : (world.phase i).isParked = true → phase.isParked = true) :
    Knows host calls (world.become i phase redis) held := by
  refine ⟨?_, knows.2⟩
  by_cases here : held.writer = i
  · rw [here, World.become_self]
    exact still (here ▸ knows.1)
  · rw [World.become_other _ _ _ here]
    exact knows.1

variable [Fintype I]

theorem mem_outstanding {p : I} :
    p ∈ outstanding world ↔
      (world.phase p).isAccepted = true ∧ ∀ i, (world.phase i).handed ≠ some p := by
  simp [outstanding]

/-- Only the accepted and the handed parks matter to the count. -/
theorem outstanding_become {redis : Redis I} {i : I} {phase : Phase I}
    (accepted : phase.isAccepted = (world.phase i).isAccepted)
    (handed : phase.handed = (world.phase i).handed) :
    outstanding (world.become i phase redis) = outstanding world := by
  ext p
  simp only [mem_outstanding, become_congr accepted, become_congr handed]

/-- A newly accepted park joins the outstanding ones. -/
theorem outstanding_accept {redis : Redis I} {i : I} {count : Int}
    (fresh : world.phase i = .start) (unread : ∀ j, (world.phase j).handed ≠ some i) :
    outstanding (world.become i (.accepted count) redis) = insert i (outstanding world) := by
  have handed : (Phase.accepted count).handed = (world.phase i).handed := by
    rw [fresh]
    rfl
  ext p
  rw [Finset.mem_insert, mem_outstanding, mem_outstanding]
  simp only [become_congr handed]
  by_cases here : p = i
  · subst here
    simp only [World.become_self, true_or, iff_true]
    exact ⟨rfl, unread⟩
  · simp only [World.become_other _ _ _ here, here, false_or]

/-- A returned park leaves the outstanding ones. -/
theorem outstanding_hand {redis : Redis I} {i : I} {held : Held I}
    (idle : (world.phase i).isAccepted = false) (silent : (world.phase i).handed = none) :
    outstanding (world.become i (.resumed held) redis) =
      (outstanding world).erase held.writer := by
  have accepted : (Phase.resumed held).isAccepted = (world.phase i).isAccepted := by
    rw [idle]
    rfl
  have handed (p : I) : (∀ j, ((world.become i (.resumed held) redis).phase j).handed ≠ some p) ↔
      p ≠ held.writer ∧ ∀ j, (world.phase j).handed ≠ some p := by
    constructor
    · intro unread
      constructor
      · rintro rfl
        exact unread i (by rw [World.become_self]; rfl)
      · intro j read
        by_cases here : j = i
        · rw [here, silent] at read
          cases read
        · exact unread j (by rwa [World.become_other _ _ _ here])
    · intro ⟨other, unread⟩ j read
      by_cases here : j = i
      · rw [here, World.become_self] at read
        exact other (Option.some.inj read).symm
      · rw [World.become_other _ _ _ here] at read
        exact unread j read
  ext p
  rw [Finset.mem_erase, mem_outstanding, mem_outstanding, handed]
  simp only [become_congr accepted]
  tauto

end

section

variable {I : Type} {host : Host} {calls : I → Call} {world : World I}

theorem Custody.unread (custody : Custody host calls world) {p : I}
    (unparked : (world.phase p).isParked = false) (j : I) : (world.phase j).handed ≠ some p := by
  intro handed
  obtain ⟨held, taken, rfl⟩ := taken_of_handed handed
  rw [(custody.takes j held taken).1.1] at unparked
  cases unparked

/-- Calls that hold blobs of one writer hold one token. -/
theorem Knows.sameHash {held other : Held I} (knows : Knows host calls world held)
    (again : Knows host calls world other) (writer : held.writer = other.writer) :
    held.resumeHash = other.resumeHash := by
  obtain ⟨-, blob, writes, hash⟩ := knows
  obtain ⟨-, blob', writes', hash'⟩ := again
  rw [writer] at writes
  rw [hash, hash', writes_unique writes writes']

theorem Knows.hash_of_writes {held : Held I} (knows : Knows host calls world held)
    {blob : ParkedEnvelope} (writes : (calls held.writer).Writes blob) :
    held.resumeHash = blob.resumeHash host := by
  obtain ⟨-, other, wrote, hash⟩ := knows
  rw [hash, writes_unique wrote writes]

variable [DecidableEq I] {i : I}

/-- A command that moves no blob and no token leaves the custody alone. -/
theorem Custody.frame (custody : Custody host calls world) {phase : Phase I} {redis : Redis I}
    (pending : redis.pending = world.redis.pending) (resumed : redis.resumed = world.redis.resumed)
    (taken : phase.taken = (world.phase i).taken) (parked : phase.isParked = (world.phase i).isParked)
    (settled : ∀ count, phase ≠ .refusing count) (unclear : ∀ held, phase ≠ .clearing held)
    (aims : ∀ held, phase.aiming = some held → Aims host calls world held) :
    Custody host calls (world.become i phase redis) := by
  have still : (world.phase i).isParked = true → phase.isParked = true := fun was => parked ▸ was
  constructor
  · intro j count
    by_cases here : j = i
    · rw [here, World.become_self]
      exact settled count
    · rw [World.become_other _ _ _ here]
      exact custody.settled j count
  · intro raw p waiting
    rw [become_congr parked]
    exact custody.pending raw p (pending ▸ waiting)
  · intro j held aiming
    obtain ⟨knows, goal⟩ : Aims host calls world held := by
      by_cases here : j = i
      · rw [here, World.become_self] at aiming
        exact aims held aiming
      · rw [World.become_other _ _ _ here] at aiming
        exact custody.aims j held aiming
    refine ⟨knows.become still, ?_⟩
    rw [World.become_redis, pending, resumed]
    exact goal
  · intro j held took
    rw [become_congr taken] at took
    obtain ⟨knows, spent⟩ := custody.takes j held took
    refine ⟨knows.become still, ?_⟩
    rw [World.become_redis, resumed]
    exact spent
  · intro j held clearing
    rw [World.become_redis, pending]
    by_cases here : j = i
    · rw [here, World.become_self] at clearing
      exact absurd clearing (unclear held)
    · rw [World.become_other _ _ _ here] at clearing
      exact custody.clearing j held clearing
  · intro j k held other first second
    rw [become_congr taken] at first second
    exact custody.single j k held other first second
  · intro p blob writes was
    rw [become_congr parked] at was
    obtain ⟨j, held, took, writer⟩ | waits := custody.kept p blob writes was
    · refine .inl ⟨j, held, ?_, writer⟩
      rw [become_congr taken]
      exact took
    · right
      rw [Waits, World.become_redis, pending, resumed]
      exact waits

/-- A blob is stored where none waits, and its token is free. -/
theorem Custody.store (custody : Custody host calls world) {count : Int} {blob : ParkedEnvelope}
    (accepted : world.phase i = .accepted count) (empty : world.redis.pending = none)
    (writes : (calls i).Writes blob) (free : world.redis.resumed (blob.resumeHash host) = false)
    (verified : verifyParkedEnvelopeHash host blob.reloaded = .ok .verified) :
    Custody host calls (world.become i (.parked count)
      { world.redis with pending := some (blob.text, i) }) := by
  have taken : (Phase.parked count : Phase I).taken = (world.phase i).taken := by
    rw [accepted]
    rfl
  have aiming : (Phase.parked count : Phase I).aiming = (world.phase i).aiming := by
    rw [accepted]
    rfl
  have still : (world.phase i).isParked = true → (Phase.parked count : Phase I).isParked = true :=
    fun _ => rfl
  constructor
  · intro j other
    by_cases here : j = i
    · rw [here, World.become_self]
      exact nofun
    · rw [World.become_other _ _ _ here]
      exact custody.settled j other
  · intro raw p waiting
    obtain ⟨rfl, rfl⟩ := Prod.mk.inj (Option.some.inj waiting)
    rw [World.become_self]
    exact ⟨rfl, blob, writes, rfl, verified⟩
  · intro j held aims
    rw [become_congr aiming] at aims
    obtain ⟨knows, spent | ⟨raw, waiting⟩⟩ := custody.aims j held aims
    · exact ⟨knows.become still, .inl spent⟩
    · rw [empty] at waiting
      cases waiting
  · intro j held took
    rw [become_congr taken] at took
    obtain ⟨knows, spent⟩ := custody.takes j held took
    exact ⟨knows.become still, spent⟩
  · intro j held clearing
    by_cases here : j = i
    · rw [here, World.become_self] at clearing
      cases clearing
    · rw [World.become_other _ _ _ here] at clearing
      obtain ⟨raw, waiting⟩ := custody.clearing j held clearing
      rw [empty] at waiting
      cases waiting
  · intro j k held other first second
    rw [become_congr taken] at first second
    exact custody.single j k held other first second
  · intro p other wrote was
    by_cases here : p = i
    · right
      subst here
      rw [writes_unique wrote writes]
      exact ⟨rfl, free⟩
    · left
      rw [World.become_other _ _ _ here] at was
      obtain ⟨j, held, took, writer⟩ | ⟨waiting, -⟩ := custody.kept p other wrote was
      · refine ⟨j, held, ?_, writer⟩
        rw [become_congr taken]
        exact took
      · rw [empty] at waiting
        cases waiting

/-- The call that gets the token is the one whose blob still waits. -/
theorem Custody.claim (custody : Custody host calls world) {held : Held I}
    (claiming : world.phase i = .claiming held)
    (free : world.redis.resumed held.resumeHash = false) :
    Custody host calls (world.become i (.clearing held)
      { world.redis with
        resumed := Function.update world.redis.resumed held.resumeHash true }) := by
  obtain ⟨knows, goal⟩ := custody.aims i held (by rw [claiming]; rfl)
  obtain ⟨raw, waiting⟩ : ∃ raw, world.redis.pending = some (raw, held.writer) := by
    refine goal.resolve_left ?_
    rw [free]
    exact Bool.false_ne_true
  have parked : (Phase.clearing held).isParked = (world.phase i).isParked := by
    rw [claiming]
    rfl
  have still : (world.phase i).isParked = true → (Phase.clearing held).isParked = true :=
    fun was => parked ▸ was
  have spent (hash : JsString) (was : world.redis.resumed hash = true) :
      Function.update world.redis.resumed held.resumeHash true hash = true := by
    rw [Function.update_apply, was, ite_self]
  -- Nobody else holds the blob: its token was free until now.
  have alone (j : I) (other : Held I) (took : (world.phase j).taken = some other) :
      other.writer ≠ held.writer := by
    intro writer
    obtain ⟨knowsOther, gone⟩ := custody.takes j other took
    rw [knowsOther.sameHash knows writer, free] at gone
    cases gone
  have taken {j : I} {other : Held I} (here : j ≠ i)
      (took : ((world.become i (.clearing held) { world.redis with
        resumed := Function.update world.redis.resumed held.resumeHash true }).phase j).taken =
          some other) : (world.phase j).taken = some other := by
    rwa [World.become_other _ _ _ here] at took
  constructor
  · intro j count
    by_cases here : j = i
    · rw [here, World.become_self]
      exact nofun
    · rw [World.become_other _ _ _ here]
      exact custody.settled j count
  · intro text p pending
    rw [become_congr parked]
    exact custody.pending text p pending
  · intro j other aims
    by_cases here : j = i
    · rw [here, World.become_self] at aims
      cases aims
    · rw [World.become_other _ _ _ here] at aims
      obtain ⟨knowsOther, target⟩ := custody.aims j other aims
      exact ⟨knowsOther.become still, target.imp_left (spent _)⟩
  · intro j other took
    by_cases here : j = i
    · rw [here, World.become_self] at took
      obtain rfl := Option.some.inj took
      exact ⟨knows.become still, Function.update_self ..⟩
    · obtain ⟨knowsOther, gone⟩ := custody.takes j other (taken here took)
      exact ⟨knowsOther.become still, spent _ gone⟩
  · intro j other clearing
    by_cases here : j = i
    · rw [here, World.become_self] at clearing
      obtain rfl := Phase.clearing.inj clearing
      exact ⟨raw, waiting⟩
    · rw [World.become_other _ _ _ here] at clearing
      exact custody.clearing j other clearing
  · intro j k first second tookFirst tookSecond writer
    by_cases hereJ : j = i <;> by_cases hereK : k = i
    · rw [hereJ, hereK]
    · rw [hereJ, World.become_self] at tookFirst
      obtain rfl := Option.some.inj tookFirst
      exact absurd writer.symm (alone k second (taken hereK tookSecond))
    · rw [hereK, World.become_self] at tookSecond
      obtain rfl := Option.some.inj tookSecond
      exact absurd writer (alone j first (taken hereJ tookFirst))
    · exact custody.single j k first second (taken hereJ tookFirst) (taken hereK tookSecond) writer
  · intro p blob writes was
    rw [become_congr parked] at was
    left
    obtain ⟨j, other, took, writer⟩ | ⟨pending, -⟩ := custody.kept p blob writes was
    · have here : j ≠ i := by
        rintro rfl
        rw [claiming] at took
        cases took
      refine ⟨j, other, ?_, writer⟩
      rw [World.become_other _ _ _ here]
      exact took
    · obtain ⟨-, same⟩ := Prod.mk.inj (Option.some.inj (waiting.symm.trans pending))
      exact ⟨i, held, by rw [World.become_self]; rfl, same⟩

/-- The call that holds the token removes the blob that it read. -/
theorem Custody.clear (custody : Custody host calls world) {held : Held I}
    (clearing : world.phase i = .clearing held) :
    Custody host calls (world.become i (.releasing held)
      { world.redis with pending := none }) := by
  obtain ⟨raw, waiting⟩ := custody.clearing i held clearing
  have took : (world.phase i).taken = some held := by
    rw [clearing]
    rfl
  obtain ⟨knows, gone⟩ := custody.takes i held took
  have taken : (Phase.releasing held).taken = (world.phase i).taken := took.symm
  have parked : (Phase.releasing held).isParked = (world.phase i).isParked := by
    rw [clearing]
    rfl
  have aiming : (Phase.releasing held).aiming = (world.phase i).aiming := by
    rw [clearing]
    rfl
  have still : (world.phase i).isParked = true → (Phase.releasing held).isParked = true :=
    fun was => parked ▸ was
  constructor
  · intro j count
    by_cases here : j = i
    · rw [here, World.become_self]
      exact nofun
    · rw [World.become_other _ _ _ here]
      exact custody.settled j count
  · intro text p pending
    cases pending
  · intro j other aims
    rw [become_congr aiming] at aims
    obtain ⟨knowsOther, spent | ⟨text, pending⟩⟩ := custody.aims j other aims
    · exact ⟨knowsOther.become still, .inl spent⟩
    · obtain ⟨-, writer⟩ := Prod.mk.inj (Option.some.inj (waiting.symm.trans pending))
      refine ⟨knowsOther.become still, .inl ?_⟩
      rw [World.become_redis, ← knows.sameHash knowsOther writer]
      exact gone
  · intro j other tookOther
    rw [become_congr taken] at tookOther
    obtain ⟨knowsOther, spent⟩ := custody.takes j other tookOther
    exact ⟨knowsOther.become still, spent⟩
  · intro j other clearingOther
    by_cases here : j = i
    · rw [here, World.become_self] at clearingOther
      cases clearingOther
    · rw [World.become_other _ _ _ here] at clearingOther
      obtain ⟨text, pending⟩ := custody.clearing j other clearingOther
      obtain ⟨-, writer⟩ := Prod.mk.inj (Option.some.inj (waiting.symm.trans pending))
      exact absurd (custody.single j i other held (by rw [clearingOther]; rfl) took writer.symm) here
  · intro j k first second tookFirst tookSecond
    rw [become_congr taken] at tookFirst tookSecond
    exact custody.single j k first second tookFirst tookSecond
  · intro p blob writes was
    rw [become_congr parked] at was
    left
    obtain ⟨j, other, tookOther, writer⟩ | ⟨pending, free⟩ := custody.kept p blob writes was
    · refine ⟨j, other, ?_, writer⟩
      rw [become_congr taken]
      exact tookOther
    · obtain ⟨-, rfl⟩ := Prod.mk.inj (Option.some.inj (waiting.symm.trans pending))
      rw [← knows.hash_of_writes writes, gone] at free
      cases free

end

end Adjudicate.Runtime
