/-
This file shows that safe commands neither lose nor double a parked intent, and gives runs whose
commands are not safe.
-/

import Adjudicate.Runtime.ParkInvariant

namespace Adjudicate.Runtime

open Js Canonical Adjudicate.Core Audit

section

variable {I : Type} [Fintype I] [DecidableEq I] {host : Host} {calls : I → Call}
  {quota : JsNumber} {world : World I} {i : I}

structure Steady (host : Host) (calls : I → Call) (quota : JsNumber) (world : World I) : Prop where
  custody : Custody host calls world
  tally : Tally quota world

/-- The count is untouched where nothing is accepted and nothing handed out. -/
theorem Tally.frame (tally : Tally quota world) {phase : Phase I} {redis : Redis I}
    (count : redis.count = world.redis.count)
    (accepted : phase.isAccepted = (world.phase i).isAccepted)
    (handed : phase.handed = (world.phase i).handed) :
    Tally quota (world.become i phase redis) := by
  have same := @outstanding_become I world _ _ redis i phase accepted handed
  constructor
  · rw [same, World.become_redis, count]
    exact tally.counted
  · rw [same]
    exact tally.bounded

/-- A command that neither accepts, takes nor counts anything leaves the invariant alone. -/
theorem Steady.settle (steady : Steady host calls quota world) {phase : Phase I} {redis : Redis I}
    (pending : redis.pending = world.redis.pending) (resumed : redis.resumed = world.redis.resumed)
    (count : redis.count = world.redis.count) (idle : (world.phase i).taken = none)
    (untouched : (world.phase i).isAccepted = false) (taken : phase.taken = none)
    (unaccepted : phase.isAccepted = false) (settled : ∀ count, phase ≠ .refusing count)
    (aims : ∀ held, phase.aiming = some held → Aims host calls world held) :
    Steady host calls quota (world.become i phase redis) := by
  have handed : phase.handed = (world.phase i).handed := by
    rw [handed_of_taken_none taken, handed_of_taken_none idle]
  have parked : phase.isParked = (world.phase i).isParked := by
    rw [isParked_of_isAccepted unaccepted, isParked_of_isAccepted untouched]
  have unclear (held : Held I) : phase ≠ .clearing held := by
    rintro rfl
    cases taken
  exact ⟨steady.custody.frame pending resumed (taken.trans idle.symm) parked settled unclear aims,
    steady.tally.frame count (unaccepted.trans untouched.symm) handed⟩

/-- An accepted park is counted and stays within the quota. -/
theorem Steady.accept (steady : Steady host calls quota world) (fresh : world.phase i = .start)
    (within : quota.surpassed (world.redis.count + 1) = false) :
    Steady host calls quota (world.become i (.accepted (world.redis.count + 1))
      { world.redis with count := world.redis.count + 1 }) := by
  have unparked : (world.phase i).isParked = false := by
    rw [fresh]
    rfl
  have joined := @outstanding_accept I world _ _
    { world.redis with count := world.redis.count + 1 } i (world.redis.count + 1) fresh
    (steady.custody.unread unparked)
  have absent : i ∉ outstanding world := by
    rw [mem_outstanding, fresh]
    exact fun inside => Bool.false_ne_true inside.1
  have grown : world.redis.count + 1 = ((insert i (outstanding world)).card : Int) := by
    rw [Finset.card_insert_of_notMem absent, steady.tally.counted]
    rfl
  constructor
  · refine steady.custody.frame rfl rfl ?_ unparked.symm nofun nofun nofun
    rw [fresh]
    rfl
  · constructor
    · rw [joined]
      exact grown
    · rw [joined, ← grown]
      exact .inr within

/-- The returned park is counted off. -/
theorem Steady.release (steady : Steady host calls quota world) {held : Held I}
    (releasing : world.phase i = .releasing held) :
    Steady host calls quota (world.become i (.resumed held)
      { world.redis with count := world.redis.count - 1 }) := by
  have took : (world.phase i).taken = some held := by
    rw [releasing]
    rfl
  have idle : (world.phase i).isAccepted = false := by
    rw [releasing]
    rfl
  have silent : (world.phase i).handed = none := by
    rw [releasing]
    rfl
  have left := @outstanding_hand I world _ _ { world.redis with count := world.redis.count - 1 }
    i held idle silent
  have inside : held.writer ∈ outstanding world := by
    refine mem_outstanding.mpr ⟨isAccepted_of_isParked (steady.custody.takes i held took).1.1, ?_⟩
    intro j handed
    obtain ⟨other, tookOther, writer⟩ := taken_of_handed handed
    obtain rfl := steady.custody.single j i other held tookOther took writer
    rw [silent] at handed
    cases handed
  have card : ((outstanding world).erase held.writer).card + 1 = (outstanding world).card :=
    Finset.card_erase_add_one inside
  constructor
  · refine steady.custody.frame rfl rfl took.symm ?_ nofun nofun nofun
    rw [releasing]
    rfl
  · constructor
    · rw [left, World.become_redis]
      change world.redis.count - 1 = _
      rw [steady.tally.counted]
      omega
    · rw [left]
      refine steady.tally.bounded.imp (fun none_left => by omega) ?_
      exact JsNumber.surpassed_mono (by omega)

theorem Steady.counts (steady : Steady host calls quota world)
    {args : ParkDeferredIntentArgs} (shared : args.quota = quota) (fresh : world.phase i = .start)
    (safe : args.evalIncrCheck = true ∨ args.quota.surpassed (world.redis.count + 1) = false) :
    Steady host calls quota (world.become i (countPark args world.redis).1
      (countPark args world.redis).2) := by
  have counted := steady.tally.counted
  have positive : (world.redis.count + 1 == 0) = false := by
    rw [beq_eq_false_iff_ne]
    omega
  unfold countPark
  cases full : args.quota.surpassed (world.redis.count + 1) with
  | false =>
      have accepted := steady.accept fresh (shared ▸ full)
      cases args.evalIncrCheck <;> simpa [positive, full] using accepted
  | true =>
      have atomic : args.evalIncrCheck = true := safe.resolve_right (by simp [full])
      simp only [atomic, full, if_true, Bool.true_or]
      refine steady.settle rfl rfl rfl ?_ ?_ rfl rfl nofun nofun
      · rw [fresh]
        rfl
      · rw [fresh]
        rfl

theorem Steady.park (steady : Steady host calls quota world) {args : ParkDeferredIntentArgs}
    (call : calls i = .park args) (shared : args.quota = quota) (safe : safeCommand host calls world i = true) :
    Steady host calls quota
      (world.become i (parkDeferredIntent args i (world.phase i, world.redis)).1
        (parkDeferredIntent args i (world.phase i, world.redis)).2) := by
  unfold safeCommand at safe
  rw [call] at safe
  cases phase : world.phase i with
  | start =>
      rw [phase] at safe
      exact steady.counts shared phase (by simpa using safe)
  | refusing count => exact absurd phase (steady.custody.settled i count)
  | accepted count =>
      rw [phase] at safe
      obtain ⟨empty, blob, stored, free, verified⟩ := storable_iff.mp safe
      simp only [parkDeferredIntent, stored]
      refine ⟨steady.custody.store phase empty ⟨args, call, stored⟩ free verified,
        steady.tally.frame rfl ?_ ?_⟩
      · rw [phase]
        rfl
      · rw [phase]
        rfl
  | _ =>
      simp only [parkDeferredIntent]
      rw [← phase, World.become_same]
      exact steady

/-- A call that reads a blob knows its writer. -/
theorem Steady.read (steady : Steady host calls quota world) {args : ResumeDeferredIntentArgs}
    (fresh : world.phase i = .start) {raw : JsString} {p : I}
    (waiting : world.redis.pending = some (raw, p)) :
    Steady host calls quota (world.become i (afterRead host args raw p) world.redis) := by
  obtain ⟨parked, blob, writes, rfl, -⟩ := steady.custody.pending raw p waiting
  obtain ⟨taken, unaccepted, unrefused⟩ := @afterRead_quiet host args I p blob.text
  refine steady.settle rfl rfl rfl ?_ ?_ taken unaccepted ?_ ?_
  · rw [fresh]
    rfl
  · rw [fresh]
    rfl
  · intro count refusing
    rw [refusing] at unrefused
    cases unrefused
  · intro held aims
    obtain ⟨signal, rfl⟩ := afterRead_aiming aims
    rw [hold_own, signal]
    exact ⟨⟨parked, blob, writes, rfl⟩, .inr ⟨blob.text, waiting⟩⟩

theorem Steady.resume (steady : Steady host calls quota world) {args : ResumeDeferredIntentArgs}
    (call : calls i = .resume args) (safe : safeCommand host calls world i = true) :
    Steady host calls quota
      (world.become i (resumeDeferredIntent host args (world.phase i, world.redis)).1
        (resumeDeferredIntent host args (world.phase i, world.redis)).2) := by
  unfold safeCommand at safe
  rw [call] at safe
  have quiet {phase : Phase I} (here : world.phase i = phase) (idle : phase.taken = none)
      (untouched : phase.isAccepted = false) (reason : ResumeRefusal) {redis : Redis I}
      (pending : redis.pending = world.redis.pending)
      (resumed : redis.resumed = world.redis.resumed) (count : redis.count = world.redis.count) :
      Steady host calls quota (world.become i (.unresumed reason) redis) :=
    steady.settle pending resumed count (here ▸ idle) (here ▸ untouched) rfl rfl
      (by rintro _ ⟨⟩) (by rintro _ ⟨⟩)
  cases phase : world.phase i with
  | start =>
      simp only [resumeDeferredIntent]
      cases waiting : world.redis.pending with
      | none => exact quiet phase rfl rfl _ rfl rfl rfl
      | some stored => exact steady.read phase waiting
  | counting held =>
      have aims := steady.custody.aims i held (by rw [phase]; rfl)
      simp only [resumeDeferredIntent]
      split
      · exact quiet phase rfl rfl _ rfl rfl rfl
      · refine steady.settle rfl rfl rfl (by rw [phase]; rfl) (by rw [phase]; rfl) rfl rfl
          (by rintro _ ⟨⟩) ?_
        intro other same
        obtain rfl := Option.some.inj same
        exact aims
  | claiming held =>
      simp only [resumeDeferredIntent]
      cases spent : world.redis.resumed held.resumeHash with
      | true => exact quiet phase rfl rfl _ rfl rfl rfl
      | false =>
          refine ⟨steady.custody.claim phase spent, steady.tally.frame rfl ?_ ?_⟩
          · rw [phase]
            rfl
          · rw [phase]
            rfl
  | clearing held =>
      rw [phase] at safe
      have lowers : args.decr = true := safe
      simp only [resumeDeferredIntent, lowers, if_true]
      refine ⟨steady.custody.clear phase, steady.tally.frame rfl ?_ ?_⟩
      · rw [phase]
        rfl
      · rw [phase]
        rfl
  | releasing held => exact steady.release phase
  | _ =>
      simp only [resumeDeferredIntent]
      rw [← phase, World.become_same]
      exact steady

/-- One safe command keeps the invariant. -/
theorem Steady.step (steady : Steady host calls quota world)
    (shared : ∀ args, calls i = .park args → args.quota = quota)
    (safe : safeCommand host calls world i = true) :
    Steady host calls quota (world.step host calls i) := by
  unfold World.step nextCommand
  cases call : calls i with
  | park args => exact steady.park call (shared args call) safe
  | resume args => exact steady.resume call safe

theorem steady_start : Steady host calls quota (World.start I) := by
  have idle : outstanding (World.start I) = ∅ := by
    ext p
    rw [mem_outstanding]
    exact iff_of_false (fun accepted => Bool.false_ne_true accepted.1) (Finset.notMem_empty p)
  constructor
  · exact ⟨nofun, nofun, nofun, nofun, nofun, nofun,
      fun _ _ _ parked => absurd parked Bool.false_ne_true⟩
  · constructor
    · rw [idle, Finset.card_empty]
      rfl
    · rw [idle]
      exact .inl Finset.card_empty

/-- A safe run keeps the invariant in every state that it visits. -/
theorem Steady.run (steady : Steady host calls quota world) {before after : List I}
    (shared : ∀ i args, calls i = .park args → args.quota = quota)
    (safe : safeFrom host calls world (before ++ after) = true) :
    Steady host calls quota (before.foldl (World.step host calls) world) := by
  induction before generalizing world with
  | nil => exact steady
  | cons i before ih =>
      obtain ⟨first, rest⟩ := Bool.and_eq_true_iff.mp safe
      exact ih (steady.step (shared i) first) rest

/-- The invariant says where every parked intent is. -/
theorem Steady.kept (steady : Steady host calls quota world) : Kept host calls quota world := by
  obtain ⟨custody, tally⟩ := steady
  constructor
  · intro p i j first second
    obtain ⟨held, tookFirst, writer⟩ := taken_of_handed first
    obtain ⟨other, tookSecond, writer'⟩ := taken_of_handed second
    exact custody.single i j held other tookFirst tookSecond (writer.trans writer'.symm)
  · intro p i handed
    obtain ⟨held, took, rfl⟩ := taken_of_handed handed
    exact (custody.takes i held took).1.1
  · intro p blob writes parked
    refine (custody.kept p blob writes parked).imp_right ?_
    intro ⟨waiting, free⟩
    obtain ⟨-, other, wrote, -, verified⟩ := custody.pending _ _ waiting
    rw [writes_unique wrote writes] at verified
    exact resumable_of_waiting verified waiting free
  · exact tally.counted
  · exact tally.bounded

omit [Fintype I] [DecidableEq I] in
theorem resume_unrefused {args : ResumeDeferredIntentArgs} {phase : Phase I} {redis : Redis I}
    (was : phase.isRefused = false) :
    (resumeDeferredIntent host args (phase, redis)).1.isRefused = false := by
  cases phase with
  | start =>
      simp only [resumeDeferredIntent]
      cases redis.pending with
      | none => rfl
      | some stored => exact (afterRead_quiet stored.1).2.2
  | counting held =>
      simp only [resumeDeferredIntent]
      split <;> rfl
  | claiming held =>
      simp only [resumeDeferredIntent]
      split <;> rfl
  | clearing held =>
      simp only [resumeDeferredIntent]
      split <;> rfl
  | releasing held => rfl
  | _ => exact was

omit [Fintype I] [DecidableEq I] in
/-- A counter that is not negative refuses a park only when one more would surpass the quota. -/
theorem park_refused {args : ParkDeferredIntentArgs} {phase : Phase I} {redis : Redis I}
    (positive : 0 ≤ redis.count) (was : phase.isRefused = false)
    (refused : (parkDeferredIntent args i (phase, redis)).1.isRefused = true) :
    args.quota.surpassed (redis.count + 1) = true := by
  cases phase with
  | start =>
      have counted : (redis.count + 1 == 0) = false := by
        rw [beq_eq_false_iff_ne]
        omega
      simp only [parkDeferredIntent, countPark, counted] at refused
      cases full : args.quota.surpassed (redis.count + 1) with
      | true => rfl
      | false =>
          rw [full] at refused
          cases atomic : args.evalIncrCheck <;> rw [atomic] at refused <;> cases refused
  | accepted count =>
      simp only [parkDeferredIntent] at refused
      cases stored : args.blob <;> rw [stored] at refused <;> cases refused
  | refusing count => cases was
  | _ =>
      simp only [parkDeferredIntent] at refused
      rw [was] at refused
      cases refused

/-- A safe command refuses a park only when one more would surpass the quota. -/
theorem Steady.refused (steady : Steady host calls quota world)
    (shared : ∀ args, calls i = .park args → args.quota = quota)
    (was : (world.phase i).isRefused = false)
    (refused : ((world.step host calls i).phase i).isRefused = true) :
    quota.surpassed ((outstanding world).card + 1) = true := by
  rw [World.step, World.become_self, nextCommand] at refused
  rw [← steady.tally.counted]
  cases call : calls i with
  | park args =>
      rw [call] at refused
      rw [← shared args call]
      refine park_refused ?_ was refused
      rw [steady.tally.counted]
      exact Int.natCast_nonneg _
  | resume args =>
      rw [call] at refused
      rw [resume_unrefused was] at refused
      cases refused

end

/-- In every state of a run of safe commands each parked intent is where it should be. -/
theorem parked_kept {I : Type} [Fintype I] [DecidableEq I] {host : Host} {calls : I → Call}
    {quota : JsNumber} {schedule : List I}
    (shared : ∀ i args, calls i = .park args → args.quota = quota)
    (safe : safeFrom host calls (World.start I) schedule = true) :
    (∀ before after, schedule = before ++ after → Kept host calls quota (run host calls before)) ∧
      RefusedWhenFull host calls quota schedule := by
  constructor
  · rintro before after rfl
    exact (steady_start.run shared safe).kept
  · rintro before i after rfl was refused
    have steady := steady_start.run shared safe
    refine steady.refused (shared i) was ?_
    rw [run, List.foldl_append] at refused
    exact refused

/-- The payment of the given amount, as it is parked until its signal comes. -/
def samplePark (amount : JsNumber) (intentHash signal : JsString) : ParkDeferredIntentArgs where
  envelope :=
    { intentHash := intentHash
      kind := "payment.send"
      sessionId := "s-1"
      payload := .obj [("amount", .num amount)]
      version := some intentEnvelopeVersion
      nonce := some "n-1"
      taint := some .untrusted
      actorPrincipal := some .llm
      actorRole := none
      origin := some .llm
      resourceRefs := none }
  signal := signal
  parkedAt := "2026-01-01T00:00:00.000Z"
  quotaPerSession := none
  transformEnvelopeBeforePark := none
  evalIncrCheck := true

def firstPark : ParkDeferredIntentArgs :=
  samplePark 1 "1daba7c0306f6af2025d02a343346fb68d1df58b818fa16e1f9c1961b3edd90d" "paid"

def secondPark : ParkDeferredIntentArgs :=
  samplePark 2 "205e8c345a00facb52623effd841cf735349fc6792ef3102b3f3415df66a659b" "shipped"

def sampleResume (signal : JsString) : ResumeDeferredIntentArgs :=
  ⟨signal, none, none, true, true⟩

/-- One park and two deliveries of its signal. -/
def redelivered : Fin 3 → Call
  | 0 => .park firstPark
  | 1 => .resume (sampleResume "paid")
  | 2 => .resume (sampleResume "paid")

theorem parked_kept_redelivered :
    Kept sampleHost redelivered defaultDeferQuotaPerSession
        (run sampleHost redelivered [0, 0, 1, 2, 1, 2, 2, 1, 2]) ∧
      RefusedWhenFull sampleHost redelivered defaultDeferQuotaPerSession
        [0, 0, 1, 2, 1, 2, 2, 1, 2, 2] := by
  have shared (i : Fin 3) (args : ParkDeferredIntentArgs) (call : redelivered i = .park args) :
      args.quota = defaultDeferQuotaPerSession := by
    match i with
    | 0 =>
        obtain rfl := Call.park.inj call
        rfl
    | 1 => cases call
    | 2 => cases call
  have safe : safeFrom sampleHost redelivered (World.start (Fin 3)) [0, 0, 1, 2, 1, 2, 2, 1, 2, 2] =
      true := by decide +kernel
  obtain ⟨kept, refused⟩ := parked_kept shared safe
  exact ⟨kept [0, 0, 1, 2, 1, 2, 2, 1, 2] [2] rfl, refused⟩

/-- A parked intent that no call holds and that its own signal does not resume is lost. -/
theorem not_kept_of_lost {I : Type} [Fintype I] [DecidableEq I] {host : Host} {calls : I → Call}
    {quota : JsNumber} {world : World I} {p : I} {blob : ParkedEnvelope}
    (writes : (calls p).Writes blob) (parked : (world.phase p).isParked = true)
    (free : ∀ i, (world.phase i).taken.map Held.writer ≠ some p)
    (args : ResumeDeferredIntentArgs) (signal : args.signal = blob.signal)
    (uncounted : args.countsCycles = false)
    (stuck : ((resumeDeferredIntent host args)^[5] (.start, world.redis)).1.handed ≠ some p) :
    ¬Kept host calls quota world := by
  intro kept
  obtain ⟨i, held, took, writer⟩ | resumable := kept.resumable p blob writes parked
  · exact free i (by rw [took, ← writer]; rfl)
  · exact stuck (resumable args signal fun counts => absurd counts (by simp [uncounted]))

def patientResume (signal : JsString) : ResumeDeferredIntentArgs :=
  { sampleResume signal with maxResumeCycles := some 0 }

def parkTwo : Fin 2 → Call
  | 0 => .park firstPark
  | 1 => .park secondPark

def parkAgain : Fin 3 → Call
  | 0 => .park firstPark
  | 1 => .resume (sampleResume "paid")
  | 2 => .park firstPark

/-- A quota of one, checked by the calls themselves. -/
def uncheckedPark (args : ParkDeferredIntentArgs) : ParkDeferredIntentArgs :=
  { args with
    quotaPerSession := some 1
    evalIncrCheck := false }

def parkRacing : Fin 4 → Call
  | 0 => .park (uncheckedPark firstPark)
  | 1 => .park (uncheckedPark secondPark)
  | 2 => .resume (sampleResume "paid")
  | 3 => .park (uncheckedPark secondPark)

/-- The second park replaces the blob of the first; an intent that was resumed and parked again
finds its token spent; and a park that is about to be refused makes another park be refused while
nothing is outstanding. -/
theorem parked_lost :
    ¬Kept sampleHost parkTwo defaultDeferQuotaPerSession (run sampleHost parkTwo [0, 0, 1, 1]) ∧
    ¬Kept sampleHost parkAgain defaultDeferQuotaPerSession
      (run sampleHost parkAgain [0, 0, 1, 1, 1, 1, 1, 2, 2]) ∧
    ¬RefusedWhenFull sampleHost parkRacing 1 [0, 0, 1, 2, 2, 2, 2, 2, 3] := by
  refine ⟨?_, ?_, ?_⟩
  · exact @not_kept_of_lost _ _ _ _ _ _ _ 0 ⟨firstPark.envelope, firstPark.signal, firstPark.parkedAt⟩
      ⟨firstPark, rfl, rfl⟩ (by decide +kernel) (by decide +kernel) (patientResume "paid") rfl
      (by decide +kernel) (by decide +kernel)
  · exact @not_kept_of_lost _ _ _ _ _ _ _ 2 ⟨firstPark.envelope, firstPark.signal, firstPark.parkedAt⟩
      ⟨firstPark, rfl, rfl⟩ (by decide +kernel) (by decide +kernel) (patientResume "paid") rfl
      (by decide +kernel) (by decide +kernel)
  · intro refused
    have full := refused [0, 0, 1, 2, 2, 2, 2, 2] 3 [] rfl (by decide +kernel) (by decide +kernel)
    revert full
    decide +kernel

end Adjudicate.Runtime
