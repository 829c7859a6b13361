/-
This file proves when the replicas of the distributed kill switch follow the key.
-/

import Adjudicate.Canonical.Reload
import Adjudicate.KillSwitch.PubSub
import Mathlib.Data.Fin.Basic

namespace Adjudicate.KillSwitch

open Js Canonical Audit Adjudicate.Kernel Adjudicate.Effect

section Payload

def isNullText (text : JsString) : Bool :=
  match JsValue.parse text with
  | some .null => true
  | _ => false

/-- This is the state that a text stands for. -/
def remoteState (text : JsString) : Option RemoteKillState :=
  match parsePayload text with
  | .ok (.state parsed) => some parsed
  | _ => none

def Readable (text : JsString) : Prop := (remoteState text).isSome

instance (text : JsString) : Decidable (Readable text) := inferInstanceAs (Decidable (_ = true))

/-- Every text is parsed without an exception, except those of the JSON value `null`. -/
theorem parsePayload_ok {text : JsString} (plain : isNullText text = false) :
    ∃ payload, parsePayload text = .ok payload := by
  unfold isNullText at plain
  unfold parsePayload
  cases parsed : JsValue.parse text with
  | none => exact ⟨_, rfl⟩
  | some obj =>
      rw [parsed] at plain
      have read (key : JsString) : readProp obj key = .ok (obj.getOwn key) := by
        cases obj with
        | null => cases plain
        | undefined =>
            obtain ⟨tree, -, same⟩ := Option.map_eq_some_iff.mp parsed
            cases tree <;> cases same
        | _ => rfl
      simp only [read, ok_bind]
      cases obj.getOwn "active" with
      | bool active => cases obj.getOwn "reason" <;> exact ⟨_, rfl⟩
      | _ => exact ⟨_, rfl⟩

/-- What `trip` and `clear` write is read back. -/
theorem parsePayload_text (payload : RemoteKillState) :
    parsePayload payload.text = .ok (.state payload) := by
  obtain ⟨active, reason⟩ := payload
  have distinct : (keys [(utf16 "active", JsValue.bool active), (utf16 "reason", .str reason)]).Nodup := by
    simp only [keys, List.map_cons, List.map_nil]
    decide
  have first : readProp (reload (.obj [(utf16 "active", .bool active), (utf16 "reason", .str reason)]))
      "active" = .ok (.bool active) :=
    (readProp_reload distinct "active").trans (congrArg Except.ok (reload_eq _))
  have second : readProp (reload (.obj [(utf16 "active", .bool active), (utf16 "reason", .str reason)]))
      "reason" = .ok (.str reason) :=
    (readProp_reload distinct "reason").trans (congrArg Except.ok (reload_str _))
  rw [parsePayload, RemoteKillState.text, parse_stringify rfl]
  simp only [first, second, ok_bind]
  rfl

theorem isNullText_text (payload : RemoteKillState) : isNullText payload.text = false := by
  have parsed := parsePayload_text payload
  unfold isNullText
  unfold parsePayload at parsed
  split
  · next same =>
      rw [same] at parsed
      cases parsed
  · rfl

theorem remoteState_eq_some {text : JsString} {parsed : RemoteKillState} :
    remoteState text = some parsed ↔ parsePayload text = .ok (.state parsed) := by
  unfold remoteState
  split
  · next other same => simp [same]
  · next different => exact iff_of_false nofun fun same => different parsed same

end Payload

section Switch

variable {writes : List JsString} {switch : LocalSwitch} {message : Stamped}

/-- A readable message carries the text of its write. -/
structure Genuine (writes : List JsString) (message : Stamped) : Prop where
  plain : isNullText message.text = false
  logged : Readable message.text → writes[message.version]? = some message.text

theorem getElem?_extend {version : Nat} {text : JsString} (found : writes[version]? = some text)
    (extra : JsString) : (writes ++ [extra])[version]? = some text := by
  obtain ⟨bound, -⟩ := List.getElem?_eq_some_iff.mp found
  rw [List.getElem?_append_left bound, found]

theorem Genuine.extend (genuine : Genuine writes message) (extra : JsString) :
    Genuine (writes ++ [extra]) message where
  plain := genuine.plain
  logged := fun readable => getElem?_extend (genuine.logged readable) extra

/-- The switch applied its versions in order and shows the last one. -/
structure Tracks (writes : List JsString) (switch : LocalSwitch) : Prop where
  forward : switch.applied.Pairwise (· ≤ ·)
  bounded : ∀ version ∈ switch.applied, version < writes.length
  grounded : ∀ version ∈ switch.applied, ∃ message ∈ switch.received,
    Readable message.text ∧ message.version = version
  current : ∀ version ∈ switch.applied.getLast?, ∃ text parsed state,
    writes[version]? = some text ∧ remoteState text = some parsed ∧
      switch.context = some state ∧ Matches state parsed

theorem Tracks.extend (tracks : Tracks writes switch) (extra : JsString) :
    Tracks (writes ++ [extra]) switch where
  forward := tracks.forward
  bounded := fun version member => by
    have bound := tracks.bounded version member
    rw [List.length_append]
    omega
  grounded := tracks.grounded
  current := fun version last => by
    obtain ⟨text, parsed, state, found, rest⟩ := tracks.current version last
    exact ⟨text, parsed, state, getElem?_extend found extra, rest⟩

theorem applyState_matches (current : KillSwitchState) (parsed : RemoteKillState) (now : JsString) :
    ∃ state, applyState (some current) parsed now = some state ∧ Matches state parsed := by
  by_cases same : Matches current parsed
  · exact ⟨current, congrArg some (if_pos same), same⟩
  · exact ⟨_, congrArg some (if_neg same), rfl, rfl⟩

/-- A genuine message that is not overtaken is applied. -/
theorem tracks_receive (tracks : Tracks writes switch) (given : switch.context.isSome)
    (genuine : Genuine writes message)
    (newest : Readable message.text → ∀ version ∈ switch.applied, version ≤ message.version)
    (now : JsString) :
    ∃ next, switch.receive message now = some next ∧ Tracks writes next ∧ next.context.isSome ∧
      next.applied =
        if Readable message.text then switch.applied ++ [message.version] else switch.applied := by
  obtain ⟨payload, same⟩ := parsePayload_ok genuine.plain
  have kept (earlier : Nat) (member : earlier ∈ switch.applied) :
      ∃ found ∈ switch.received ++ [message], Readable found.text ∧ found.version = earlier := by
    obtain ⟨found, inside, rest⟩ := tracks.grounded earlier member
    exact ⟨found, List.mem_append_left _ inside, rest⟩
  have ignored (unread : ¬ Readable message.text)
      (skipped : switch.receive message now =
        some { switch with received := switch.received ++ [message] }) :
      ∃ next, switch.receive message now = some next ∧ Tracks writes next ∧ next.context.isSome ∧
        next.applied =
          if Readable message.text then switch.applied ++ [message.version] else switch.applied :=
    ⟨_, skipped, ⟨tracks.forward, tracks.bounded, kept, tracks.current⟩, given, (if_neg unread).symm⟩
  cases payload with
  | parseError =>
      refine ignored ?_ ?_
      · simp [Readable, remoteState, same]
      · rw [LocalSwitch.receive, same]
  | malformed =>
      refine ignored ?_ ?_
      · simp [Readable, remoteState, same]
      · rw [LocalSwitch.receive, same]
  | state parsed =>
      have readable : Readable message.text := by
        rw [Readable, remoteState_eq_some.mpr same]
        rfl
      obtain ⟨old, present⟩ := Option.isSome_iff_exists.mp given
      obtain ⟨state, applied, agrees⟩ := applyState_matches old parsed now
      have logged := genuine.logged readable
      refine ⟨_, by rw [LocalSwitch.receive, same], ?_, ?_, ?_⟩
      · rw [present]
        constructor
        · show (switch.applied ++ [message.version]).Pairwise (· ≤ ·)
          rw [List.pairwise_append]
          refine ⟨tracks.forward, List.pairwise_singleton _ _, ?_⟩
          intro version member other last
          rw [List.mem_singleton.mp last]
          exact newest readable version member
        · intro version member
          rcases List.mem_append.mp member with earlier | last
          · exact tracks.bounded version earlier
          · rw [List.mem_singleton.mp last]
            exact (List.getElem?_eq_some_iff.mp logged).1
        · intro version member
          rcases List.mem_append.mp member with earlier | last
          · exact kept version earlier
          · rw [List.mem_singleton.mp last]
            exact ⟨message, List.mem_append_right _ (List.mem_singleton.mpr rfl), readable, rfl⟩
        · intro version last
          obtain rfl : message.version = version := by
            simpa using last
          exact ⟨message.text, parsed, state, logged, remoteState_eq_some.mpr same, applied, agrees⟩
      · rw [present, applied]
        rfl
      · rw [if_pos given, if_pos readable]

end Switch

section Replica

variable {writes : List JsString} {key : Option Stamped} {replica next : Replica} {now : JsString}

/-- A read under way is not overtaken, and a whole poll has applied what it found. -/
structure Sound (writes : List JsString) (replica : Replica) : Prop where
  given : replica.phase ≠ .idle → replica.switch.context.isSome
  tracks : Tracks writes replica.switch
  silent : replica.threw = false
  inbox : ∀ message ∈ replica.inbox, Genuine writes message
  reading : ∀ found ∈ replica.phase.reading, Genuine writes found ∧
    (Readable found.text → ∀ version ∈ replica.switch.applied, version ≤ found.version)
  polled : ∀ found ∈ replica.polled, Readable found.text → found.version ∈ replica.switch.applied

/-- The key holds the last write. -/
def Newest (writes : List JsString) (key : Option Stamped) : Prop :=
  ∀ found ∈ key, Genuine writes found ∧ found.version + 1 = writes.length ∧
    writes[found.version]? = some found.text

/-- The message is not older than what reached the replica before, and no read that found an older
write is under way. -/
def InOrder (replica : Replica) (message : Stamped) : Prop :=
  Readable message.text →
    (∀ earlier ∈ replica.switch.received, Readable earlier.text → earlier.version ≤ message.version) ∧
      ∀ found ∈ replica.phase.reading, Readable found.text → message.version ≤ found.version

def ReplicaOrderly (replica : Replica) : ReplicaEvent → Prop
  | .reads => replica.switch.context.isSome
  | .delivers _ => ∀ message ∈ replica.inbox.head?, InOrder replica message
  | _ => True

theorem sound_initial (context : Option KillSwitchState) : Sound [] (.initial context) where
  given := fun started => absurd rfl started
  tracks := ⟨List.Pairwise.nil, nofun, nofun, nofun⟩
  silent := rfl
  inbox := nofun
  reading := nofun
  polled := nofun

theorem Sound.extend (sound : Sound writes replica) (extra : JsString) :
    Sound (writes ++ [extra]) replica where
  given := sound.given
  tracks := sound.tracks.extend extra
  silent := sound.silent
  inbox := fun message member => (sound.inbox message member).extend extra
  reading := fun found member => (sound.reading found member).imp_left (·.extend extra)
  polled := sound.polled

theorem Sound.hear (sound : Sound writes replica) {message : Stamped}
    (genuine : Genuine writes message) : Sound writes (replica.hear message) := by
  unfold Replica.hear
  split
  · refine ⟨sound.given, sound.tracks, sound.silent, ?_, sound.reading, sound.polled⟩
    intro other member
    rcases List.mem_append.mp member with earlier | last
    · exact sound.inbox other earlier
    · rw [List.mem_singleton.mp last]
      exact genuine
  · exact sound

/-- A phase without a read keeps everything else. -/
theorem Sound.rest (sound : Sound writes replica) {phase : Phase} (quiet : phase.reading = none)
    (started : replica.phase ≠ .idle) : Sound writes { replica with phase } where
  given := fun _ => sound.given started
  tracks := sound.tracks
  silent := sound.silent
  inbox := sound.inbox
  reading := fun found member => by
    rw [show Phase.reading _ = none from quiet] at member
    cases member
  polled := sound.polled

theorem Sound.afterBoot (sound : Sound writes replica) (started : replica.phase ≠ .idle) :
    Sound writes replica.afterBoot :=
  sound.rest (by split <;> rfl) started

theorem Sound.pollLoop (sound : Sound writes replica) (started : replica.phase ≠ .idle) :
    Sound writes replica.pollLoop :=
  sound.rest (by split <;> rfl) started

/-- What a read found is applied, and nothing newer was applied before. -/
theorem Sound.receive (sound : Sound writes replica) {found : Stamped}
    (under : replica.phase.reading = some found) (started : replica.phase ≠ .idle) (now : JsString) :
    ∃ switch, replica.switch.receive found now = some switch ∧ Sound writes { replica with switch } ∧
      (Readable found.text → found.version ∈ switch.applied) := by
  obtain ⟨genuine, newest⟩ := sound.reading found under
  obtain ⟨switch, received, tracks, given, applied⟩ :=
    tracks_receive sound.tracks (sound.given started) genuine newest now
  have grows (version : Nat) (member : version ∈ replica.switch.applied) : version ∈ switch.applied := by
    rw [applied]
    split
    · exact List.mem_append_left _ member
    · exact member
  refine ⟨switch, received, ⟨fun _ => given, tracks, sound.silent, sound.inbox, ?_, ?_⟩, ?_⟩
  · intro other same
    obtain rfl : found = other := Option.some.inj (under.symm.trans same)
    refine ⟨genuine, fun readable version member => ?_⟩
    rw [applied, if_pos readable] at member
    rcases List.mem_append.mp member with earlier | last
    · exact newest readable version earlier
    · exact (List.mem_singleton.mp last).le
  · exact fun other member readable => grows _ (sound.polled other member readable)
  · intro readable
    rw [applied, if_pos readable]
    exact List.mem_append_right _ (List.mem_singleton.mpr rfl)

theorem Sound.reply (sound : Sound writes replica) (taken : replica.reply now = some next) :
    Sound writes next := by
  unfold Replica.reply at taken
  split at taken
  · next phase =>
      cases taken
      exact sound.afterBoot (by simp [phase])
  · next message phase =>
      have started : replica.phase ≠ .idle := by simp [phase]
      obtain ⟨switch, received, kept, -⟩ := sound.receive (by rw [phase]; rfl) started now
      rw [received] at taken
      cases taken
      exact kept.afterBoot started
  · next phase =>
      cases taken
      have kept := sound.pollLoop (by simp [phase])
      exact ⟨kept.given, kept.tracks, kept.silent, kept.inbox, kept.reading, nofun⟩
  · next message phase =>
      have started : replica.phase ≠ .idle := by simp [phase]
      obtain ⟨switch, received, kept, polled⟩ := sound.receive (by rw [phase]; rfl) started now
      rw [received] at taken
      cases taken
      have looped := kept.pollLoop started
      refine ⟨looped.given, looped.tracks, looped.silent, looped.inbox, looped.reading, ?_⟩
      intro found same
      cases same
      exact polled
  · cases taken

theorem Sound.deliver (sound : Sound writes replica)
    (orderly : ∀ message ∈ replica.inbox.head?, InOrder replica message)
    (taken : replica.deliver now = some next) : Sound writes next := by
  unfold Replica.deliver at taken
  split at taken
  iterate 4 cases taken
  next message rest inbox starting _ _ =>
    have started : replica.phase ≠ .idle := fun idle => starting idle
    have order := orderly message (by rw [inbox]; rfl)
    have genuine := sound.inbox message (by rw [inbox]; exact List.mem_cons_self)
    have newest (readable : Readable message.text) (version : Nat)
        (member : version ∈ replica.switch.applied) : version ≤ message.version := by
      obtain ⟨earlier, inside, legible, rfl⟩ := sound.tracks.grounded version member
      exact (order readable).1 earlier inside legible
    obtain ⟨switch, received, tracks, given, applied⟩ :=
      tracks_receive sound.tracks (sound.given started) genuine newest now
    rw [received] at taken
    cases taken
    refine ⟨fun _ => given, tracks, sound.silent, ?_, ?_, ?_⟩
    · intro other member
      exact sound.inbox other (by rw [inbox]; exact List.mem_cons_of_mem _ member)
    · intro found under
      refine ⟨(sound.reading found under).1, fun readable version member => ?_⟩
      have earlier := (sound.reading found under).2 readable version
      rw [applied] at member
      split at member
      · next legible =>
          rcases List.mem_append.mp member with before | last
          · exact earlier before
          · rw [List.mem_singleton.mp last]
            exact (order legible).2 found under readable
      · exact earlier member
    · intro found same readable
      have member := sound.polled found same readable
      rw [applied]
      split
      · exact List.mem_append_left _ member
      · exact member

theorem sound_advance (sound : Sound writes replica) (newest : Newest writes key)
    {event : ReplicaEvent} (orderly : ReplicaOrderly replica event)
    (taken : replica.advance key event = some next) : Sound writes next := by
  have begins (found : Stamped) (member : found ∈ key) : Genuine writes found ∧
      (Readable found.text → ∀ version ∈ replica.switch.applied, version ≤ found.version) := by
    obtain ⟨genuine, last, -⟩ := newest found member
    refine ⟨genuine, fun _ version applied => ?_⟩
    have bound := sound.tracks.bounded version applied
    omega
  cases event with
  | reads =>
      simp only [Replica.advance] at taken
      split at taken
      · cases taken
        exact ⟨fun _ => orderly, sound.tracks, sound.silent, sound.inbox, begins, sound.polled⟩
      · cases taken
        exact ⟨fun _ => orderly, sound.tracks, sound.silent, sound.inbox, begins, sound.polled⟩
      · cases taken
  | replies now => exact sound.reply taken
  | readFails =>
      simp only [Replica.advance] at taken
      split at taken
      · next phase =>
          cases taken
          exact sound.afterBoot (by simp [phase])
      · next phase =>
          cases taken
          exact sound.pollLoop (by simp [phase])
      · cases taken
  | listens =>
      simp only [Replica.advance] at taken
      split at taken
      · cases taken
        exact ⟨sound.given, sound.tracks, sound.silent, sound.inbox, sound.reading, sound.polled⟩
      · cases taken
  | subscribes =>
      simp only [Replica.advance] at taken
      split at taken
      · next phase _ =>
          cases taken
          exact sound.pollLoop (by simp [phase])
      · cases taken
  | subscribeFails =>
      simp only [Replica.advance] at taken
      split at taken
      · next phase =>
          cases taken
          have looped := sound.pollLoop (by simp [phase])
          exact ⟨looped.given, looped.tracks, looped.silent, nofun, looped.reading, looped.polled⟩
      · cases taken
  | delivers now => exact sound.deliver orderly taken
  | loses =>
      simp only [Replica.advance] at taken
      split at taken
      · cases taken
      · cases taken
        refine ⟨sound.given, sound.tracks, sound.silent, ?_, sound.reading, sound.polled⟩
        exact fun message member => sound.inbox message (List.mem_of_mem_tail member)
  | stops =>
      simp only [Replica.advance] at taken
      split at taken
      · cases taken
      · next phase =>
          cases taken
          have ended := @Sound.rest _ _ sound .ended rfl (by simp [phase])
          exact ⟨ended.given, ended.tracks, ended.silent, ended.inbox, ended.reading, ended.polled⟩
      · cases taken
        exact ⟨sound.given, sound.tracks, sound.silent, sound.inbox, sound.reading, sound.polled⟩
  | unsubscribes =>
      simp only [Replica.advance] at taken
      split at taken
      · cases taken
        exact ⟨sound.given, sound.tracks, sound.silent, nofun, sound.reading, sound.polled⟩
      · cases taken

/-- The promise that the boot sequence awaits first or second, or that of a poll, settles. -/
def ReplicaEvent.settles : ReplicaEvent → Bool
  | .replies _ => true
  | .readFails => true
  | .subscribes => true
  | .subscribeFails => true
  | _ => false

/-- The number of settled promises tells how far the boot sequence is. -/
def Boots (settled : Nat) (replica : Replica) : Prop :=
  match replica.phase with
  | .idle => settled = 0
  | .booting _ => settled = 0
  | .subscribing => settled = 1
  | .waiting => 2 ≤ settled
  | .polling _ => 2 ≤ settled
  | .ended => False
  | .rejected => False

section Boots

variable {settled : Nat} (boots : replica.stopped = false → Boots settled replica)

include boots

theorem boots_afterBoot {found : Option Stamped} (phase : replica.phase = .booting found)
    (running : replica.stopped = false) : Boots (settled + 1) replica.afterBoot := by
  have start : settled = 0 := by simpa [Boots, phase] using boots running
  simp [Boots, Replica.afterBoot, running, start]

theorem boots_pollLoop (looping : replica.phase.looping = true ∨ replica.phase = .subscribing)
    (running : replica.stopped = false) : Boots (settled + 1) replica.pollLoop := by
  have enough : 1 ≤ settled := by
    have begun := boots running
    unfold Boots at begun
    rcases looping with looping | same
    · cases phase : replica.phase <;> simp_all [Phase.looping] <;> omega
    · rw [same] at begun
      exact begun.ge
  simpa [Boots, Replica.pollLoop, running] using enough

theorem boots_reply (taken : replica.reply now = some next) (silent : next.threw = false)
    (running : next.stopped = false) : Boots (settled + 1) next := by
  unfold Replica.reply at taken
  split at taken
  · next phase =>
      cases taken
      exact boots_afterBoot boots phase running
  · next message phase =>
      split at taken
      · cases taken
        exact @boots_afterBoot { replica with switch := _ } _ boots _ phase running
      · cases taken
        cases silent
  · next phase =>
      cases taken
      exact boots_pollLoop boots (.inl (by rw [phase]; rfl)) running
  · next message phase =>
      split at taken
      · cases taken
        exact boots_pollLoop boots (.inl (by rw [phase]; rfl)) running
      · cases taken
        cases silent
  · cases taken

theorem boots_advance {event : ReplicaEvent} (taken : replica.advance key event = some next)
    (silent : next.threw = false) (running : next.stopped = false) :
    Boots (settled + if event.settles then 1 else 0) next := by
  cases event with
  | reads =>
      simp only [Replica.advance] at taken
      split at taken
      · next phase =>
          cases taken
          simpa [Boots, phase, ReplicaEvent.settles] using boots running
      · next phase =>
          cases taken
          simpa [Boots, phase, ReplicaEvent.settles] using boots running
      · cases taken
  | replies now => exact boots_reply boots taken silent running
  | readFails =>
      simp only [Replica.advance] at taken
      split at taken
      · next phase =>
          cases taken
          exact boots_afterBoot boots phase running
      · next phase =>
          cases taken
          exact boots_pollLoop boots (.inl (by rw [phase]; rfl)) running
      · cases taken
  | subscribes =>
      simp only [Replica.advance] at taken
      split at taken
      · next phase _ =>
          cases taken
          exact boots_pollLoop boots (.inr phase) running
      · cases taken
  | subscribeFails =>
      simp only [Replica.advance] at taken
      split at taken
      · next phase =>
          cases taken
          exact boots_pollLoop boots (.inr phase) running
      · cases taken
  | listens =>
      simp only [Replica.advance] at taken
      split at taken
      · cases taken
        exact boots running
      · cases taken
  | delivers now =>
      simp only [Replica.advance, Replica.deliver] at taken
      split at taken
      iterate 4 cases taken
      split at taken
      · cases taken
        exact boots running
      · cases taken
        cases silent
  | loses =>
      simp only [Replica.advance] at taken
      split at taken
      · cases taken
      · cases taken
        exact boots running
  | stops =>
      simp only [Replica.advance] at taken
      split at taken <;> cases taken <;> cases running
  | unsubscribes =>
      simp only [Replica.advance] at taken
      split at taken
      · cases taken
        exact boots running
      · cases taken

end Boots

end Replica

section Network

variable {I : Type} {network before after : Network I}

/-- No text whose JSON value is `null` is stored or published, and a text that is published without
a write is not a state. Every replica has a context. A message reaches a replica neither after
a newer write has reached it nor while a read that found an older write is under way. -/
def Orderly (network : Network I) : NetworkEvent I → Prop
  | .own i event => ReplicaOrderly (network.replicas i) event
  | .stores text => isNullText text = false
  | .publishes text => isNullText text = false ∧ ¬ Readable text
  | _ => True

def NetworkEvent.settles [DecidableEq I] (i : I) : NetworkEvent I → Bool
  | .own j event => decide (j = i) && event.settles
  | _ => false

/-- Every replica that is not stopped reaches its polling loop and does not throw. It never goes
back to an older state, and after a whole poll since the last write it agrees with the key. -/
structure Propagated [DecidableEq I] (events : List (NetworkEvent I)) (network : Network I) : Prop where
  boots : ∀ i, (network.replicas i).stopped = false →
    Boots (events.countP (NetworkEvent.settles i)) (network.replicas i)
  silent : ∀ i, (network.replicas i).threw = false
  forward : ∀ i, (network.replicas i).switch.applied.Pairwise (· ≤ ·)
  agrees : ∀ i found parsed, network.key = some found → (network.replicas i).polled = some found →
    remoteState found.text = some parsed →
      ∃ state, (network.replicas i).switch.context = some state ∧ Matches state parsed

structure Followed (network : Network I) : Prop where
  newest : Newest network.writes network.key
  pending : ∀ message ∈ network.pending, Genuine network.writes message
  replicas : ∀ i, Sound network.writes (network.replicas i)

theorem followed_store (followed : Followed network) {text : JsString}
    (plain : isNullText text = false) : Followed (network.store text) := by
  have last : (network.writes ++ [text])[network.writes.length]? = some text := by simp
  have genuine : Genuine (network.writes ++ [text]) { text, version := network.writes.length } :=
    ⟨plain, fun _ => last⟩
  constructor
  · intro found same
    cases same
    exact ⟨genuine, by simp [Network.store], last⟩
  · intro message member
    rcases List.mem_append.mp member with earlier | same
    · exact (followed.pending message earlier).extend text
    · rw [List.mem_singleton.mp same]
      exact genuine
  · exact fun i => (followed.replicas i).extend text

theorem followed_publish (followed : Followed network) {message : Stamped}
    (genuine : Genuine network.writes message) : Followed (network.publish message) where
  newest := followed.newest
  pending := followed.pending
  replicas := fun i => (followed.replicas i).hear genuine

/-- The last version that was applied is the newest one among them. -/
theorem getLast?_of_newest {versions : List Nat} {newest : Nat}
    (forward : versions.Pairwise (· ≤ ·)) (member : newest ∈ versions)
    (bound : ∀ version ∈ versions, version ≤ newest) : versions.getLast? = some newest := by
  obtain ⟨earlier, last, rfl⟩ := List.eq_nil_or_concat versions |>.resolve_left (List.ne_nil_of_mem member)
  rw [List.concat_eq_append] at forward member bound ⊢
  have below := (List.pairwise_append.mp forward).2.2
  have reached : newest ≤ last := by
    rcases List.mem_append.mp member with inside | same
    · exact below newest inside last (List.mem_singleton.mpr rfl)
    · exact (List.mem_singleton.mp same).le
  have same := le_antisymm reached (bound last (List.mem_append_right _ (List.mem_singleton.mpr rfl)))
  rw [List.getLast?_append, List.getLast?_singleton, same]
  rfl

theorem agrees_of_followed (followed : Followed network) {i : I} {found : Stamped}
    {parsed : RemoteKillState} (key : network.key = some found)
    (polled : (network.replicas i).polled = some found) (state : remoteState found.text = some parsed) :
    ∃ state, (network.replicas i).switch.context = some state ∧ Matches state parsed := by
  have sound := followed.replicas i
  have readable : Readable found.text := by
    rw [Readable, state]
    rfl
  obtain ⟨-, last, logged⟩ := followed.newest found key
  have bound (version : Nat) (member : version ∈ (network.replicas i).switch.applied) :
      version ≤ found.version := by
    have bounded := sound.tracks.bounded version member
    omega
  obtain ⟨text, shown, current, written, same, context, agrees⟩ := sound.tracks.current found.version
    (getLast?_of_newest sound.tracks.forward (sound.polled found polled readable) bound)
  obtain rfl : found.text = text := Option.some.inj (logged.symm.trans written)
  obtain rfl : parsed = shown := Option.some.inj (state.symm.trans same)
  exact ⟨current, context, agrees⟩

variable [DecidableEq I]

theorem followed_advance (followed : Followed before) {event : NetworkEvent I}
    (step : Performed Network.advance Orderly before event after) : Followed after := by
  obtain ⟨orderly, taken⟩ := step
  have transition {i : I} {payload : RemoteKillState}
      (taken : before.publishTransition i payload = some after) : Followed after := by
    unfold Network.publishTransition at taken
    split at taken
    · cases taken
    · cases taken
      exact followed_store followed (isNullText_text payload)
  cases event with
  | own i event =>
      obtain ⟨replica, advanced, rfl⟩ := Option.map_eq_some_iff.mp taken
      refine ⟨followed.newest, followed.pending, fun j => ?_⟩
      by_cases same : j = i
      · subst same
        show Sound before.writes (Function.update before.replicas j replica j)
        rw [Function.update_self]
        exact sound_advance (followed.replicas j) followed.newest orderly advanced
      · show Sound before.writes (Function.update before.replicas i replica j)
        rw [Function.update_of_ne same]
        exact followed.replicas j
  | trips i reason => exact transition taken
  | clears i => exact transition taken
  | stores text =>
      cases taken
      exact followed_store followed orderly
  | announces message =>
      simp only [Network.advance] at taken
      split at taken
      · next member =>
          cases taken
          have erased : Followed { before with pending := before.pending.erase message } :=
            ⟨followed.newest,
              fun other inside => followed.pending other (List.mem_of_mem_erase inside),
              followed.replicas⟩
          exact followed_publish erased (followed.pending _ member)
      · cases taken
  | publishes text =>
      cases taken
      exact followed_publish followed ⟨orderly.1, fun readable => absurd readable orderly.2⟩

theorem boots_network {events : List (NetworkEvent I)} {event : NetworkEvent I} {i : I}
    (boots : (before.replicas i).stopped = false →
      Boots (events.countP (NetworkEvent.settles i)) (before.replicas i))
    (taken : before.advance event = some after) (silent : (after.replicas i).threw = false)
    (running : (after.replicas i).stopped = false) :
    Boots ((events ++ [event]).countP (NetworkEvent.settles i)) (after.replicas i) := by
  have unmoved (quiet : event.settles i = false)
      (same : (after.replicas i).phase = (before.replicas i).phase)
      (kept : (after.replicas i).stopped = (before.replicas i).stopped) :
      Boots ((events ++ [event]).countP (NetworkEvent.settles i)) (after.replicas i) := by
    rw [List.countP_append, List.countP_singleton, if_neg (by simp [quiet]), add_zero, Boots, same]
    exact boots (kept ▸ running)
  have transition {j : I} {payload : RemoteKillState} (quiet : event.settles i = false)
      (taken : before.publishTransition j payload = some after) :
      Boots ((events ++ [event]).countP (NetworkEvent.settles i)) (after.replicas i) := by
    unfold Network.publishTransition at taken
    split at taken
    · cases taken
    · cases taken
      exact unmoved quiet rfl rfl
  have heard (replica : Replica) (message : Stamped) :
      (replica.hear message).phase = replica.phase ∧
        (replica.hear message).stopped = replica.stopped := by
    unfold Replica.hear
    split <;> exact ⟨rfl, rfl⟩
  cases event with
  | own j event =>
      obtain ⟨replica, advanced, rfl⟩ := Option.map_eq_some_iff.mp taken
      by_cases same : i = j
      · subst same
        have updated : Function.update before.replicas i replica i = replica := Function.update_self ..
        simp only [updated] at silent running ⊢
        rw [List.countP_append, List.countP_singleton]
        simpa [NetworkEvent.settles] using boots_advance boots advanced silent running
      · have quiet : NetworkEvent.settles i (.own j event) = false := by
          simp [NetworkEvent.settles, Ne.symm same]
        have other : Function.update before.replicas j replica i = before.replicas i :=
          Function.update_of_ne same ..
        exact unmoved quiet (congrArg Replica.phase other) (congrArg Replica.stopped other)
  | trips j reason => exact transition rfl taken
  | clears j => exact transition rfl taken
  | stores text =>
      cases taken
      exact unmoved rfl rfl rfl
  | announces message =>
      simp only [Network.advance] at taken
      split at taken
      · cases taken
        exact unmoved rfl (heard _ message).1 (heard _ message).2
      · cases taken
  | publishes text =>
      cases taken
      exact unmoved rfl (heard _ _).1 (heard _ _).2

/-- In every run whose steps are all orderly the replicas follow the key. -/
theorem propagated_of_orderly (contexts : I → Option KillSwitchState)
    (events : List (NetworkEvent I)) (network : Network I)
    (run : Run (Performed Network.advance Orderly) (.initial contexts) events network) :
    Propagated events network := by
  obtain ⟨followed, boots⟩ : Followed network ∧ ∀ i, (network.replicas i).stopped = false →
      Boots (events.countP (NetworkEvent.settles i)) (network.replicas i) := by
    refine @Run.keeps_along _ _ _ _ _ _ (fun events network => Followed network ∧ ∀ i,
      (network.replicas i).stopped = false →
        Boots (events.countP (NetworkEvent.settles i)) (network.replicas i)) run ?_ ?_
    · exact ⟨⟨nofun, nofun, fun i => sound_initial (contexts i)⟩, fun _ _ => rfl⟩
    · intro events before event after ⟨followed, boots⟩ step
      have follows := followed_advance followed step
      exact ⟨follows, fun i running =>
        boots_network (boots i) step.2 (follows.replicas i).silent running⟩
  exact {
    boots
    silent := fun i => (followed.replicas i).silent
    forward := fun i => (followed.replicas i).tracks.forward
    agrees := fun i found parsed => agrees_of_followed followed }

end Network

section Samples

instance (replica : Replica) (message : Stamped) : Decidable (InOrder replica message) :=
  inferInstanceAs (Decidable (_ → _))

instance (replica : Replica) (event : ReplicaEvent) : Decidable (ReplicaOrderly replica event) :=
  match event with
  | .reads => inferInstanceAs (Decidable (_ = true))
  | .delivers _ => inferInstanceAs (Decidable (∀ message ∈ replica.inbox.head?, InOrder replica message))
  | .replies _ | .readFails | .listens | .subscribes | .subscribeFails | .loses | .stops
  | .unsubscribes => .isTrue trivial

instance {I : Type} (network : Network I) (event : NetworkEvent I) :
    Decidable (Orderly network event) :=
  match event with
  | .own i event => inferInstanceAs (Decidable (ReplicaOrderly (network.replicas i) event))
  | .stores _ => inferInstanceAs (Decidable (_ = _))
  | .publishes _ => inferInstanceAs (Decidable (_ ∧ _))
  | .trips .. | .clears _ | .announces _ => .isTrue trivial

def releasedSwitches (_ : Fin 1) : Option KillSwitchState :=
  some { active := false, reason := [], toggledAt := "1970-01-01T00:00:00.000Z" }

/-- The replica boots on an empty key. -/
def bootEvents : List (NetworkEvent (Fin 1)) :=
  [.own 0 .reads, .own 0 (.replies "1"), .own 0 .listens, .own 0 .subscribes]

/-- A kill reaches the replica as a message and by a poll. -/
def killEvents : List (NetworkEvent (Fin 1)) :=
  bootEvents ++ [.trips 0 "incident",
    .announces { text := RemoteKillState.text { active := true, reason := "incident" }, version := 0 },
    .own 0 (.delivers "2"), .own 0 .reads, .own 0 (.replies "3")]

theorem propagated_of_orderly_kill :
    ∃ network, Run (Performed Network.advance Orderly) (.initial releasedSwitches) killEvents network ∧
      Propagated killEvents network := by
  have performed : (perform Network.advance Orderly (.initial releasedSwitches) killEvents).isSome := by
    decide +kernel
  obtain ⟨network, same⟩ := Option.isSome_iff_exists.mp performed
  have run := run_perform _ _ same
  exact ⟨network, run, propagated_of_orderly releasedSwitches killEvents network run⟩

/-- The poll found the older state before the kill, and is applied after it. -/
def overtakenEvents : List (NetworkEvent (Fin 1)) :=
  bootEvents ++ [.clears 0, .own 0 .reads, .trips 0 "incident",
    .announces { text := RemoteKillState.text { active := true, reason := "incident" }, version := 1 },
    .own 0 (.delivers "2"), .own 0 (.replies "3")]

def nullEvents : List (NetworkEvent (Fin 1)) :=
  [.stores "null", .own 0 .reads, .own 0 (.replies "1")]

/-- An overtaken poll takes a kill back, and a stored `null` rejects the boot sequence. -/
theorem overtakenPoll_unkills :
    (∃ network,
      Run (Performed Network.advance fun _ _ => True) (.initial releasedSwitches) overtakenEvents
        network ∧
      (network.replicas 0).switch.context.map (·.active) = some false ∧
      ¬ Propagated overtakenEvents network) ∧
    ∃ network,
      Run (Performed Network.advance fun _ _ => True) (.initial releasedSwitches) nullEvents network ∧
      (network.replicas 0).threw = true ∧ ¬ Propagated nullEvents network := by
  constructor
  · have applied : (perform Network.advance (fun _ _ => True) (.initial releasedSwitches)
        overtakenEvents).map (fun network => ((network.replicas 0).switch.applied,
          (network.replicas 0).switch.context.map (·.active))) = some ([1, 0], some false) := by
      decide +kernel
    obtain ⟨network, same, shown⟩ := Option.map_eq_some_iff.mp applied
    obtain ⟨versions, active⟩ := Prod.mk.inj shown
    refine ⟨network, run_perform _ _ same, active, fun propagated => ?_⟩
    have forward := propagated.forward 0
    rw [versions] at forward
    exact absurd forward (by decide)
  · have threw : (perform Network.advance (fun _ _ => True) (.initial releasedSwitches)
        nullEvents).map (fun network => (network.replicas 0).threw) = some true := by
      decide +kernel
    obtain ⟨network, same, threw⟩ := Option.map_eq_some_iff.mp threw
    refine ⟨network, run_perform _ _ same, threw, fun propagated => ?_⟩
    exact absurd (propagated.silent 0) (by simp [threw])

end Samples

end Adjudicate.KillSwitch
