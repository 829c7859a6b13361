/-
This file follows one deferred intent through the envelopes that its resumptions mint.
-/

import Adjudicate.Agent.Bridge
import Adjudicate.Agent.StoredEnvelope
import Adjudicate.Canonical.Digest
import Adjudicate.Runtime.ParkResume

namespace Adjudicate.Agent

open Js Canonical Adjudicate.Core Audit Adjudicate.Runtime

/-- A resumed intent gets a new envelope of the system whose nonce is the hash of the parked one. -/
def resumeInput (parked : JsValue) : BuildEnvelopeInput :=
  let envelope := parked.getOwn "envelope"
  { kind := textOf (envelope.getOwn "kind")
    payload := envelope.getOwn "payload"
    actor :=
      { principal := .system
        sessionId := textOf ((envelope.getOwn "actor").getOwn "sessionId")
        role := none
        attestation := none }
    taint := .trusted
    nonce := textOf (envelope.getOwn "intentHash")
    createdAt := none
    origin := none
    resourceRefs := none }

def resumedEnvelope (host : Host) (clock : JsString) (parked : JsValue) :
    Except Thrown IntentEnvelope :=
  buildEnvelope host clock (resumeInput parked)

/-- The constructor made the envelope from an actor without an attestation. -/
structure Minted (host : Host) (envelope : IntentEnvelope) : Prop where
  payload : envelope.payload.IsJson
  version : envelope.version = intentEnvelopeVersion
  derived : deriveIntentHash host envelope = .ok envelope.intentHash
  attestation : envelope.actor.attestation = none

section

variable {host : Host}

theorem minted_of_buildEnvelope {clock : JsString} {input : BuildEnvelopeInput}
    {envelope : IntentEnvelope} (payload : input.payload.IsJson)
    (bare : input.actor.attestation = none)
    (built : buildEnvelope host clock input = .ok envelope) : Minted host envelope := by
  obtain ⟨fields, -, -⟩ := buildEnvelope_eq_ok.mp built
  exact
    { payload := by
        rw [fields]
        exact payload
      version := congrArg HashedFields.version fields
      derived := deriveIntentHash_of_buildEnvelope built
      attestation := by
        rw [fields]
        exact bare }

theorem Minted.ascii {envelope : IntentEnvelope} (minted : Minted host envelope)
    (digest : host.InjectiveDigest) : envelope.intentHash.all isAscii = true := by
  have derived := minted.derived
  have finite : envelope.version.isFinite = true := minted.version ▸ version_isFinite
  rw [deriveIntentHash, sha256Canonical_eq host
    (@intentHashInput_isJson envelope.toHashedFields finite minted.payload)] at derived
  rw [← Except.ok.inj derived]
  exact digest.ascii _

/-- A minted envelope is verified when it is resumed. -/
theorem Minted.verified {envelope : IntentEnvelope} (minted : Minted host envelope)
    (digest : host.InjectiveDigest) (signal parkedAt : JsString) :
    verifyParkedEnvelopeHash host (deferredBlob envelope signal parkedAt).reloaded =
      .ok .verified := by
  have finite : envelope.version.isFinite = true := minted.version ▸ version_isFinite
  exact (verifyParkedEnvelopeHash_iff digest.collisionFree minted.payload finite minted.derived
    (parkedCopy_reloaded minted.payload minted.version signal parkedAt)).mpr
    ⟨parkedFields_reloaded minted.payload minted.version signal parkedAt, minted.attestation⟩

/-- What a resume call reads back from the blob of a minted envelope. -/
theorem resumeInput_reloaded {envelope : IntentEnvelope} (signal parkedAt : JsString) :
    resumeInput (deferredBlob envelope signal parkedAt).reloaded =
      { kind := envelope.kind
        payload := reload envelope.payload
        actor := ⟨.system, envelope.actor.sessionId, none, none⟩
        taint := .trusted
        nonce := envelope.intentHash
        createdAt := none
        origin := none
        resourceRefs := none } := by
  have property (key : JsString) := getOwn_reloaded (deferredBlob envelope signal parkedAt) key
  have kind : ((deferredBlob envelope signal parkedAt).reloaded.getOwn "envelope").getOwn "kind" =
      .str envelope.kind := (property "kind").trans (reload_str envelope.kind)
  have payload : ((deferredBlob envelope signal parkedAt).reloaded.getOwn "envelope").getOwn
      "payload" = reload envelope.payload := property "payload"
  have hash : ((deferredBlob envelope signal parkedAt).reloaded.getOwn "envelope").getOwn
      "intentHash" = .str envelope.intentHash :=
    (property "intentHash").trans (reload_str envelope.intentHash)
  have actor : ((deferredBlob envelope signal parkedAt).reloaded.getOwn "envelope").getOwn
      "actor" = reload (.obj [("sessionId", .str envelope.actor.sessionId)]) := property "actor"
  have session : (((deferredBlob envelope signal parkedAt).reloaded.getOwn "envelope").getOwn
      "actor").getOwn "sessionId" = .str envelope.actor.sessionId := by
    rw [actor, getOwn_reload (by simp [keys])]
    exact reload_str _
  simp only [resumeInput, kind, payload, hash, session, textOf]

/-- A resumption mints the next envelope from the hash of the parked one. -/
theorem Minted.next {envelope : IntentEnvelope} (minted : Minted host envelope)
    (clock signal parkedAt : JsString) :
    ∃ next, resumedEnvelope host clock (deferredBlob envelope signal parkedAt).reloaded =
        .ok next ∧ Minted host next ∧ next.nonce = envelope.intentHash ∧
      next.actor.principal = .system := by
  have payload : (resumeInput (deferredBlob envelope signal parkedAt).reloaded).payload.IsJson := by
    rw [resumeInput_reloaded]
    exact reload_isJson _ minted.payload
  obtain ⟨next, built, fields, -⟩ := buildEnvelope_of_json host clock payload
  refine ⟨next, built, minted_of_buildEnvelope payload rfl built, ?_, ?_⟩
  · rw [fields, resumeInput_reloaded]
    rfl
  · rw [fields]
    rfl

/-- Equal hashes of minted envelopes come from equal nonces and principals. -/
theorem Minted.sameHash {left right : IntentEnvelope} (leftMinted : Minted host left)
    (rightMinted : Minted host right) (digest : host.InjectiveDigest)
    (same : left.intentHash = right.intentHash) :
    host.nfc left.nonce = host.nfc right.nonce ∧
      left.actor.principal = right.actor.principal := by
  have leftFinite : left.version.isFinite = true := leftMinted.version ▸ version_isFinite
  have rightFinite : right.version.isFinite = true := rightMinted.version ▸ version_isFinite
  have hashes : sha256Canonical host (intentHashInput left.toHashedFields) =
      sha256Canonical host (intentHashInput right.toHashedFields) := by
    have leftDerived := leftMinted.derived
    have rightDerived := rightMinted.derived
    rw [deriveIntentHash] at leftDerived rightDerived
    rw [leftDerived, rightDerived, same]
  have encodings := (sha256Canonical_obj_iff digest.collisionFree
    (@intentHashInput_isJson left.toHashedFields leftFinite leftMinted.payload)
    (@intentHashInput_isJson right.toHashedFields rightFinite rightMinted.payload)).mp hashes
  have nonce : encodingOf host (.str left.nonce) = encodingOf host (.str right.nonce) :=
    encodings "nonce" (by decide)
  have actor : encodingOf host left.actor.toJs = encodingOf host right.actor.toJs :=
    encodings "actor" (by decide)
  refine ⟨?_, ?_⟩
  · simpa [encodingOf, canonicalTree, layoutTree] using nonce
  · have principal : encodingOf host (.str left.actor.principal.text) =
        encodingOf host (.str right.actor.principal.text) :=
      (encodingOf_actor (actor_isJson left.actor).1).mp actor "principal" (by decide)
    have texts : host.nfc left.actor.principal.text = host.nfc right.actor.principal.text := by
      simpa [encodingOf, canonicalTree, layoutTree] using principal
    rw [host.nfc_ascii _ (by cases left.actor.principal <;> decide),
      host.nfc_ascii _ (by cases right.actor.principal <;> decide)] at texts
    revert texts
    cases left.actor.principal <;> cases right.actor.principal <;> decide

end

/-- Round by round the same intent is parked again under the envelope that its resumption minted. -/
def roundEnvelope (host : Host) (clock : Nat → JsString) (signal : JsString)
    (first : IntentEnvelope) : Nat → IntentEnvelope
  | 0 => first
  | round + 1 =>
      let parked := roundEnvelope host clock signal first round
      match resumedEnvelope host (clock (round + 1))
          (deferredBlob parked signal (clock round)).reloaded with
      | .ok envelope => envelope
      | .error _ => parked

section

variable {host : Host} {clock : Nat → JsString} {signal : JsString} {first : IntentEnvelope}

/-- Every round is minted, and every later one from the hash of the round before. -/
theorem roundEnvelope_minted (minted : Minted host first) (round : Nat) :
    Minted host (roundEnvelope host clock signal first round) ∧
      resumedEnvelope host (clock (round + 1)) (deferredBlob
          (roundEnvelope host clock signal first round) signal (clock round)).reloaded =
        .ok (roundEnvelope host clock signal first (round + 1)) ∧
      (roundEnvelope host clock signal first (round + 1)).nonce =
        (roundEnvelope host clock signal first round).intentHash ∧
      (roundEnvelope host clock signal first (round + 1)).actor.principal = .system := by
  have step (round : Nat) (before : Minted host (roundEnvelope host clock signal first round)) :
      ∃ next, resumedEnvelope host (clock (round + 1)) (deferredBlob
          (roundEnvelope host clock signal first round) signal (clock round)).reloaded =
        .ok next ∧ roundEnvelope host clock signal first (round + 1) = next ∧ Minted host next ∧
        next.nonce = (roundEnvelope host clock signal first round).intentHash ∧
        next.actor.principal = .system := by
    obtain ⟨next, built, nextMinted, nonce, principal⟩ :=
      before.next (clock (round + 1)) signal (clock round)
    refine ⟨next, built, ?_, nextMinted, nonce, principal⟩
    simp only [roundEnvelope, built]
  have all : Minted host (roundEnvelope host clock signal first round) := by
    induction round with
    | zero => exact minted
    | succ round ih =>
        obtain ⟨next, -, same, nextMinted, -⟩ := step round ih
        rw [same]
        exact nextMinted
  obtain ⟨next, built, same, -, nonce, principal⟩ := step round all
  rw [same]
  exact ⟨all, built, nonce, principal⟩

/-- No round has the hash of another when the model proposed the first. -/
theorem roundEnvelope_hash_injective (digest : host.InjectiveDigest) (minted : Minted host first)
    (proposed : first.actor.principal = .llm) {left right : Nat}
    (same : (roundEnvelope host clock signal first left).intentHash =
      (roundEnvelope host clock signal first right).intentHash) : left = right := by
  have rounds (round : Nat) := @roundEnvelope_minted host clock signal first minted round
  induction left generalizing right with
  | zero =>
      cases right with
      | zero => rfl
      | succ right =>
          obtain ⟨-, principal⟩ := (rounds 0).1.sameHash (rounds (right + 1)).1 digest same
          rw [(rounds right).2.2.2, roundEnvelope, proposed] at principal
          cases principal
  | succ left ih =>
      cases right with
      | zero =>
          obtain ⟨-, principal⟩ := (rounds (left + 1)).1.sameHash (rounds 0).1 digest same
          rw [(rounds left).2.2.2, roundEnvelope, proposed] at principal
          cases principal
      | succ right =>
          obtain ⟨nonce, -⟩ := (rounds (left + 1)).1.sameHash (rounds (right + 1)).1 digest same
          rw [(rounds left).2.2.1, (rounds right).2.2.1,
            host.nfc_ascii _ ((rounds left).1.ascii digest),
            host.nfc_ascii _ ((rounds right).1.ascii digest)] at nonce
          rw [ih nonce]

/-- The resume token of a round is its own, whatever the signal is. -/
theorem deferResumeHash_round_injective (digest : host.InjectiveDigest) (minted : Minted host first)
    (proposed : first.actor.principal = .llm) {left right : Nat}
    (same : deferResumeHash host (roundEnvelope host clock signal first left).intentHash signal =
      deferResumeHash host (roundEnvelope host clock signal first right).intentHash signal) :
    left = right := by
  have ascii (round : Nat) :=
    (@roundEnvelope_minted host clock signal first minted round).1.ascii digest
  have hashes : (roundEnvelope host clock signal first left).intentHash =
      (roundEnvelope host clock signal first right).intentHash := by
    rw [deferResumeHash, deferResumeHash, List.append_assoc, List.append_assoc] at same
    exact digest.prefix_injective (ascii left) (ascii right) same
  exact roundEnvelope_hash_injective digest minted proposed hashes

end

end Adjudicate.Agent
