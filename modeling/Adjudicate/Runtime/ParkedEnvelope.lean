/-
This file models the stored form of a parked intent and its verification at resume time.
-/

import Adjudicate.Audit.Verify

namespace Adjudicate.Runtime

open Js Canonical Adjudicate.Core Audit

/-- The fields that a hash is derived from may be missing from an old envelope. -/
structure ParkableEnvelope where
  intentHash : JsString
  kind : JsString
  sessionId : JsString
  payload : JsValue
  version : Option JsNumber
  nonce : Option JsString
  taint : Option Taint
  actorPrincipal : Option Principal
  actorRole : Option JsString
  origin : Option Origin
  resourceRefs : Option ResourceRefs

namespace ParkableEnvelope

def toProps (envelope : ParkableEnvelope) : Props JsValue :=
  [(utf16 "intentHash", JsValue.str envelope.intentHash),
    (utf16 "kind", .str envelope.kind),
    (utf16 "actor", .obj [("sessionId", .str envelope.sessionId)]),
    (utf16 "payload", envelope.payload)] ++
  optionalProp "version" (envelope.version.map .num) ++
  optionalProp "nonce" (envelope.nonce.map .str) ++
  optionalProp "taint" (envelope.taint.map fun taint => .str taint.text) ++
  optionalProp "actorPrincipal" (envelope.actorPrincipal.map fun principal => .str principal.text) ++
  optionalProp "actorRole" (envelope.actorRole.map .str) ++
  optionalProp "origin" (envelope.origin.map fun origin => .str origin.text) ++
  optionalProp "resourceRefs" (envelope.resourceRefs.map ResourceRefs.toJs)

def toJs (envelope : ParkableEnvelope) : JsValue := .obj envelope.toProps

end ParkableEnvelope

/-- This is the envelope that `translateDecision` parks for a `DEFER`. -/
def deferredEnvelope (envelope : IntentEnvelope) : ParkableEnvelope where
  intentHash := envelope.intentHash
  kind := envelope.kind
  sessionId := envelope.actor.sessionId
  payload := envelope.payload
  version := some envelope.version
  nonce := some envelope.nonce
  taint := some envelope.taint
  actorPrincipal := some envelope.actor.principal
  actorRole := envelope.actor.role
  origin := some envelope.origin
  resourceRefs := envelope.resourceRefs

/-- The stored blob; the time is not part of any hash. -/
structure ParkedEnvelope where
  envelope : ParkableEnvelope
  signal : JsString
  parkedAt : JsString

namespace ParkedEnvelope

def toJs (blob : ParkedEnvelope) : JsValue :=
  .obj [("envelope", blob.envelope.toJs), ("signal", .str blob.signal),
    ("parkedAt", .str blob.parkedAt)]

def text (blob : ParkedEnvelope) : JsString := blob.toJs.stringify.getD []

/-- What a resume call reads back. -/
def reloaded (blob : ParkedEnvelope) : JsValue := reload blob.toJs

end ParkedEnvelope

def isString : JsValue → Bool
  | .str _ => true
  | _ => false

def isNumber : JsValue → Bool
  | .num _ => true
  | _ => false

inductive ParkVerificationResult where
  | verified
  | tampered (derived : JsString)
  | missingFields
deriving DecidableEq

/-- The five fields without which the hash cannot be derived again. -/
def hasHashFields (envelope : JsValue) : Bool :=
  isNumber (envelope.getOwn "version") && isString (envelope.getOwn "nonce") &&
    isString (envelope.getOwn "taint") && isString (envelope.getOwn "actorPrincipal") &&
    isString (envelope.getOwn "origin")

def parkedHashInput (envelope sessionId : JsValue) : JsValue :=
  .obj [("version", envelope.getOwn "version"),
    ("kind", envelope.getOwn "kind"),
    ("payload", envelope.getOwn "payload"),
    ("nonce", envelope.getOwn "nonce"),
    ("actor", .obj [("principal", envelope.getOwn "actorPrincipal"),
      ("sessionId", sessionId),
      ("role", envelope.getOwn "actorRole")]),
    ("taint", envelope.getOwn "taint"),
    ("origin", envelope.getOwn "origin"),
    ("resourceRefs", envelope.getOwn "resourceRefs")]

def verifyParkedEnvelopeHash (host : Host) (parked : JsValue) :
    Except Thrown ParkVerificationResult := do
  let envelope ← readProp parked "envelope"
  let _ ← readProp envelope "version"
  if !hasHashFields envelope then return .missingFields
  let sessionId ← readProp (envelope.getOwn "actor") "sessionId"
  let derived ← sha256Canonical host (parkedHashInput envelope sessionId)
  if timingSafeHexEqual (.str derived) (envelope.getOwn "intentHash") then return .verified
  return .tampered derived

section

variable {envelope : ParkableEnvelope} {blob : ParkedEnvelope}

theorem keys_optionalProp (key : JsString) (value : Option JsValue) :
    (keys (optionalProp key value)).Sublist [key] := by
  cases value with
  | none => exact List.nil_sublist _
  | some value => exact List.Sublist.refl _

theorem toProps_nodup : (keys envelope.toProps).Nodup := by
  have names : (keys envelope.toProps).Sublist ([utf16 "intentHash", utf16 "kind", utf16 "actor",
      utf16 "payload"] ++ [utf16 "version"] ++ [utf16 "nonce"] ++ [utf16 "taint"] ++
      [utf16 "actorPrincipal"] ++ [utf16 "actorRole"] ++ [utf16 "origin"] ++
      [utf16 "resourceRefs"]) := by
    simp only [ParkableEnvelope.toProps, keys, List.map_append]
    repeat' apply List.Sublist.append
    · exact List.Sublist.refl _
    all_goals exact keys_optionalProp _ _
  exact List.Nodup.sublist names (by decide)

/-- A stored text is read back as the reloaded blob. -/
theorem parse_text : JsValue.parse blob.text = some blob.reloaded := parse_stringify rfl

theorem readProp_reloaded (key : JsString) :
    readProp blob.reloaded key = .ok (reload (blob.toJs.getOwn key)) := by
  refine readProp_reload ?_ key
  simp only [keys, List.map_cons, List.map_nil]
  decide

theorem getOwn_reloaded_envelope : blob.reloaded.getOwn "envelope" = reload blob.envelope.toJs := by
  rw [ParkedEnvelope.reloaded, ParkedEnvelope.toJs, getOwn_reload]
  · rfl
  · simp only [keys, List.map_cons, List.map_nil]
    decide

theorem getOwn_intentHash :
    (reload envelope.toJs).getOwn "intentHash" = .str envelope.intentHash := by
  rw [ParkableEnvelope.toJs, getOwn_reload toProps_nodup]
  exact reload_str _

end

end Adjudicate.Runtime
