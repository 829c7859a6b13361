/-
This file models the in-memory store of session memories with its optimistic writes.
-/

import Adjudicate.Effect.Machine
import Adjudicate.Js.Comparison
import Adjudicate.Js.InsertionMap
import Adjudicate.Js.Text

namespace Adjudicate.Agent

open Js Adjudicate.Effect

/-- A deadline that is not a number is never reached, like an infinite one. -/
abbrev Deadline := WithBot (WithTop ℚ)

structure MemoryEntry (M : Type) where
  value : M
  expiresAt : Deadline
  version : Nat

/-- The changes of the map are observed only. -/
inductive Change (M : Type) where
  | wrote (key : JsString) (memory : M)
  | dropped (key : JsString)
deriving DecidableEq

def Change.key {M : Type} : Change M → JsString
  | .wrote key _ => key
  | .dropped key => key

/-- A merge that has read waits with its merged value for its write. -/
structure PendingMerge (M : Type) where
  sessionId : JsString
  merged : M
  ttlSeconds : JsNumber

structure MemoryState (M : Type) where
  store : InsertionMap JsString (MemoryEntry M)
  now : ℚ
  merging : List (PendingMerge M)
  log : List (Change M)

/-- The patch is spread over the value that was read, or over an empty object. -/
structure MemoryStoreOptions (M P : Type) where
  defaultTtl : JsNumber
  maxEntries : Option JsNumber
  keyFor : JsString → JsString
  spread : Option M → P → M

inductive MemoryCall (M P : Type) where
  | get (sessionId : JsString)
  | put (sessionId : JsString) (memory : M) (ttlSeconds : JsNumber)
  | mergeReads (sessionId : JsString) (patch : P) (ttlSeconds : JsNumber)
  | mergeWrites (position : Nat)
  | getVersioned (sessionId : JsString)
  | putIfVersion (sessionId : JsString) (memory : M) (expectedVersion : Nat) (ttlSeconds : JsNumber)
  | clock (now : ℚ)

/-- This is `ttlSeconds || defaultTtl`. -/
def lifetime (defaultTtl ttlSeconds : JsNumber) : JsNumber :=
  match ttlSeconds.position with
  | none => defaultTtl
  | some place => if place = ((0 : ℚ) : WithTop ℚ) then defaultTtl else ttlSeconds

def deadline (now : ℚ) (ttlSeconds : JsNumber) : Deadline :=
  match ttlSeconds.position with
  | none => (⊤ : WithTop ℚ)
  | some place => place.map (WithTop.map (now + · * 1000))

def sweepBatch : Nat := 50

namespace MemoryState

variable {M P : Type} (opts : MemoryStoreOptions M P) (state : MemoryState M)

def initial : MemoryState M := ⟨.empty, 0, [], []⟩

def drop (key : JsString) : MemoryState M :=
  { state with store := state.store.delete key, log := state.log ++ [.dropped key] }

def expired (entry : MemoryEntry M) : Bool := entry.expiresAt ≤ ((state.now : WithTop ℚ) : Deadline)

/-- The loop looks at the first entries of the map only. -/
def sweep : MemoryState M :=
  ((state.store.entries.take sweepBatch).filter fun entry => state.expired entry.2).foldl
    (fun swept entry => swept.drop entry.1) state

/-- Each round drops one entry, so the size of the map bounds the rounds. -/
def evictRounds (maxEntries : JsNumber) : Nat → MemoryState M → MemoryState M
  | 0, state => state
  | rounds + 1, state =>
      if maxEntries.passed state.store.size then
        match state.store.oldest with
        | none => state
        | some oldest => evictRounds maxEntries rounds (state.drop oldest)
      else state

def evictIfNeeded : MemoryState M :=
  match opts.maxEntries with
  | none => state
  | some maxEntries => evictRounds maxEntries state.store.size state

/-- A live entry moves to the end of the map. -/
def readLive (key : JsString) : Option (MemoryEntry M) × MemoryState M :=
  match state.store.get key with
  | none => (none, state)
  | some entry =>
      if state.expired entry then (none, state.drop key)
      else (some entry, { state with store := state.store.touch key entry })

def get (sessionId : JsString) : Option M × MemoryState M :=
  let (live, read) := state.readLive (opts.keyFor sessionId)
  (live.map (·.value), read)

def write (key : JsString) (memory : M) (ttlSeconds : JsNumber) (version : Nat) : MemoryState M :=
  { state with
    store := state.store.touch key
      ⟨memory, deadline state.now (lifetime opts.defaultTtl ttlSeconds), version⟩
    log := state.log ++ [.wrote key memory] }

/-- The version goes on from an entry that has expired but was not swept. -/
def put (sessionId : JsString) (memory : M) (ttlSeconds : JsNumber) : MemoryState M :=
  let swept := state.sweep
  let key := opts.keyFor sessionId
  let previous := ((swept.store.get key).map (·.version)).getD 0
  (swept.write opts key memory ttlSeconds (previous + 1)).evictIfNeeded opts

def getVersioned (sessionId : JsString) : (Option M × Nat) × MemoryState M :=
  let (live, read) := state.readLive (opts.keyFor sessionId)
  ((live.map (·.value), (live.map (·.version)).getD 0), read)

/-- This is the state in which the versions are compared. -/
def compared (sessionId : JsString) : MemoryState M :=
  (state.sweep.readLive (opts.keyFor sessionId)).2

def putIfVersion (sessionId : JsString) (memory : M) (expectedVersion : Nat)
    (ttlSeconds : JsNumber) : Option Nat × MemoryState M :=
  let key := opts.keyFor sessionId
  let (live, read) := state.sweep.readLive key
  let currentVersion := (live.map (·.version)).getD 0
  if currentVersion ≠ expectedVersion then (none, read)
  else (some (currentVersion + 1),
    (read.write opts key memory ttlSeconds (currentVersion + 1)).evictIfNeeded opts)

/-- A merge reads and writes in two steps, between which other calls may run. -/
def perform : MemoryCall M P → MemoryState M
  | .get sessionId => (state.get opts sessionId).2
  | .put sessionId memory ttlSeconds => state.put opts sessionId memory ttlSeconds
  | .mergeReads sessionId patch ttlSeconds =>
      let (current, read) := state.get opts sessionId
      { read with merging := read.merging ++ [⟨sessionId, opts.spread current patch, ttlSeconds⟩] }
  | .mergeWrites position =>
      match state.merging[position]? with
      | none => state
      | some pending =>
          { state with merging := state.merging.eraseIdx position }.put opts pending.sessionId
            pending.merged pending.ttlSeconds
  | .getVersioned sessionId => (state.getVersioned opts sessionId).2
  | .putIfVersion sessionId memory expectedVersion ttlSeconds =>
      (state.putIfVersion opts sessionId memory expectedVersion ttlSeconds).2
  | .clock now => { state with now }

end MemoryState

end Adjudicate.Agent
