/-
This file models the persistent buffered sink with its serialized emits and its spill storage.
-/

import Adjudicate.Audit.Record
import Adjudicate.Effect.Machine
import Mathlib.Data.Rat.Cast.Order

namespace Adjudicate.Sink

open Js Audit Adjudicate.Effect

structure StorageEntry where
  seqId : Nat
  record : AuditRecord

/-- This is the in-memory spill storage, whose map keeps the order of insertion. -/
structure SpillStorage where
  store : List StorageEntry
  nextSeq : Nat

/-- A full storage drops its oldest entry first. -/
def SpillStorage.append (maxSize : Option Nat) (storage : SpillStorage) (record : AuditRecord) :
    SpillStorage where
  store := (if maxSize.any (· ≤ storage.store.length) then storage.store.tail else storage.store) ++
    [{ seqId := storage.nextSeq, record }]
  nextSeq := storage.nextSeq + 1

/-- The records that `readAll` yields carry the number of their entry. -/
def SpillStorage.ack (storage : SpillStorage) (entry : StorageEntry) : SpillStorage :=
  { storage with store := storage.store.filter fun other => other.seqId ≠ entry.seqId }

/-- The capacity is any number but NaN. -/
structure PersistentBufferedSinkOptions where
  capacity : WithTop ℚ
  maxSize : Option Nat

/-- This is the promise that the running emit awaits. -/
inductive Awaiting where
  | drainEmit (head : StorageEntry) (rest : List StorageEntry)
  | drainAck (head : StorageEntry) (rest : List StorageEntry)
  | memoryEmit (head : AuditRecord)
  | recordEmit
  | spillAppend (evicted : AuditRecord)

/-- The waiting emits are chained behind the current one. The accepted records, the issued records
and the settled emits with their success are observed only. -/
structure SinkState where
  storage : SpillStorage
  memQueue : List AuditRecord
  current : Option (AuditRecord × Awaiting)
  waiting : List AuditRecord
  accepted : List AuditRecord
  issued : List AuditRecord
  settled : List (AuditRecord × Bool)

inductive SinkEvent where
  | emit (record : AuditRecord)
  | begins
  | fulfilled
  | rejected

namespace SinkState

def settle (state : SinkState) (record : AuditRecord) (resolved : Bool) : SinkState :=
  { state with current := none, settled := state.settled ++ [(record, resolved)] }

def await (state : SinkState) (record : AuditRecord) (awaiting : Awaiting) : SinkState :=
  { state with current := some (record, awaiting) }

def accept (state : SinkState) (record : AuditRecord) : SinkState :=
  { state with accepted := state.accepted ++ [record] }

def drainMemory (state : SinkState) (record : AuditRecord) : SinkState :=
  match state.memQueue with
  | [] => state.await record .recordEmit
  | head :: _ => state.await record (.memoryEmit head)

/-- The remaining entries are those of the snapshot that `readAll` took. -/
def drainStorage (state : SinkState) (record : AuditRecord) : List StorageEntry → SinkState
  | [] => state.drainMemory record
  | head :: rest => state.await record (.drainEmit head rest)

/-- The emit rejects afterwards, since this runs in its `catch` block. -/
def bufferOrSpill (options : PersistentBufferedSinkOptions) (state : SinkState)
    (record : AuditRecord) : SinkState :=
  if (state.memQueue.length : WithTop ℚ) < options.capacity then
    { state with memQueue := state.memQueue ++ [record] }.settle record false
  else
    match state.memQueue with
    | [] => { state with memQueue := [record] }.settle record false
    | evicted :: rest => { state with memQueue := rest }.await record (.spillAppend evicted)

/-- The awaited promise is fulfilled. -/
def fulfill (options : PersistentBufferedSinkOptions) (state : SinkState) (record : AuditRecord) :
    Awaiting → SinkState
  | .drainEmit head rest => (state.accept head.record).await record (.drainAck head rest)
  | .drainAck head rest =>
      { state with storage := state.storage.ack head }.drainStorage record rest
  | .memoryEmit head =>
      ({ state with memQueue := state.memQueue.tail }.accept head).drainMemory record
  | .recordEmit => (state.accept record).settle record true
  | .spillAppend evicted =>
      { state with
        storage := state.storage.append options.maxSize evicted
        memQueue := state.memQueue ++ [record] }.settle record false

/-- A record whose append fails is lost. -/
def reject (options : PersistentBufferedSinkOptions) (state : SinkState) (record : AuditRecord) :
    Awaiting → SinkState
  | .spillAppend _ => { state with memQueue := state.memQueue ++ [record] }.settle record false
  | _ => state.bufferOrSpill options record

/-- An emit begins when the one before it has settled. -/
def advance (options : PersistentBufferedSinkOptions) (state : SinkState) :
    SinkEvent → Option SinkState
  | .emit record =>
      some { state with waiting := state.waiting ++ [record], issued := state.issued ++ [record] }
  | .begins =>
      match state.current, state.waiting with
      | none, record :: waiting =>
          some ({ state with waiting }.drainStorage record state.storage.store)
      | _, _ => none
  | .fulfilled => state.current.map fun entry => state.fulfill options entry.1 entry.2
  | .rejected => state.current.map fun entry => state.reject options entry.1 entry.2

def initial : SinkState where
  storage := { store := [], nextSeq := 0 }
  memQueue := []
  current := none
  waiting := []
  accepted := []
  issued := []
  settled := []

end SinkState

end Adjudicate.Sink
