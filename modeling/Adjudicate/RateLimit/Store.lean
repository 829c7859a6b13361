/-
This file models the in-memory rate-limit store and the calls that count on it.
-/

import Adjudicate.Js.Comparison
import Adjudicate.Js.Text
import Mathlib.Logic.Function.Basic

namespace Adjudicate.RateLimit

open Js

/-- The counter of one window. -/
structure MemoryEntry where
  count : Nat
  expiresAt : JsNumber

abbrev Entries := JsString → Option MemoryEntry

/-- An entry whose expiry has come counts as missing. -/
def liveEntry (now : JsNumber) (entries : Entries) (key : JsString) : Option MemoryEntry :=
  (entries key).filter fun entry => !entry.expiresAt.atMost now

/-- A missing or expired counter starts again at one in a fresh window. -/
def incrementAndGet (now : JsNumber) (entries : Entries) (key : JsString) (windowMs : JsNumber) :
    Nat × Entries :=
  match liveEntry now entries key with
  | none => (1, Function.update entries key (some ⟨1, now.add windowMs⟩))
  | some entry =>
      (entry.count + 1, Function.update entries key (some { entry with count := entry.count + 1 }))

/-- The store lowers the entry that it holds now, whichever window that entry counts. -/
def decrement (entries : Entries) (key : JsString) : Nat × Entries :=
  match entries key with
  | none => (0, entries)
  | some entry =>
      (entry.count - 1, Function.update entries key (some { entry with count := entry.count - 1 }))

structure CheckRateLimitArgs where
  key : JsString
  windowMs : JsNumber
  max : JsNumber

/-- A result keeps the key and the flag that its `rollback` closes over. -/
structure RateLimitResult where
  key : JsString
  count : Nat
  exceeded : Bool
  max : JsNumber
  rolledBack : Bool

/-- The clock, the store and the results that were handed out, in the order of the calls. -/
structure World where
  now : JsNumber
  entries : Entries
  results : List RateLimitResult

def World.start (now : JsNumber) : World := ⟨now, fun _ => none, []⟩

def checkRateLimit (world : World) (args : CheckRateLimitArgs) : RateLimitResult × World :=
  let (count, entries) := incrementAndGet world.now world.entries args.key args.windowMs
  let result : RateLimitResult := ⟨args.key, count, args.max.passed count, args.max, false⟩
  (result, { world with entries := entries, results := world.results ++ [result] })

/-- Only the first rollback of a call reaches the store. -/
def rollback (world : World) (call : Nat) : World :=
  match world.results[call]? with
  | none => world
  | some result =>
      if result.rolledBack then world
      else
        { world with
          entries := (decrement world.entries result.key).2
          results := world.results.set call { result with rolledBack := true } }

/-- The clock never goes back. -/
def laterOf (now reading : JsNumber) : JsNumber := if now.atMost reading then reading else now

inductive Event where
  | check (args : CheckRateLimitArgs)
  | rollback (call : Nat)
  | advance (reading : JsNumber)

def World.step (world : World) : Event → World
  | .check args => (checkRateLimit world args).2
  | .rollback call => RateLimit.rollback world call
  | .advance reading => { world with now := laterOf world.now reading }

section

variable (now : JsNumber) (entries : Entries) (key : JsString)

/-- The number that the store would return for the key. -/
def answer : Nat :=
  match liveEntry now entries key with
  | none => 1
  | some entry => entry.count + 1

theorem incrementAndGet_count (windowMs : JsNumber) :
    (incrementAndGet now entries key windowMs).1 = answer now entries key := by
  unfold incrementAndGet answer
  cases liveEntry now entries key <;> rfl

theorem liveEntry_eq_some {entry : MemoryEntry} :
    liveEntry now entries key = some entry ↔
      entries key = some entry ∧ entry.expiresAt.atMost now = false := by
  simp [liveEntry, Option.filter_eq_some_iff]

theorem liveEntry_eq_none :
    liveEntry now entries key = none ↔
      ∀ entry, entries key = some entry → entry.expiresAt.atMost now = true := by
  simp [liveEntry, Option.filter_eq_none_iff]

end

/-- An expired entry stays expired. -/
theorem atMost_laterOf {expiresAt now : JsNumber} (reading : JsNumber)
    (expired : expiresAt.atMost now = true) : expiresAt.atMost (laterOf now reading) = true := by
  unfold laterOf
  split
  · rename_i forward
    exact JsNumber.atMost_trans expired forward
  · exact expired

end Adjudicate.RateLimit
