/-
This file keeps a book of calls by window and decides when the counters agree with it.
-/

import Adjudicate.RateLimit.Store
import Mathlib.Data.List.Infix

namespace Adjudicate.RateLimit

open Js

/-- A window is named by the call that opened it. -/
structure Window where
  opener : Nat
  expiresAt : JsNumber

/-- One call with the window that was live when it counted. -/
structure Admitted where
  key : JsString
  window : Nat
  max : JsNumber
  exceeded : Bool
  rolledBack : Bool

/-- The book counts nothing: it remembers every call and the last window of every key. -/
structure Book where
  now : JsNumber
  windows : JsString → Option Window
  calls : List Admitted

namespace Book

def start (now : JsNumber) : Book := ⟨now, fun _ => none, []⟩

def live (book : Book) (key : JsString) : Option Window :=
  (book.windows key).filter fun window => !window.expiresAt.atMost book.now

def Standing (key : JsString) (opener : Nat) (call : Admitted) : Prop :=
  call.key = key ∧ call.window = opener ∧ call.rolledBack = false

instance (key : JsString) (opener : Nat) (call : Admitted) : Decidable (Standing key opener call) :=
  inferInstanceAs (Decidable (_ ∧ _ ∧ _))

/-- The calls of a window that were not rolled back. -/
def standing (book : Book) (key : JsString) (opener : Nat) : Nat :=
  book.calls.countP fun call => Standing key opener call

/-- The count that a call on the key should see. -/
def due (book : Book) (key : JsString) : Nat :=
  match book.live key with
  | none => 1
  | some window => book.standing key window.opener + 1

def check (book : Book) (args : CheckRateLimitArgs) (exceeded : Bool) : Book :=
  match book.live args.key with
  | some window =>
      { book with calls := book.calls ++ [⟨args.key, window.opener, args.max, exceeded, false⟩] }
  | none =>
      { book with
        windows := Function.update book.windows args.key
          (some ⟨book.calls.length, book.now.add args.windowMs⟩)
        calls := book.calls ++ [⟨args.key, book.calls.length, args.max, exceeded, false⟩] }

def rollback (book : Book) (call : Nat) : Book :=
  match book.calls[call]? with
  | none => book
  | some admitted => { book with calls := book.calls.set call { admitted with rolledBack := true } }

/-- The first rollback of a call finds a later window of its key with a call to take away. -/
def Stale (book : Book) (call : Nat) : Prop :=
  ∃ admitted window, book.calls[call]? = some admitted ∧ admitted.rolledBack = false ∧
    book.live admitted.key = some window ∧ window.opener ≠ admitted.window ∧
    0 < book.standing admitted.key window.opener

/-- The standing calls of a window that were told they fit under the bound. -/
def fitting (book : Book) (key : JsString) (opener : Nat) (max : JsNumber) : Nat :=
  book.calls.countP fun call =>
    Standing key opener call ∧ call.max = max ∧ call.exceeded = false

def WithinMax (book : Book) : Prop :=
  ∀ key opener max, book.fitting key opener max = 0 ∨ max.passed (book.fitting key opener max) = false

end Book

/-- The store runs while the book writes down what the calls observe. -/
structure Observed where
  world : World
  book : Book

def Observed.step (observed : Observed) (event : Event) : Observed where
  world := observed.world.step event
  book :=
    match event with
    | .check args => observed.book.check args (checkRateLimit observed.world args).1.exceeded
    | .rollback call => observed.book.rollback call
    | .advance reading => { observed.book with now := laterOf observed.book.now reading }

def observe (now : JsNumber) (events : List Event) : Observed :=
  events.foldl Observed.step ⟨World.start now, Book.start now⟩

@[simp] theorem observe_append (now : JsNumber) (events : List Event) (event : Event) :
    observe now (events ++ [event]) = (observe now events).step event := by
  simp [observe]

/-- At every point of the run a further call sees what the book says, and no window lets more
calls through than the bound they share. -/
def Conserved (now : JsNumber) (events : List Event) : Prop :=
  ∀ before, before <+: events →
    (∀ args, (checkRateLimit (observe now before).world args).1.count =
      (observe now before).book.due args.key) ∧ (observe now before).book.WithinMax

/-- No rollback of the run finds a later window to take a call away from. -/
def NoStaleRollback (now : JsNumber) (events : List Event) : Prop :=
  ∀ before call, before ++ [.rollback call] <+: events → ¬(observe now before).book.Stale call

/-- The store and the book agree on everything but the counters. -/
structure Agrees (world : World) (book : Book) : Prop where
  now : world.now = book.now
  windows : ∀ key,
    (world.entries key).map MemoryEntry.expiresAt = (book.windows key).map Window.expiresAt
  calls : world.results.map (fun result => (result.key, result.rolledBack)) =
    book.calls.map fun call => (call.key, call.rolledBack)
  opened : ∀ key window, book.windows key = some window → window.opener < book.calls.length
  joined : ∀ call ∈ book.calls, call.window < book.calls.length

/-- Every counter of a live window is the number of its standing calls. -/
def Counts (world : World) (book : Book) : Prop :=
  ∀ key, answer world.now world.entries key = book.due key

end Adjudicate.RateLimit
