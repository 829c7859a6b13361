/-
This file models the drift detector with its windows and its alerts.
-/

import Adjudicate.Js.Comparison
import Adjudicate.Js.InsertionMap
import Adjudicate.Js.Sorting
import Adjudicate.Js.Value

namespace Adjudicate.Drift

open Js

/-- This is `record[key] ?? 0` as an operand. An inherited member is not a number. -/
def countOf (record : Props Nat) (key : JsString) : JsNumber :=
  match record.lookup key with
  | some count => .ofNat count
  | none => if key ∈ objectPrototypeNames then .nan else 0

def total (record : Props Nat) : Nat := (record.map Prod.snd).sum

def totalVariationDistance (a b : Props Nat) : JsNumber :=
  let sumA := total a
  let sumB := total b
  if sumA = 0 ∧ sumB = 0 then 0
  else if sumA = 0 ∨ sumB = 0 then 1
  else
    let acc := (keys a ++ keys b).eraseDups.foldl (fun (acc : JsNumber) k =>
      let pa := (countOf a k).div (.ofNat sumA)
      let pb := (countOf b k).div (.ofNat sumB)
      acc.add (pa.sub pb).magnitude) 0
    acc.div 2

inductive DriftDimension where
  | decisionKind
  | intentKind
  | basis
deriving DecidableEq

inductive DriftSignalKind where
  | distributionShift
  | newCategory
  | proportionSpike
deriving DecidableEq

structure DriftAlert where
  dimension : DriftDimension
  signal : DriftSignalKind
  magnitude : JsNumber
  threshold : JsNumber
  category : Option JsString
  baselineCount : Nat
  recentCount : Nat

structure DriftDimensionSnapshot where
  dimension : DriftDimension
  baseline : Props Nat
  recent : Props Nat
  tvd : JsNumber
  alerts : List DriftAlert

structure DriftSnapshot where
  baselineWindow : Nat
  recentWindow : Nat
  alertThreshold : JsNumber
  totalObserved : Nat
  dimensions : List DriftDimensionSnapshot

structure DriftDetectorOptions where
  baselineWindow : Nat
  recentWindow : Option Nat
  alertThreshold : JsNumber
  dimensions : List DriftDimension
  maxCategoriesPerDimension : Option Nat

namespace DriftDetectorOptions

variable (options : DriftDetectorOptions)

def window : Nat := options.recentWindow.getD options.baselineWindow

def max : Nat := options.maxCategoriesPerDimension.getD 64

end DriftDetectorOptions

def overflow : JsString := "__overflow__"

abbrev Counter : Type := InsertionMap JsString Nat

structure DimState where
  baseline : Counter
  recentKeys : List JsString
  recentCounts : Counter

def add (counter : Counter) (key : JsString) (max : Nat) : Counter :=
  match counter.get key with
  | some count => counter.set key (count + 1)
  | none =>
      if counter.size < max then counter.set key 1
      else counter.set overflow ((counter.get overflow).getD 0 + 1)

/-- The properties of the record are read in enumeration order. -/
def toRecord (counter : Counter) : Props Nat :=
  enumerate (counter.entries.foldl (fun out entry => assign out entry.1 entry.2) [])

/-- Of a record that lacks its parts nothing is read. -/
def keysForDimension (dim : DriftDimension) (record : JsValue) : List JsString :=
  match dim with
  | .decisionKind =>
      match (record.getOwn "decision").getOwn "kind" with
      | .str k => [k]
      | _ => []
  | .intentKind =>
      match (record.getOwn "envelope").getOwn "kind" with
      | .str k => [k]
      | _ => []
  | .basis =>
      match record.getOwn "decision_basis" with
      | .arr list => list.filterMap fun b =>
          match b.getOwn "category" with
          | .str c => some c
          | _ => none
      | _ => []

/-- The counters of one dimension after the loop that evicts the oldest keys. -/
def evict (recentWindow : Nat) : List JsString → Counter → List JsString × Counter
  | [], counts => ([], counts)
  | evicted :: rest, counts =>
      if recentWindow < (evicted :: rest).length then
        let c := (counts.get evicted).getD 0 - 1
        evict recentWindow rest (if c = 0 then counts.delete evicted else counts.set evicted c)
      else (evicted :: rest, counts)

def pushRecent (recentWindow : Nat) (st : DimState) (key : JsString) : DimState :=
  let (recentKeys, recentCounts) := evict recentWindow (st.recentKeys ++ [key])
    (st.recentCounts.set key ((st.recentCounts.get key).getD 0 + 1))
  { st with recentKeys, recentCounts }

structure DriftDetector where
  dims : List (DriftDimension × DimState)
  totalObserved : Nat

section

variable (options : DriftDetectorOptions)

/-- A dimension that is listed twice is tracked once. -/
def createDriftDetector : DriftDetector where
  dims := options.dimensions.eraseDups.map fun d => (d, ⟨.empty, [], .empty⟩)
  totalObserved := 0

def spikeOf (dim : DriftDimension) (baseline recent : Props Nat) (key : JsString) :
    List DriftAlert :=
  let baselineTotal := total baseline
  let recentTotal := total recent
  let delta := ((countOf recent key).div (.ofNat recentTotal)).sub
    ((countOf baseline key).div (.ofNat baselineTotal))
  if options.alertThreshold.atMost delta then
    [{ dimension := dim, signal := .proportionSpike, magnitude := delta,
       threshold := options.alertThreshold, category := some key, baselineCount := baselineTotal,
       recentCount := recentTotal }]
  else []

/-- An own property and an inherited one both count as known. -/
def newCategoryOf (dim : DriftDimension) (baseline recent : Props Nat) (key : JsString) :
    List DriftAlert :=
  if key ∈ keys baseline ∨ key ∈ objectPrototypeNames then []
  else
    [{ dimension := dim, signal := .newCategory, magnitude := 1,
       threshold := options.alertThreshold, category := some key, baselineCount := total baseline,
       recentCount := total recent }]

def computeDimension (dim : DriftDimension) (st : DimState) : DriftDimensionSnapshot :=
  let baseline := toRecord st.baseline
  let recent := toRecord st.recentCounts
  let tvd := totalVariationDistance baseline recent
  let baselineTotal := total baseline
  let recentTotal := total recent
  let shift : List DriftAlert :=
    if options.alertThreshold.atMost tvd then
      [{ dimension := dim, signal := .distributionShift, magnitude := tvd,
         threshold := options.alertThreshold, category := none, baselineCount := baselineTotal,
         recentCount := recentTotal }]
    else []
  let alerts :=
    if 0 < baselineTotal ∧ 0 < recentTotal then
      shift ++ (sortBy id (keys recent)).flatMap fun key =>
        newCategoryOf options dim baseline recent key ++ spikeOf options dim baseline recent key
    else []
  { dimension := dim, baseline, recent, tvd, alerts }

namespace DriftDetector

variable (detector : DriftDetector)

def observe (record : JsValue) : DriftDetector where
  dims := detector.dims.map fun (dim, st) =>
    (dim, (keysForDimension dim record).foldl (fun st key =>
      if detector.totalObserved < options.baselineWindow then
        { st with baseline := add st.baseline key options.max }
      else pushRecent options.window st key) st)
  totalObserved := detector.totalObserved + 1

def evaluate : List DriftAlert :=
  detector.dims.flatMap fun (dim, st) => (computeDimension options dim st).alerts

def snapshot : DriftSnapshot where
  baselineWindow := options.baselineWindow
  recentWindow := options.window
  alertThreshold := options.alertThreshold
  totalObserved := detector.totalObserved
  dimensions := detector.dims.map fun (dim, st) => computeDimension options dim st

end DriftDetector

/-- This is the detector after a sequence of records. -/
def observed (records : List JsValue) : DriftDetector :=
  records.foldl (DriftDetector.observe options) (createDriftDetector options)

end

end Adjudicate.Drift
