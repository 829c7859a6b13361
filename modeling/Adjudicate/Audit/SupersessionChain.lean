/-
This file models the report of supersession chains over a list of audit records.
-/

import Adjudicate.Audit.Record
import Adjudicate.Chain.Lineage
import Adjudicate.Js.Sorting

namespace Adjudicate.Audit

open Js Chain Adjudicate.Core

structure SupersessionChainNode where
  intentHash : JsString
  decisionKind : DecisionKind
  «at» : JsString
  reason : Option SupersessionReason
  predecessorIntentHash : Option JsString
  auditHash : Option JsString
  prevAuditHash : Option JsString
deriving DecidableEq

abbrev ReasonCounts := SupersessionReason → Nat

def tally (reasons : List SupersessionReason) : ReasonCounts := fun reason => reasons.count reason

structure SupersessionChain where
  head : SupersessionChainNode
  tail : List SupersessionChainNode
  reasonCounts : ReasonCounts
  length : Nat

structure DanglingReference where
  intentHash : JsString
  missingPredecessor : JsString
deriving DecidableEq

structure Fork where
  predecessorIntentHash : JsString
  successorIntentHashes : List JsString
deriving DecidableEq

@[ext] structure ChainBreak where
  intentHash : JsString
  prevAuditHash : JsString
  predecessorAuditHash : Option JsString
  predecessorIntentHash : JsString
deriving DecidableEq

@[ext] structure SupersessionChainReport where
  schemaVersion : Nat
  chains : List SupersessionChain
  singletons : List SupersessionChainNode
  danglingReferences : List DanglingReference
  cycles : List SupersessionChain
  forks : List Fork
  aggregateReasonCounts : ReasonCounts
  chainBreaks : List ChainBreak

def nodeOf (record : AuditRecord) : SupersessionChainNode where
  intentHash := record.intentHash
  decisionKind := record.decision.kind
  «at» := record.at
  reason := record.supersedes.map Supersession.reason
  predecessorIntentHash := record.supersedes.map Supersession.predecessorIntentHash
  auditHash := record.auditHash
  prevAuditHash := record.prevAuditHash

section Report

/- The records are references, since the source compares them by identity. -/
variable {Ref : Type} [DecidableEq Ref] (read : Ref → AuditRecord)

/-- This is the bucket of `byHash`, where an empty one stands for a missing one. -/
def bucketOf (records : List Ref) (hash : JsString) : List Ref :=
  records.filter fun record => (read record).intentHash = hash

def findRecord (records : List Ref) (hash : JsString) (predecessorAt : Option JsString) :
    Option Ref :=
  match bucketOf read records hash, predecessorAt with
  | [], _ => none
  | first :: _, none => some first
  | [only], some _ => some only
  | first :: second :: rest, some instant =>
      ((first :: second :: rest).find? fun record => (read record).at = instant).or (some first)

def predecessorOf (records : List Ref) (record : Ref) : Option Ref :=
  (read record).supersedes.bind fun supersedes =>
    findRecord read records supersedes.predecessorIntentHash (some supersedes.predecessorAt)

@[ext] structure Walk (Ref : Type) where
  tail : List Ref
  reasons : List SupersessionReason
  cycleDetected : Bool

/-- The source keeps the visited records, which are the records that are not unvisited here. -/
def walkBack (records unvisited : List Ref) (cursor : Ref) : Walk Ref :=
  match (read cursor).supersedes with
  | none => { tail := [], reasons := [], cycleDetected := false }
  | some supersedes =>
      match findRecord read records supersedes.predecessorIntentHash
          (some supersedes.predecessorAt) with
      | none => { tail := [], reasons := [], cycleDetected := false }
      | some previous =>
          if previous ∈ unvisited then
            let later := walkBack records (others unvisited previous) previous
            { later with
              tail := previous :: later.tail, reasons := supersedes.reason :: later.reasons }
          else { tail := [], reasons := [], cycleDetected := true }
termination_by unvisited.length
decreasing_by
  exact List.length_filter_lt_length_iff_exists.mpr ⟨previous, by assumption, by simp⟩

/-- This is one walk with the visited set that holds its first record. -/
def walkFrom (records : List Ref) (start : Ref) : Walk Ref :=
  walkBack read records (others records start) start

def chainOf (head : Ref) (met : Walk Ref) : SupersessionChain where
  head := nodeOf (read head)
  tail := met.tail.map fun record => nodeOf (read record)
  reasonCounts := tally met.reasons
  length := 1 + met.tail.length

def danglingReferences (records : List Ref) : List DanglingReference :=
  records.filterMap fun record =>
    (read record).supersedes.bind fun supersedes =>
      if bucketOf read records supersedes.predecessorIntentHash = [] then
        some { intentHash := (read record).intentHash,
               missingPredecessor := supersedes.predecessorIntentHash }
      else none

/-- These are the resolved links in the order of the records, each with the hash of its successor. -/
def knownLinks (records : List Ref) : List (JsString × JsString) :=
  records.filterMap fun record =>
    (read record).supersedes.bind fun supersedes =>
      if bucketOf read records supersedes.predecessorIntentHash = [] then none
      else some (supersedes.predecessorIntentHash, (read record).intentHash)

def successorsAt (links : List (JsString × JsString)) (hash : JsString) : List JsString :=
  (links.filter fun link => link.1 = hash).map Prod.snd

/-- These are the entries of the `successorsOf` map, whose keys are in the order of their first use. -/
def successorsOf (links : List (JsString × JsString)) : List (JsString × List JsString) :=
  (links.map Prod.fst).eraseDups.map fun hash => (hash, successorsAt links hash)

def superseded (records : List Ref) : List Ref :=
  records.filterMap fun record =>
    (predecessorOf read records record).filter fun previous => previous ≠ record

def heads (records : List Ref) : List Ref :=
  records.filter fun record => record ∉ superseded read records

/-- The records whose hash no walk has met yet start the remaining walks. -/
def salvage (records : List Ref) (accountedFor : List JsString) : List Ref → List (Ref × Walk Ref)
  | [] => []
  | record :: rest =>
      if (read record).intentHash ∈ accountedFor then salvage records accountedFor rest
      else
        let met := walkFrom read records record
        (record, met) :: salvage records
          ((record :: met.tail).map (fun other => (read other).intentHash) ++ accountedFor) rest

def forkOf (entry : JsString × List JsString) : Option Fork :=
  if 1 < entry.2.length then
    some { predecessorIntentHash := entry.1, successorIntentHashes := sortBy id entry.2 }
  else none

def forks (records : List Ref) : List Fork := (successorsOf (knownLinks read records)).filterMap forkOf

def chainBreakOf (records : List Ref) (record : Ref) : Option ChainBreak :=
  match (read record).prevAuditHash, (read record).supersedes with
  | some prevAuditHash, some supersedes =>
      match findRecord read records supersedes.predecessorIntentHash
          (some supersedes.predecessorAt) with
      | none => none
      | some previous =>
          if previous = record ∨ (read previous).auditHash = some prevAuditHash then none
          else
            some { intentHash := (read record).intentHash, prevAuditHash,
                   predecessorAuditHash := (read previous).auditHash,
                   predecessorIntentHash := supersedes.predecessorIntentHash }
  | _, _ => none

def chainBreaks (records : List Ref) : List ChainBreak := records.filterMap (chainBreakOf read records)

/-- These are the walks from the heads, in the order of the heads. -/
def headWalks (records : List Ref) : List (Ref × Walk Ref) :=
  (heads read records).map fun head => (head, walkFrom read records head)

def isSingleton (entry : Ref × Walk Ref) : Bool :=
  !entry.2.cycleDetected && entry.2.tail.isEmpty && (read entry.1).supersedes.isNone

def isChain (entry : Ref × Walk Ref) : Bool := !entry.2.cycleDetected && !entry.2.tail.isEmpty

/-- These are the hashes that the source puts into `accountedFor` before the salvage. -/
def accountedHashes (records : List Ref) : List JsString :=
  let walks := headWalks read records
  let shown := walks.filter fun entry =>
    isChain entry || entry.2.cycleDetected || isSingleton read entry
  shown.flatMap (fun entry => (entry.1 :: entry.2.tail).map fun record => (read record).intentHash) ++
    (danglingReferences read records).map DanglingReference.intentHash

/-- Every increment of a chain's counts is one of the aggregate counts as well. -/
def buildSupersessionChains (records : List Ref) : SupersessionChainReport :=
  let walks := headWalks read records
  let salvaged := salvage read records (accountedHashes read records) records
  let chain := fun entry : Ref × Walk Ref => chainOf read entry.1 entry.2
  { schemaVersion := 1
    chains := sortBy (fun chain => chain.head.intentHash) ((walks.filter isChain).map chain)
    singletons := sortBy SupersessionChainNode.intentHash
      ((walks.filter (isSingleton read)).map fun entry => nodeOf (read entry.1))
    danglingReferences := sortBy DanglingReference.intentHash (danglingReferences read records)
    cycles := sortBy (fun chain => chain.head.intentHash)
      (((walks.filter fun entry => entry.2.cycleDetected) ++ salvaged).map chain)
    forks := sortBy Fork.predecessorIntentHash (forks read records)
    aggregateReasonCounts := tally ((walks ++ salvaged).flatMap fun entry => entry.2.reasons)
    chainBreaks := sortBy ChainBreak.intentHash (chainBreaks read records) }

end Report

end Adjudicate.Audit
