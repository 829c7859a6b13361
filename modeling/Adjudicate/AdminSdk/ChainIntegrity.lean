/-
This file models the chain check that the audit query runs over a page of records.
-/

import Adjudicate.Audit.ReplayIntegrity
import Adjudicate.Chain.Links
import Adjudicate.Js.Sorting
import Mathlib.Data.Prod.Lex

namespace Adjudicate.AdminSdk

open Js Canonical Chain Adjudicate.Core Adjudicate.Audit

structure IntegrityBreak where
  intentHash : JsString
  prevAuditHash : JsString
  predecessorAuditHash : JsString
deriving DecidableEq

structure ChainIntegrity where
  checked : Nat
  breaks : List IntegrityBreak
deriving DecidableEq

/-- This is the bucket of one stream. -/
def streamRecords (records : List AuditRecord) (stream : JsString) : List AuditRecord :=
  records.filter (·.stream = stream)

/-- A map lists its keys in the order of their first insertion. -/
def streamsOf (records : List AuditRecord) : List JsString :=
  (records.map AuditRecord.stream).eraseDups

def sortKey (record : AuditRecord) : JsString ×ₗ JsString := toLex (record.at, record.intentHash)

/-- The comparator answers 1 for equal keys in either order, and a sort that asks only for negative
answers leaves such records in the order of their arrival. -/
def chronological (bucket : List AuditRecord) : List AuditRecord := sortBy sortKey bucket

structure ChainWalk extends ChainIntegrity where
  prevTip : Option JsString

def ChainWalk.visit (walk : ChainWalk) (record : AuditRecord) : ChainWalk :=
  match record.prevAuditHash, walk.prevTip with
  | some prevLink, some prevTip =>
      { checked := walk.checked + 1
        breaks := if prevLink ≠ prevTip then
            walk.breaks ++ [⟨record.intentHash, prevLink, prevTip⟩]
          else walk.breaks
        prevTip := record.auditHash }
  | _, _ => { walk with prevTip := record.auditHash }

def walkStream (integrity : ChainIntegrity) (bucket : List AuditRecord) : ChainIntegrity :=
  ((chronological bucket).foldl ChainWalk.visit ⟨integrity, none⟩).toChainIntegrity

def computeChainIntegrity (records : List AuditRecord) : ChainIntegrity :=
  ((streamsOf records).map (streamRecords records)).foldl walkStream ⟨0, []⟩

/-- The records with one session are in their order, which is their order in the history. -/
def Precedes (history : List AuditRecord) (before record : AuditRecord) : Prop :=
  ∃ index, (streamRecords history record.stream)[index]? = some before ∧
    (streamRecords history record.stream)[index + 1]? = some record

/-- The records have distinct hashes, every link names the true predecessor and no clock runs
back. -/
structure Honest (history : List AuditRecord) : Prop where
  hashed : ∀ record ∈ history, record.auditHash ≠ none
  distinct : (history.map AuditRecord.auditHash).Nodup
  linked : ∀ record ∈ history, ∀ link ∈ record.prevAuditHash,
    ∃ before, Precedes history before record ∧ before.auditHash = some link
  clock : ∀ stream, (streamRecords history stream).Pairwise fun before record =>
    before.at ≤ record.at

/-- Records with one place in the order of their session are alike to the check. -/
def Untied (page : List AuditRecord) : Prop :=
  ∀ first ∈ page, ∀ second ∈ page, first.stream = second.stream → sortKey first = sortKey second →
    first.prevAuditHash = second.prevAuditHash ∧ first.auditHash = second.auditHash

/-- In every session of the sorted page, a linked record that is not the first follows its true
predecessor. -/
def Gapless (history page : List AuditRecord) : Prop :=
  ∀ stream, (chronological (streamRecords page stream)).IsChain fun before record =>
    record.prevAuditHash = none ∨ Precedes history before record

section Walk

/-- What the walk reads of a record. -/
structure ChainView where
  key : JsString ×ₗ JsString
  prevAuditHash : Option JsString
  auditHash : Option JsString

def chainView (record : AuditRecord) : ChainView :=
  ⟨sortKey record, record.prevAuditHash, record.auditHash⟩

/-- The walk from a tip yields these checks and breaks. -/
def ChainView.visits (prevTip : Option JsString) : List ChainView → ChainIntegrity
  | [] => ⟨0, []⟩
  | view :: rest =>
      let later := ChainView.visits view.auditHash rest
      match view.prevAuditHash, prevTip with
      | some prevLink, some tip =>
          ⟨later.checked + 1, if prevLink ≠ tip then
              ⟨(ofLex view.key).2, prevLink, tip⟩ :: later.breaks else later.breaks⟩
      | _, _ => later

def streamIntegrity (bucket : List AuditRecord) : ChainIntegrity :=
  ChainView.visits none ((chronological bucket).map chainView)

theorem foldl_visit (bucket : List AuditRecord) :
    ∀ walk : ChainWalk, (bucket.foldl ChainWalk.visit walk).toChainIntegrity =
      ⟨walk.checked + (ChainView.visits walk.prevTip (bucket.map chainView)).checked,
        walk.breaks ++ (ChainView.visits walk.prevTip (bucket.map chainView)).breaks⟩ := by
  induction bucket with
  | nil =>
      intro walk
      simp [ChainView.visits]
  | cons record rest ih =>
      intro walk
      rw [List.foldl_cons, ih]
      unfold ChainWalk.visit
      cases link : record.prevAuditHash with
      | none => simp [ChainView.visits, chainView, link]
      | some prevLink =>
          cases tip : walk.prevTip with
          | none => simp [ChainView.visits, chainView, link]
          | some prevTip =>
              by_cases same : prevLink = prevTip
              · simp [ChainView.visits, chainView, link, same, Nat.add_assoc, Nat.add_comm]
              · simp [ChainView.visits, chainView, link, same, Nat.add_assoc, Nat.add_comm, sortKey]

theorem walkStream_eq (integrity : ChainIntegrity) (bucket : List AuditRecord) :
    walkStream integrity bucket = ⟨integrity.checked + (streamIntegrity bucket).checked,
      integrity.breaks ++ (streamIntegrity bucket).breaks⟩ :=
  foldl_visit (chronological bucket) ⟨integrity, none⟩

theorem foldl_walkStream (buckets : List (List AuditRecord)) :
    ∀ integrity : ChainIntegrity, buckets.foldl walkStream integrity =
      ⟨integrity.checked + (buckets.map fun bucket => (streamIntegrity bucket).checked).sum,
        integrity.breaks ++ buckets.flatMap fun bucket => (streamIntegrity bucket).breaks⟩ := by
  induction buckets with
  | nil =>
      intro integrity
      simp
  | cons bucket rest ih =>
      intro integrity
      rw [List.foldl_cons, ih, walkStream_eq]
      simp [Nat.add_assoc]

/-- The streams contribute their checks and breaks independently. -/
theorem computeChainIntegrity_eq (records : List AuditRecord) :
    computeChainIntegrity records =
      ⟨((streamsOf records).map fun stream =>
          (streamIntegrity (streamRecords records stream)).checked).sum,
        (streamsOf records).flatMap fun stream =>
          (streamIntegrity (streamRecords records stream)).breaks⟩ := by
  rw [computeChainIntegrity, foldl_walkStream]
  simp [List.flatMap_map, Function.comp_def]

theorem visits_breaks_iff (prevTip : Option JsString) (bucket : List AuditRecord) :
    (ChainView.visits prevTip (bucket.map chainView)).breaks = [] ↔
      Quiet AuditRecord.prevAuditHash AuditRecord.auditHash prevTip bucket := by
  induction bucket generalizing prevTip with
  | nil => simp [ChainView.visits, Quiet]
  | cons record rest ih =>
      rw [Quiet, ← ih]
      cases link : record.prevAuditHash with
      | none => simp [ChainView.visits, chainView, link, Agrees]
      | some prevLink =>
          cases prevTip with
          | none => simp [ChainView.visits, chainView, link, Agrees]
          | some tip =>
              by_cases same : prevLink = tip
              · simp [ChainView.visits, chainView, link, Agrees, same]
              · simp [ChainView.visits, chainView, link, Agrees, same]

theorem mem_streamsOf {records : List AuditRecord} {stream : JsString} :
    stream ∈ streamsOf records ↔ ∃ record ∈ records, record.stream = stream := by
  rw [streamsOf, List.mem_eraseDups, List.mem_map]

theorem streamRecords_of_absent {records : List AuditRecord} {stream : JsString}
    (absent : stream ∉ streamsOf records) : streamRecords records stream = [] := by
  apply List.filter_eq_nil_iff.mpr
  intro record member same
  exact absent (mem_streamsOf.mpr ⟨record, member, of_decide_eq_true same⟩)

theorem computeChainIntegrity_breaks_iff (records : List AuditRecord) :
    (computeChainIntegrity records).breaks = [] ↔
      ∀ stream, (chronological (streamRecords records stream)).IsChain fun before record =>
        Agrees before.auditHash record.prevAuditHash := by
  have quiet (stream : JsString) : (streamIntegrity (streamRecords records stream)).breaks = [] ↔
      (chronological (streamRecords records stream)).IsChain fun before record =>
        Agrees before.auditHash record.prevAuditHash :=
    (visits_breaks_iff none _).trans (quiet_none_iff _ _ _)
  rw [computeChainIntegrity_eq, List.flatMap_eq_nil_iff]
  constructor
  · intro unbroken stream
    by_cases listed : stream ∈ streamsOf records
    · exact (quiet stream).mp (unbroken stream listed)
    · rw [streamRecords_of_absent listed]
      exact .nil
  · intro agreeing stream _
    exact (quiet stream).mpr (agreeing stream)

end Walk

section Judgement

variable {history page order : List AuditRecord} {first before record : AuditRecord}

theorem Honest.nodup (honest : Honest history) (stream : JsString) :
    (streamRecords history stream).Nodup :=
  (List.Nodup.of_map AuditRecord.auditHash honest.distinct).filter _

theorem Precedes.mem (precedes : Precedes history before record) : before ∈ history := by
  obtain ⟨index, place, _⟩ := precedes
  exact List.mem_of_mem_filter (List.mem_of_getElem? place)

/-- A record has one predecessor. -/
theorem Precedes.unique (honest : Honest history) (left : Precedes history first record)
    (right : Precedes history before record) : first = before := by
  obtain ⟨index, firstAt, recordAt⟩ := left
  obtain ⟨other, beforeAt, againAt⟩ := right
  have bound := (List.getElem?_eq_some_iff.mp recordAt).1
  have same : index + 1 = other + 1 :=
    (List.getElem?_inj bound (honest.nodup record.stream)).mp (recordAt.trans againAt.symm)
  rw [Nat.add_right_cancel same, beforeAt] at firstAt
  exact (Option.some.inj firstAt).symm

/-- In an honest history a link agrees with a record exactly when it has none or names its
predecessor. -/
theorem Honest.agrees_iff (honest : Honest history) (beforeIn : before ∈ history)
    (recordIn : record ∈ history) : Agrees before.auditHash record.prevAuditHash ↔
      record.prevAuditHash = none ∨ Precedes history before record := by
  cases link : record.prevAuditHash with
  | none => simp [Agrees]
  | some prevLink =>
      obtain ⟨named, precedes, hash⟩ := honest.linked record recordIn prevLink link
      constructor
      · intro agrees
        right
        obtain ⟨tip, hashed⟩ := Option.ne_none_iff_exists'.mp (honest.hashed before beforeIn)
        have same : prevLink = tip := agrees tip hashed prevLink rfl
        have alike : before.auditHash = named.auditHash := by rw [hashed, hash, same]
        rwa [List.inj_on_of_nodup_map honest.distinct beforeIn precedes.mem alike]
      · intro claimed expected tip stored linked
        obtain claimed | claimed := claimed
        · cases claimed
        · rw [claimed.unique honest precedes, hash] at tip
          rw [← Option.mem_some_iff.mp linked, ← Option.mem_some_iff.mp tip]

theorem Honest.breaks_iff (honest : Honest history) (drawn : page ⊆ history) :
    (computeChainIntegrity page).breaks = [] ↔ Gapless history page := by
  have inside (stream : JsString) : ∀ record ∈ chronological (streamRecords page stream),
      record ∈ history := by
    intro record member
    exact drawn (List.mem_of_mem_filter ((mem_sortBy sortKey).mp member))
  rw [computeChainIntegrity_breaks_iff]
  apply forall_congr'
  intro stream
  apply List.IsChain.iff_of_mem_imp
  intro before record beforeIn recordIn
  exact honest.agrees_iff (inside stream before beforeIn) (inside stream record recordIn)

theorem map_chronological (bucket : List AuditRecord) :
    (chronological bucket).map chainView = sortBy ChainView.key (bucket.map chainView) :=
  List.map_insertionSort _ _ chainView bucket fun _ _ _ _ => Iff.rfl

/-- The order of arrival does not show in an untied stream. -/
theorem streamIntegrity_perm (perm : order.Perm page) (untied : Untied page) (stream : JsString) :
    streamIntegrity (streamRecords order stream) =
      streamIntegrity (streamRecords page stream) := by
  unfold streamIntegrity
  rw [map_chronological, map_chronological]
  congr 1
  apply sortBy_congr ChainView.key ((perm.filter _).map chainView)
  intro firstView firstViewed secondView secondViewed tied
  obtain ⟨first, firstFound, rfl⟩ := List.mem_map.mp firstViewed
  obtain ⟨second, secondFound, rfl⟩ := List.mem_map.mp secondViewed
  obtain ⟨firstIn, firstStream⟩ := List.mem_filter.mp firstFound
  obtain ⟨secondIn, secondStream⟩ := List.mem_filter.mp secondFound
  have shared := (of_decide_eq_true firstStream).trans (of_decide_eq_true secondStream).symm
  obtain ⟨link, hash⟩ := untied first (perm.mem_iff.mp firstIn) second (perm.mem_iff.mp secondIn)
    shared tied
  simp only [chainView, ChainView.mk.injEq]
  exact ⟨tied, link, hash⟩

theorem computeChainIntegrity_perm (perm : order.Perm page) (untied : Untied page) :
    (computeChainIntegrity order).checked = (computeChainIntegrity page).checked ∧
      (computeChainIntegrity order).breaks.Perm (computeChainIntegrity page).breaks := by
  have streams : (streamsOf order).Perm (streamsOf page) :=
    eraseDups_perm (perm.map AuditRecord.stream)
  simp only [computeChainIntegrity_eq, streamIntegrity_perm perm untied]
  exact ⟨(streams.map _).sum_eq, streams.flatMap_right _⟩

/-- A page of an honest history shows no break exactly when it is gapless, and the order of the
records of an untied page does not show. -/
theorem chainIntegrity_judges (honest : Honest history) (drawn : page ⊆ history) :
    ((computeChainIntegrity page).breaks = [] ↔ Gapless history page) ∧
      ∀ shown order : List AuditRecord, order.Perm shown → Untied shown →
        (computeChainIntegrity order).checked = (computeChainIntegrity shown).checked ∧
          (computeChainIntegrity order).breaks.Perm (computeChainIntegrity shown).breaks :=
  ⟨honest.breaks_iff drawn, fun _ _ perm untied => computeChainIntegrity_perm perm untied⟩

end Judgement

section Session

def chainedRecord (hash instant audit : JsString) (prev : Option JsString) : AuditRecord :=
  { linkedRecord hash instant none with auditHash := some audit, prevAuditHash := prev }

/-- The first two records share the millisecond and the intent hash. -/
def openingRecord : AuditRecord := chainedRecord "i" "2026-01-01T00:00:00.000Z" "a" none

def repeatRecord : AuditRecord := chainedRecord "i" "2026-01-01T00:00:00.000Z" "b" (some "a")

def closingRecord : AuditRecord := chainedRecord "j" "2026-01-01T00:00:01.000Z" "c" (some "b")

def sessionHistory : List AuditRecord := [openingRecord, repeatRecord, closingRecord]

theorem sessionHistory_honest : Honest sessionHistory where
  hashed := by
    simp [sessionHistory, openingRecord, repeatRecord, closingRecord, chainedRecord]
  distinct := by decide +kernel
  linked := by
    intro record member link linked
    simp only [sessionHistory, List.mem_cons, List.not_mem_nil, or_false] at member
    obtain rfl | rfl | rfl := member
    · cases linked
    · exact ⟨openingRecord, ⟨0, rfl, rfl⟩, linked⟩
    · exact ⟨repeatRecord, ⟨1, rfl, rfl⟩, linked⟩
  clock stream := by
    apply List.Pairwise.filter
    rw [← List.pairwise_map]
    decide +kernel

theorem chainIntegrity_judges_session :
    ((computeChainIntegrity [closingRecord, repeatRecord]).breaks = [] ↔
        Gapless sessionHistory [closingRecord, repeatRecord]) ∧
      ∀ shown order : List AuditRecord, order.Perm shown → Untied shown →
        (computeChainIntegrity order).checked = (computeChainIntegrity shown).checked ∧
          (computeChainIntegrity order).breaks.Perm (computeChainIntegrity shown).breaks :=
  chainIntegrity_judges sessionHistory_honest (by simp [sessionHistory])

/-- A page without the middle record shows a break of an intact session, and the two orders of a tie
differ. -/
theorem chainIntegrity_misjudges :
    Honest sessionHistory ∧
      (computeChainIntegrity [openingRecord, closingRecord]).breaks = [⟨"j", "b", "a"⟩] ∧
      (computeChainIntegrity [repeatRecord, openingRecord, closingRecord]).breaks =
        [⟨"j", "b", "a"⟩] ∧
      (computeChainIntegrity [openingRecord, repeatRecord, closingRecord]) = ⟨2, []⟩ :=
  ⟨sessionHistory_honest, by decide +kernel, by decide +kernel, by decide +kernel⟩

end Session

end Adjudicate.AdminSdk
