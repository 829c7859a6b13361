/-
This file shows that interleaved calls over one ledger execute every key at most once.
-/

import Adjudicate.Shell.Authorization

namespace Adjudicate.Shell

open Js Canonical Adjudicate.Core Adjudicate.Kernel Adjudicate.Audit Adjudicate.Effect

/-- The ledger maps the hash of an executed intent to its entry, and no entry expires. -/
abbrev LedgerState := JsString → Option LedgerHit

def holdsKey (ledger : LedgerState) : Set JsString := {key | ledger key ≠ none}

/-- A write stores the entry under its hash with the time of the write. -/
def Written (before after : LedgerState) (entry : LedgerRecordInput) : Prop :=
  before entry.intentHash = none ∧ ∃ instant, after = Function.update before entry.intentHash
    (some { resourceVersion := entry.resourceVersion, «at» := instant,
            sessionId := entry.sessionId, kind := entry.kind })

def Erased (before after : LedgerState) (intentHash : JsString) : Prop :=
  after = Function.update before intentHash none

/-- The first writer wins, and a failed operation may or may not have taken effect. -/
def ledgerResponds (before : LedgerState) (event : ShellEvent) (after : LedgerState) : Prop :=
  match event with
  | ⟨.checkLedger intentHash, .ok found⟩ => found = before intentHash ∧ after = before
  | ⟨.recordExecution entry, .ok .acquired⟩ => Written before after entry
  | ⟨.recordExecution entry, .ok .exists⟩ => before entry.intentHash ≠ none ∧ after = before
  | ⟨.recordExecution entry, .error _⟩ => after = before ∨ Written before after entry
  | ⟨.release intentHash, .ok _⟩ => Erased before after intentHash
  | ⟨.release intentHash, .error _⟩ => after = before ∨ Erased before after intentHash
  | _ => after = before

theorem written_holdsKey {before after : LedgerState} {entry : LedgerRecordInput}
    (written : Written before after entry) :
    entry.intentHash ∉ holdsKey before ∧ entry.intentHash ∈ holdsKey after ∧
      ∀ key ∈ holdsKey before, key ∈ holdsKey after := by
  obtain ⟨free, instant, rfl⟩ := written
  refine ⟨fun held => held free, ?_, ?_⟩
  · change Function.update before _ _ _ ≠ none
    rw [Function.update_self]
    nofun
  · intro key held
    change Function.update before _ _ key ≠ none
    by_cases same : key = entry.intentHash
    · rw [same, Function.update_self]
      nofun
    · rwa [Function.update_of_ne same]

theorem erased_holdsKey {before after : LedgerState} {intentHash key : JsString}
    (erased : Erased before after intentHash) (held : key ∈ holdsKey before)
    (other : intentHash ≠ key) : key ∈ holdsKey after := by
  rw [erased]
  change Function.update before _ _ key ≠ none
  rwa [Function.update_of_ne (Ne.symm other)]

/-- The ledger is a registry whose first writer wins. -/
theorem ledger_firstWriterWins : ledgerKeys.FirstWriterWins holdsKey ledgerResponds where
  fresh := by
    intro before after event key responds claimed
    obtain ⟨op, outcome⟩ := event
    cases op with
    | recordExecution entry =>
        cases outcome with
        | error raised => cases claimed
        | ok response =>
            cases response with
            | acquired =>
                cases claimed
                obtain ⟨free, taken, -⟩ := written_holdsKey responds
                exact ⟨free, taken⟩
            | «exists» => cases claimed
    | _ => cases claimed
  keeps := by
    intro before after event key responds held notReleased
    have unchanged (same : after = before) : key ∈ holdsKey after := same ▸ held
    obtain ⟨op, outcome⟩ := event
    cases op with
    | checkLedger intentHash =>
        cases outcome with
        | error raised => exact unchanged responds
        | ok found => exact unchanged responds.2
    | recordExecution entry =>
        cases outcome with
        | error raised =>
            obtain same | written := responds
            · exact unchanged same
            · exact (written_holdsKey written).2.2 key held
        | ok response =>
            cases response with
            | acquired => exact (written_holdsKey responds).2.2 key held
            | «exists» => exact unchanged responds.2
    | release intentHash =>
        have other : intentHash ≠ key := fun same => notReleased (congrArg some same)
        cases outcome with
        | error raised =>
            obtain same | erased := responds
            · exact unchanged same
            · exact erased_holdsKey erased held other
        | ok response => exact erased_holdsKey responds held other
    | _ => exact unchanged responds

theorem holds_of_acquiredThen {key : JsString} {trace after : List ShellEvent}
    (acquired : AcquiredThen key trace after) (quiet : Quiet after) :
    ledgerKeys.Holds trace key := by
  obtain ⟨before, entry, rfl, rfl, -⟩ := acquired
  rw [List.append_cons, ledgerKeys.holds_append_quiet, ledgerKeys.holds_append]
  · exact .inl rfl
  · intro event inside
    obtain ⟨claims, releases⟩ := quiet event inside
    rw [claims, releases]
    exact ⟨nofun, nofun⟩

section

variable {S : Type} (host : Host) (call : Call S)

theorem adjudicateAndAudit_careful : ledgerKeys.Careful (adjudicateAndAudit host call) := by
  intro trace outcome run before event after key split released
  obtain quiet | ⟨held, later, ⟨front, entry, rfl, rfl, frontQuiet⟩, laterQuiet, -⟩ |
    ⟨held, middle, response, later, ⟨front, entry, rfl, rfl, frontQuiet⟩, middleQuiet, laterQuiet, -⟩ :=
    adjudicateAndAudit_keys host call run
  · have silent := (quiet event (by simp [split])).2
    rw [silent] at released
    cases released
  · have inside : event ∈ front ++ ⟨.recordExecution entry, .ok .acquired⟩ :: later := by
      simp [split]
    obtain early | late := List.mem_append.mp inside
    · rw [(frontQuiet event early).2] at released
      cases released
    · obtain rfl | late := List.mem_cons.mp late
      · cases released
      · rw [(laterQuiet event late).2] at released
        cases released
  · have whole : before ++ event :: after =
        (front ++ ⟨.recordExecution entry, .ok .acquired⟩ :: middle) ++
          ⟨.release entry.intentHash, response⟩ :: later := by
      rw [← split]
      simp
    have unique := @split_unique _ (fun event => ledgerKeys.releases event ≠ none) _ _ _ _ _ _ whole
      (by rw [released]; nofun) ?_ ?_
    · obtain ⟨rfl, rfl, rfl⟩ := unique
      cases released
      exact holds_of_acquiredThen ⟨front, entry, rfl, rfl, frontQuiet⟩ middleQuiet
    · intro other inside
      rw [not_not]
      obtain early | late := List.mem_append.mp inside
      · exact (frontQuiet other early).2
      · obtain rfl | late := List.mem_cons.mp late
        · rfl
        · exact (middleQuiet other late).2
    · intro other inside
      rw [not_not]
      exact (laterQuiet other inside).2

end

/-- The call settles on running an envelope with the given hash. -/
def Targets {S : Type} (host : Host) (call : Call S) (key : JsString) : Prop :=
  ∃ decision rewritten, settled host call = .ok (decision, rewritten) ∧
    executing decision rewritten = true ∧ (executedEnvelope call.envelope rewritten).intentHash = key

/-- A call over the hash executes it or returns the replay refusal, when it returns. -/
theorem targets_ok {S : Type} {host : Host} {call : Call S} {key : JsString}
    {trace : List ShellEvent} {result : AdjudicateAndAuditResult}
    (targets : Targets host call key) (tenantOpen : TenantOpen call trace)
    (run : Runs (adjudicateAndAudit host call) trace (.ok result)) :
    (result.Executing ∧ result.record.intentHash = key) ∨
      ∃ intentHash hit, result.decision = replaySuppressedRefusal intentHash hit := by
  obtain ⟨stopped, -⟩ | ⟨-, suppressed⟩ | ⟨rewritten, settles, -, intentHash, -⟩ :=
    adjudicateAndAudit_ok host call run
  · exact (stopped tenantOpen).elim
  · exact .inr suppressed
  obtain ⟨decision, replacement, same, runs, hash⟩ := targets
  rw [settles] at same
  cases same
  refine .inl ⟨?_, intentHash.trans hash⟩
  rw [executing_iff_kind host call run]
  cases decision : result.decision with
  | execute bases => exact .inl rfl
  | rewrite _ _ _ => exact .inr rfl
  | _ =>
      rw [decision] at runs
      cases runs

/-- An executing result leaves its key with the call. -/
theorem executing_holds {S : Type} {host : Host} {call : Call S} {trace : List ShellEvent}
    {result : AdjudicateAndAuditResult} (ledger : call.deps.ledger.isSome)
    (run : Runs (adjudicateAndAudit host call) trace (.ok result)) (executes : result.Executing) :
    ledgerKeys.Holds trace result.record.intentHash := by
  have kinds := (executing_iff_kind host call run).mp executes
  obtain ⟨-, _, _, suppressed⟩ | ⟨-, _, _, suppressed⟩ |
    ⟨rewritten, settles, -, intentHash, -, claims⟩ := adjudicateAndAudit_ok host call run
  · rw [suppressed] at kinds
    obtain ⟨⟨⟩⟩ | ⟨⟨⟩⟩ := kinds
  · rw [suppressed] at kinds
    obtain ⟨⟨⟩⟩ | ⟨⟨⟩⟩ := kinds
  have claimed := claims (executing_of_settled host call kinds settles)
  obtain ⟨port, supplied⟩ := Option.isSome_iff_exists.mp ledger
  rw [ClaimsOnly, supplied] at claimed
  obtain ⟨after, acquired, quiet⟩ := claimed
  rw [intentHash]
  exact holds_of_acquiredThen acquired quiet

instance : Nonempty Thrown := ⟨.other []⟩

section

variable {I : Type} [DecidableEq I] {S : I → Type} (host : Host) (call : (i : I) → Call (S i))

/-- At most one call returns an executing result for the hash, and every call over the hash whose
tenant is not stopped executes it, returns the replay refusal, or throws. -/
structure ExecutesOnce
    (pool : Pool I Op Op.Response Thrown AdjudicateAndAuditResult LedgerState) (key : JsString) :
    Prop where
  single : ∀ i j first second, pool.current i = .pure first → pool.current j = .pure second →
    first.Executing → first.record.intentHash = key →
    second.Executing → second.record.intentHash = key → i = j
  others : ∀ i outcome, pool.current i = .ofExcept outcome → Targets host (call i) key →
    TenantOpen (call i) (pool.history i) →
    (∃ raised, outcome = .error raised) ∨ ∃ result, outcome = .ok result ∧
      ((result.Executing ∧ result.record.intentHash = key) ∨
        ∃ intentHash hit, result.decision = replaySuppressedRefusal intentHash hit)

end

/-- Two copies of one call start over an empty ledger. -/
def rivalPool : Pool Bool Op Op.Response Thrown AdjudicateAndAuditResult LedgerState where
  state := fun _ => none
  current := fun _ => adjudicateAndAudit sampleHost sampleCall
  history := fun _ => []

end Adjudicate.Shell
