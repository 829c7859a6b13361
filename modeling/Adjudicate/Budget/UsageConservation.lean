/-
This file shows that the token-usage store conserves what it records.
-/

import Adjudicate.Budget.UsageAccounts
import Adjudicate.Effect.Machine

namespace Adjudicate.Budget

open Js Adjudicate.Effect

namespace UsageChange

def recordedSample : UsageChange → Option TokenUsageSample
  | .recorded sample => some sample
  | _ => none

def emittedEvent : UsageChange → Option TokenExhaustionEvent
  | .emitted event => some event
  | _ => none

def sampleOf (sessionId : JsString) : UsageChange → Option TokenUsageSample
  | .recorded sample => if sample.sessionId = sessionId then some sample else none
  | _ => none

def sessionReach (sessionId : JsString) : UsageChange → Option Reach
  | .emitted ⟨reach, _, .session other _⟩ => if other = sessionId then some reach else none
  | _ => none

def tenantReach (tenantId : JsString) : UsageChange → Option Reach
  | .emitted ⟨reach, _, .tenant other⟩ => if other = tenantId then some reach else none
  | _ => none

def evicts (sessionId : JsString) : UsageChange → Bool
  | .evicted other => decide (other = sessionId)
  | _ => false

end UsageChange

/-- These are the changes since the last eviction of a session. -/
def life (sessionId : JsString) (log : List UsageChange) : List UsageChange :=
  log.foldl (fun life change => if change.evicts sessionId then [] else life ++ [change]) []

namespace UsageState

variable (state : UsageState)

def lifeSamples (sessionId : JsString) : List TokenUsageSample :=
  (life sessionId state.log).filterMap (·.sampleOf sessionId)

def lifeReaches (sessionId : JsString) : List Reach :=
  (life sessionId state.log).filterMap (·.sessionReach sessionId)

def tenantReaches (tenantId : JsString) : List Reach :=
  state.log.filterMap (·.tenantReach tenantId)

end UsageState

/-- A session has the cap of the first tenant among its samples. -/
def sessionCap (opts : TokenUsageOptions) (own : List TokenUsageSample) : Option JsNumber :=
  opts.sessionCapFor (own.findSome? (·.tenantId))

/-- Every session that the state has a row of accounts for its samples since it was last evicted. -/
structure SessionsKept (opts : TokenUsageOptions) (state : UsageState) : Prop where
  accounts (sessionId : JsString) : Accounts (sessionCap opts) (state.lifeSamples sessionId)
    ((state.sessions.get sessionId).map (·.counters)) (state.lifeReaches sessionId)
  tenant (sessionId : JsString) (row : SessionRow) : state.sessions.get sessionId = some row →
    row.tenantId = (state.lifeSamples sessionId).findSome? (·.tenantId)

def tenantSamples (tenantId : JsString) (samples : List TokenUsageSample) : List TokenUsageSample :=
  samples.filter (·.tenantId = some tenantId)

def sessionSamples (sessionId : JsString) (samples : List TokenUsageSample) :
    List TokenUsageSample :=
  samples.filter (·.sessionId = sessionId)

def TenantsKept (opts : TokenUsageOptions) (samples : List TokenUsageSample) (state : UsageState) :
    Prop :=
  ∀ tenantId, Accounts (fun _ => opts.tenantCapFor tenantId) (tenantSamples tenantId samples)
    ((state.tenants.get tenantId).map (·.counters)) (state.tenantReaches tenantId)

/-- Every cap is a positive number. -/
def TokenUsageOptions.CapsPositive (opts : TokenUsageOptions) : Prop :=
  (∀ tenantId cap, opts.sessionCapFor tenantId = some cap → (JsNumber.ofNat 0).below cap = true) ∧
    ∀ tenantId cap, opts.tenantCapFor tenantId = some cap → (JsNumber.ofNat 0).below cap = true

/-- A sample that first gives a session its tenant finds the session below its new cap. -/
def Attributes (opts : TokenUsageOptions) (state : UsageState) (sample : TokenUsageSample) : Prop :=
  ∀ row tenantId cap, state.sessions.get sample.sessionId = some row → row.tenantId = none →
    row.exhausted = false → sample.tenantId = some tenantId →
    opts.sessionCapFor (some tenantId) = some cap → row.consumed.below cap = true

section Log

variable {sessionId : JsString} {log more : List UsageChange}

theorem life_snoc (sessionId : JsString) (log : List UsageChange) (change : UsageChange) :
    life sessionId (log ++ [change]) =
      if change.evicts sessionId then [] else life sessionId log ++ [change] := by
  simp [life]

theorem life_recorded (sessionId : JsString) (log : List UsageChange) (sample : TokenUsageSample) :
    life sessionId (log ++ [.recorded sample]) = life sessionId log ++ [.recorded sample] :=
  life_snoc _ _ _

theorem life_append (stays : ∀ change ∈ more, change.evicts sessionId = false) :
    life sessionId (log ++ more) = life sessionId log ++ more := by
  induction more using List.reverseRecOn with
  | nil => rw [List.append_nil, List.append_nil]
  | append_singleton more change ih =>
      have last : change.evicts sessionId = false :=
        stays change (List.mem_append_right _ (List.mem_singleton_self _))
      have earlier := ih fun other member => stays other (List.mem_append_left _ member)
      rw [← List.append_assoc, life_snoc, if_neg (by rw [last]; exact Bool.false_ne_true), earlier,
        List.append_assoc]

/-- A session that was never evicted lives from the start. -/
theorem life_of_unevicted (unevicted : .evicted sessionId ∉ log) : life sessionId log = log := by
  refine @life_append sessionId [] log ?_
  intro change member
  cases change with
  | recorded _ => rfl
  | emitted _ => rfl
  | evicted other =>
      refine decide_eq_false ?_
      rintro rfl
      exact unevicted member

theorem life_sublist (sessionId : JsString) (log : List UsageChange) :
    (life sessionId log).Sublist log := by
  induction log using List.reverseRecOn with
  | nil => exact List.Sublist.refl _
  | append_singleton log last ih =>
      rw [life_snoc]
      split
      · exact List.nil_sublist _
      · exact ih.append (List.Sublist.refl _)

end Log

section Steps

variable {opts : TokenUsageOptions} {state : UsageState} {sample : TokenUsageSample}
  {reach : Option Reach} {scope : UsageScope} {samples : List TokenUsageSample}

@[simp] theorem emit_sessions : (state.emit opts reach scope).sessions = state.sessions := by
  cases reach <;> rfl

@[simp] theorem emit_tenants : (state.emit opts reach scope).tenants = state.tenants := by
  cases reach <;> rfl

theorem emit_log : (state.emit opts reach scope).log =
    state.log ++ reach.toList.map fun reach => .emitted ⟨reach, state.sequence, scope⟩ := by
  cases reach with
  | none => exact (List.append_nil _).symm
  | some reach => rfl

theorem life_emit (sessionId : JsString) : life sessionId (state.emit opts reach scope).log =
    life sessionId state.log ++
      reach.toList.map fun reach => .emitted ⟨reach, state.sequence, scope⟩ := by
  rw [emit_log]
  apply life_append
  intro change member
  obtain ⟨_, _, rfl⟩ := List.mem_map.mp member
  rfl

@[simp] theorem lifeSamples_emit (sessionId : JsString) :
    (state.emit opts reach scope).lifeSamples sessionId = state.lifeSamples sessionId := by
  rw [UsageState.lifeSamples, life_emit, List.filterMap_append, UsageState.lifeSamples]
  cases reach <;> simp [UsageChange.sampleOf]

theorem lifeReaches_emit_session (sessionId other : JsString) (tenantId : Option JsString) :
    (state.emit opts reach (.session other tenantId)).lifeReaches sessionId =
      state.lifeReaches sessionId ++ if other = sessionId then reach.toList else [] := by
  rw [UsageState.lifeReaches, life_emit, List.filterMap_append, UsageState.lifeReaches]
  cases reach with
  | none => simp
  | some reach =>
      by_cases same : other = sessionId
      · simp [UsageChange.sessionReach, same]
      · simp [UsageChange.sessionReach, same]

theorem lifeReaches_emit_tenant (sessionId tenantId : JsString) :
    (state.emit opts reach (.tenant tenantId)).lifeReaches sessionId =
      state.lifeReaches sessionId := by
  rw [UsageState.lifeReaches, life_emit, List.filterMap_append, UsageState.lifeReaches]
  cases reach <;> simp [UsageChange.sessionReach]

theorem tenantReaches_emit_session (sessionId other : JsString) (tenantId : Option JsString) :
    (state.emit opts reach (.session other tenantId)).tenantReaches sessionId =
      state.tenantReaches sessionId := by
  rw [UsageState.tenantReaches, emit_log, List.filterMap_append, UsageState.tenantReaches]
  cases reach <;> simp [UsageChange.tenantReach]

theorem tenantReaches_emit_tenant (tenantId other : JsString) :
    (state.emit opts reach (.tenant other)).tenantReaches tenantId =
      state.tenantReaches tenantId ++ if other = tenantId then reach.toList else [] := by
  rw [UsageState.tenantReaches, emit_log, List.filterMap_append, UsageState.tenantReaches]
  cases reach with
  | none => simp
  | some reach =>
      by_cases same : other = tenantId
      · simp [UsageChange.tenantReach, same]
      · simp [UsageChange.tenantReach, same]

theorem lifeSamples_chargeSession (sessionId : JsString) :
    (state.chargeSession opts sample).lifeSamples sessionId =
      state.lifeSamples sessionId ++ if sample.sessionId = sessionId then [sample] else [] := by
  rw [UsageState.chargeSession, lifeSamples_emit, UsageState.lifeSamples, UsageState.lifeSamples,
    life_recorded, List.filterMap_append]
  by_cases same : sample.sessionId = sessionId
  · simp [UsageChange.sampleOf, same]
  · simp [UsageChange.sampleOf, same]

theorem lifeReaches_chargeSession (sessionId : JsString) :
    (state.chargeSession opts sample).lifeReaches sessionId = state.lifeReaches sessionId ++
      if sample.sessionId = sessionId then ((state.sessionRow sample).reach opts sample).toList
      else [] := by
  rw [UsageState.chargeSession, lifeReaches_emit_session]
  congr 1
  rw [UsageState.lifeReaches, life_recorded, List.filterMap_append]
  exact List.append_nil _

theorem tenantReaches_chargeSession (tenantId : JsString) :
    (state.chargeSession opts sample).tenantReaches tenantId = state.tenantReaches tenantId := by
  rw [UsageState.chargeSession, tenantReaches_emit_session, UsageState.tenantReaches,
    List.filterMap_append]
  exact List.append_nil _

theorem lifeSamples_evict (sessionId other : JsString) :
    (state.evict other).lifeSamples sessionId =
      if other = sessionId then [] else state.lifeSamples sessionId := by
  rw [UsageState.lifeSamples, UsageState.evict, life_snoc, UsageChange.evicts]
  by_cases same : other = sessionId
  · simp [same]
  · simp [same, UsageChange.sampleOf, UsageState.lifeSamples]

theorem lifeReaches_evict (sessionId other : JsString) :
    (state.evict other).lifeReaches sessionId =
      if other = sessionId then [] else state.lifeReaches sessionId := by
  rw [UsageState.lifeReaches, UsageState.evict, life_snoc, UsageChange.evicts]
  by_cases same : other = sessionId
  · simp [same]
  · simp [same, UsageChange.sessionReach, UsageState.lifeReaches]

theorem tenantReaches_evict (tenantId other : JsString) :
    (state.evict other).tenantReaches tenantId = state.tenantReaches tenantId := by
  rw [UsageState.tenantReaches, UsageState.evict, List.filterMap_append]
  exact List.append_nil _

/-- What every eviction keeps, the rounds of evictions keep. -/
theorem evictRounds_keeps {kept : UsageState → Prop}
    (keep : ∀ state sessionId, kept state → kept (state.evict sessionId)) (bound : JsNumber)
    (rounds : Nat) (state : UsageState) (before : kept state) :
    kept (UsageState.evictRounds bound rounds state) := by
  induction rounds generalizing state with
  | zero => exact before
  | succ rounds ih =>
      rw [UsageState.evictRounds]
      split
      · cases state.sessions.oldest with
        | none => exact before
        | some oldest => exact ih _ (keep state oldest before)
      · exact before

theorem evictSessions_of_respected (respected : opts.sessionBound.passed state.sessions.size = false) :
    state.evictSessions opts = state := by
  rw [UsageState.evictSessions]
  cases state.sessions.size with
  | zero => rfl
  | succ rounds => rw [UsageState.evictRounds, if_neg (by rw [respected]; exact Bool.false_ne_true)]

theorem sessionsKept_evict (kept : SessionsKept opts state) (other : JsString) :
    SessionsKept opts (state.evict other) := by
  constructor
  · intro sessionId
    rw [lifeSamples_evict, lifeReaches_evict]
    by_cases same : other = sessionId
    · subst same
      rw [if_pos rfl, if_pos rfl, UsageState.evict, InsertionMap.get_delete_self]
      exact ⟨rfl, rfl⟩
    · rw [if_neg same, if_neg same, UsageState.evict, InsertionMap.get_delete_of_ne (Ne.symm same)]
      exact kept.accounts sessionId
  · intro sessionId row found
    rw [lifeSamples_evict]
    by_cases same : other = sessionId
    · subst same
      rw [UsageState.evict, InsertionMap.get_delete_self] at found
      cases found
    · rw [UsageState.evict, InsertionMap.get_delete_of_ne (Ne.symm same)] at found
      rw [if_neg same]
      exact kept.tenant sessionId row found

theorem tenantsKept_evict (kept : TenantsKept opts samples state) (other : JsString) :
    TenantsKept opts samples (state.evict other) := by
  intro tenantId
  rw [tenantReaches_evict]
  exact kept tenantId

/-- A session without a row has taken no sample in its life. -/
theorem SessionsKept.samples_nil (kept : SessionsKept opts state) {sessionId : JsString}
    (absent : state.sessions.get sessionId = none) : state.lifeSamples sessionId = [] := by
  have account := (kept.accounts sessionId).row_eq
  rw [absent, Option.map_none] at account
  split at account
  · assumption
  · cases account

theorem SessionsKept.attributed (kept : SessionsKept opts state) (sample : TokenUsageSample) :
    (state.sessionRow sample).attributed sample =
      (state.lifeSamples sample.sessionId ++ [sample]).findSome? (·.tenantId) := by
  rw [List.findSome?_append, List.findSome?_singleton, UsageState.sessionRow, SessionRow.attributed]
  cases found : state.sessions.get sample.sessionId with
  | none =>
      rw [kept.samples_nil found]
      exact Option.or_self
  | some row =>
      rw [Option.getD_some, kept.tenant _ _ found]

theorem sessionRow_counters (state : UsageState) (sample : TokenUsageSample) :
    ((state.sessions.get sample.sessionId).map (·.counters)).getD .zero =
      (state.sessionRow sample).counters := by
  rw [UsageState.sessionRow]
  cases state.sessions.get sample.sessionId <;> rfl

theorem tenantRow_counters (state : UsageState) (sample : TokenUsageSample) (tenantId : JsString) :
    ((state.tenants.get tenantId).map (·.counters)).getD .zero =
      (state.tenantRow sample tenantId).counters := by
  rw [UsageState.tenantRow]
  cases state.tenants.get tenantId <;> rfl

/-- An unexhausted session is below the cap that it has with the new sample. -/
theorem SessionsKept.below (kept : SessionsKept opts state) (positive : opts.CapsPositive)
    (attributes : Attributes opts state sample)
    (safe : tokens (state.lifeSamples sample.sessionId) < 2 ^ 53)
    (unreached : firstReach (sessionCap opts) (state.lifeSamples sample.sessionId) = none)
    (cap : JsNumber)
    (capped : sessionCap opts (state.lifeSamples sample.sessionId ++ [sample]) = some cap) :
    (JsNumber.ofNat (tokens (state.lifeSamples sample.sessionId))).below cap = true := by
  have zero := positive.1 _ _ capped
  rw [sessionCap, List.findSome?_append, List.findSome?_singleton] at capped
  cases first : (state.lifeSamples sample.sessionId).findSome? (·.tenantId) with
  | some tenantId =>
      rw [first, Option.some_or, ← first] at capped
      exact below_of_unreached safe unreached capped zero
  | none =>
      rw [first, Option.none_or] at capped
      cases gained : sample.tenantId with
      | none =>
          rw [gained, ← first] at capped
          exact below_of_unreached safe unreached capped zero
      | some tenantId =>
          rw [gained] at capped
          cases found : state.sessions.get sample.sessionId with
          | none =>
              rw [kept.samples_nil found]
              exact zero
          | some row =>
              have start := (kept.accounts sample.sessionId).start
              rw [found, Option.map_some, Option.getD_some, counted, unreached,
                SessionRow.counters, Counters.mk.injEq] at start
              obtain ⟨consumed, -, -, unexhausted⟩ := start
              have unattributed : row.tenantId = none := (kept.tenant _ _ found).trans first
              rw [← consumed]
              exact attributes row tenantId cap found unattributed unexhausted gained capped

theorem sessionsKept_chargeSession (kept : SessionsKept opts state) (positive : opts.CapsPositive)
    (attributes : Attributes opts state sample)
    (fits : ∀ taken ∈ state.lifeSamples sample.sessionId ++ [sample], Fits taken)
    (safe : tokens (state.lifeSamples sample.sessionId ++ [sample]) < 2 ^ 53) :
    SessionsKept opts (state.chargeSession opts sample) := by
  have rows (sessionId : JsString) : (state.chargeSession opts sample).sessions.get sessionId =
      (state.sessions.touch sample.sessionId ((state.sessionRow sample).charged opts sample)).get
        sessionId := by
    rw [UsageState.chargeSession, emit_sessions]
  have attributed := kept.attributed sample
  constructor
  · intro sessionId
    rw [rows, lifeSamples_chargeSession, lifeReaches_chargeSession]
    by_cases same : sample.sessionId = sessionId
    · subst same
      rw [if_pos rfl, if_pos rfl, InsertionMap.get_touch_self, Option.map_some]
      have earlier : tokens (state.lifeSamples sample.sessionId) < 2 ^ 53 :=
        (summed_sublist _ (List.sublist_append_left _ _)).trans_lt safe
      refine (kept.accounts sample.sessionId).charge fits safe ?_ (sessionRow_counters state sample) ?_
      · exact kept.below positive attributes earlier
      · rw [sessionCap, ← attributed]
        rfl
    · rw [if_neg same, if_neg same, List.append_nil, List.append_nil,
        InsertionMap.get_touch_of_ne (Ne.symm same)]
      exact kept.accounts sessionId
  · intro sessionId row found
    rw [rows] at found
    rw [lifeSamples_chargeSession]
    by_cases same : sample.sessionId = sessionId
    · subst same
      rw [InsertionMap.get_touch_self] at found
      obtain rfl := Option.some.inj found
      rw [if_pos rfl]
      exact attributed
    · rw [InsertionMap.get_touch_of_ne (Ne.symm same)] at found
      rw [if_neg same, List.append_nil]
      exact kept.tenant sessionId row found

theorem tenantsKept_chargeSession (kept : TenantsKept opts samples state) :
    TenantsKept opts samples (state.chargeSession opts sample) := by
  intro tenantId
  rw [tenantReaches_chargeSession, UsageState.chargeSession, emit_tenants]
  exact kept tenantId

theorem sessionsKept_chargeTenant (kept : SessionsKept opts state) (tenantId : JsString) :
    SessionsKept opts (state.chargeTenant opts sample tenantId) := by
  constructor
  · intro sessionId
    rw [UsageState.chargeTenant, lifeSamples_emit, lifeReaches_emit_tenant, emit_sessions]
    exact kept.accounts sessionId
  · intro sessionId row found
    rw [UsageState.chargeTenant, emit_sessions] at found
    rw [UsageState.chargeTenant, lifeSamples_emit]
    exact kept.tenant sessionId row found

theorem tenantSamples_snoc (tenantId : JsString) (samples : List TokenUsageSample)
    (sample : TokenUsageSample) : tenantSamples tenantId (samples ++ [sample]) =
      tenantSamples tenantId samples ++ if sample.tenantId = some tenantId then [sample] else [] := by
  rw [tenantSamples, List.filter_append, tenantSamples]
  by_cases same : sample.tenantId = some tenantId
  · simp [same]
  · simp [same]

theorem tenantsKept_chargeTenant (kept : TenantsKept opts samples state)
    (positive : opts.CapsPositive) (fits : ∀ taken ∈ samples ++ [sample], Fits taken)
    (safe : tokens (samples ++ [sample]) < 2 ^ 53) {tenantId : JsString}
    (carried : sample.tenantId = some tenantId) :
    TenantsKept opts (samples ++ [sample]) (state.chargeTenant opts sample tenantId) := by
  intro other
  have rows : (state.chargeTenant opts sample tenantId).tenants.get other =
      (state.tenants.set tenantId
        ((state.tenantRow sample tenantId).charged opts tenantId sample)).get other := by
    rw [UsageState.chargeTenant, emit_tenants]
  rw [rows, UsageState.chargeTenant, tenantReaches_emit_tenant, tenantSamples_snoc]
  by_cases same : tenantId = other
  · subst same
    rw [if_pos carried, if_pos rfl, InsertionMap.get_set_self, Option.map_some]
    have own : tenantSamples tenantId samples ++ [sample] =
        tenantSamples tenantId (samples ++ [sample]) := by
      rw [tenantSamples_snoc, if_pos carried]
    have sublist : (tenantSamples tenantId samples ++ [sample]).Sublist (samples ++ [sample]) := by
      rw [own]
      exact List.filter_sublist
    have bounded := (summed_sublist normalisedTotal sublist).trans_lt safe
    refine (kept tenantId).charge (fun taken member => fits taken (sublist.subset member)) bounded
      ?_ (tenantRow_counters state sample tenantId) rfl
    intro unreached cap capped
    exact below_of_unreached
      ((summed_sublist normalisedTotal (List.sublist_append_left _ _)).trans_lt bounded)
      unreached capped (positive.2 _ _ capped)
  · have elsewhere : sample.tenantId ≠ some other := by
      rw [carried]
      exact fun equal => same (Option.some.inj equal)
    rw [if_neg elsewhere, if_neg same, List.append_nil, List.append_nil,
      InsertionMap.get_set_of_ne (Ne.symm same)]
    exact kept other

theorem trimEvents_snoc (bound : JsNumber) (events : List TokenExhaustionEvent)
    (event : TokenExhaustionEvent) :
    trimEvents bound (trimEvents bound events ++ [event]) = trimEvents bound (events ++ [event]) := by
  induction events with
  | nil => rfl
  | cons first rest ih =>
      rw [trimEvents]
      split
      · next passes =>
          have longer : bound.passed (first :: (rest ++ [event])).length = true := by
            by_contra other
            rw [Bool.not_eq_true] at other
            have shorter : (first :: rest).length ≤ (first :: (rest ++ [event])).length := by simp
            rw [JsNumber.passed_mono shorter other] at passes
            cases passes
          rw [ih, List.cons_append, trimEvents, if_pos longer]
      · rfl

/-- The ring holds the newest of the emitted events. -/
def EventsKept (opts : TokenUsageOptions) (state : UsageState) : Prop :=
  state.events = trimEvents opts.eventBound (state.log.filterMap (·.emittedEvent))

theorem eventsKept_emit (kept : EventsKept opts state) : EventsKept opts (state.emit opts reach scope) := by
  cases reach with
  | none => exact kept
  | some reach =>
      unfold EventsKept at kept ⊢
      rw [UsageState.emit, UsageState.appendEvent, List.filterMap_append]
      dsimp only
      rw [kept, trimEvents_snoc]
      rfl

/-- The log holds the samples in their order, and its events are those of the ring. -/
structure LogKept (opts : TokenUsageOptions) (samples : List TokenUsageSample)
    (state : UsageState) : Prop where
  recorded : state.log.filterMap (·.recordedSample) = samples
  events : EventsKept opts state

theorem LogKept.emit (kept : LogKept opts samples state) :
    LogKept opts samples (state.emit opts reach scope) := by
  refine ⟨?_, eventsKept_emit kept.events⟩
  rw [emit_log, List.filterMap_append, kept.recorded]
  cases reach <;> simp [UsageChange.recordedSample]

theorem LogKept.chargeSession (kept : LogKept opts samples state) :
    LogKept opts (samples ++ [sample]) (state.chargeSession opts sample) := by
  apply LogKept.emit
  constructor
  · dsimp only
    rw [List.filterMap_append, kept.recorded]
    rfl
  · unfold EventsKept
    dsimp only
    rw [List.filterMap_append, kept.events]
    exact (congrArg _ (List.append_nil _)).symm

theorem LogKept.evict (kept : LogKept opts samples state) (sessionId : JsString) :
    LogKept opts samples (state.evict sessionId) := by
  constructor
  · rw [UsageState.evict, List.filterMap_append, kept.recorded]
    exact List.append_nil _
  · unfold EventsKept
    rw [UsageState.evict, List.filterMap_append]
    exact kept.events.trans (congrArg _ (List.append_nil _).symm)

theorem sampleOf_log (sessionId : JsString) (log : List UsageChange) :
    log.filterMap (·.sampleOf sessionId) =
      sessionSamples sessionId (log.filterMap (·.recordedSample)) := by
  rw [sessionSamples, List.filter_filterMap]
  apply List.filterMap_congr
  intro change _
  cases change with
  | emitted _ => rfl
  | evicted _ => rfl
  | recorded sample =>
      by_cases same : sample.sessionId = sessionId
      · simp [UsageChange.sampleOf, UsageChange.recordedSample, Option.filter, same]
      · simp [UsageChange.sampleOf, UsageChange.recordedSample, Option.filter, same]

theorem LogKept.life_sublist (kept : LogKept opts samples state) (sessionId : JsString) :
    (state.lifeSamples sessionId).Sublist (sessionSamples sessionId samples) := by
  rw [← kept.recorded, ← sampleOf_log]
  exact (Budget.life_sublist sessionId state.log).filterMap _

theorem LogKept.life_of_unevicted (kept : LogKept opts samples state) {sessionId : JsString}
    (unevicted : .evicted sessionId ∉ state.log) :
    state.lifeSamples sessionId = sessionSamples sessionId samples := by
  rw [UsageState.lifeSamples, Budget.life_of_unevicted unevicted, sampleOf_log, kept.recorded]

def sessionCount (samples : List TokenUsageSample) : Nat :=
  (samples.map (·.sessionId)).toFinset.card

/-- The rows belong to sessions that were seen. -/
theorem size_le_sessionCount (kept : SessionsKept opts state) (log : LogKept opts samples state) :
    state.sessions.size ≤ sessionCount samples := by
  have distinct := state.sessions.distinct
  rw [InsertionMap.size, ← List.length_map Prod.fst, ← List.toFinset_card_of_nodup distinct]
  apply Finset.card_le_card
  intro sessionId member
  rw [List.mem_toFinset] at member ⊢
  have present : state.lifeSamples sessionId ≠ [] := by
    intro empty
    have account := (kept.accounts sessionId).row_eq
    rw [if_pos empty, Option.map_eq_none_iff, InsertionMap.get_eq_none_iff] at account
    exact account member
  obtain ⟨sample, inside⟩ := List.exists_mem_of_ne_nil _ present
  obtain ⟨known, same⟩ := List.mem_filter.mp ((log.life_sublist sessionId).subset inside)
  exact List.mem_map.mpr ⟨sample, known, of_decide_eq_true same⟩

end Steps

/-- The invariant of the store holds after each sample. -/
structure Kept (opts : TokenUsageOptions) (samples : List TokenUsageSample) (state : UsageState) :
    Prop where
  log : LogKept opts samples state
  sessions : SessionsKept opts state
  tenants : TenantsKept opts samples state
  unevicted : opts.sessionBound.passed (sessionCount samples) = false →
    ∀ sessionId, .evicted sessionId ∉ state.log

/-- A sample meets the conditions under which the store counts it right. -/
structure Careful (opts : TokenUsageOptions) (state : UsageState) (sample : TokenUsageSample) :
    Prop where
  fits : Fits sample
  attributes : Attributes opts state sample

def Recorded (opts : TokenUsageOptions) (before : UsageState) (sample : TokenUsageSample)
    (after : UsageState) : Prop :=
  Careful opts before sample ∧ before.record opts sample = after

section Run

variable {opts : TokenUsageOptions} {state : UsageState} {sample : TokenUsageSample}
  {samples : List TokenUsageSample}

theorem kept_initial (opts : TokenUsageOptions) : Kept opts [] .initial where
  log := ⟨rfl, rfl⟩
  sessions := by
    constructor
    · exact fun _ => ⟨rfl, rfl⟩
    · intro sessionId row found
      rw [UsageState.initial, InsertionMap.get_empty] at found
      cases found
  tenants := fun _ => ⟨rfl, rfl⟩
  unevicted := fun _ _ => List.not_mem_nil

theorem evicted_mem_emit_iff {reach : Option Reach} {scope : UsageScope} {sessionId : JsString} :
    UsageChange.evicted sessionId ∈ (state.emit opts reach scope).log ↔
      .evicted sessionId ∈ state.log := by
  rw [emit_log]
  cases reach <;> simp

theorem evicted_mem_chargeSession_iff {sessionId : JsString} :
    UsageChange.evicted sessionId ∈ (state.chargeSession opts sample).log ↔
      .evicted sessionId ∈ state.log := by
  rw [UsageState.chargeSession, evicted_mem_emit_iff]
  simp

theorem sessionCount_le (samples : List TokenUsageSample) (sample : TokenUsageSample) :
    sessionCount samples ≤ sessionCount (samples ++ [sample]) := by
  apply Finset.card_le_card
  intro sessionId member
  rw [List.mem_toFinset] at member ⊢
  rw [List.map_append]
  exact List.mem_append_left _ member

theorem Kept.record (kept : Kept opts samples state) (positive : opts.CapsPositive)
    (fits : ∀ taken ∈ samples ++ [sample], Fits taken) (attributes : Attributes opts state sample)
    (safe : tokens (samples ++ [sample]) < 2 ^ 53) :
    Kept opts (samples ++ [sample]) (state.record opts sample) := by
  have own : (state.lifeSamples sample.sessionId ++ [sample]).Sublist (samples ++ [sample]) :=
    ((kept.log.life_sublist _).trans List.filter_sublist).append (List.Sublist.refl _)
  have sessions := sessionsKept_chargeSession kept.sessions positive attributes
    (fun taken member => fits taken (own.subset member))
    ((summed_sublist normalisedTotal own).trans_lt safe)
  have tenants : TenantsKept opts samples (state.chargeSession opts sample) :=
    tenantsKept_chargeSession kept.tenants
  have log : LogKept opts (samples ++ [sample]) (state.chargeSession opts sample) :=
    kept.log.chargeSession
  obtain ⟨stillSessions, stillTenants, stillLog⟩ : SessionsKept opts
        ((state.chargeSession opts sample).evictSessions opts) ∧
      TenantsKept opts samples ((state.chargeSession opts sample).evictSessions opts) ∧
      LogKept opts (samples ++ [sample])
        ((state.chargeSession opts sample).evictSessions opts) := by
    refine @evictRounds_keeps (fun state => SessionsKept opts state ∧
      TenantsKept opts samples state ∧ LogKept opts (samples ++ [sample]) state) ?_ _ _ _
      ⟨sessions, tenants, log⟩
    rintro before other ⟨rows, totals, entries⟩
    exact ⟨sessionsKept_evict rows other, tenantsKept_evict totals other, entries.evict other⟩
  have unevicted : opts.sessionBound.passed (sessionCount (samples ++ [sample])) = false →
      ∀ sessionId, .evicted sessionId ∉ ((state.chargeSession opts sample).evictSessions opts).log := by
    intro respected sessionId
    have full := JsNumber.passed_mono (size_le_sessionCount sessions log) respected
    rw [evictSessions_of_respected full, evicted_mem_chargeSession_iff]
    exact kept.unevicted (JsNumber.passed_mono (sessionCount_le samples sample) respected) sessionId
  rw [UsageState.record]
  cases carried : sample.tenantId with
  | none =>
      refine ⟨stillLog, stillSessions, ?_, unevicted⟩
      intro tenantId
      have apart : sample.tenantId ≠ some tenantId := by
        rw [carried]
        exact nofun
      rw [tenantSamples_snoc, if_neg apart, List.append_nil]
      exact stillTenants tenantId
  | some tenantId =>
      have entries : LogKept opts (samples ++ [sample])
          (((state.chargeSession opts sample).evictSessions opts).chargeTenant opts sample tenantId) :=
        LogKept.emit ⟨stillLog.recorded, stillLog.events⟩
      refine ⟨entries, sessionsKept_chargeTenant stillSessions tenantId,
        tenantsKept_chargeTenant stillTenants positive fits safe carried, ?_⟩
      intro respected sessionId
      dsimp only
      rw [UsageState.chargeTenant, evicted_mem_emit_iff]
      exact unevicted respected sessionId

theorem Fits.of_run (run : Run (Recorded opts) .initial samples state) :
    ∀ taken ∈ samples, Fits taken := by
  induction run with
  | start => exact fun _ absent => absurd absent List.not_mem_nil
  | step _ recorded ih =>
      intro taken member
      obtain old | new := List.mem_append.mp member
      · exact ih taken old
      · rw [List.mem_singleton.mp new]
        exact recorded.1.fits

theorem kept_of_run (positive : opts.CapsPositive) (run : Run (Recorded opts) .initial samples state)
    (safe : tokens samples < 2 ^ 53) : Kept opts samples state := by
  induction run with
  | start => exact kept_initial opts
  | step earlier taken ih =>
      have fits := Fits.of_run (earlier.step taken)
      obtain ⟨careful, rfl⟩ := taken
      have before := ih ((summed_sublist normalisedTotal (List.sublist_append_left _ _)).trans_lt safe)
      exact before.record positive fits careful.attributes safe

end Run

/-- The rows of an account map count the samples that carry their keys. -/
theorem addUp_ofNat (counts : List Nat) (safe : counts.sum < 2 ^ 53) :
    addUp (counts.map .ofNat) = .ofNat counts.sum := by
  induction counts using List.reverseRecOn with
  | nil => rfl
  | append_singleton counts count ih =>
      rw [List.sum_append, List.sum_singleton] at safe
      have earlier := ih (by omega)
      unfold addUp at earlier ⊢
      rw [List.map_append, List.foldl_append, earlier, List.sum_append, List.sum_singleton]
      exact JsNumber.add_ofNat (by omega) (by omega)

section Totals

variable {R : Type} {map : InsertionMap JsString R} {consumed : R → JsNumber}
  {key : TokenUsageSample → Option JsString} {samples : List TokenUsageSample}

/-- Rows that count the samples of their keys add up to all samples. -/
theorem addUp_rows (rows : ∀ name, (map.get name).map consumed =
      if samples.filter (key · = some name) = [] then none
      else some (.ofNat (tokens (samples.filter (key · = some name)))))
    (carried : ∀ sample ∈ samples, (key sample).isSome) (safe : tokens samples < 2 ^ 53) :
    addUp (map.entries.map fun entry => consumed entry.2) = .ofNat (tokens samples) := by
  have counts : map.entries.map (fun entry => consumed entry.2) =
      ((map.entries.map fun entry => some entry.1).map
        fun name => tokens (samples.filter (key · = name))).map .ofNat := by
    rw [List.map_map, List.map_map]
    apply List.map_congr_left
    intro entry member
    have row := rows entry.1
    rw [InsertionMap.get_eq_some_iff.mpr member, Option.map_some] at row
    split at row
    · cases row
    · exact Option.some.inj row
  have distinct : (map.entries.map fun entry => some entry.1).Nodup := by
    have names := map.distinct.map (Option.some_injective JsString)
    rwa [List.map_map] at names
  have covered : ∀ sample ∈ samples, key sample ∈ map.entries.map fun entry => some entry.1 := by
    intro sample member
    obtain ⟨name, named⟩ := Option.isSome_iff_exists.mp (carried sample member)
    have row := rows name
    rw [if_neg (List.ne_nil_of_mem (List.mem_filter.mpr ⟨member, decide_eq_true named⟩))] at row
    obtain ⟨found, present, -⟩ := Option.map_eq_some_iff.mp row
    rw [named]
    exact List.mem_map.mpr ⟨_, InsertionMap.get_eq_some_iff.mp present, rfl⟩
  have total := sum_fibers key normalisedTotal distinct covered
  rw [counts]
  change ((map.entries.map fun entry => some entry.1).map
    fun name => tokens (samples.filter (key · = name))).sum = tokens samples at total
  rw [addUp_ofNat _ (by rw [total]; exact safe), total]

end Totals

/-- The store accounts for every sample, emits each exhaustion event once, and loses no token. -/
structure Conserved (opts : TokenUsageOptions) (samples : List TokenUsageSample)
    (state : UsageState) : Prop where
  recorded : state.log.filterMap (·.recordedSample) = samples
  ring : EventsKept opts state
  tenantConsumed (tenantId : JsString) : (state.tenants.get tenantId).map (·.consumed) =
    if tenantSamples tenantId samples = [] then none
    else some (.ofNat (tokens (tenantSamples tenantId samples)))
  tenantEvents (tenantId : JsString) : state.tenantReaches tenantId =
    (firstReach (fun _ => opts.tenantCapFor tenantId) (tenantSamples tenantId samples)).toList
  sessionConsumed (sessionId : JsString) : (state.sessions.get sessionId).map (·.consumed) =
    if state.lifeSamples sessionId = [] then none
    else some (.ofNat (tokens (state.lifeSamples sessionId)))
  sessionEvents (sessionId : JsString) : state.lifeReaches sessionId =
    (firstReach (sessionCap opts) (state.lifeSamples sessionId)).toList
  sessionLife (sessionId : JsString) : .evicted sessionId ∉ state.log →
    state.lifeSamples sessionId = sessionSamples sessionId samples
  sessionSplit (sessionId : JsString) (row : SessionRow) :
    state.sessions.get sessionId = some row →
      (row.promptConsumed.add row.completionConsumed).atMost row.consumed = true
  tenantSplit (tenantId : JsString) (row : TenantRow) : state.tenants.get tenantId = some row →
    (row.promptConsumed.add row.completionConsumed).atMost row.consumed = true
  total : (∀ sample ∈ samples, sample.tenantId.isSome) →
    opts.sessionBound.passed (sessionCount samples) = false →
    state.totalConsumed = addUp (state.tenants.entries.map (·.2.consumed))

section Conserved

variable {opts : TokenUsageOptions} {state : UsageState} {samples : List TokenUsageSample}

theorem Accounts.consumed_eq {capOf : List TokenUsageSample → Option JsNumber}
    {own : List TokenUsageSample} {row : Option Counters} {reaches : List Reach}
    (accounts : Accounts capOf own row reaches) :
    row.map (·.consumed) = if own = [] then none else some (.ofNat (tokens own)) := by
  rw [accounts.row_eq]
  split <;> rfl

theorem Accounts.split {capOf : List TokenUsageSample → Option JsNumber}
    {own : List TokenUsageSample} {counters : Counters} {reaches : List Reach}
    (accounts : Accounts capOf own (some counters) reaches) (fits : ∀ taken ∈ own, Fits taken)
    (safe : tokens own < 2 ^ 53) :
    (counters.promptConsumed.add counters.completionConsumed).atMost counters.consumed = true := by
  have account := accounts.row_eq
  have together := summed_fits fits
  split at account
  · cases account
  · obtain rfl := Option.some.inj account
    dsimp only [counted]
    rw [JsNumber.add_ofNat (by omega) (by omega), JsNumber.ofNat_atMost_iff (by omega) safe]
    exact together

/-- In a run of careful samples with an exact sum, everything is conserved. -/
theorem conserved_of_careful (positive : opts.CapsPositive)
    (run : Run (Recorded opts) .initial samples state) (safe : tokens samples < 2 ^ 53) :
    Conserved opts samples state := by
  have kept := kept_of_run positive run safe
  have fits := Fits.of_run run
  have within {own : List TokenUsageSample} (sublist : own.Sublist samples) :
      tokens own < 2 ^ 53 ∧ ∀ taken ∈ own, Fits taken :=
    ⟨(summed_sublist normalisedTotal sublist).trans_lt safe,
      fun taken member => fits taken (sublist.subset member)⟩
  have sessionRows (sessionId : JsString) := (kept.sessions.accounts sessionId).consumed_eq
  have tenantRows (tenantId : JsString) := (kept.tenants tenantId).consumed_eq
  simp only [Option.map_map] at sessionRows tenantRows
  exact {
    recorded := kept.log.recorded
    ring := kept.log.events
    tenantConsumed := tenantRows
    tenantEvents := fun tenantId => (kept.tenants tenantId).reaches_eq
    sessionConsumed := sessionRows
    sessionEvents := fun sessionId => (kept.sessions.accounts sessionId).reaches_eq
    sessionLife := fun _ unevicted => kept.log.life_of_unevicted unevicted
    sessionSplit := by
      intro sessionId row found
      have account := kept.sessions.accounts sessionId
      rw [found] at account
      obtain ⟨exact, fit⟩ :=
        within ((kept.log.life_sublist sessionId).trans List.filter_sublist)
      exact account.split fit exact
    tenantSplit := by
      intro tenantId row found
      have account := kept.tenants tenantId
      rw [found] at account
      have sublist : (tenantSamples tenantId samples).Sublist samples := List.filter_sublist
      obtain ⟨exact, fit⟩ := within sublist
      exact account.split fit exact
    total := by
      intro carried respected
      have whole (sessionId : JsString) : state.lifeSamples sessionId =
          samples.filter fun sample => some sample.sessionId = some sessionId := by
        rw [kept.log.life_of_unevicted (kept.unevicted respected sessionId), sessionSamples]
        simp only [Option.some.injEq]
      have sessions : state.totalConsumed = .ofNat (tokens samples) := by
        have rows (sessionId : JsString) : (state.sessions.get sessionId).map (·.consumed) =
            if samples.filter (fun sample => some sample.sessionId = some sessionId) = [] then none
            else some (.ofNat (tokens
              (samples.filter fun sample => some sample.sessionId = some sessionId))) := by
          rw [← whole]
          exact sessionRows sessionId
        exact addUp_rows rows (fun _ _ => rfl) safe
      rw [sessions]
      exact (addUp_rows tenantRows carried safe).symm }

def cappedOptions : TokenUsageOptions where
  sessionBudget := none
  perTenantBudget := some (.ofNat 5)
  perSessionBudget := none
  perTenantBudgets := fun _ => some ⟨some (.ofNat 5), none⟩
  maxSessions := none
  maxEvents := none
  capacity := none

def splitSample : TokenUsageSample :=
  ⟨utf16 "s", some (utf16 "t"), some (.ofNat 3), some (.ofNat 4), none, utf16 "1"⟩

theorem cappedOptions_positive : cappedOptions.CapsPositive := by
  have five : (JsNumber.ofNat 0).below (.ofNat 5) = true := by decide +kernel
  constructor
  · intro tenantId cap capped
    cases tenantId with
    | none => cases capped
    | some tenantId =>
        obtain rfl := Option.some.inj capped
        exact five
  · intro tenantId cap capped
    obtain rfl := Option.some.inj capped
    exact five

theorem conserved_of_careful_split :
    Conserved cappedOptions [splitSample] (UsageState.initial.record cappedOptions splitSample) := by
  have fits : Fits splitSample := by
    unfold Fits
    decide +kernel
  have attributes : Attributes cappedOptions .initial splitSample := by
    intro row tenantId cap found
    rw [UsageState.initial, InsertionMap.get_empty] at found
    cases found
  have run : Run (Recorded cappedOptions) .initial [splitSample]
      (UsageState.initial.record cappedOptions splitSample) :=
    Run.step .start ⟨⟨fits, attributes⟩, rfl⟩
  have exact : tokens [splitSample] < 2 ^ 53 := by decide +kernel
  exact conserved_of_careful cappedOptions_positive run exact

/-- A negative part is dropped from the split but lowers the total. -/
def negativeSample : TokenUsageSample :=
  ⟨utf16 "s", none, some (.ofInt (-5)), some (.ofNat 10), none, utf16 "1"⟩

def unattributedSample : TokenUsageSample :=
  ⟨utf16 "s", none, none, none, some (.ofNat 8), utf16 "1"⟩

def attributedSample : TokenUsageSample :=
  ⟨utf16 "s", some (utf16 "t"), none, none, some (.ofNat 1), utf16 "2"⟩

theorem not_conserved :
    ¬ Conserved cappedOptions [negativeSample]
        (UsageState.initial.record cappedOptions negativeSample) ∧
      ¬ Conserved cappedOptions [unattributedSample, attributedSample]
        ((UsageState.initial.record cappedOptions unattributedSample).record cappedOptions
          attributedSample) := by
  constructor
  · intro conserved
    have oversized : ((UsageState.initial.record cappedOptions negativeSample).sessions.get
        (utf16 "s")).any (fun row =>
          !(row.promptConsumed.add row.completionConsumed).atMost row.consumed) = true := by
      decide +kernel
    obtain ⟨row, found, exceeds⟩ := (Option.any_eq_true _ _).mp oversized
    rw [conserved.sessionSplit _ row found] at exceeds
    cases exceeds
  · intro conserved
    have missed : ((UsageState.initial.record cappedOptions unattributedSample).record cappedOptions
        attributedSample).lifeReaches (utf16 "s") ≠ (firstReach (sessionCap cappedOptions)
          (((UsageState.initial.record cappedOptions unattributedSample).record cappedOptions
            attributedSample).lifeSamples (utf16 "s"))).toList := by
      decide +kernel
    exact missed (conserved.sessionEvents (utf16 "s"))

end Conserved

end Adjudicate.Budget
