/-
This file models the guard that checks who owns a resource and shows what its silence means.
-/

import Adjudicate.Core.Ownership
import Adjudicate.Shell.Provenance

namespace Adjudicate.Primitives

open Js Canonical Adjudicate.Core Adjudicate.Kernel Adjudicate.Shell Adjudicate.Effect

/-- The scope stands for `matches`. -/
structure AuthorityGuardOptions (S : Type) where
  scope : Option (IntentEnvelope → S → Except Thrown Bool)
  authenticatedPrincipal : Option (IntentEnvelope → S → Except Thrown (Option JsString))
  refusalUserFacing : Option JsString

def nullable (text : Option JsString) : JsValue := (text.map JsValue.str).getD .null

def refuseUnbound {S : Type} (options : AuthorityGuardOptions S) (detail : JsString)
    (fact : Option OwnershipFact) : Decision :=
  .refuse
    (refuse .security "tenant_binding_violation"
      (options.refusalUserFacing.getD "Não consigo concluir essa ação.") (some detail))
    [basis .auth "scope_insufficient"
      (some [("rule", .str "authority_guard"),
        ("principal", nullable (fact.bind OwnershipFact.principal)),
        ("resource", nullable (fact.bind OwnershipFact.resource)),
        ("bound", .bool ((fact.map OwnershipFact.bound).getD false))])]

/-- The first gate asks for an edge and the second one for the authenticated owner. -/
def ownershipGates {S : Type} (options : AuthorityGuardOptions S) (envelope : IntentEnvelope)
    (state : S) (fact : OwnershipFact) : Option Decision :=
  if !fact.bound then
    some (refuseUnbound options
      "declared owner is not bound to the resource (no authority-graph edge)" (some fact))
  else
    match options.authenticatedPrincipal with
    | none => none
    | some authenticatedPrincipal =>
        match authenticatedPrincipal envelope state with
        | .error _ =>
            some (refuseUnbound options
              "authenticated principal could not be resolved (resolver threw)" (some fact))
        | .ok authedPrincipal =>
            if authedPrincipal = none ∨ authedPrincipal ≠ fact.principal then
              some (refuseUnbound options
                "authenticated actor is not the declared resource owner (IDOR: forged owner ref)"
                (some fact))
            else none

def createAuthorityGuard {S : Type}
    (resolveOwner : IntentEnvelope → S → Except Thrown OwnershipFact)
    (options : AuthorityGuardOptions S) : Guard S where
  metadataName := none
  functionName := "guard"
  run envelope state := do
    let inScope ←
      match options.scope with
      | none => .ok true
      | some scope => scope envelope state
    if !inScope then return none
    match resolveOwner envelope state with
    | .error _ =>
        return some (refuseUnbound options "owner could not be resolved (resolver threw)" none)
    | .ok fact => return ownershipGates options envelope state fact

/-- A gate that speaks refuses. -/
theorem ownershipGates_refuses {S : Type} {options : AuthorityGuardOptions S}
    {envelope : IntentEnvelope} {state : S} {fact : OwnershipFact} {decision : Decision}
    (speaks : ownershipGates options envelope state fact = some decision) :
    decision.kind = .refuse := by
  unfold ownershipGates at speaks
  split at speaks
  · cases speaks
    rfl
  · split at speaks
    · cases speaks
    · split at speaks
      · cases speaks
        rfl
      · split at speaks
        · cases speaks
          rfl
        · cases speaks

/-- The guard has no other opinion than a refusal. -/
theorem createAuthorityGuard_refuses {S : Type}
    {resolveOwner : IntentEnvelope → S → Except Thrown OwnershipFact}
    {options : AuthorityGuardOptions S} {envelope : IntentEnvelope} {state : S} {decision : Decision}
    (speaks : (createAuthorityGuard resolveOwner options).run envelope state = .ok (some decision)) :
    decision.kind = .refuse := by
  have resolves {inScope : Bool} (answered : (do
      if !inScope then return none
      match resolveOwner envelope state with
      | .error _ =>
          return some (refuseUnbound options "owner could not be resolved (resolver threw)" none)
      | .ok fact => return ownershipGates options envelope state fact :
        Except Thrown (Option Decision)) = .ok (some decision)) : decision.kind = .refuse := by
    cases inScope with
    | false => cases answered
    | true =>
        cases resolved : resolveOwner envelope state with
        | error raised =>
            rw [resolved] at answered
            cases answered
            rfl
        | ok fact =>
            rw [resolved] at answered
            exact ownershipGates_refuses (Except.ok.inj answered)
  unfold createAuthorityGuard at speaks
  dsimp only at speaks
  split at speaks
  all_goals
    obtain ⟨inScope, -, answered⟩ := bind_eq_ok.mp speaks
    exact resolves answered

/-- A host wires the guard to the snapshot in its state and to the principals of its sessions. -/
structure AuthorityWiring (S : Type) where
  snapshot : IntentEnvelope → S → Except Thrown AuthorityGraph
  refKeys : OwnershipRefKeys
  scope : Option (IntentEnvelope → S → Except Thrown Bool)
  authenticatedPrincipal : IntentEnvelope → S → Except Thrown (Option JsString)
  refusalUserFacing : Option JsString

namespace AuthorityWiring

variable {S : Type}

def resolveOwner (wiring : AuthorityWiring S) (envelope : IntentEnvelope) (state : S) :
    Except Thrown OwnershipFact := do
  let graph ← wiring.snapshot envelope state
  return resolveOwnership (createAuthorityGraphStore graph) envelope wiring.refKeys

def guard (wiring : AuthorityWiring S) : Guard S :=
  createAuthorityGuard wiring.resolveOwner
    { scope := wiring.scope
      authenticatedPrincipal := some wiring.authenticatedPrincipal
      refusalUserFacing := wiring.refusalUserFacing }

def InScope (wiring : AuthorityWiring S) (envelope : IntentEnvelope) (state : S) : Prop :=
  ∀ scope, wiring.scope = some scope → scope envelope state = .ok true

/-- The snapshot has an edge with the property from the principal of the session to the declared
resource, and the envelope declares that principal as the owner. -/
def Owned (wiring : AuthorityWiring S) (good : AuthorityEdge → Prop) (envelope : IntentEnvelope)
    (state : S) : Prop :=
  ∃ graph, wiring.snapshot envelope state = .ok graph ∧
    ∃ edge ∈ graph.edges,
      wiring.authenticatedPrincipal envelope state = .ok (some edge.principal) ∧
      declaredRef envelope (wiring.refKeys.principalKey.getD defaultPrincipalKey) =
          some edge.principal ∧
      declaredRef envelope (wiring.refKeys.resourceKey.getD defaultResourceKey) =
          some edge.resource ∧
      good edge

/-- Some edge binds the principal of the session to the declared resource. -/
def Bound (wiring : AuthorityWiring S) : IntentEnvelope → S → Prop := wiring.Owned fun _ => True

/-- Some such edge is not an advisor's and permits the kind of the envelope. -/
def Authorized (wiring : AuthorityWiring S) (envelope : IntentEnvelope) (state : S) : Prop :=
  wiring.Owned (fun edge => edge.relationship ≠ .advisor ∧ envelope.kind ∈ edge.permits.actions)
    envelope state

end AuthorityWiring

section

variable {S : Type} {wiring : AuthorityWiring S} {envelope : IntentEnvelope} {state : S}

theorem guard_run_inScope (inScope : wiring.InScope envelope state) :
    wiring.guard.run envelope state =
      match wiring.resolveOwner envelope state with
      | .error _ =>
          .ok (some (refuseUnbound
            ⟨wiring.scope, some wiring.authenticatedPrincipal, wiring.refusalUserFacing⟩
            "owner could not be resolved (resolver threw)" none))
      | .ok fact =>
          .ok (ownershipGates
            ⟨wiring.scope, some wiring.authenticatedPrincipal, wiring.refusalUserFacing⟩
            envelope state fact) := by
  cases scope : wiring.scope with
  | none =>
      rw [AuthorityWiring.guard, createAuthorityGuard, scope]
      rfl
  | some covers =>
      rw [AuthorityWiring.guard, createAuthorityGuard, scope]
      change (covers envelope state >>= _) = _
      rw [inScope covers scope]
      rfl

/-- Both gates pass exactly for the authenticated principal of an edge. -/
theorem ownershipGates_none {graph : AuthorityGraph}
    {options : AuthorityGuardOptions S}
    (supplied : options.authenticatedPrincipal = some wiring.authenticatedPrincipal) :
    ownershipGates options envelope state
        (resolveOwnership (createAuthorityGraphStore graph) envelope wiring.refKeys) = none ↔
      ∃ edge ∈ graph.edges,
        wiring.authenticatedPrincipal envelope state = .ok (some edge.principal) ∧
        declaredRef envelope (wiring.refKeys.principalKey.getD defaultPrincipalKey) =
            some edge.principal ∧
        declaredRef envelope (wiring.refKeys.resourceKey.getD defaultResourceKey) =
            some edge.resource ∧
        True := by
  have bound := @resolveOwnership_bound graph envelope wiring.refKeys
  rw [ownershipGates, supplied]
  cases passed : (resolveOwnership (createAuthorityGraphStore graph) envelope
      wiring.refKeys).bound with
  | false =>
      rw [passed] at bound
      refine iff_of_false nofun ?_
      rintro ⟨edge, listed, -, owner, resource, -⟩
      cases bound.mpr ⟨edge, listed, owner, resource⟩
  | true =>
      obtain ⟨edge, listed, owner, resource⟩ := bound.mp passed
      simp only [Bool.not_true, Bool.false_eq_true, if_false]
      cases resolved : wiring.authenticatedPrincipal envelope state with
      | error raised => exact iff_of_false nofun (by rintro ⟨_, _, ⟨⟩, _⟩)
      | ok authedPrincipal =>
          have declared : (resolveOwnership (createAuthorityGraphStore graph) envelope
              wiring.refKeys).principal = some edge.principal := owner
          dsimp only
          rw [declared]
          split
          · next differs =>
              refine iff_of_false nofun ?_
              rintro ⟨other, -, same, owner', -⟩
              rw [owner] at owner'
              rw [Except.ok.injEq] at same
              rw [same, ← owner'] at differs
              simp at differs
          · next same =>
              refine iff_of_true rfl ⟨edge, listed, ?_, owner, resource, trivial⟩
              rw [not_or, not_not] at same
              rw [same.2]

/-- In its scope the guard is silent exactly when the principal of the session is bound. -/
theorem guard_silent_iff (inScope : wiring.InScope envelope state) :
    wiring.guard.run envelope state = .ok none ↔ wiring.Bound envelope state := by
  rw [guard_run_inScope inScope, AuthorityWiring.resolveOwner, AuthorityWiring.Bound,
    AuthorityWiring.Owned]
  cases snapshot : wiring.snapshot envelope state with
  | error raised => exact iff_of_false nofun (by rintro ⟨_, ⟨⟩, _⟩)
  | ok graph =>
      change Except.ok (ownershipGates _ envelope state _) = .ok none ↔ _
      rw [Except.ok.injEq, ownershipGates_none rfl]
      constructor
      · exact fun found => ⟨graph, rfl, found⟩
      · rintro ⟨other, same, found⟩
        rwa [Except.ok.inj same]

/-- The decision lets an intent run, at once or after a confirmation. -/
def Lets (decision : Decision) : Prop :=
  decision.kind = .execute ∨ decision.kind = .requestConfirmation

/-- The authority guard is an auth guard, and no guard before it lets an intent run. -/
def GuardedBy (guard : Guard S) (policy : PolicyBundle S) : Prop :=
  ∃ front back, policy.authGuards = front ++ guard :: back ∧
    ∀ earlier ∈ policy.stateGuards ++ front, ∀ envelope state decision,
      earlier.run envelope state = .ok (some decision) → ¬Lets decision

theorem guard_never_lets {decision : Decision}
    (speaks : wiring.guard.run envelope state = .ok (some decision))
    (inScope : wiring.InScope envelope state) : ¬Lets decision := by
  rw [guard_run_inScope inScope] at speaks
  cases resolved : wiring.resolveOwner envelope state with
  | error raised =>
      rw [resolved] at speaks
      cases speaks
      rintro (⟨⟨⟩⟩ | ⟨⟨⟩⟩)
  | ok fact =>
      rw [resolved] at speaks
      have gates := Except.ok.inj speaks
      rw [ownershipGates] at gates
      split at gates
      · cases gates
        rintro (⟨⟨⟩⟩ | ⟨⟨⟩⟩)
      · dsimp only at gates
        split at gates
        · cases gates
          rintro (⟨⟨⟩⟩ | ⟨⟨⟩⟩)
        · split at gates
          · cases gates
            rintro (⟨⟨⟩⟩ | ⟨⟨⟩⟩)
          · cases gates

/-- A guard list that passes, or lets the intent run, has asked each guard that never does. -/
theorem silent_of_outcome {front back : List (Guard S)} {guard : Guard S}
    (quiet : ∀ earlier ∈ front, ∀ decision,
      earlier.run envelope state = .ok (some decision) → ¬Lets decision)
    (own : ∀ decision, guard.run envelope state = .ok (some decision) → ¬Lets decision)
    {opinion : Option Decision}
    (outcome : firstOutcome envelope state (front ++ guard :: back) = .ok opinion)
    (lets : ∀ decision, opinion = some decision → Lets decision) :
    guard.run envelope state = .ok none := by
  induction front with
  | nil =>
      rw [List.nil_append, firstOutcome] at outcome
      cases run : guard.run envelope state with
      | error raised =>
          rw [run] at outcome
          cases outcome
      | ok answer =>
          cases answer with
          | none => rfl
          | some decision =>
              rw [run] at outcome
              cases outcome
              exact absurd (lets decision rfl) (own decision run)
  | cons earlier front ih =>
      obtain ⟨head, tail⟩ := List.forall_mem_cons.mp quiet
      rw [List.cons_append, firstOutcome] at outcome
      cases run : earlier.run envelope state with
      | error raised =>
          rw [run] at outcome
          cases outcome
      | ok answer =>
          rw [run] at outcome
          cases answer with
          | none => exact ih tail outcome
          | some decision =>
              cases outcome
              exact absurd (lets decision rfl) (head decision run)

/-- Whatever the kernel lets run in scope, the principal of its session is bound. -/
theorem bound_of_lets {host : Host} {kill : KillSwitchState} {policy : PolicyBundle S}
    {decision : Decision} (guarded : GuardedBy wiring.guard policy)
    (inScope : wiring.InScope envelope state)
    (adjudicated : adjudicate host envelope state kill policy = .ok decision)
    (lets : Lets decision) : Verified host envelope kill ∧ wiring.Bound envelope state := by
  obtain ⟨front, back, split, quiet⟩ := guarded
  have actionable : Actionable fun other : Decision => other.kind = decision.kind := by
    obtain executes | asks := lets
    · rw [executes]
      exact actionable_execute
    · rw [asks]
      exact actionable_requestConfirmation
  have same {other : Decision} (kind : other.kind = decision.kind) : Lets other := by
    rwa [Lets, kind]
  obtain ⟨verified, answers⟩ := (yields_adjudicate host envelope state kill policy actionable).mp
    ⟨decision, adjudicated, rfl⟩
  refine ⟨verified, (guard_silent_iff inScope).mp ?_⟩
  rw [Answers, split] at answers
  have own (answer : Decision) (speaks : wiring.guard.run envelope state = .ok (some answer)) :=
    guard_never_lets speaks inScope
  have earlier : ∀ guard ∈ front, ∀ answer,
      guard.run envelope state = .ok (some answer) → ¬Lets answer :=
    fun guard inside answer => quiet guard (List.mem_append_right _ inside) envelope state answer
  obtain ⟨answer, speaks, gated⟩ | ⟨-, -, ⟨answer, speaks, gated⟩ | ⟨silent, -⟩⟩ := answers
  · have kind := ((yields_gateRewrite host envelope actionable answer).mp gated).1
    have first := firstOutcome_cases envelope state policy.stateGuards
    obtain ⟨-, none⟩ | ⟨passed, speaker, rest, list, -, -, first⟩ := first
    · rw [none] at speaks
      cases speaks
    · rw [first] at speaks
      refine absurd (same kind) (quiet speaker ?_ envelope state answer speaks)
      simp [list]
  · have kind := ((yields_gateRewrite host envelope actionable answer).mp gated).1
    refine silent_of_outcome earlier own speaks ?_
    rintro _ ⟨⟩
    exact same kind
  · have passes : firstOutcome envelope state (front ++ wiring.guard :: back) = .ok none := silent
    refine silent_of_outcome earlier own passes ?_
    intro answer speaks
    cases speaks

/-- Under some guarded policy the kernel executes the envelope, or the audited entry point does as
the original or the rewritten envelope of a call. -/
inductive Executed (host : Host) (wiring : AuthorityWiring S) (envelope : IntentEnvelope)
    (state : S) : Prop where
  | adjudicated (kill : KillSwitchState) (policy : PolicyBundle S) (bases : List DecisionBasis)
      (guarded : GuardedBy wiring.guard policy)
      (executes : adjudicate host envelope state kill policy = .ok (.execute bases))
  | audited (call : Call S) (trace : List ShellEvent) (result : AdjudicateAndAuditResult)
      (guarded : GuardedBy wiring.guard call.policy) (inState : call.state = state)
      (run : Runs (adjudicateAndAudit host call) trace (.ok result))
      (executes : result.Executing) (recorded : result.record.envelope = envelope)

/-- The executed envelope has its own content hash, and the kernel let it run. -/
theorem Executed.lets {host : Host} (executed : Executed host wiring envelope state) :
    ∃ kill policy decision, GuardedBy wiring.guard policy ∧ Lets decision ∧
      adjudicate host envelope state kill policy = .ok decision := by
  cases executed with
  | adjudicated kill policy bases guarded executes =>
      exact ⟨kill, policy, _, guarded, .inl rfl, executes⟩
  | audited call trace result guarded inState run executes recorded =>
      subst inState recorded
      have kinds := (executing_iff_kind host call run).mp executes
      obtain ⟨-, _, _, suppressed⟩ | ⟨-, _, _, suppressed⟩ | ⟨rewritten, settles, envelope, -⟩ :=
        adjudicateAndAudit_ok host call run
      · rw [suppressed] at kinds
        obtain ⟨⟨⟩⟩ | ⟨⟨⟩⟩ := kinds
      · rw [suppressed] at kinds
        obtain ⟨⟨⟩⟩ | ⟨⟨⟩⟩ := kinds
      rw [envelope]
      obtain ⟨⟨bases, first⟩, rfl⟩ | ⟨⟨prompt, bases, first⟩, -, rfl⟩ |
        ⟨replacement, reason, bases, second, -, again, rfl⟩ :=
        settled_authorized host call settles (executing_of_settled host call kinds settles)
      · exact ⟨call.kill, call.policy, _, guarded, .inl rfl, first⟩
      · exact ⟨call.kill, call.policy, _, guarded, .inr rfl, first⟩
      · exact ⟨call.kill, call.policy, _, guarded, .inl rfl, again⟩

/-- The guard is the only one, and silence executes. -/
def onlyAuthority (guard : Guard S) : PolicyBundle S where
  stateGuards := []
  authGuards := [guard]
  taint := { minimumFor := fun _ => .ok .untrusted, requiresUncontaminatedOrigin := none }
  business := []
  default := .execute

theorem guardedBy_onlyAuthority (guard : Guard S) : GuardedBy guard (onlyAuthority guard) :=
  ⟨[], [], rfl, nofun⟩

/-- The bare policy executes every verified envelope that its guard lets pass. -/
theorem onlyAuthority_executes {host : Host} {guard : Guard S}
    (verified : Verified host envelope releasedKill)
    (silent : guard.run envelope state = .ok none) :
    ∃ bases, adjudicate host envelope state releasedKill (onlyAuthority guard) =
      .ok (.execute bases) := by
  apply yields_execute_iff.mp
  rw [yields_adjudicate host envelope state releasedKill _ actionable_execute]
  refine ⟨verified, .inr ⟨rfl, ?_, .inr ⟨?_, .inr ⟨rfl, rfl⟩⟩⟩⟩
  · cases taint : envelope.taint <;> rfl
  · change firstOutcome envelope state [guard] = .ok none
    rw [firstOutcome, silent]
    rfl

/-- An executed envelope in scope always has a bound principal, and it is authorized exactly when
an edge that binds the principal is not an advisor's and permits the kind. -/
theorem authorityGuard_authorizes_iff (host : Host) (wiring : AuthorityWiring S)
    (envelope : IntentEnvelope) (state : S) :
    (Executed host wiring envelope state → wiring.InScope envelope state →
        wiring.Bound envelope state) ∧
      ((Executed host wiring envelope state → wiring.InScope envelope state →
          wiring.Authorized envelope state) ↔
        (envelope.version = intentEnvelopeVersion →
          deriveIntentHash host envelope = .ok envelope.intentHash →
          wiring.InScope envelope state → wiring.Bound envelope state →
          wiring.Authorized envelope state)) := by
  have bound (executed : Executed host wiring envelope state)
      (inScope : wiring.InScope envelope state) :
      (∃ kill, Verified host envelope kill) ∧ wiring.Bound envelope state := by
    obtain ⟨kill, policy, decision, guarded, lets, adjudicated⟩ := executed.lets
    obtain ⟨verified, bound⟩ := bound_of_lets guarded inScope adjudicated lets
    exact ⟨⟨kill, verified⟩, bound⟩
  refine ⟨fun executed inScope => (bound executed inScope).2, ?_, ?_⟩
  · intro authorizes version hash inScope bound
    have silent := (guard_silent_iff inScope).mpr bound
    obtain ⟨bases, executes⟩ := onlyAuthority_executes ⟨rfl, version, hash⟩ silent
    exact authorizes (.adjudicated releasedKill _ bases (guardedBy_onlyAuthority _) executes) inScope
  · intro enough executed inScope
    obtain ⟨⟨kill, -, version, hash⟩, bound⟩ := bound executed inScope
    exact enough version hash inScope bound

end

/-- The refund names its owner and the account that it touches. -/
def ownedRefund : IntentEnvelope where
  version := 2
  kind := "payment.refund"
  payload := .obj [("amount", .num 1)]
  nonce := "n-1"
  actor := { principal := .llm, sessionId := "s-1", role := none, attestation := none }
  taint := .untrusted
  origin := .llm
  resourceRefs := some ⟨[("owner", "user-1"), ("resource", "account-1")], by decide⟩
  createdAt := "2026-01-01T00:00:00.000Z"
  intentHash := "f200d1aaa588f5e47020572ea88624b6d7b088b02ae69d886716ada81c1a14a2"

def ownedRefundText : JsString :=
  utf16 "\x7b\"actor\":\x7b\"principal\":\"llm\",\"sessionId\":\"s-1\"\x7d,\"kind\":\"payment.refund\",\"nonce\":\"n-1\"," ++
    utf16 "\"origin\":\"LLM\",\"payload\":\x7b\"amount\":1\x7d,\"resourceRefs\":\x7b\"owner\":\"user-1\",\"resource\":\"account-1\"\x7d,\"taint\":\"UNTRUSTED\",\"version\":2\x7d"

def ownedRefundHost : Host := .ofDigests [(ownedRefundText, "f200d1aaa588f5e47020572ea88624b6d7b088b02ae69d886716ada81c1a14a2")]

/-- The principal of the session only advises on the account, and the edge permits nothing. -/
def advisorWiring : AuthorityWiring Unit where
  snapshot _ _ := .ok ⟨[⟨"user-1", .advisor, "account-1", ⟨[], none⟩⟩]⟩
  refKeys := ⟨none, none⟩
  scope := none
  authenticatedPrincipal _ _ := .ok (some "user-1")
  refusalUserFacing := none

/-- An advisor executes a refund of the account. -/
theorem advisorWiring_executes :
    Executed ownedRefundHost advisorWiring ownedRefund () ∧
      advisorWiring.InScope ownedRefund () ∧ ¬advisorWiring.Authorized ownedRefund () := by
  have inScope : advisorWiring.InScope ownedRefund () := nofun
  refine ⟨?_, inScope, ?_⟩
  · have bound : advisorWiring.Bound ownedRefund () :=
      ⟨_, rfl, _, List.mem_singleton_self _, rfl, by decide, by decide, trivial⟩
    obtain ⟨bases, executes⟩ := @onlyAuthority_executes Unit ownedRefund () ownedRefundHost
      advisorWiring.guard ⟨rfl, rfl, by decide +kernel⟩ ((guard_silent_iff inScope).mpr bound)
    exact .adjudicated releasedKill _ bases (guardedBy_onlyAuthority _) executes
  · rintro ⟨graph, snapshot, edge, listed, -, -, -, relationship, -⟩
    cases snapshot
    rw [List.mem_singleton.mp listed] at relationship
    exact relationship rfl

end Adjudicate.Primitives
