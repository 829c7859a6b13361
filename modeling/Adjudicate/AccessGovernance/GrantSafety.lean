/-
This file shows when an access request that executes grants no more than its review.
-/

import Adjudicate.AccessGovernance.Clamps

namespace Adjudicate.AccessGovernance

open Js Canonical Adjudicate.Core Adjudicate.Kernel Adjudicate.Primitives Adjudicate.Shell
open Adjudicate.Audit (readProp)
open Adjudicate.Effect

def AccessReview.key (review : AccessReview) : JsString :=
  review.resourceId ++ utf16 "::" ++ review.principal

def AccessGrant.key (grant : AccessGrant) : JsString :=
  grant.resourceId ++ utf16 "::" ++ grant.principal

/-- Every review and every grant is stored once, under the key of its own fields. -/
structure KeyedByFields (state : AccessState) : Prop where
  reviews : ∀ entry ∈ state.reviews, entry.1 = entry.2.key
  reviewsOnce : (keys state.reviews).Nodup
  grants : ∀ entry ∈ state.grants, entry.1 = entry.2.key
  grantsOnce : (keys state.grants).Nodup

/-- The executed level is approved for the executed principal and resource, which hold no grant that
covers it. -/
structure GrantedBy (state : AccessState) (requested executed : JsValue) (review : AccessReview)
    (level asked : JsNumber) : Prop where
  approved : review.decision = .approved
  principal : executed.getOwn "principal" = .str review.principal
  resource : executed.getOwn "resourceId" = .str review.resourceId
  held : executed.getOwn "privilegeLevel" = .num level
  granted : level.atMost review.grantedNumber = true
  peer : level.below AccessPrivilegeLevel.admin.number = true
  wanted : requested.getOwn "privilegeLevel" = .num asked
  reduced : level.atMost asked = true
  few : (state.grants.filter fun entry => review.principal = entry.2.principal).length <
    roleExplosionThreshold
  uncovered : ∀ entry ∈ state.grants, entry.2.principal = review.principal →
    entry.2.resourceId = review.resourceId → entry.2.privilegeLevel.number.below level = true

def GrantSafe (state : AccessState) (requested executed : JsValue) : Prop :=
  ∃ entry ∈ state.reviews, ∃ level asked, GrantedBy state requested executed entry.2 level asked

/-- The principal of the payload is a text, and every review under the key of the payload is of this
principal. -/
def NamesOne (state : AccessState) (payload : JsValue) : Prop :=
  ∃ principal, payload.getOwn "principal" = .str principal ∧
    ∀ entry ∈ state.reviews, payloadKey payload = .ok entry.1 → entry.2.principal = principal

section States

variable {state : AccessState} {requested executed : JsValue} (keyed : KeyedByFields state)

include keyed

theorem review_of_key {key : JsString} {review : AccessReview}
    (found : state.reviews.lookup key = some review) :
    (key, review) ∈ state.reviews ∧ key = review.key := by
  have listed := (lookup_eq_some keyed.reviewsOnce _ _).mp found
  exact ⟨listed, keyed.reviews _ listed⟩

theorem lookup_grant {entry : JsString × AccessGrant} (listed : entry ∈ state.grants) :
    state.grants.lookup entry.2.key = some entry.2 := by
  rw [← keyed.grants entry listed]
  exact (lookup_eq_some keyed.grantsOnce _ _).mpr listed

theorem review_unique {first second : JsString × AccessReview} (firstListed : first ∈ state.reviews)
    (secondListed : second ∈ state.reviews) (same : first.1 = second.1) : first.2 = second.2 := by
  have found := (lookup_eq_some keyed.reviewsOnce _ _).mpr firstListed
  rw [same, (lookup_eq_some keyed.reviewsOnce _ _).mpr secondListed] at found
  exact (Option.some.inj found).symm

end States

theorem privilegeLevel_defined (level : AccessPrivilegeLevel) : level.number ≠ .nan := by
  cases level <;> decide +kernel

theorem levelOf_held {props : Props JsValue} {level : JsNumber}
    (held : (JsValue.obj props).getOwn "privilegeLevel" = .num level) :
    levelOf (.obj props) = .ok level := by
  rw [levelOf, readProp_obj, ok_bind, held]
  rfl

section Payloads

variable {state : AccessState} {requested : JsValue} {props : Props JsValue}
  {resource : JsString} {level asked : JsNumber} (keyed : KeyedByFields state)
  (grantable : Grantable state (.obj props))
  (known : (JsValue.obj props).getOwn "resourceId" = .str resource)
  (held : (JsValue.obj props).getOwn "privilegeLevel" = .num level) (defined : level ≠ .nan)
  (wanted : requested.getOwn "privilegeLevel" = .num asked) (reduced : level.atMost asked = true)

theorem payloadKey_eq {principal : JsString}
    (resourceId : (JsValue.obj props).getOwn "resourceId" = .str resource)
    (named : (JsValue.obj props).getOwn "principal" = .str principal) :
    payloadKey (.obj props) = .ok (resource ++ utf16 "::" ++ principal) := by
  rw [payloadKey, readProp_obj, ok_bind, readProp_obj, ok_bind, resourceId, named]
  rfl

include keyed grantable known held defined wanted reduced

/-- A grantable payload is granted by the review under its key when the review is of its principal. -/
theorem grantSafe_iff_namesOne :
    GrantSafe state requested (.obj props) ↔ NamesOne state (.obj props) := by
  constructor
  · rintro ⟨review, listed, _, _, granted⟩
    refine ⟨review.2.principal, granted.principal, fun other otherListed made => ?_⟩
    rw [payloadKey_eq granted.resource granted.principal] at made
    have same : review.1 = other.1 := (keyed.reviews review listed).trans (Except.ok.inj made)
    rw [review_unique keyed listed otherListed same]
  · rintro ⟨principal, named, only⟩
    obtain ⟨⟨key, review, other, made, reads, found, approved, covers, peer, uncovered⟩, few⟩ :=
      grantable
    have key_eq := payloadKey_eq known named
    obtain rfl := Except.ok.inj ((levelOf_held held).symm.trans reads)
    obtain ⟨listed, own⟩ := review_of_key keyed found
    have same : review.principal = principal := only _ listed made
    subst same
    rw [key_eq] at made
    obtain rfl := Except.ok.inj made
    obtain rfl : resource = review.resourceId :=
      List.append_cancel_right (List.append_cancel_right own)
    refine ⟨_, listed, level, asked, approved, named, known, held, covers, ?_, wanted, reduced, ?_, ?_⟩
    · exact JsNumber.below_of_not_atMost defined (privilegeLevel_defined _) peer
    · rw [named] at few
      exact few
    · intro entry inside samePrincipal sameResource
      have stored := lookup_grant keyed inside
      rw [AccessGrant.key, samePrincipal, sameResource] at stored
      exact JsNumber.below_of_not_atMost (privilegeLevel_defined _) defined (uncovered entry.2 stored)

end Payloads

section Kernel

variable {host : Host} {clock : JsString} {environment : AccessEnvironment} {envelope : IntentEnvelope}
  {state : AccessState} (request : envelope.kind = utf16 "access.request")

include request

/-- The state guards let only a known resource and a valid level through. -/
theorem admitted_request
    (silent : AllSilent envelope state (accessPolicyBundle host clock environment).stateGuards) :
    ∃ props resource level, envelope.payload = .obj props ∧
      (JsValue.obj props).getOwn "resourceId" = .str resource ∧
      (JsValue.obj props).getOwn "privilegeLevel" = .num level ∧ level ≠ .nan := by
  have resolve : utf16 "access.request" ≠ utf16 "access.review.resolve" := by decide
  rw [accessPolicyBundle, silent_cons_iff, silent_cons_iff] at silent
  obtain ⟨resourceSilent, levelSilent, -⟩ := silent
  simp only [validateResource, named, request, if_neg resolve] at resourceSilent
  simp only [validatePrivilegeLevel, named, request, ne_eq, not_true_eq_false, if_false] at levelSilent
  obtain ⟨asked, read, levelSilent⟩ := bind_eq_ok.mp levelSilent
  obtain rfl := Audit.readProp_eq_ok read
  have valid : isPrivilegeLevel (envelope.payload.getOwn "privilegeLevel") = true := by
    by_contra invalid
    rw [Bool.eq_false_of_not_eq_true invalid] at levelSilent
    obtain ⟨text, -, ⟨⟩⟩ := bind_eq_ok.mp levelSilent
  obtain ⟨props, level, object, held, -, defined⟩ := levelOf_valid valid
  rw [object] at held resourceSilent
  refine ⟨props, ?_⟩
  rw [readProp_obj, ok_bind] at resourceSilent
  have known : isOneOf (orEmpty ((JsValue.obj props).getOwn "resourceId")) knownResourceIds = true := by
    by_contra unknown
    rw [Bool.eq_false_of_not_eq_true unknown] at resourceSilent
    obtain ⟨text, -, ⟨⟩⟩ := bind_eq_ok.mp resourceSilent
  cases resourceId : (JsValue.obj props).getOwn "resourceId" with
  | str resource => exact ⟨resource, level, object, rfl, held, defined⟩
  | undefined | null =>
      rw [resourceId] at known
      exact absurd known (by decide)
  | _ =>
      rw [resourceId] at known
      cases known

/-- Only a grantable request executes. -/
theorem request_executes {props : Props JsValue} (object : envelope.payload = .obj props)
    (gives : Gives (·.kind = .execute)
      (firstOutcome envelope state (accessPolicyBundle host clock environment).business)) :
    Grantable state (.obj props) := by
  have redacts (decision : Decision) (sets : SetsPayload host clock envelope decision) :
      decision.kind ≠ .execute := by
    obtain ⟨_, _, _, _, rfl, -⟩ := sets
    exact nofun
  rw [accessPolicyBundle, gives_later_iff (never_of_opinions redact_opinions redacts)] at gives
  obtain ⟨-, decision, first, executes⟩ := gives
  cases decision with
  | execute bases => exact (business_executes_iff request object host clock).mp ⟨bases, first⟩
  | _ => cases executes

/-- The decision neither asks nor rewrites, or it redacts the justification or lowers the level. -/
def RequestOpinion (host : Host) (clock : JsString) (envelope : IntentEnvelope)
    (props : Props JsValue) (level : JsNumber) (decision : Decision) : Prop :=
  (decision.kind ≠ .requestConfirmation ∧ decision.kind ≠ .rewrite) ∨
    ∃ payload rewritten reason bases, decision = .rewrite rewritten reason bases ∧
      remint host clock envelope payload = .ok rewritten ∧
      ((∃ text, payload = withJustification props text) ∨
        ∃ allowed : AccessPrivilegeLevel, level.atMost allowed.number = false ∧
          payload = withField (.obj props) "privilegeLevel" (.num allowed.number))

theorem request_opinions {props : Props JsValue} {level : JsNumber}
    (object : envelope.payload = .obj props) (reads : levelOf (.obj props) = .ok level) :
    Opinions (RequestOpinion host clock envelope props level)
      (firstOutcome envelope state (accessPolicyBundle host clock environment).business) := by
  have final {kind : DecisionKind} {outcome : Except Thrown (Option Decision)}
      (opinions : Opinions (·.kind = kind) outcome) (asks : kind ≠ .requestConfirmation)
      (rewrites : kind ≠ .rewrite) :
      Opinions (RequestOpinion host clock envelope props level) outcome := by
    intro decision speaks
    obtain rfl := opinions decision speaks
    exact .inl ⟨asks, rewrites⟩
  obtain ⟨resolve, breakglass, revoke⟩ := @otherKinds_silent envelope state request
  apply opinions_firstOutcome
  simp only [accessPolicyBundle, List.forall_mem_cons, List.not_mem_nil, false_implies, implies_true,
    and_true]
  refine ⟨fun decision speaks => ?_, opinions_silent resolve, opinions_silent breakglass,
    final sensitive_opinions (by decide) (by decide), final explosion_opinions (by decide) (by decide),
    final redundant_opinions (by decide) (by decide), fun decision speaks => ?_,
    final rejected_opinions (by decide) (by decide), final pending_opinions (by decide) (by decide),
    opinions_silent revoke, final peer_opinions (by decide) (by decide),
    final (fun own speaks => (approved_opinions own speaks).1) (by decide) (by decide)⟩
  · obtain ⟨_, rewritten, reason, bases, rfl, -⟩ := redact_opinions decision speaks
    obtain ⟨text, minted⟩ := redactJustificationPii_rewrites request object speaks
    exact .inr ⟨_, rewritten, reason, bases, rfl, minted, .inl ⟨text, rfl⟩⟩
  · rw [← object] at reads
    obtain ⟨allowed, rewritten, reason, bases, rfl, -, above, minted, -⟩ :=
      reduce_opinions reads decision speaks
    rw [object] at minted
    exact .inr ⟨_, rewritten, reason, bases, rfl, minted, .inr ⟨allowed, above, rfl⟩⟩

end Kernel

/-- The rewriting keeps the principal and the resource, and it raises no level. -/
structure Lowers (requested executed : Props JsValue) (asked : JsNumber) : Prop where
  principal : (JsValue.obj executed).getOwn "principal" = (JsValue.obj requested).getOwn "principal"
  resource : (JsValue.obj executed).getOwn "resourceId" = (JsValue.obj requested).getOwn "resourceId"
  level : ∀ level, (JsValue.obj executed).getOwn "privilegeLevel" = .num level →
    level.atMost asked = true

theorem Lowers.namesOne_iff {state : AccessState} {requested executed : Props JsValue}
    {asked : JsNumber} (lowers : Lowers requested executed asked) :
    NamesOne state (.obj executed) ↔ NamesOne state (.obj requested) := by
  have key : payloadKey (.obj executed) = payloadKey (.obj requested) := by
    simp only [payloadKey, readProp_obj, lowers.principal, lowers.resource]
  rw [NamesOne, NamesOne, key, lowers.principal]

section Rewritings

variable {props : Props JsValue} {asked : JsNumber}
  (held : (JsValue.obj props).getOwn "privilegeLevel" = .num asked) (defined : asked ≠ .nan)

include held defined

theorem lowers_self : Lowers props props asked := by
  refine ⟨rfl, rfl, fun level same => ?_⟩
  rw [held] at same
  cases same
  exact JsNumber.atMost_self defined

theorem lowers_withJustification (text : JsString) :
    ∃ others, withJustification props text = .obj others ∧ Lowers props others asked := by
  refine ⟨_, rfl, getOwn_kept (by decide), getOwn_kept (by decide), fun level same => ?_⟩
  rw [← withJustification, getOwn_kept (by decide), held] at same
  cases same
  exact JsNumber.atMost_self defined

omit held in
theorem lowers_withField (distinct : (keys props).Nodup) {allowed : AccessPrivilegeLevel}
    (above : asked.atMost allowed.number = false) :
    ∃ others, withField (.obj props) "privilegeLevel" (.num allowed.number) = .obj others ∧
      Lowers props others asked := by
  have field (key : JsString) := getOwn_withField distinct "privilegeLevel" key (.num allowed.number)
  refine ⟨_, rfl, ?_, ?_, fun level same => ?_⟩
  · exact (field "principal").trans (if_neg (by decide))
  · exact (field "resourceId").trans (if_neg (by decide))
  · have lowered := same.symm.trans ((field "privilegeLevel").trans (if_pos rfl))
    cases lowered
    exact JsNumber.atMost_of_below
      (JsNumber.below_of_not_atMost (privilegeLevel_defined allowed) defined above)

end Rewritings

section Runs

variable {host : Host} {clock : JsString} {environment : AccessEnvironment} {call : Call AccessState}
  {trace : List ShellEvent} {result : AdjudicateAndAuditResult}

/-- An access request that executes is granted by its review exactly when it names one principal. -/
theorem access_safe_iff (policy : call.policy = accessPolicyBundle host clock environment)
    (keyed : KeyedByFields call.state) (request : call.envelope.kind = utf16 "access.request")
    (json : call.envelope.payload.IsJson)
    (run : Runs (adjudicateAndAudit host call) trace (.ok result)) (executes : result.Executing) :
    GrantSafe call.state call.envelope.payload result.record.envelope.payload ↔
      NamesOne call.state call.envelope.payload := by
  have cases := executing_cases host call run executes
  rw [policy] at cases
  have safe {envelope : IntentEnvelope} {bases : List DecisionBasis} {props others : Props JsValue}
      {asked : JsNumber} (kind : envelope.kind = utf16 "access.request")
      (executes : adjudicate host envelope call.state call.kill
        (accessPolicyBundle host clock environment) = .ok (.execute bases))
      (object : envelope.payload = .obj others)
      (held : (JsValue.obj props).getOwn "privilegeLevel" = .num asked)
      (lowers : Lowers props others asked) :
      GrantSafe call.state (.obj props) envelope.payload ↔ NamesOne call.state (.obj props) := by
    obtain ⟨admitted, gives⟩ := access_yields actionable_execute ⟨_, executes, rfl⟩
    obtain ⟨_, resource, level, same, known, own, defined⟩ := admitted_request kind admitted.stateGuards
    rw [object] at same
    cases same
    rw [object, ← lowers.namesOne_iff]
    exact grantSafe_iff_namesOne keyed (request_executes kind object gives) known own defined held
      (lowers.level level own)
  obtain ⟨⟨bases, first⟩, recorded⟩ | ⟨⟨prompt, bases, first⟩, -⟩ |
    ⟨reason, bases, second, first, again⟩ := cases
  · obtain ⟨admitted, -⟩ := access_yields actionable_execute ⟨_, first, rfl⟩
    obtain ⟨props, -, asked, object, -, held, defined⟩ := admitted_request request admitted.stateGuards
    have safe := safe request first object held (lowers_self held defined)
    rw [recorded]
    rw [object] at safe ⊢
    exact safe
  · obtain ⟨admitted, decision, speaks, asks⟩ :=
      access_yields actionable_requestConfirmation ⟨_, first, rfl⟩
    obtain ⟨props, -, asked, object, -, held, -⟩ := admitted_request request admitted.stateGuards
    obtain ⟨other, -⟩ | ⟨_, _, _, _, rfl, -⟩ :=
      request_opinions request object (levelOf_held held) decision speaks
    · exact (other asks).elim
    · cases asks
  · obtain ⟨admitted, decision, speaks, _, _, rfl⟩ :=
      access_yields (actionable_rewritesTo result.record.envelope) ⟨_, first, _, _, rfl⟩
    obtain ⟨props, -, asked, object, -, held, defined⟩ := admitted_request request admitted.stateGuards
    obtain ⟨-, other⟩ | ⟨payload, _, _, _, ⟨⟩, minted, changes⟩ :=
      request_opinions request object (levelOf_held held) _ speaks
    · exact (other rfl).elim
    · obtain ⟨fields, -⟩ := remint_fields minted
      have kind := (congrArg HashedFields.kind fields).trans request
      have executed := congrArg HashedFields.payload fields
      rw [object] at json ⊢
      obtain ⟨others, same, lowers⟩ : ∃ others, payload = .obj others ∧ Lowers props others asked := by
        obtain ⟨text, rfl⟩ | ⟨allowed, above, rfl⟩ := changes
        · exact lowers_withJustification held defined text
        · exact lowers_withField defined json.1 above
      exact safe kind again (executed.trans same) held lowers

end Runs

def grantText (principal : JsString) : JsString :=
  utf16 "\x7b\"actor\":\x7b\"principal\":\"llm\",\"sessionId\":\"s-1\"\x7d,\"kind\":\"access.request\"," ++
    utf16 "\"nonce\":\"n-1\",\"origin\":\"LLM\",\"payload\":\x7b\"principal\":" ++ principal ++
    utf16 ",\"privilegeLevel\":1,\"resourceId\":\"db.analytics\"\x7d,\"taint\":\"UNTRUSTED\"," ++
    utf16 "\"version\":2\x7d"

/-- The digests of the two requests are their SHA-256 digests. -/
def grantHost : Host := .ofDigests
  [(grantText "\"user-1\"", "4bb3867ae4952eb9aa8283cbd5ca627d464c2803bc8cd07c0445e46e7bdb249d"),
    (grantText "[\"user-1\"]", "78552182c36150ea6df77109a411b476f21a6c820f72200733bbcb86cffd0e1c")]

def grantRequest (principal : JsValue) (intentHash : JsString) : IntentEnvelope where
  version := 2
  kind := "access.request"
  payload := .obj [("principal", principal), ("privilegeLevel", .num 1),
    ("resourceId", .str "db.analytics")]
  nonce := "n-1"
  actor := { principal := .llm, sessionId := "s-1", role := none, attestation := none }
  taint := .untrusted
  origin := .llm
  resourceRefs := none
  createdAt := "2026-01-01T00:00:00.000Z"
  intentHash := intentHash

def plainRequest : IntentEnvelope :=
  grantRequest (.str "user-1") "4bb3867ae4952eb9aa8283cbd5ca627d464c2803bc8cd07c0445e46e7bdb249d"

/-- The principal is in a list, and the text of the list is the principal. -/
def listedRequest : IntentEnvelope :=
  grantRequest (.arr [.str "user-1"]) "78552182c36150ea6df77109a411b476f21a6c820f72200733bbcb86cffd0e1c"

/-- No text matches the patterns, and no date is read. -/
def cleanEnvironment : AccessEnvironment where
  ssn := { test := fun _ => false, replaceAll := fun text _ => .ok text }
  email := { test := fun _ => false, replaceAll := fun text _ => .ok text }
  parseDate _ := .nan

def grantOn (resourceId : JsString) : AccessGrant := ⟨"user-1", resourceId, .read, none⟩

/-- The review lets the principal write, who holds grants on the resources. -/
def grantState (resources : List JsString) : AccessState where
  reviews := [("db.analytics::user-1", ⟨"db.analytics", "user-1", .approved, some .write⟩)]
  grants := resources.map fun resourceId => ((grantOn resourceId).key, grantOn resourceId)
  authority := none

def grantCall (resources : List JsString) (envelope : IntentEnvelope) : Call AccessState where
  envelope := envelope
  state := grantState resources
  policy := accessPolicyBundle grantHost "2026-01-01T00:00:00.000Z" cleanEnvironment
  kill := releasedKill
  deps := sampleDeps

theorem keyedByFields_grantState {resources : List JsString}
    (distinct : (keys (grantState resources).grants).Nodup) : KeyedByFields (grantState resources) where
  reviews := List.forall_mem_singleton.mpr (by decide)
  reviewsOnce := List.nodup_singleton _
  grants := List.forall_mem_map.mpr fun _ _ => rfl
  grantsOnce := distinct

theorem access_safe_plainRequest :
    ∃ trace result, Runs (adjudicateAndAudit grantHost (grantCall [] plainRequest)) trace
        (.ok result) ∧
      (GrantSafe (grantState []) plainRequest.payload result.record.envelope.payload ↔
        NamesOne (grantState []) plainRequest.payload) := by
  obtain ⟨trace, result, run, kind⟩ := @calm_run _ _ grantHost (grantCall [] plainRequest)
    (·.decision.kind) .execute (by decide +kernel)
  have json : plainRequest.payload.IsJson :=
    ⟨by decide +kernel, fun _ => trivial, fun _ => (by decide +kernel : JsNumber.isFinite 1 = true),
      fun _ => trivial, trivial⟩
  exact ⟨trace, result, run, @access_safe_iff grantHost "2026-01-01T00:00:00.000Z" cleanEnvironment
    (grantCall [] plainRequest) trace result rfl (keyedByFields_grantState (by decide)) rfl json run
    ((executing_iff_kind grantHost _ run).mpr (.inl kind))⟩

/-- A principal in a list executes although it holds five grants. -/
theorem listedRequest_executes :
    ∃ trace result, Runs (adjudicateAndAudit grantHost
        (grantCall ["db.prod", "payroll", "secrets.vault", "db.old", "db.test"] listedRequest)) trace
          (.ok result) ∧
      KeyedByFields (grantState ["db.prod", "payroll", "secrets.vault", "db.old", "db.test"]) ∧
      result.Executing ∧
      ¬GrantSafe (grantState ["db.prod", "payroll", "secrets.vault", "db.old", "db.test"])
        listedRequest.payload result.record.envelope.payload := by
  obtain ⟨trace, result, run, view⟩ := @calm_run _ _ grantHost
    (grantCall ["db.prod", "payroll", "secrets.vault", "db.old", "db.test"] listedRequest)
    (fun result => (result.decision.kind,
      isText (result.record.envelope.payload.getOwn "principal") "user-1")) (.execute, false)
    (by decide +kernel)
  obtain ⟨kind, listed⟩ := Prod.mk.inj view
  refine ⟨trace, result, run, keyedByFields_grantState (by decide),
    (executing_iff_kind grantHost _ run).mpr (.inl kind), ?_⟩
  rintro ⟨entry, stored, _, _, granted⟩
  obtain rfl := List.mem_singleton.mp stored
  rw [granted.principal] at listed
  revert listed
  decide

end Adjudicate.AccessGovernance
