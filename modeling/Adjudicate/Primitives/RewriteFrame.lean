/-
This file shows which fields of an envelope the rewriting guards leave as they are.
-/

import Adjudicate.Claims.ValueEquality
import Adjudicate.Primitives.RewriteGuards

namespace Adjudicate.Primitives

open Js Canonical Adjudicate.Core Adjudicate.Kernel

/-- The rewritten envelope differs from the original one in its payload at the targets, and its
hash is the hash of its content. -/
structure ChangesOnly (host : Host) (targets : List (List JsString))
    (original rewritten : IntentEnvelope) : Prop where
  kind : rewritten.kind = original.kind
  actor : rewritten.actor = original.actor
  taint : rewritten.taint = original.taint
  origin : rewritten.origin = original.origin
  nonce : rewritten.nonce = original.nonce
  createdAt : rewritten.createdAt = original.createdAt
  version : rewritten.version = original.version
  resourceRefs : rewritten.resourceRefs = original.resourceRefs
  payload : SameOutside targets original.payload rewritten.payload
  intentHash : deriveIntentHash host rewritten = .ok rewritten.intentHash

/-- The envelope declares what an envelope gets by default. -/
def DeclaresDefaults (envelope : IntentEnvelope) : Prop :=
  envelope.origin = defaultOrigin ∧ envelope.resourceRefs = none

section

variable {host : Host} {clock : JsString} {original rewritten : IntentEnvelope}

theorem remint_fields {payload : JsValue} (minted : remint host clock original payload = .ok rewritten) :
    rewritten.toHashedFields =
      { version := intentEnvelopeVersion
        kind := original.kind
        payload := payload
        nonce := original.nonce
        actor := original.actor
        taint := original.taint
        origin := defaultOrigin
        resourceRefs := none } ∧ rewritten.createdAt = original.createdAt := by
  obtain ⟨fields, createdAt, -⟩ := buildEnvelope_eq_ok.mp minted
  exact ⟨fields, createdAt⟩

/-- Minting drops the origin and the references, so only their defaults survive it. -/
theorem changesOnly_remint {payload : JsValue} {targets : List (List JsString)}
    (version : original.version = intentEnvelopeVersion)
    (minted : remint host clock original payload = .ok rewritten) :
    ChangesOnly host targets original rewritten ↔
      SameOutside targets original.payload payload ∧ DeclaresDefaults original := by
  obtain ⟨fields, createdAt⟩ := remint_fields minted
  have hashed := deriveIntentHash_of_buildEnvelope minted
  have project {A : Type} (read : HashedFields → A) := congrArg read fields
  have kind := project HashedFields.kind
  have sameOrigin := project HashedFields.origin
  have sameRefs := project HashedFields.resourceRefs
  have samePayload := project HashedFields.payload
  constructor
  · intro changes
    refine ⟨?_, ?_, ?_⟩
    · simpa only [samePayload] using changes.payload
    · rw [← changes.origin, sameOrigin]
    · rw [← changes.resourceRefs, sameRefs]
  · rintro ⟨outside, origin, resourceRefs⟩
    exact
      { kind := kind
        actor := project HashedFields.actor
        taint := project HashedFields.taint
        origin := by rw [sameOrigin, origin]
        nonce := project HashedFields.nonce
        createdAt := createdAt
        version := by rw [version]; exact project HashedFields.version
        resourceRefs := by rw [sameRefs, resourceRefs]
        payload := by rw [samePayload]; exact outside
        intentHash := hashed }

end

/-- A spread copies every own property of an object. -/
theorem lookup_spread {props : Props JsValue} (distinct : (keys props).Nodup) (key : JsString) :
    (spreadInto [] props).lookup key = props.lookup key := by
  have permuted := enumerate_perm props
  have enumerated : (keys (enumerate props)).Nodup := (permuted.map Prod.fst).nodup_iff.mpr distinct
  have copied : spreadInto [] props = enumerate props := defineAll_of_nodup enumerated
  rw [copied]
  apply Option.ext
  intro value
  rw [lookup_eq_some enumerated, lookup_eq_some distinct, permuted.mem_iff]

theorem getOwn_withField {props : Props JsValue} (distinct : (keys props).Nodup)
    (field key : JsString) (value : JsValue) :
    (withField (.obj props) field value).getOwn key =
      if key = field then value else (JsValue.obj props).getOwn key := by
  change ((setOwn (spreadInto [] props) field value).lookup key).getD .undefined = _
  rw [lookup_setOwn, lookup_spread distinct]
  split <;> rfl

/-- Setting one field of a copy changes an object at that field only, and turns anything else into an
object. -/
theorem sameOutside_withField {payload : JsValue} (named : Claims.HasDistinctNames payload)
    (field : JsString) (value : JsValue) :
    SameOutside [[field]] payload (withField payload field value) ↔
      ∃ props, payload = .obj props := by
  constructor
  · intro same
    have root : payload.outline = .obj [] := by
      simpa [withField, JsValue.outline] using same [] (by simp)
    cases payload with
    | obj props => exact ⟨props, rfl⟩
    | undefined | null | bool | num | str | arr => cases root
  · rintro ⟨props, rfl⟩ path outside
    cases path with
    | nil => rfl
    | cons key rest =>
        have different : key ≠ field := by
          rintro rfl
          exact outside [key] (by simp) ⟨rest, rfl⟩
        have kept : (withField (.obj props) field value).child key = (JsValue.obj props).child key := by
          change List.lookup key (setOwn (spreadInto [] props) field value) = props.lookup key
          rw [lookup_setOwn, if_neg different, lookup_spread named.1]
        rw [JsValue.walk_cons, JsValue.walk_cons, kept]

section

variable {S : Type} {host : Host} {clock : JsString} {original rewritten : IntentEnvelope}
  {state : S} {reason : JsString} {entries : List DecisionBasis}

/-- A rewrite of the clamping guard sets its field to the cap. -/
theorem createRewriteGuard_rewrite {options : RewriteGuardOptions S}
    (answered : (createRewriteGuard host clock options).run original state =
      .ok (some (.rewrite rewritten reason entries))) :
    ∃ capValue, remint host clock original
      (withField original.payload options.mutateField (.num capValue)) = .ok rewritten := by
  obtain ⟨applies, -, answered⟩ := bind_eq_ok.mp answered
  cases applies with
  | false => cases answered
  | true =>
      obtain ⟨extracted, -, answered⟩ := bind_eq_ok.mp answered
      cases extracted with
      | none => cases answered
      | some requested =>
          obtain ⟨capValue, -, answered⟩ := bind_eq_ok.mp answered
          split at answered
          · cases answered
          · obtain ⟨minted, built, answered⟩ := bind_eq_ok.mp answered
            obtain ⟨basisList, -, answered⟩ := bind_eq_ok.mp answered
            cases answered
            exact ⟨capValue, built⟩

theorem rewriteCommand_rewrite {field : JsString} {out : Stripped} {detail : Props JsValue}
    (answered : rewriteCommand host clock original field out detail =
      .ok (.rewrite rewritten reason entries)) :
    remint host clock original (withField original.payload field (.str out.command)) =
        .ok rewritten ∧
      entries = [basis .validation "command_flag_stripped"
        (some (detail ++
          [(utf16 "sanitized", .str out.command), (utf16 "stripped", texts out.stripped)]))] := by
  obtain ⟨minted, built, answered⟩ := bind_eq_ok.mp answered
  cases answered
  exact ⟨built, rfl⟩

/-- A rewrite of a command strips at least one flag from it. -/
theorem answerCommand_rewrite {options : CommandRiskGuardOptions S} {command : JsString}
    {classification : CommandClassification}
    (answered : answerCommand host clock options original command classification =
      .ok (.rewrite rewritten reason entries)) :
    0 < (stripDangerousFlags command options.flagStripRules).stripped.length ∧
      remint host clock original (withField original.payload options.commandField
        (.str (stripDangerousFlags command options.flagStripRules).command)) = .ok rewritten ∧
      entries = [basis .validation "command_flag_stripped"
        (some (commandDetail classification command ++
          [(utf16 "sanitized",
              .str (stripDangerousFlags command options.flagStripRules).command),
            (utf16 "stripped",
              texts (stripDangerousFlags command options.flagStripRules).stripped)]))] := by
  simp only [answerCommand] at answered
  split at answered
  · split at answered
    · rename_i strips
      exact ⟨of_decide_eq_true (Bool.and_eq_true_iff.mp strips).1, rewriteCommand_rewrite answered⟩
    · cases answered
  · split at answered
    · rename_i strips
      exact ⟨strips, rewriteCommand_rewrite answered⟩
    · obtain ⟨prompt, -, answered⟩ := bind_eq_ok.mp answered
      cases answered

/-- What the guard decides, it decides on the command that it extracts. -/
theorem createCommandRiskGuard_answers {options : CommandRiskGuardOptions S} {decision : Decision}
    (answered : (createCommandRiskGuard host clock options).run original state =
      .ok (some decision)) :
    ∃ command, options.extractCommand original state = .ok (some command) ∧
      answerCommand host clock options original command (classifyCommand command options.rules) =
        .ok decision := by
  obtain ⟨applies, -, answered⟩ := bind_eq_ok.mp answered
  cases applies with
  | false => cases answered
  | true =>
      obtain ⟨extracted, read, answered⟩ := bind_eq_ok.mp answered
      cases extracted with
      | none => cases answered
      | some command =>
          simp only at answered
          split at answered
          · cases answered
          · obtain ⟨allowed, -, answered⟩ := bind_eq_ok.mp answered
            split at answered
            · cases answered
            · split at answered
              · cases answered
              · obtain ⟨decision, decided, answered⟩ := bind_eq_ok.mp answered
                cases answered
                exact ⟨command, read, decided⟩

theorem createCommandRiskGuard_kinds {options : CommandRiskGuardOptions S} {decision : Decision}
    (answered : (createCommandRiskGuard host clock options).run original state =
      .ok (some decision)) :
    decision.kind = .refuse ∨ decision.kind = .requestConfirmation ∨ decision.kind = .rewrite := by
  obtain ⟨command, -, decided⟩ := createCommandRiskGuard_answers answered
  have rewrites {field : JsString} {out : Stripped} {detail : Props JsValue}
      (decided : rewriteCommand host clock original field out detail = .ok decision) :
      decision.kind = .rewrite := by
    obtain ⟨minted, -, ⟨⟩⟩ := bind_eq_ok.mp decided
    rfl
  simp only [answerCommand] at decided
  split at decided
  · split at decided
    · exact .inr (.inr (rewrites decided))
    · cases decided
      exact .inl rfl
  · split at decided
    · exact .inr (.inr (rewrites decided))
    · obtain ⟨prompt, -, ⟨⟩⟩ := bind_eq_ok.mp decided
      exact .inr (.inl rfl)

/-- A rewrite of the classification guard comes from a scan of the payload. -/
theorem createDataClassificationGuard_rewrite {options : DataClassificationGuardOptions S}
    (answered : (createDataClassificationGuard host clock options).run original state =
      .ok (some (.rewrite rewritten reason entries))) :
    ∃ scan, scanPayload options original.payload = .ok scan ∧
      remint host clock original (scan.clone.getD original.payload) = .ok rewritten := by
  obtain ⟨applies, -, answered⟩ := bind_eq_ok.mp answered
  cases applies with
  | false => cases answered
  | true =>
      simp only [Bool.not_true, Bool.false_eq_true, if_false] at answered
      split at answered
      · cases answered
      · obtain ⟨scan, scanned, answered⟩ := bind_eq_ok.mp answered
        split at answered
        · cases answered
        · split at answered
          · cases answered
          · obtain ⟨minted, built, answered⟩ := bind_eq_ok.mp answered
            cases answered
            exact ⟨scan, scanned, built⟩

/-- What one field leaves true, the loop over the fields leaves true. -/
theorem foldlM_keeps {Item State : Type} {step : State → Item → Except Thrown State}
    {kept : State → Prop} {items : List Item}
    (steps : ∀ before item after, item ∈ items → kept before → step before item = .ok after →
      kept after) {first last : State} (start : kept first)
    (ran : items.foldlM step first = .ok last) : kept last := by
  induction items generalizing first with
  | nil =>
      cases ran
      exact start
  | cons item items ih =>
      rw [List.foldlM_cons] at ran
      obtain ⟨next, stepped, ran⟩ := bind_eq_ok.mp ran
      refine ih ?_ (steps first item next (by simp) start stepped) ran
      intro before other after inside
      exact steps before other after (List.mem_cons_of_mem _ inside)

theorem pathSegments_ne_nil (field : JsString) : pathSegments field ≠ [] :=
  List.splitOn_ne_nil _ _

/-- The clone differs from the payload in the texts of the scanned fields only. -/
theorem scanField_retexted {options : DataClassificationGuardOptions S} {payload : JsValue}
    {targets : List (List JsString)} {before after : PayloadScan} {field : JsString}
    (scanned : pathSegments field ∈ targets)
    (same : Retexted targets payload (before.clone.getD payload))
    (ran : scanField options payload before field = .ok after) :
    Retexted targets payload (after.clone.getD payload) := by
  unfold scanField at ran
  split at ran
  · rename_i value read
    have found : payload.walk (pathSegments field) = some (.str value) := by
      unfold getPath at read
      cases walked : payload.walk (pathSegments field) with
      | none => simp [walked] at read
      | some node => simpa [walked] using read
    split at ran
    · cases ran
      exact same
    · obtain ⟨matches_, -, ran⟩ := bind_eq_ok.mp ran
      split at ran
      · cases ran
        split
        · obtain ⟨current, known⟩ := same.text found
          have rewritten := retexted_putPath (pathSegments_ne_nil field) known matches_.redacted
          exact same.trans rewritten (List.Subset.refl _) (by simpa using scanned)
        · exact same
      · cases ran
        exact same
  · cases ran
    exact same

theorem scanPayload_sameOutside {options : DataClassificationGuardOptions S} {payload : JsValue}
    {scan : PayloadScan} (ran : scanPayload options payload = .ok scan) :
    SameOutside (options.scannedFields.map pathSegments) payload (scan.clone.getD payload) := by
  have steps : ∀ before field after, field ∈ options.scannedFields →
      Retexted (options.scannedFields.map pathSegments) payload (before.clone.getD payload) →
        scanField options payload before field = .ok after →
          Retexted (options.scannedFields.map pathSegments) payload (after.clone.getD payload) := by
    intro before field after inside same ran
    exact scanField_retexted (List.mem_map_of_mem inside) same ran
  exact (foldlM_keeps steps (Retexted.refl _ payload) ran).sameOutside

end

/-- A rewriting guard changes only what it declares exactly when the envelope declares the defaults
that the guard falls back to, and a guard that spreads the payload also needs an object there. -/
theorem rewriteGuards_changeOnly_iff {S : Type} (host : Host) (clock : JsString)
    (input : BuildEnvelopeInput) (original : IntentEnvelope)
    (built : buildEnvelope host clock input = .ok original)
    (named : Claims.HasDistinctNames input.payload) (state : S) :
    (∀ (options : RewriteGuardOptions S) rewritten reason entries,
      (createRewriteGuard host clock options).run original state =
          .ok (some (.rewrite rewritten reason entries)) →
        (ChangesOnly host [[options.mutateField]] original rewritten ↔
          DeclaresDefaults original ∧ ∃ props, original.payload = .obj props)) ∧
      (∀ (options : DataClassificationGuardOptions S) rewritten reason entries,
        (createDataClassificationGuard host clock options).run original state =
            .ok (some (.rewrite rewritten reason entries)) →
          (ChangesOnly host (options.scannedFields.map pathSegments) original rewritten ↔
            DeclaresDefaults original)) ∧
      ∀ (options : CommandRiskGuardOptions S) rewritten reason entries,
        (createCommandRiskGuard host clock options).run original state =
            .ok (some (.rewrite rewritten reason entries)) →
          (ChangesOnly host [[options.commandField]] original rewritten ↔
            DeclaresDefaults original ∧ ∃ props, original.payload = .obj props) := by
  obtain ⟨fields, -, -⟩ := buildEnvelope_eq_ok.mp built
  have version : original.version = intentEnvelopeVersion := congrArg HashedFields.version fields
  have payload : original.payload = input.payload := congrArg HashedFields.payload fields
  rw [← payload] at named
  refine ⟨?_, ?_, ?_⟩
  · intro options rewritten reason entries answered
    obtain ⟨capValue, minted⟩ := createRewriteGuard_rewrite answered
    rw [changesOnly_remint version minted, sameOutside_withField named, and_comm]
  · intro options rewritten reason entries answered
    obtain ⟨scan, ran, minted⟩ := createDataClassificationGuard_rewrite answered
    rw [changesOnly_remint version minted]
    exact and_iff_right (scanPayload_sameOutside ran)
  · intro options rewritten reason entries answered
    obtain ⟨command, -, decided⟩ := createCommandRiskGuard_answers answered
    obtain ⟨-, minted, -⟩ := answerCommand_rewrite decided
    rw [changesOnly_remint version minted, sameOutside_withField named, and_comm]

/-- A refund that a person asked for on one charge. -/
def requestedRefund : BuildEnvelopeInput where
  kind := "payment.refund"
  payload := .obj [("amount", .num 5)]
  actor := { principal := .user, sessionId := "s-1", role := none, attestation := none }
  taint := .trusted
  nonce := "n-1"
  createdAt := some "2026-01-01T00:00:00.000Z"
  origin := some .human
  resourceRefs := some ⟨[("charge", "ch-1")], by decide⟩

def clampRefundToOriginal : RewriteGuardOptions Unit where
  applies _ _ := .ok true
  extract _ _ := .ok (some 5)
  cap := .fixed 3
  mutateField := "amount"
  reason := "Refund is larger than the charge."
  basis := none

def cappedAtCharge : List DecisionBasis :=
  [Core.basis .business "quantity_capped"
    (some [("field", .str "amount"), ("requested", .num 5), ("cappedTo", .num 3)])]

theorem requestedRefund_built : ∃ original,
    buildEnvelope (.ofDigests []) [] requestedRefund = .ok original ∧
      original.toHashedFields = requestedRefund.hashedFields := by
  obtain ⟨original, built, fields, -⟩ := buildEnvelope_of_json (.ofDigests []) []
    (show requestedRefund.payload.IsJson by
      simp only [requestedRefund, JsValue.IsJson, IsJsonProps, and_true]
      decide +kernel)
  exact ⟨original, built, fields⟩

theorem clampedRefund_minted {original : IntentEnvelope}
    (fields : original.toHashedFields = requestedRefund.hashedFields) :
    ∃ rewritten, remint (.ofDigests []) [] original
      (withField original.payload (utf16 "amount") (.num 3)) = .ok rewritten := by
  have payload : original.payload = requestedRefund.payload := congrArg HashedFields.payload fields
  obtain ⟨rewritten, minted, -⟩ := @buildEnvelope_of_json (.ofDigests []) []
    { kind := original.kind
      payload := withField original.payload (utf16 "amount") (.num 3)
      actor := original.actor
      taint := original.taint
      nonce := original.nonce
      createdAt := some original.createdAt
      origin := none
      resourceRefs := none } (by
    have spread : withField original.payload (utf16 "amount") (.num 3) =
        .obj [("amount", .num 3)] := by
      rw [payload]
      rfl
    simp only [spread, JsValue.IsJson, IsJsonProps, and_true]
    decide +kernel)
  exact ⟨rewritten, minted⟩

/-- The clamped refund is no longer a person's request and names no charge. -/
theorem clampedRefund_relabelled : ∃ original rewritten entries,
    buildEnvelope (.ofDigests []) [] requestedRefund = .ok original ∧
      (createRewriteGuard (.ofDigests []) [] clampRefundToOriginal).run original () =
        .ok (some (.rewrite rewritten "Refund is larger than the charge." entries)) ∧
      ¬ChangesOnly (.ofDigests []) [["amount"]] original rewritten ∧
      original.origin = .human ∧ rewritten.origin = .llm ∧ rewritten.resourceRefs = none := by
  obtain ⟨original, built, fields⟩ := requestedRefund_built
  obtain ⟨rewritten, minted⟩ := clampedRefund_minted fields
  have origin : original.origin = .human := congrArg HashedFields.origin fields
  have version : original.version = intentEnvelopeVersion := congrArg HashedFields.version fields
  have relabelled := (remint_fields minted).1
  refine ⟨original, rewritten, cappedAtCharge, built, ?_, ?_, origin, congrArg HashedFields.origin relabelled,
    congrArg HashedFields.resourceRefs relabelled⟩
  · have above : JsNumber.atMost 5 3 = false := by decide +kernel
    simp only [createRewriteGuard, clampRefundToOriginal, ok_bind, Cap.value, above, minted,
      RewriteGuardOptions.basisList]
    rfl
  · rw [changesOnly_remint version minted]
    rintro ⟨-, declared, -⟩
    rw [origin] at declared
    cases declared

theorem rewriteGuards_changeOnly_iff_refund : ∃ original,
    buildEnvelope (.ofDigests []) [] requestedRefund = .ok original ∧
      ∀ rewritten reason entries,
        (createRewriteGuard (.ofDigests []) [] clampRefundToOriginal).run original () =
            .ok (some (.rewrite rewritten reason entries)) →
          (ChangesOnly (.ofDigests []) [["amount"]] original rewritten ↔
            DeclaresDefaults original ∧ ∃ props, original.payload = .obj props) := by
  obtain ⟨original, built, -⟩ := requestedRefund_built
  refine ⟨original, built, ?_⟩
  exact (rewriteGuards_changeOnly_iff (.ofDigests []) [] requestedRefund original built
    (by simp [requestedRefund, Claims.HasDistinctNames, keys]) ()).1 clampRefundToOriginal

end Adjudicate.Primitives
