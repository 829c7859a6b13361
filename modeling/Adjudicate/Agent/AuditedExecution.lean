/-
This file shows that the agent only runs what an emitted record of the same call authorizes.
-/

import Adjudicate.Agent.Loop
import Adjudicate.Effect.Since
import Adjudicate.Shell.Recording

namespace Adjudicate.Agent

open Js Canonical Adjudicate.Core Audit Adjudicate.Runtime Adjudicate.Effect
open Adjudicate.Kernel (PolicyBundle)
open Adjudicate.Shell (AdjudicateAndAuditDeps AdjudicateAndAuditResult BudgetGrant IsAbout
  adjudicateAndAudit)
open Program (ofExcept tryCatch)

variable {S C : Type}

def Op.Invokes : Op S C → Prop
  | .invokeIntent _ _ => True
  | .invokeRead _ _ _ => True
  | _ => False

def Op.Plans : Op S C → Prop
  | .plan _ _ => True
  | _ => False

/-- The executor and the planner are not called. -/
def Op.Routine (op : Op S C) : Prop := ¬op.Invokes ∧ ¬op.Plans

/-- The sink took a record of this decision about this envelope. -/
def Records (envelope : IntentEnvelope) (decision : Decision) (event : AgentEvent S C) : Prop :=
  ∃ source call record, event = ⟨.crossing source call (.emit record), .ok ()⟩ ∧
    IsAbout record envelope ∧ record.decision = decision

/-- An execution of the envelope was recorded, or a rewrite to it. -/
def Authorizes (envelope : IntentEnvelope) (event : AgentEvent S C) : Prop :=
  (∃ bases, Records envelope (.execute bases) event) ∨
    ∃ reason bases, Records envelope (.rewrite envelope reason bases) event

/-- An execution of a read under this name was recorded. -/
def AuthorizesRead (name : JsString) (event : AgentEvent S C) : Prop :=
  ∃ envelope bases, envelope.kind = name ∧ Records envelope (.execute bases) event

/-- The entry occurred, and the executor was not called since. -/
def Fresh (grants : AgentEvent S C → Prop) (seen : List (AgentEvent S C)) : Prop :=
  Since (fun event => ¬event.op.Invokes) grants seen

/-- A capability for the envelope was burned and verified, and not used since. -/
def Redeemed (envelope : IntentEnvelope) (seen : List (AgentEvent S C)) : Prop :=
  ∃ capability : Capability, capability.intentHash = envelope.intentHash ∧
    Fresh (· = ⟨.burnCapability envelope.nonce, .ok (some capability)⟩) seen ∧
    Fresh (· = ⟨.verifyCapability capability, .ok true⟩) seen

theorem derives_of_bound {host : Host} {envelope : IntentEnvelope}
    (bound : verifyResourceBinding host envelope = .bound) :
    deriveIntentHash host envelope = .ok envelope.intentHash := by
  rw [verifyResourceBinding] at bound
  cases derived : deriveIntentHash host envelope with
  | error raised =>
      rw [derived] at bound
      cases bound
  | ok hash =>
      rw [derived] at bound
      dsimp only at bound
      split at bound
      · next equal => rw [(timingSafeHexEqual_iff _ _).mp equal]
      · cases bound

/-- What has to have happened before the executor gets the envelope. -/
structure Justified (host : Host) (options : AdjudicatedAgentOptions S)
    (seen : List (AgentEvent S C)) (envelope : IntentEnvelope) : Prop where
  emitted : Fresh (Authorizes envelope) seen
  derives : deriveIntentHash host envelope = .ok envelope.intentHash
  redeemed : options.capabilityGate.isSome = true → Redeemed envelope seen

/-- This is the plan that the agent acts on. -/
def Planned (plan : PlanSnapshot) (seen : List (AgentEvent S C)) : Prop :=
  Since (fun event => ¬event.op.Plans)
    (fun event => ∃ state context, event = ⟨.plan state context, .ok plan⟩) seen

/-- What has to have happened before the executor serves a read of this name. -/
structure JustifiedRead (seen : List (AgentEvent S C)) (name : JsString) : Prop where
  visible : ∃ plan, Planned plan seen ∧ name ∈ plan.visibleReadTools
  emitted : Fresh (AuthorizesRead name) seen

def Audited (host : Host) (options : AdjudicatedAgentOptions S) (seen : List (AgentEvent S C))
    (event : AgentEvent S C) : Prop :=
  match event.op with
  | .invokeIntent envelope _ => Justified host options seen envelope
  | .invokeRead name _ _ => JustifiedRead seen name
  | _ => True

/-- The decision can be carried out, because its record is fresh. -/
def Covered (seen : List (AgentEvent S C)) (decision : Decision) (envelope : IntentEnvelope) :
    Prop :=
  match decision with
  | .execute bases => Fresh (Records envelope (.execute bases)) seen
  | .rewrite rewritten reason bases =>
      Fresh (Records rewritten (.rewrite rewritten reason bases)) seen
  | _ => True

/-- Only the planner can end what holds. -/
def Stable (kept : List (AgentEvent S C) → Prop) : Prop :=
  ∀ seen event, ¬event.op.Plans → kept seen → kept (seen ++ [event])

/-- Routine events do not end what holds. -/
def RoutineStable (kept : List (AgentEvent S C) → Prop) : Prop :=
  ∀ seen event, event.op.Routine → kept seen → kept (seen ++ [event])

theorem Stable.routine {kept : List (AgentEvent S C) → Prop} (stable : Stable kept) :
    RoutineStable kept := fun seen event routine => stable seen event routine.2

theorem RoutineStable.and {kept more : List (AgentEvent S C) → Prop} (first : RoutineStable kept)
    (second : RoutineStable more) : RoutineStable fun seen => kept seen ∧ more seen :=
  fun seen event routine both =>
    ⟨first seen event routine both.1, second seen event routine both.2⟩

theorem fresh_stable (grants : AgentEvent S C → Prop) : RoutineStable (Fresh grants) :=
  fun _ _ routine fresh => since_concat fresh routine.1

theorem planned_stable (plan : PlanSnapshot) :
    Stable (Planned plan : List (AgentEvent S C) → Prop) :=
  fun _ _ other planned => since_concat planned other

theorem covered_stable (decision : Decision) (envelope : IntentEnvelope) :
    RoutineStable fun seen : List (AgentEvent S C) => Covered seen decision envelope := by
  cases decision with
  | execute bases => exact fresh_stable _
  | rewrite rewritten reason bases => exact fresh_stable _
  | _ => exact fun _ _ _ _ => trivial

theorem RoutineStable.append {kept : List (AgentEvent S C) → Prop} (stable : RoutineStable kept)
    {seen later : List (AgentEvent S C)} (holds : kept seen)
    (routine : ∀ event ∈ later, event.op.Routine) : kept (seen ++ later) := by
  induction later generalizing seen with
  | nil => rwa [List.append_nil]
  | cons event later ih =>
      obtain ⟨own, rest⟩ := List.forall_mem_cons.mp routine
      rw [List.append_cons]
      exact ih (stable seen event own holds) rest

section

variable (host : Host) (options : AdjudicatedAgentOptions S)

theorem audited_of_routine {seen : List (AgentEvent S C)} {op : Op S C}
    {outcome : Except Thrown op.Response} (routine : op.Routine) :
    Audited host options seen ⟨op, outcome⟩ := by
  cases op with
  | invokeIntent envelope state => exact (routine.1 trivial).elim
  | invokeRead name input state => exact (routine.1 trivial).elim
  | _ => trivial

/-- The promise about a program of the agent, whose throws are not looked at. -/
abbrev Auditing {A : Type} (program : AgentProgram S C A)
    (post : A → List (AgentEvent S C) → Prop) (seen : List (AgentEvent S C)) : Prop :=
  (Contract.history (Audited host options)).wp program post (fun _ _ => True) seen

variable {host options} {kept : List (AgentEvent S C) → Prop} {seen : List (AgentEvent S C)}

/-- A routine program keeps what routine events do not end, however it ends. -/
theorem wp_routine {A : Type} {program : AgentProgram S C A} (stable : RoutineStable kept)
    (routine : Confined Op.Routine program) (holds : kept seen) :
    (Contract.history (Audited host options)).wp program (fun _ => kept) (fun _ => kept) seen := by
  apply wp_of_confined routine
  · rintro op calm outcome before _ start rfl
    exact ⟨audited_of_routine host options calm, stable before ⟨op, outcome⟩ calm start⟩
  · exact holds

theorem auditing_routine {A : Type} {program : AgentProgram S C A} (stable : RoutineStable kept)
    (routine : Confined Op.Routine program) (holds : kept seen) :
    Auditing host options program (fun _ => kept) seen :=
  wp_mono (wp_routine stable routine holds) (fun _ _ ended => ended) fun _ _ _ => trivial

theorem auditing_bind {A B : Type} {program : AgentProgram S C A} {next : A → AgentProgram S C B}
    {middle : A → List (AgentEvent S C) → Prop} {post : B → List (AgentEvent S C) → Prop}
    (first : Auditing host options program middle seen)
    (rest : ∀ value after, middle value after → Auditing host options (next value) post after) :
    Auditing host options (program >>= next) post seen :=
  wp_bind.mpr (wp_mono first rest fun _ _ _ => trivial)

theorem routine_cross (source : Crossing) (envelope : IntentEnvelope) (state : S)
    (policy : PolicyBundle S) (deps : AdjudicateAndAuditDeps) :
    Confined Op.Routine (cross host source envelope state policy deps : AgentProgram S C _) := by
  apply confined_bind (confined_perform ⟨id, id⟩)
  intro kill
  exact confined_lift _ fun op => ⟨id, id⟩

/-- A crossing that returns has just recorded its decision. -/
theorem auditing_cross (stable : RoutineStable kept) (holds : kept seen) (source : Crossing)
    (envelope : IntentEnvelope) (state : S) (policy : PolicyBundle S)
    (deps : AdjudicateAndAuditDeps) :
    Auditing host options (cross host source envelope state policy deps)
      (fun result after => kept after ∧ Covered after result.decision envelope) seen := by
  have calm := @routine_cross S C host source envelope state policy deps
  apply wp_of_runs
  · exact calm.mono fun op routine seen outcome => audited_of_routine host options routine
  · intro trace result run
    have routine := run.confined calm
    refine ⟨stable.append holds routine, ?_⟩
    obtain ⟨before, after, kill, rfl, -, lifted⟩ := runs_bind_ok.mp run
    obtain ⟨inner, rfl, crossed⟩ := runs_lift.mp lifted
    obtain ⟨decision, emitted⟩ := Shell.adjudicateAndAudit_recorded host _ crossed
    have about := Shell.adjudicateAndAudit_runsEnvelope host _ crossed
    have fresh {target : IntentEnvelope} {ruling : Decision} (same : result.decision = ruling)
        (subject : IsAbout result.record target) :
        Fresh (Records target ruling : AgentEvent S C → Prop)
          (seen ++ (before ++ inner.map (Event.lift (.crossing source _)))) := by
      apply since_of_mem (List.mem_append_right before (List.mem_map_of_mem emitted))
      · exact ⟨source, _, result.record, rfl, subject, decision.trans same⟩
      · exact fun event inside => (routine event inside).1
    cases ruling : result.decision with
    | execute bases =>
        rw [ruling] at about
        exact fresh ruling about
    | rewrite rewritten reason bases =>
        rw [ruling] at about
        exact fresh ruling about
    | _ => trivial
  · exact fun _ _ _ => trivial

/-- A redeemed capability was burned, verified and found to be bound to the envelope. -/
theorem auditing_redeemCapability (stable : RoutineStable kept) (holds : kept seen)
    (envelope : IntentEnvelope) :
    Auditing host options (redeemCapability envelope)
      (fun redeemed after => kept after ∧ (redeemed = true → Redeemed envelope after)) seen := by
  let burns (capability : Capability) : AgentEvent S C → Prop :=
    (· = ⟨.burnCapability envelope.nonce, .ok (some capability)⟩)
  let held (burned : Option Capability) (after : List (AgentEvent S C)) : Prop :=
    kept after ∧ ∀ capability ∈ burned, Fresh (burns capability) after
  have burning : Auditing host options
      (tryCatch (invoke (.burnCapability envelope.nonce)) fun _ => return none) held seen := by
    apply wp_tryCatch.mpr
    apply wp_perform.mpr
    rintro outcome _ rfl
    refine ⟨trivial, ?_⟩
    have kept' := stable seen ⟨.burnCapability envelope.nonce, outcome⟩ ⟨id, id⟩ holds
    cases outcome with
    | error raised =>
        exact ⟨kept', fun capability absent => absurd absent (Option.not_mem_none _)⟩
    | ok burned =>
        refine ⟨kept', ?_⟩
        rintro capability ⟨⟩
        exact since_last rfl
  apply auditing_bind burning
  · intro burned after ⟨still, fresh⟩
    cases burned with
    | none => exact ⟨still, nofun⟩
    | some capability =>
        have fresh := fresh capability rfl
        apply wp_bind.mpr
        apply wp_perform.mpr
        rintro outcome _ rfl
        refine ⟨trivial, ?_⟩
        have kept' := stable after ⟨.verifyCapability capability, outcome⟩ ⟨id, id⟩ still
        have fresh' := fresh_stable _ after ⟨.verifyCapability capability, outcome⟩ ⟨id, id⟩ fresh
        cases outcome with
        | error raised => trivial
        | ok verified =>
            cases verified with
            | false => exact ⟨kept', nofun⟩
            | true =>
                refine ⟨kept', fun bound => ?_⟩
                exact ⟨capability, (timingSafeHexEqual_iff _ _).mp bound, fresh', since_last rfl⟩

/-- The executor gets the envelope after the binding check and the capability gate. -/
theorem auditing_runExecute (enforced : options.bindingPolicy ≠ .off) (stable : Stable kept)
    (holds : kept seen) (args : TranslationArgs S) {envelope : IntentEnvelope}
    (rewriteReason : Option JsString) (fresh : Fresh (Authorizes envelope) seen) :
    Auditing host options (runExecute host options args envelope rewriteReason)
      (fun _ => kept) seen := by
  have invoked (after : List (AgentEvent S C)) (still : kept after)
      (justified : Justified host options after envelope) :
      Auditing host options (invokeBound args envelope rewriteReason) (fun _ => kept) after := by
    apply wp_tryCatch.mpr
    apply wp_bind.mpr
    apply wp_perform.mpr
    rintro outcome _ rfl
    refine ⟨justified, ?_⟩
    have kept' := stable after ⟨.invokeIntent envelope args.state, outcome⟩ id still
    cases outcome with
    | error raised => exact kept'
    | ok executorResult => exact kept'
  unfold runExecute
  split
  · exact holds
  · next checked =>
      have bound : verifyResourceBinding host envelope = .bound := by simpa [enforced] using checked
      have derives := derives_of_bound bound
      split
      · next gated =>
          apply auditing_bind
          · exact auditing_redeemCapability (stable.routine.and (fresh_stable _)) ⟨holds, fresh⟩ envelope
          · intro redeemed after ⟨⟨still, fresh⟩, redeems⟩
            cases redeemed with
            | false => exact still
            | true => exact invoked after still ⟨fresh, derives, fun _ => redeems rfl⟩
      · next ungated => exact invoked seen holds ⟨fresh, derives, fun gated => absurd gated ungated⟩

theorem routine_sendCommands (sessionId : JsString) (call : Runtime.Call) (count : Nat)
    (phase : Phase Unit) :
    Confined Op.Routine (sendCommands sessionId call count phase : AgentProgram S C _) := by
  induction count generalizing phase with
  | zero => trivial
  | succ count ih =>
      rw [sendCommands]
      split
      · trivial
      · apply confined_bind
        · apply confined_tryCatch (confined_perform ⟨id, id⟩)
          intro err
          split <;> trivial
        · exact ih

theorem routine_complete (sessionId : JsString) (call : Runtime.Call) :
    Confined Op.Routine (complete sessionId call : AgentProgram S C _) := by
  apply confined_bind (routine_sendCommands sessionId call 5 .start)
  intro phase
  split <;> trivial

theorem routine_requestConfirmation (args : TranslationArgs S) (prompt : JsString) :
    Confined Op.Routine (requestConfirmation args prompt : AgentProgram S C _) := by
  apply confined_bind (confined_perform ⟨id, id⟩)
  intro token
  apply confined_bind (confined_perform ⟨id, id⟩)
  intro _
  trivial

theorem routine_deferIntent (args : TranslationArgs S) (signal : JsString) (timeoutMs : JsNumber) :
    Confined Op.Routine (deferIntent options args signal timeoutMs : AgentProgram S C _) := by
  apply confined_bind (confined_perform ⟨id, id⟩)
  intro parkedAt
  apply confined_bind (routine_complete _ _)
  intro phase
  split <;> trivial

theorem routine_mintCapability (gate : CapabilityGate) (effective : IntentEnvelope) :
    Confined Op.Routine (mintCapability gate effective : AgentProgram S C _) := by
  apply confined_tryCatch
  · apply confined_bind (confined_perform ⟨id, id⟩)
    intro capability
    apply confined_bind (confined_perform ⟨id, id⟩)
    intro stored
    trivial
  · intro err
    trivial

theorem routine_mintCapabilityForDecision (gate : CapabilityGate) (decision : Decision)
    (envelope : IntentEnvelope) :
    Confined Op.Routine (mintCapabilityForDecision gate decision envelope : AgentProgram S C _) := by
  cases decision with
  | execute bases => exact routine_mintCapability gate envelope
  | rewrite rewritten reason bases => exact routine_mintCapability gate rewritten
  | _ => trivial

/-- A covered decision is carried out. -/
theorem auditing_translateDecision (enforced : options.bindingPolicy ≠ .off) (stable : Stable kept)
    (holds : kept seen) (args : TranslationArgs S)
    (covered : Covered seen args.decision args.envelope) :
    Auditing host options (translateDecision host options args) (fun _ => kept) seen := by
  rw [translateDecision]
  split
  · next bases decision =>
      rw [decision] at covered
      exact auditing_runExecute enforced stable holds args none
        (covered.mono fun event recorded => .inl ⟨bases, recorded⟩)
  · next rewritten reason bases decision =>
      rw [decision] at covered
      exact auditing_runExecute enforced stable holds args (some reason)
        (covered.mono fun event recorded => .inr ⟨reason, bases, recorded⟩)
  · exact holds
  · exact auditing_routine stable.routine (routine_requestConfirmation args _) holds
  · exact holds
  · exact auditing_routine stable.routine (routine_deferIntent args _ _) holds

theorem auditing_processSingleDecision (enforced : options.bindingPolicy ≠ .off)
    (stable : Stable kept) (holds : kept seen) (args : TranslationArgs S)
    (covered : Covered seen args.decision args.envelope) :
    Auditing host options (processSingleDecision host options args) (fun _ => kept) seen := by
  have translated (after : List (AgentEvent S C))
      (still : kept after ∧ Covered after args.decision args.envelope) :
      Auditing host options (translateDecision host options args) (fun _ => kept) after :=
    auditing_translateDecision enforced stable still.1 args still.2
  rw [processSingleDecision]
  split
  · next gate _ =>
      have minted := @auditing_routine S C host options _ seen Unit _
        (stable.routine.and (covered_stable args.decision args.envelope))
        (routine_mintCapabilityForDecision gate args.decision args.envelope) ⟨holds, covered⟩
      exact auditing_bind minted fun _ after still => translated after still
  · exact translated seen ⟨holds, covered⟩

theorem auditing_budgetSubstitution (stable : RoutineStable kept) (holds : kept seen)
    (budget : BudgetConfig) (envelope : IntentEnvelope) (state : S) (originalAt : JsString) :
    Auditing host options (tryBudgetSubstitution host options budget envelope state originalAt)
      (fun substituted after => kept after ∧
        ∀ decision ∈ substituted, Covered after decision envelope) seen := by
  have none (after : List (AgentEvent S C)) (still : kept after) :
      kept after ∧ ∀ decision ∈ (none : Option Decision), Covered after decision envelope :=
    ⟨still, fun decision absent => absurd absent (Option.not_mem_none _)⟩
  have resolving : Confined Op.Routine (resolveGrant envelope.kind : AgentProgram S C _) := by
    apply confined_bind
    · apply confined_tryCatch (confined_perform ⟨id, id⟩)
      intro err
      trivial
    · intro grant
      trivial
  apply auditing_bind (auditing_routine stable resolving holds)
  intro found after still
  cases found with
  | none => exact none after still
  | some grant =>
      have burning : Confined Op.Routine (runBudgetBurnDown options.rk budget grant :
          AgentProgram S C _) := by
        unfold runBudgetBurnDown
        split
        · apply confined_tryCatch
          · apply confined_bind (confined_perform ⟨id, id⟩)
            intro result
            trivial
          · intro err
            trivial
        · trivial
      apply auditing_bind (auditing_routine stable burning still)
      intro inBudget after still
      cases inBudget with
      | false => exact none after still
      | true =>
          apply auditing_bind (auditing_cross stable still .budget envelope state options.policy _)
          intro result after ⟨still, covered⟩
          refine ⟨still, ?_⟩
          rintro decision ⟨⟩
          exact covered

/-- The proposal is acted on with a decision whose record is fresh. -/
theorem auditing_adjudicateProposal (stable : RoutineStable kept) (holds : kept seen)
    (turn : Turn S C) (iteration : Nat) (envelope : IntentEnvelope) :
    Auditing host options (adjudicateProposal host options turn iteration envelope)
      (fun decision after => kept after ∧ Covered after decision envelope) seen := by
  apply auditing_bind (auditing_cross stable holds .intent envelope turn.state options.policy _)
  intro first after both
  have settled : Auditing host options (effectiveDecision host options envelope turn.state first)
      (fun decision after => kept after ∧ Covered after decision envelope) after := by
    unfold effectiveDecision
    split
    · next prompt bases budget asks _ =>
        apply auditing_bind (auditing_budgetSubstitution stable both.1 budget envelope _ _)
        intro substituted after ⟨still, covered⟩
        refine ⟨still, ?_⟩
        cases substituted with
        | none =>
            rw [Option.getD_none, asks]
            trivial
        | some decision => exact covered decision rfl
    · exact both
  apply auditing_bind settled
  intro decision after both
  have tracing : Confined Op.Routine (onTrace .decisionEmitted turn.sessionId iteration
      (some decision.kind) none : AgentProgram S C _) := confined_perform ⟨id, id⟩
  exact auditing_bind (auditing_routine (stable.and (covered_stable decision envelope)) tracing both)
    fun _ _ still => still

/-- The plan that the agent acts on shows a read of this name. -/
def Visible (name : JsString) (seen : List (AgentEvent S C)) : Prop :=
  ∃ plan, Planned plan seen ∧ name ∈ plan.visibleReadTools

theorem visible_stable (name : JsString) :
    Stable (Visible name : List (AgentEvent S C) → Prop) := by
  intro seen event other ⟨plan, planned, inside⟩
  exact ⟨plan, planned_stable plan seen event other planned, inside⟩

theorem auditing_serveRead (stable : Stable kept) (holds : kept seen) (toolUseId : JsString)
    {name : JsString} (input : JsValue) (state : S) (justified : JustifiedRead seen name) :
    Auditing host options (serveRead toolUseId name input state) (fun _ => kept) seen := by
  apply wp_tryCatch.mpr
  apply wp_bind.mpr
  apply wp_perform.mpr
  rintro outcome _ rfl
  refine ⟨justified, ?_⟩
  have kept' := stable seen ⟨.invokeRead name input state, outcome⟩ id holds
  cases outcome with
  | error raised => exact kept'
  | ok readResult => exact kept'

/-- A read is served under a visible name after its own execution was recorded. -/
theorem auditing_routeRead (stable : Stable kept) (holds : kept seen)
    (toolUseId sessionId : JsString) {name : JsString} (input : JsValue) (state : S)
    (nonce : JsString) (visible : Visible name seen) :
    Auditing host options
      (routeReadThroughKernel host options toolUseId sessionId name input state nonce)
      (fun _ => kept) seen := by
  have both := stable.routine.and (@visible_stable S C name).routine
  have clocked : Confined Op.Routine (invoke .now : AgentProgram S C _) := confined_perform ⟨id, id⟩
  apply auditing_bind (auditing_routine both clocked ⟨holds, visible⟩)
  intro clock after still
  apply wp_bind.mpr
  apply wp_ofExcept.mpr
  cases built : buildEnvelopeFromToolUse host clock _ with
  | error raised => trivial
  | ok envelope =>
      obtain ⟨fields, -, -⟩ := buildEnvelope_eq_ok.mp built
      have kind : envelope.kind = name := congrArg HashedFields.kind fields
      apply auditing_bind (auditing_cross both still .read envelope state _ _)
      intro result after ⟨⟨still, visible⟩, covered⟩
      split
      · next bases decision =>
          rw [decision] at covered
          have emitted : Fresh (AuthorizesRead name) after :=
            covered.mono fun event recorded => ⟨envelope, bases, kind, recorded⟩
          exact auditing_serveRead stable still toolUseId input state ⟨visible, emitted⟩
      · exact still
      · exact still

theorem routine_deriveNonce (sessionId toolUseId : JsString) (payload : JsValue) :
    Confined Op.Routine (deriveNonce options sessionId toolUseId payload : AgentProgram S C _) := by
  rw [deriveNonce]
  split
  · exact confined_perform ⟨id, id⟩
  · trivial

theorem routine_contaminate (sessionId : JsString) (served : Bool)
    (flag : Option SessionContamination) :
    Confined Op.Routine (contaminate options sessionId served flag : AgentProgram S C _) := by
  rw [contaminate]
  split
  · apply confined_bind
    · unfold writeBack
      split
      · apply confined_tryCatch (confined_perform ⟨id, id⟩)
        intro err
        trivial
      · trivial
    · intro _
      trivial
  · trivial

theorem auditing_processRead (stable : Stable kept) (holds : kept seen) (turn : Turn S C)
    (pass : Pass) (toolUseId : JsString) {name : JsString} (input : JsValue)
    (visible : Visible name seen) :
    Auditing host options (processRead host options turn pass toolUseId name input)
      (fun _ => kept) seen := by
  have both := stable.routine.and (@visible_stable S C name).routine
  apply auditing_bind (auditing_routine both (routine_deriveNonce _ _ _) ⟨holds, visible⟩)
  intro nonce after ⟨still, visible⟩
  apply auditing_bind (auditing_routeRead stable still _ _ _ _ _ visible)
  intro readRouted after still
  apply auditing_bind (auditing_routine stable.routine (routine_contaminate _ _ _) still)
  exact fun _ _ still => still

theorem auditing_processIntent (enforced : options.bindingPolicy ≠ .off) (stable : Stable kept)
    (holds : kept seen) (turn : Turn S C) (iteration : Nat) (history : History) (pass : Pass)
    (toolUseId intentKind : JsString) (payload : JsValue) :
    Auditing host options
      (processIntent host options turn iteration history pass toolUseId intentKind payload)
      (fun _ => kept) seen := by
  apply auditing_bind (auditing_routine stable.routine (routine_deriveNonce _ _ _) holds)
  intro nonce after still
  have clocked : Confined Op.Routine (invoke .now : AgentProgram S C _) := confined_perform ⟨id, id⟩
  apply auditing_bind (auditing_routine stable.routine clocked still)
  intro clock after still
  apply wp_bind.mpr
  apply wp_ofExcept.mpr
  cases built : buildEnvelopeFromToolUse host clock _ with
  | error raised => trivial
  | ok envelope =>
      apply auditing_bind (auditing_adjudicateProposal stable.routine still turn iteration envelope)
      intro decision after ⟨still, covered⟩
      apply auditing_bind (auditing_processSingleDecision enforced stable still _ covered)
      exact fun _ _ still => still

theorem auditing_processToolUse (enforced : options.bindingPolicy ≠ .off) (turn : Turn S C)
    (iteration : Nat) (history : History) {plan : PlanSnapshot} (planned : Planned plan seen)
    (pass : Pass) (toolUse : ToolUseRequest) :
    Auditing host options (processToolUse host options turn iteration history plan pass toolUse)
      (fun _ => Planned plan) seen := by
  rw [processToolUse]
  split
  · exact planned
  · split
    · exact planned
    · next name input read =>
        obtain ⟨inside, -⟩ := classifyIncomingToolUse_read read
        exact auditing_processRead (planned_stable plan) planned turn pass _ input
          ⟨plan, planned, inside⟩
    · exact auditing_processIntent enforced (planned_stable plan) planned turn iteration history
        pass _ _ _

theorem everywhere_stable : Stable fun _ : List (AgentEvent S C) => True :=
  fun _ _ _ _ => trivial

theorem auditing_runIteration (enforced : options.bindingPolicy ≠ .off) (turn : Turn S C)
    (iteration : Nat) (loop : LoopState) :
    Auditing host options (runIteration host options turn iteration loop)
      (fun _ _ => True) seen := by
  have free {A : Type} {program : AgentProgram S C A} {after : List (AgentEvent S C)}
      (routine : Confined Op.Routine program) :
      Auditing host options program (fun _ _ => True) after :=
    auditing_routine everywhere_stable.routine routine trivial
  have traced (phase : AdapterTracePhase) (kind : Option DecisionKind)
      (reason : Option AdapterPauseReason) : Confined Op.Routine
        (onTrace phase turn.sessionId iteration kind reason : AgentProgram S C _) :=
    confined_perform ⟨id, id⟩
  have resolved : Confined Op.Routine (resolveContext options turn : AgentProgram S C _) := by
    rw [resolveContext]
    split
    · apply confined_bind (confined_perform ⟨id, id⟩)
      intro memory
      exact confined_perform ⟨id, id⟩
    · trivial
  apply auditing_bind (free (traced _ _ _))
  intro _ after _
  apply auditing_bind (free resolved)
  intro effectiveContext after _
  apply wp_bind.mpr
  apply wp_perform.mpr
  rintro outcome _ rfl
  refine ⟨trivial, ?_⟩
  cases outcome with
  | error raised => trivial
  | ok plan =>
      have planned : Planned plan
          (after ++ [(⟨.plan turn.state effectiveContext, .ok plan⟩ : AgentEvent S C)]) :=
        since_last ⟨turn.state, effectiveContext, rfl⟩
      have rendering : Confined Op.Routine (invoke (.render turn.state effectiveContext plan) :
          AgentProgram S C _) := confined_perform ⟨id, id⟩
      apply auditing_bind (auditing_routine (planned_stable plan).routine rendering planned)
      intro rendered after planned
      have sending : Confined Op.Routine (invoke (.send loop.history rendered) :
          AgentProgram S C _) := confined_perform ⟨id, id⟩
      apply auditing_bind (auditing_routine (planned_stable plan).routine sending planned)
      intro sent after planned
      dsimp only
      split
      · exact auditing_bind (free (traced _ _ _)) fun _ _ _ => trivial
      · have swept : Auditing host options (sent.toolUses.foldlM (processToolUse host options turn
            iteration (Bridge.appendTurn loop.history sent) plan)
            ⟨[], none, loop.lastDecision, loop.contamination⟩) (fun _ => Planned plan) after := by
          apply wp_foldlM fun _ _ => Planned plan
          · intro _ toolUse _ _ pass state planned
            exact auditing_processToolUse enforced turn iteration _ planned pass toolUse
          · exact planned
        apply auditing_bind swept
        intro pass after _
        split
        · exact auditing_bind (free (traced _ _ _)) fun _ _ _ => trivial
        · trivial

theorem auditing_runIterations (enforced : options.bindingPolicy ≠ .off) (turn : Turn S C)
    (count : Nat) (loop : LoopState) :
    Auditing host options (runIterations host options turn count loop) (fun _ _ => True) seen := by
  induction count generalizing loop seen with
  | zero =>
      apply auditing_bind (auditing_routine everywhere_stable.routine
        (confined_perform ⟨id, id⟩) trivial)
      exact fun _ _ _ => trivial
  | succ count ih =>
      apply auditing_bind (auditing_runIteration enforced turn _ loop)
      intro result after _
      cases result with
      | inl result => trivial
      | inr loop => exact ih loop

theorem routine_checkConfigSeal (sessionId : JsString) :
    Confined Op.Routine (checkConfigSeal options sessionId : AgentProgram S C _) := by
  rw [checkConfigSeal]
  split
  · trivial
  · apply confined_bind (confined_perform ⟨id, id⟩)
    intro report
    split
    · trivial
    · split
      · apply confined_bind (confined_perform ⟨id, id⟩)
        intro _
        apply confined_bind (confined_perform ⟨id, id⟩)
        intro _
        trivial
      · apply confined_bind (confined_perform ⟨id, id⟩)
        intro _
        trivial

theorem routine_loadContamination (sessionId : JsString) :
    Confined Op.Routine (loadContamination options sessionId : AgentProgram S C _) := by
  rw [loadContamination]
  split
  · exact confined_perform ⟨id, id⟩
  · trivial

theorem routine_clearContamination (sessionId : JsString) :
    Confined Op.Routine (clearContamination options sessionId : AgentProgram S C _) := by
  rw [clearContamination]
  split
  · apply confined_tryCatch (confined_perform ⟨id, id⟩)
    intro err
    trivial
  · trivial

/-- A seed is carried out on the record of its own adjudication. -/
theorem auditing_runLoop (enforced : options.bindingPolicy ≠ .off) (turn : Turn S C)
    (initialHistory : History) (seedDecision : Option SeedDecision)
    (covered : ∀ seed ∈ seedDecision, Covered seen seed.decision seed.envelope) :
    Auditing host options (runLoop host options turn initialHistory seedDecision)
      (fun _ _ => True) seen := by
  have seeded : RoutineStable fun seen : List (AgentEvent S C) =>
      ∀ seed ∈ seedDecision, Covered seen seed.decision seed.envelope :=
    fun seen event routine each seed given =>
      covered_stable seed.decision seed.envelope seen event routine (each seed given)
  apply auditing_bind (auditing_routine seeded (routine_checkConfigSeal _) covered)
  intro sealResult after covered
  cases sealResult with
  | some refused => trivial
  | none =>
      apply auditing_bind (auditing_routine seeded (routine_loadContamination _) covered)
      intro contamination after covered
      cases seedDecision with
      | none => exact auditing_runIterations enforced turn _ _
      | some seed =>
          have spliced : Auditing host options (spliceSeed host options turn initialHistory seed)
              (fun _ _ => True) after :=
            auditing_bind (auditing_processSingleDecision enforced everywhere_stable trivial _
              (covered seed rfl)) fun _ _ _ => trivial
          apply auditing_bind spliced
          intro ⟨loopAction, history⟩ after _
          dsimp only
          split
          · trivial
          · exact auditing_runIterations enforced turn _ _

/-- No public call lets the executor run ahead of the audit trail. -/
theorem auditing_publicCall (enforced : options.bindingPolicy ≠ .off) (call : PublicCall S C) :
    Auditing host options (call.program host options) (fun _ _ => True) [] := by
  have free {A : Type} {program : AgentProgram S C A} {after : List (AgentEvent S C)}
      (routine : Confined Op.Routine program) :
      Auditing host options program (fun _ _ => True) after :=
    auditing_routine everywhere_stable.routine routine trivial
  have planning (state : S) (context : C) {after : List (AgentEvent S C)} :
      Auditing host options (invoke (.plan state context)) (fun _ _ => True) after := by
    apply wp_perform.mpr
    rintro outcome _ rfl
    exact ⟨trivial, by cases outcome <;> trivial⟩
  cases call with
  | send input =>
      exact auditing_runLoop enforced _ _ none fun seed absent =>
        absurd absent (Option.not_mem_none _)
  | resume args =>
      apply auditing_bind (free (routine_checkConfigSeal _))
      intro sealResult after _
      cases sealResult with
      | some refused => trivial
      | none =>
          have claiming : Confined Op.Routine (claimParked options args : AgentProgram S C _) := by
            apply confined_bind (routine_complete _ _)
            intro phase
            split <;> trivial
          apply auditing_bind (free claiming)
          intro held after _
          have adjudicated : Auditing host options (adjudicateResumed host options args held)
              (fun seed after => Covered after seed.decision seed.envelope) after := by
            apply auditing_bind (free (confined_perform ⟨id, id⟩))
            intro clock after _
            apply wp_bind.mpr
            apply wp_ofExcept.mpr
            cases resumedEnvelope host clock held.parked with
            | error raised => trivial
            | ok envelope =>
                apply auditing_bind (planning args.state args.context)
                intro plan after _
                exact auditing_bind (auditing_cross everywhere_stable.routine trivial .resume
                  envelope args.state options.policy _) fun _ _ both => both.2
          apply auditing_bind adjudicated
          intro seed after covered
          apply auditing_bind (auditing_routine (covered_stable seed.decision seed.envelope)
            (routine_clearContamination _) covered)
          intro _ after covered
          apply auditing_runLoop enforced
          rintro other ⟨⟩
          exact covered
  | confirm args =>
      have taking : Confined Op.Routine (takePending args : AgentProgram S C _) := by
        apply confined_bind (confined_perform ⟨id, id⟩)
        intro pending
        split <;> trivial
      apply auditing_bind (free taking)
      intro pending after _
      apply auditing_bind (free (routine_checkConfigSeal _))
      intro sealResult after _
      cases sealResult with
      | some refused => trivial
      | none =>
          apply wp_bind.mpr
          apply wp_ofExcept.mpr
          cases verifyPending host options args pending with
          | error raised => trivial
          | ok _ =>
              dsimp only [promised]
              split
              · trivial
              · have adjudicated : Auditing host options
                    (adjudicateConfirmed host options args pending)
                    (fun seed after => Covered after seed.decision seed.envelope) after := by
                  apply auditing_bind (planning args.state args.context)
                  intro plan after _
                  apply auditing_bind (free (confined_perform ⟨id, id⟩))
                  intro instant after _
                  exact auditing_bind (auditing_cross everywhere_stable.routine trivial .confirm
                    pending.envelope args.state options.policy _) fun _ _ both => both.2
                apply auditing_bind adjudicated
                intro seed after covered
                apply auditing_runLoop enforced
                rintro other ⟨⟩
                exact covered

end

/-- The entry entitles the executor to this call. -/
def Entitles (use grant : AgentEvent S C) : Prop :=
  match use.op with
  | .invokeIntent envelope _ => Authorizes envelope grant
  | .invokeRead name _ _ => AuthorizesRead name grant
  | _ => False

def Op.Executes : Op S C → Prop
  | .invokeIntent _ _ => True
  | _ => False

/-- The entry burns a capability that is bound to the executed envelope. -/
def Redeems (use grant : AgentEvent S C) : Prop :=
  match use.op with
  | .invokeIntent envelope _ => ∃ capability : Capability,
      capability.intentHash = envelope.intentHash ∧
        grant = ⟨.burnCapability envelope.nonce, .ok (some capability)⟩
  | _ => False

/-- Each used entry has a source before it, and no two share one. -/
def HasOwn (uses : AgentEvent S C → Prop) (grants : AgentEvent S C → AgentEvent S C → Prop)
    (events : List (AgentEvent S C)) : Prop :=
  ∃ source : Nat → Nat, Set.InjOn source {i | ∃ use, events[i]? = some use ∧ uses use} ∧
    ∀ i use, events[i]? = some use → uses use →
      source i < i ∧ ∃ grant, events[source i]? = some grant ∧ grants grant use

/-- Every call of the executor is justified by what happened before it, and no two calls share
an emission or a burned capability. -/
structure AuditedRun (host : Host) (options : AdjudicatedAgentOptions S)
    (events : List (AgentEvent S C)) : Prop where
  justified : ∀ early envelope state outcome late,
    events = early ++ ⟨.invokeIntent envelope state, outcome⟩ :: late →
      Justified host options early envelope
  justifiedRead : ∀ early name input state outcome late,
    events = early ++ ⟨.invokeRead name input state, outcome⟩ :: late → JustifiedRead early name
  ownEmission : HasOwn (·.op.Invokes) (fun grant use => Entitles use grant) events
  ownBurn : options.capabilityGate.isSome = true →
    HasOwn (·.op.Executes) (fun grant use => Redeems use grant) events

/-- In every run of every public call, what the executor gets was emitted first as an execution or
a rewrite of that envelope, and redeemed first where a capability gate is configured. -/
theorem executions_audited (host : Host) (options : AdjudicatedAgentOptions S)
    (enforced : options.bindingPolicy ≠ .off) (call : PublicCall S C)
    {events : List (AgentEvent S C)} {outcome : Except Thrown AgentTurnResult}
    (run : Runs (call.program host options) events outcome) : AuditedRun host options events := by
  obtain ⟨safe, -⟩ := wp_sound (auditing_publicCall enforced call) (executes_history run)
  have audited := allowed_of_leads safe
  simp only [List.nil_append] at audited
  refine ⟨?_, ?_, ?_, ?_⟩
  · exact fun early envelope state outcome late split => audited early _ late split
  · exact fun early name input state outcome late split => audited early _ late split
  · apply exists_ownGrants
    intro early use late split invokes
    have justified := audited early use late split
    obtain ⟨op, answer⟩ := use
    cases op with
    | invokeIntent envelope state => exact justified.emitted
    | invokeRead name input state => exact justified.emitted
    | _ => exact invokes.elim
  · intro gated
    apply exists_ownGrants
    intro early use late split executes
    have justified := audited early use late split
    obtain ⟨op, answer⟩ := use
    cases op with
    | invokeIntent envelope state =>
        obtain ⟨capability, bound, burned, -⟩ := justified.redeemed gated
        apply burned.imp
        · intro entry idle executed
          cases op : entry.op with
          | invokeIntent _ _ =>
              rw [op] at idle
              exact idle trivial
          | _ =>
              rw [op] at executed
              exact executed
        · exact fun entry same => ⟨capability, bound, same⟩
    | _ => exact executes.elim

/-- The model pays once and then closes the turn. -/
def payingTurn (history : History) : AssistantTurn :=
  if history.length = 1 then
    ⟨[], [⟨"n-1", "payment.send", .obj [("amount", .num 1)]⟩]⟩
  else ⟨["Paid."], []⟩

def payingPlan : PlanSnapshot := ⟨[], ["payment.send"]⟩

def payingCapability : Capability :=
  { intentHash := utf16 "1daba7c0306f6af2025d02a343346fb68d1df58b818fa16e1f9c1961b3edd90d"
    kernelId := "kernel://prod", signature := ⟨"k-1", "ed25519", "00"⟩ }

/-- Every dependency succeeds. -/
def payingResponse : (op : Op Unit Unit) → Except Thrown op.Response
  | .now => .ok (utf16 "2026-01-01T00:00:00.000Z")
  | .killSwitch => .ok Kernel.releasedKill
  | .verifyConfigSeal => .ok none
  | .engageKillSwitch _ => .ok ()
  | .onTrace _ => .ok ()
  | .readMemory _ => .ok .null
  | .enrichContext base _ => .ok base
  | .plan _ _ => .ok payingPlan
  | .render _ _ _ => .ok ⟨[], 1, []⟩
  | .send history _ => .ok (payingTurn history)
  | .deriveNonce _ toolUseId _ => .ok toolUseId
  | .crossing _ _ op => Shell.calmResponse op
  | .invokeRead _ _ _ => .ok .null
  | .invokeIntent _ _ => .ok .null
  | .generateToken => .ok (utf16 "t-1")
  | .putConfirmation _ _ => .ok ()
  | .takeConfirmation _ => .ok none
  | .redis _ _ phase => .ok phase
  | .getContamination _ => .ok none
  | .putContamination _ _ => .ok ()
  | .clearContamination _ => .ok ()
  | .mintCapability _ => .ok payingCapability
  | .storeCapability _ _ _ => .ok true
  | .burnCapability _ => .ok (some payingCapability)
  | .verifyCapability _ => .ok true
  | .resolveGrant _ => .ok none
  | .evalIncrCheck _ _ _ => .ok 1

def payingOptions : AdjudicatedAgentOptions Unit where
  policy := Shell.openPolicy []
  ledger := some ⟨true⟩
  runtimeContext := ⟨"tenant", true, none⟩
  deferStore := ⟨true, true, true⟩
  maxIterations := none
  rk := id
  deriveNonce := false
  memory := false
  configSeal := none
  verifyParkedHash := none
  resourceBindingPolicy := none
  capabilityGate := some ⟨"kernel://prod", none⟩
  budget := none
  contaminationEnabled := false
  contaminationStore := false

def payingCall : PublicCall Unit Unit := .send ⟨"s-1", "Pay one.", (), (), none⟩

def isExecution : Op Unit Unit → Bool
  | .invokeIntent _ _ => true
  | _ => false

theorem executions_audited_payingCall :
    ∃ events outcome, Runs (payingCall.program sampleHost payingOptions) events outcome ∧
      events.any (fun event => isExecution event.op) = true ∧
      AuditedRun sampleHost payingOptions events := by
  have run := runs_interpret payingResponse (payingCall.program sampleHost payingOptions)
  exact ⟨_, _, run, by decide +kernel,
    executions_audited sampleHost payingOptions (by decide) payingCall run⟩

end Adjudicate.Agent
