/-
This file shows which tool names resolve to one tool of a plan.
-/

import Adjudicate.Agent.Bridge

namespace Adjudicate.Agent

open Js Adjudicate.Core
open Adjudicate.Audit (PlanSnapshot)

/-- The name is the only advertised one that the incoming name may mean. -/
def OnlyMatch (incoming : JsString) (plan : PlanSnapshot) (name : JsString) : Prop :=
  ∀ other ∈ plan.visibleReadTools ++ plan.allowedIntents,
    matchesName incoming other = true → other = name

/-- A classification names a tool of its list that the incoming name means alone. -/
def Unambiguous (toolUse : ToolUseRequest) (plan : PlanSnapshot) : ToolUseClassification → Prop
  | .read name input =>
      name ∈ plan.visibleReadTools ∧ matchesName toolUse.name name = true ∧
        OnlyMatch toolUse.name plan name ∧ input = toolUse.input
  | .intent intentKind payload =>
      intentKind ∈ plan.allowedIntents ∧ matchesName toolUse.name intentKind = true ∧
        OnlyMatch toolUse.name plan intentKind ∧ payload = toolUse.input
  | .outOfPlan name => name = toolUse.name

/-- Two names of one list match and no name of the other list does. -/
def Splits (incoming : JsString) (own other : List JsString) : Prop :=
  (∃ first ∈ own, ∃ second ∈ own, first ≠ second ∧ matchesName incoming first = true ∧
    matchesName incoming second = true) ∧
  ∀ name ∈ other, matchesName incoming name = false

def Collides (incoming : JsString) (plan : PlanSnapshot) : Prop :=
  Splits incoming plan.visibleReadTools plan.allowedIntents ∨
    Splits incoming plan.allowedIntents plan.visibleReadTools

/-- The lists of the plans hold the same names. -/
structure Reordered (plan other : PlanSnapshot) : Prop where
  reads : plan.visibleReadTools.Perm other.visibleReadTools
  intents : plan.allowedIntents.Perm other.allowedIntents

section

variable {incoming : JsString} {own other : List JsString} {name : JsString}

theorem not_matches_of_find (silent : other.find? (matchesName incoming) = none) :
    ∀ candidate ∈ other, matchesName incoming candidate = false := by
  intro candidate inside
  exact Bool.not_eq_true _ ▸ List.find?_eq_none.mp silent candidate inside

theorem find_none_iff_perm {reordered : List JsString} (perm : own.Perm reordered) :
    own.find? (matchesName incoming) = none ↔ reordered.find? (matchesName incoming) = none := by
  simp only [List.find?_eq_none, perm.mem_iff]

/-- The first match is the only one exactly when its list does not split over the name. -/
theorem only_iff_not_splits (found : own.find? (matchesName incoming) = some name)
    (silent : ∀ candidate ∈ other, matchesName incoming candidate = false) :
    (∀ candidate, candidate ∈ own ∨ candidate ∈ other →
        matchesName incoming candidate = true → candidate = name) ↔
      ¬Splits incoming own other := by
  have inside := List.mem_of_find?_eq_some found
  have matched := List.find?_some found
  constructor
  · rintro only ⟨⟨first, inFirst, second, inSecond, apart, matchesFirst, matchesSecond⟩, -⟩
    apply apart
    rw [only first (.inl inFirst) matchesFirst, only second (.inl inSecond) matchesSecond]
  · intro whole candidate listed matchesToo
    by_contra apart
    cases listed with
    | inl listed =>
        exact whole ⟨⟨candidate, listed, name, inside, apart, matchesToo, matched⟩, silent⟩
    | inr listed => exact Bool.false_ne_true ((silent candidate listed).symm.trans matchesToo)

theorem not_splits_of_found (found : other.find? (matchesName incoming) = some name) :
    ¬Splits incoming own other := by
  rintro ⟨-, silent⟩
  have none := silent name (List.mem_of_find?_eq_some found)
  exact Bool.false_ne_true (none.symm.trans (List.find?_some found))

theorem not_splits_of_silent
    (silent : ∀ candidate ∈ own, matchesName incoming candidate = false) :
    ¬Splits incoming own other := by
  rintro ⟨⟨first, inside, -, -, -, matched, -⟩, -⟩
  exact Bool.false_ne_true ((silent first inside).symm.trans matched)

/-- A splitting list can be reordered so that another name comes first. -/
theorem exists_other_first (found : own.find? (matchesName incoming) = some name)
    (split : Splits incoming own other) :
    ∃ reordered second, own.Perm reordered ∧ second ≠ name ∧
      reordered.find? (matchesName incoming) = some second := by
  obtain ⟨⟨first, inFirst, second, inSecond, apart, matchesFirst, matchesSecond⟩, -⟩ := split
  have picks (choice : JsString) (inside : choice ∈ own) (matched : matchesName incoming choice = true)
      (differs : choice ≠ name) : ∃ reordered second, own.Perm reordered ∧ second ≠ name ∧
        reordered.find? (matchesName incoming) = some second :=
    ⟨choice :: own.erase choice, choice, List.perm_cons_erase inside, differs,
      List.find?_cons_of_pos matched⟩
  by_cases same : first = name
  · exact picks second inSecond matchesSecond fun again => apart (same.trans again.symm)
  · exact picks first inFirst matchesFirst same

end

section

variable {toolUse : ToolUseRequest} {plan : PlanSnapshot}

theorem unambiguous_iff :
    Unambiguous toolUse plan (classifyIncomingToolUse toolUse plan) ↔
      ¬Collides toolUse.name plan := by
  rw [classifyIncomingToolUse, Collides, not_or]
  split
  · next foundRead foundIntent =>
      exact iff_of_true rfl ⟨not_splits_of_found foundIntent, not_splits_of_found foundRead⟩
  · next name foundRead foundIntent =>
      have silent := not_matches_of_find foundIntent
      have only := only_iff_not_splits foundRead silent
      simp only [Unambiguous, OnlyMatch, List.mem_append, and_true]
      rw [only, and_iff_left (not_splits_of_silent silent),
        and_iff_right (List.find?_some foundRead),
        and_iff_right (List.mem_of_find?_eq_some foundRead)]
  · next intentKind foundRead foundIntent =>
      have silent := not_matches_of_find foundRead
      have only := only_iff_not_splits foundIntent silent
      simp only [Unambiguous, OnlyMatch, List.mem_append, and_true,
        @or_comm (_ ∈ plan.visibleReadTools)]
      rw [only, and_iff_right (not_splits_of_silent silent),
        and_iff_right (List.find?_some foundIntent),
        and_iff_right (List.mem_of_find?_eq_some foundIntent)]
  · next foundRead foundIntent =>
      exact iff_of_true rfl ⟨not_splits_of_silent (not_matches_of_find foundRead),
        not_splits_of_silent (not_matches_of_find foundIntent)⟩

theorem Reordered.symm {other : PlanSnapshot} (reordered : Reordered plan other) :
    Reordered other plan :=
  ⟨reordered.reads.symm, reordered.intents.symm⟩

/-- A first match that its list does not split over stays the first match. -/
theorem find_reordered {incoming : JsString} {own other reordered : List JsString} {name : JsString}
    (found : own.find? (matchesName incoming) = some name)
    (silent : ∀ candidate ∈ other, matchesName incoming candidate = false)
    (whole : ¬Splits incoming own other) (perm : own.Perm reordered) :
    reordered.find? (matchesName incoming) = some name := by
  cases again : reordered.find? (matchesName incoming) with
  | none => exact absurd ((find_none_iff_perm perm).mpr again) (by simp [found])
  | some second =>
      have inside := perm.mem_iff.mpr (List.mem_of_find?_eq_some again)
      rw [(only_iff_not_splits found silent).mpr whole second (.inl inside) (List.find?_some again)]

/-- Without a collision the order of the lists does not matter, and with one it does. -/
theorem classify_reordered_iff :
    (∀ other, Reordered plan other →
        classifyIncomingToolUse toolUse other = classifyIncomingToolUse toolUse plan) ↔
      ¬Collides toolUse.name plan := by
  constructor
  · rintro steady (splits | splits)
    · cases found : plan.visibleReadTools.find? (matchesName toolUse.name) with
      | none => exact not_splits_of_silent (not_matches_of_find found) splits
      | some name =>
          obtain ⟨reordered, second, perm, differs, first⟩ := exists_other_first found splits
          have none : plan.allowedIntents.find? (matchesName toolUse.name) = none :=
            List.find?_eq_none.mpr fun candidate inside => by simp [splits.2 candidate inside]
          have same := steady ⟨reordered, plan.allowedIntents⟩ ⟨perm, .refl _⟩
          simp only [classifyIncomingToolUse, first, found, none] at same
          cases same
          exact differs rfl
    · cases found : plan.allowedIntents.find? (matchesName toolUse.name) with
      | none => exact not_splits_of_silent (not_matches_of_find found) splits
      | some name =>
          obtain ⟨reordered, second, perm, differs, first⟩ := exists_other_first found splits
          have none : plan.visibleReadTools.find? (matchesName toolUse.name) = none :=
            List.find?_eq_none.mpr fun candidate inside => by simp [splits.2 candidate inside]
          have same := steady ⟨plan.visibleReadTools, reordered⟩ ⟨.refl _, perm⟩
          simp only [classifyIncomingToolUse, first, found, none] at same
          cases same
          exact differs rfl
  · intro apart other reordered
    rw [Collides, not_or] at apart
    have reads := @find_none_iff_perm toolUse.name _ _ reordered.reads
    have intents := @find_none_iff_perm toolUse.name _ _ reordered.intents
    rw [classifyIncomingToolUse, classifyIncomingToolUse]
    cases foundRead : plan.visibleReadTools.find? (matchesName toolUse.name) with
    | none =>
        rw [reads.mp foundRead]
        cases foundIntent : plan.allowedIntents.find? (matchesName toolUse.name) with
        | none => rw [intents.mp foundIntent]
        | some intentKind =>
            rw [find_reordered foundIntent (not_matches_of_find foundRead) apart.2 reordered.intents]
    | some name =>
        cases foundIntent : plan.allowedIntents.find? (matchesName toolUse.name) with
        | none =>
            rw [intents.mp foundIntent,
              find_reordered foundRead (not_matches_of_find foundIntent) apart.1 reordered.reads]
        | some intentKind =>
            -- Both lists match in either order.
            cases againRead : other.visibleReadTools.find? (matchesName toolUse.name) with
            | none => exact absurd (reads.mpr againRead) (by simp [foundRead])
            | some read =>
                cases againIntent : other.allowedIntents.find? (matchesName toolUse.name) with
                | none => exact absurd (intents.mpr againIntent) (by simp [foundIntent])
                | some intent => rfl

end

section Wire

theorem intentKindToApiName_idem (name : JsString) :
    intentKindToApiName (intentKindToApiName name) = intentKindToApiName name := by
  rw [intentKindToApiName, intentKindToApiName, List.map_map]
  apply List.map_congr_left
  intro unit _
  rw [Function.comp_apply]
  split <;> simp_all

/-- Under a wire name only the tools with that wire name match. -/
theorem matchesName_wire (name other : JsString) :
    matchesName (intentKindToApiName name) other = true ↔
      intentKindToApiName other = intentKindToApiName name := by
  simp only [matchesName, Bool.or_eq_true, beq_iff_eq, or_iff_right_iff_imp]
  rintro rfl
  exact intentKindToApiName_idem name

theorem find_wire {own : List JsString} {name : JsString}
    (distinct : ∀ other ∈ own, intentKindToApiName other = intentKindToApiName name → other = name)
    (inside : name ∈ own) :
    own.find? (matchesName (intentKindToApiName name)) = some name := by
  cases found : own.find? (matchesName (intentKindToApiName name)) with
  | none =>
      exact absurd ((matchesName_wire name name).mpr rfl) (List.find?_eq_none.mp found name inside)
  | some other =>
      rw [distinct other (List.mem_of_find?_eq_some found)
        ((matchesName_wire name other).mp (List.find?_some found))]

theorem find_wire_none {own : List JsString} {name : JsString}
    (absent : ∀ other ∈ own, intentKindToApiName other ≠ intentKindToApiName name) :
    own.find? (matchesName (intentKindToApiName name)) = none :=
  List.find?_eq_none.mpr fun other inside matched =>
    absent other inside ((matchesName_wire name other).mp matched)

/-- In a plan with distinct wire names every advertised tool is found under its wire name. -/
theorem classify_wire {plan : PlanSnapshot}
    (distinct : ((plan.visibleReadTools ++ plan.allowedIntents).map intentKindToApiName).Nodup)
    (id : JsString) (input : JsValue) :
    (∀ name ∈ plan.visibleReadTools,
        classifyIncomingToolUse ⟨id, intentKindToApiName name, input⟩ plan = .read name input) ∧
      ∀ intentKind ∈ plan.allowedIntents,
        classifyIncomingToolUse ⟨id, intentKindToApiName intentKind, input⟩ plan =
          .intent intentKind input := by
  rw [List.map_append, List.nodup_append] at distinct
  obtain ⟨reads, intents, apart⟩ := distinct
  have crosses {read intent : JsString} (inReads : read ∈ plan.visibleReadTools)
      (inIntents : intent ∈ plan.allowedIntents) :
      intentKindToApiName read ≠ intentKindToApiName intent :=
    apart _ (List.mem_map_of_mem inReads) _ (List.mem_map_of_mem inIntents)
  constructor
  · intro name inside
    have found := find_wire (fun other listed same => List.inj_on_of_nodup_map reads listed inside same)
      inside
    have silent := find_wire_none fun other listed => (crosses inside listed).symm
    simp only [classifyIncomingToolUse, found, silent]
  · intro intentKind inside
    have found := find_wire
      (fun other listed same => List.inj_on_of_nodup_map intents listed inside same) inside
    have silent := find_wire_none fun other listed => crosses listed inside
    simp only [classifyIncomingToolUse, found, silent]

end Wire

/-- A name resolves to one tool in any order of the plan exactly when no list holds two names for
it alone, and distinct wire names resolve to their own tools. -/
theorem classifyIncomingToolUse_unambiguous_iff (plan : PlanSnapshot) :
    (∀ toolUse, Unambiguous toolUse plan (classifyIncomingToolUse toolUse plan) ∧
        (∀ other, Reordered plan other →
          classifyIncomingToolUse toolUse other = classifyIncomingToolUse toolUse plan) ↔
      ¬Collides toolUse.name plan) ∧
    (((plan.visibleReadTools ++ plan.allowedIntents).map intentKindToApiName).Nodup →
      ∀ id input,
        (∀ name ∈ plan.visibleReadTools,
          classifyIncomingToolUse ⟨id, intentKindToApiName name, input⟩ plan = .read name input) ∧
        ∀ intentKind ∈ plan.allowedIntents,
          classifyIncomingToolUse ⟨id, intentKindToApiName intentKind, input⟩ plan =
            .intent intentKind input) := by
  constructor
  · intro toolUse
    rw [unambiguous_iff, classify_reordered_iff, and_self]
  · exact classify_wire

def paymentPlan : PlanSnapshot where
  visibleReadTools := ["orders.list"]
  allowedIntents := ["payment.send"]

theorem classifyIncomingToolUse_unambiguous_iff_paymentPlan :
    classifyIncomingToolUse ⟨"t-1", "orders_list", .null⟩ paymentPlan =
        .read "orders.list" .null ∧
      (Unambiguous ⟨"t-1", "orders_list", .null⟩ paymentPlan
          (classifyIncomingToolUse ⟨"t-1", "orders_list", .null⟩ paymentPlan) ∧
        (∀ other, Reordered paymentPlan other →
          classifyIncomingToolUse ⟨"t-1", "orders_list", .null⟩ other =
            classifyIncomingToolUse ⟨"t-1", "orders_list", .null⟩ paymentPlan) ↔
        ¬Collides "orders_list" paymentPlan) := by
  obtain ⟨resolved, wired⟩ := classifyIncomingToolUse_unambiguous_iff paymentPlan
  refine ⟨?_, resolved ⟨"t-1", "orders_list", .null⟩⟩
  exact (wired (by decide) "t-1" .null).1 "orders.list" (by decide)

/-- Two read tools share a wire name. -/
def collidingPlan : PlanSnapshot where
  visibleReadTools := ["orders.list", "orders_list"]
  allowedIntents := []

/-- The first of two read tools is taken, so the order of the plan decides. -/
theorem collidingPlan_ambiguous :
    classifyIncomingToolUse ⟨"t-1", "orders_list", .null⟩ collidingPlan =
        .read "orders.list" .null ∧
      classifyIncomingToolUse ⟨"t-1", "orders_list", .null⟩
        ⟨["orders_list", "orders.list"], []⟩ = .read "orders_list" .null ∧
      ¬Unambiguous ⟨"t-1", "orders_list", .null⟩ collidingPlan
        (classifyIncomingToolUse ⟨"t-1", "orders_list", .null⟩ collidingPlan) := by
  refine ⟨rfl, rfl, ?_⟩
  intro resolved
  have same := resolved.2.2.1 "orders_list" (by decide) (by decide)
  exact absurd same (by decide)

end Adjudicate.Agent
