/-
This file models the taints of payload fields and shows which of them reach the taint gate.
-/

import Adjudicate.Core.Taint

namespace Adjudicate.Core
open Js

/-- An empty list has nothing untrusted in it. -/
def meetAll : List Taint → Taint
  | [] => .system
  | taint :: taints => taints.foldl mergeTaint taint

def taintNamed (text : JsString) : Option Taint :=
  if text = Taint.system.text then some .system
  else if text = Taint.trusted.text then some .trusted
  else if text = Taint.untrusted.text then some .untrusted
  else none

/-- The taint of a tainted value: an object with a `value` and one of the three taints. -/
def taintOf (props : Props JsValue) : Option Taint :=
  if utf16 "value" ∈ keys props then
    match props.lookup (utf16 "taint") with
    | some (.str text) => taintNamed text
    | _ => none
  else none

mutual

/-- A tainted value is followed into its `value` only. -/
def collectFieldTaints : JsValue → List Taint
  | .arr items => collectItems items
  | .obj props =>
      match taintOf props with
      | some taint => taint :: ((collectEntries props).lookup (utf16 "value")).getD []
      | none => (enumerate (collectEntries props)).flatMap Prod.snd
  | _ => []

def collectItems : List JsValue → List Taint
  | [] => []
  | item :: items => collectFieldTaints item ++ collectItems items

def collectEntries : Props JsValue → Props (List Taint)
  | [] => []
  | (key, value) :: props => (key, collectFieldTaints value) :: collectEntries props

end

def canProposeFieldLevel (envelopeTaint : Taint) (intentKind : JsString) (policy : TaintPolicy)
    (payload : JsValue) : Except Thrown Bool :=
  let fieldTaints := collectFieldTaints payload
  if fieldTaints.length = 0 then canPropose envelopeTaint intentKind policy
  else canPropose (meetAll (envelopeTaint :: fieldTaints)) intentKind policy

/-- A tainted value with the taint occurs at some depth. -/
inductive Occurs (taint : Taint) : JsValue → Prop
  | here {props : Props JsValue} (wrapped : taintOf props = some taint) : Occurs taint (.obj props)
  | item {items : List JsValue} {item : JsValue} (inside : item ∈ items) (deeper : Occurs taint item) :
      Occurs taint (.arr items)
  | prop {props : Props JsValue} {property : JsString × JsValue} (inside : property ∈ props)
      (deeper : Occurs taint property.2) : Occurs taint (.obj props)

/-- The occurrence is outside every further property of a tainted value. -/
inductive Visited (taint : Taint) : JsValue → Prop
  | here {props : Props JsValue} (wrapped : taintOf props = some taint) : Visited taint (.obj props)
  | item {items : List JsValue} {item : JsValue} (inside : item ∈ items)
      (deeper : Visited taint item) : Visited taint (.arr items)
  | prop {props : Props JsValue} {property : JsString × JsValue} (plain : taintOf props = none)
      (inside : property ∈ props) (deeper : Visited taint property.2) : Visited taint (.obj props)
  | value {props : Props JsValue} {own : Taint} {value : JsValue} (wrapped : taintOf props = some own)
      (held : props.lookup (utf16 "value") = some value) (deeper : Visited taint value) :
      Visited taint (.obj props)

/-- The occurrence lies in a further property of a tainted value. -/
inductive Hidden (taint : Taint) : JsValue → Prop
  | further {props : Props JsValue} {own : Taint} {property : JsString × JsValue}
      (wrapped : taintOf props = some own) (inside : property ∈ props)
      (unread : property.1 = utf16 "value" → props.lookup (utf16 "value") ≠ some property.2)
      (deeper : Occurs taint property.2) : Hidden taint (.obj props)
  | item {items : List JsValue} {item : JsValue} (inside : item ∈ items)
      (deeper : Hidden taint item) : Hidden taint (.arr items)
  | prop {props : Props JsValue} {property : JsString × JsValue} (inside : property ∈ props)
      (deeper : Hidden taint property.2) : Hidden taint (.obj props)

theorem Visited.occurs {taint : Taint} {payload : JsValue} (visited : Visited taint payload) :
    Occurs taint payload := by
  induction visited with
  | here wrapped => exact .here wrapped
  | item inside _ deeper => exact .item inside deeper
  | prop _ inside _ deeper => exact .prop inside deeper
  | value _ held _ deeper => exact .prop (mem_of_lookup held) deeper

theorem Hidden.occurs {taint : Taint} {payload : JsValue} (hidden : Hidden taint payload) :
    Occurs taint payload := by
  induction hidden with
  | further _ inside _ deeper => exact .prop inside deeper
  | item inside _ deeper => exact .item inside deeper
  | prop inside _ deeper => exact .prop inside deeper

/-- Every occurrence is visited or hidden. -/
theorem Occurs.visited_or_hidden {taint : Taint} {payload : JsValue}
    (occurs : Occurs taint payload) : Visited taint payload ∨ Hidden taint payload := by
  induction occurs with
  | here wrapped => exact .inl (.here wrapped)
  | item inside _ deeper => exact deeper.imp (.item inside) (.item inside)
  | @prop props property inside occurs deeper =>
      cases wrapped : taintOf props with
      | none => exact deeper.imp (.prop wrapped inside) (.prop inside)
      | some own =>
          by_cases read : property.1 = utf16 "value" ∧
              props.lookup (utf16 "value") = some property.2
          · exact deeper.imp (.value wrapped read.2) (.prop inside)
          · exact .inr (.further wrapped inside (not_and.mp read) occurs)

section Collect

theorem mem_collectItems {taint : Taint} {items : List JsValue} :
    taint ∈ collectItems items ↔ ∃ item ∈ items, taint ∈ collectFieldTaints item := by
  induction items with
  | nil => simp [collectItems]
  | cons item items ih => simp [collectItems, ih]

theorem collectEntries_eq (props : Props JsValue) :
    collectEntries props = mapValues collectFieldTaints props := by
  induction props with
  | nil => rfl
  | cons property props ih =>
      rw [collectEntries, ih]
      rfl

/-- The walk collects the taints that it visits. -/
theorem mem_collectFieldTaints {taint : Taint} {payload : JsValue} :
    taint ∈ collectFieldTaints payload ↔ Visited taint payload := by
  induction payload with
  | undefined | null => exact iff_of_false List.not_mem_nil nofun
  | bool | num | str => exact iff_of_false List.not_mem_nil nofun
  | arr items ih =>
      rw [collectFieldTaints, mem_collectItems]
      constructor
      · rintro ⟨item, inside, collected⟩
        exact .item inside ((ih item inside).mp collected)
      · rintro (_ | ⟨inside, deeper⟩)
        exact ⟨_, inside, (ih _ inside).mpr deeper⟩
  | obj props ih =>
      rw [collectFieldTaints, collectEntries_eq]
      cases wrapped : taintOf props with
      | some own =>
          simp only [List.mem_cons, lookup_mapValues]
          constructor
          · rintro (rfl | collected)
            · exact .here wrapped
            · cases held : props.lookup (utf16 "value") with
              | none =>
                  rw [held] at collected
                  exact absurd collected List.not_mem_nil
              | some value =>
                  rw [held] at collected
                  exact .value wrapped held ((ih _ (mem_of_lookup held)).mp collected)
          · intro visited
            cases visited with
            | here again => exact .inl (Option.some.inj (again.symm.trans wrapped))
            | prop plain => cases plain.symm.trans wrapped
            | value again held deeper =>
                right
                rw [held]
                exact (ih _ (mem_of_lookup held)).mpr deeper
      | none =>
          simp only [List.mem_flatMap, (enumerate_perm _).mem_iff, mapValues, List.mem_map]
          constructor
          · rintro ⟨_, ⟨property, inside, rfl⟩, collected⟩
            exact .prop wrapped inside ((ih property inside).mp collected)
          · intro visited
            cases visited with
            | here again => cases again.symm.trans wrapped
            | prop plain inside deeper =>
                exact ⟨_, ⟨_, inside, rfl⟩, (ih _ inside).mpr deeper⟩
            | value again => cases again.symm.trans wrapped

end Collect

section Gate

variable {envelopeTaint : Taint} {intentKind : JsString} {policy : TaintPolicy} {payload : JsValue}

theorem le_mergeTaint {floor : Nat} {left right : Taint} :
    floor ≤ taintRank (mergeTaint left right) ↔ floor ≤ taintRank left ∧ floor ≤ taintRank right := by
  rw [mergeTaint]
  split
  · next below => exact ⟨fun reached => ⟨reached, reached.trans below⟩, And.left⟩
  · next above =>
      have below := Nat.le_of_not_le above
      exact ⟨fun reached => ⟨reached.trans below, reached⟩, And.right⟩

theorem le_meetAll {floor : Nat} (taint : Taint) (taints : List Taint) :
    floor ≤ taintRank (meetAll (taint :: taints)) ↔
      floor ≤ taintRank taint ∧ ∀ other ∈ taints, floor ≤ taintRank other := by
  rw [meetAll]
  induction taints generalizing taint with
  | nil => simp
  | cons next taints ih => rw [List.foldl_cons, ih, le_mergeTaint, List.forall_mem_cons, and_assoc]

theorem canPropose_iff {taint : Taint} :
    canPropose taint intentKind policy = .ok true ↔
      ∃ required, policy.minimumFor intentKind = .ok required ∧
        taintRank required ≤ taintRank taint := by
  rw [canPropose, bind_eq_ok]
  refine exists_congr fun required => and_congr_right fun _ => ?_
  show Except.ok (decide (taintRank taint ≥ taintRank required)) = .ok true ↔ _
  rw [Except.ok.injEq, decide_eq_true_eq]

/-- The gate asks for the envelope and for every taint that the walk visits. -/
theorem canProposeFieldLevel_iff_visited :
    canProposeFieldLevel envelopeTaint intentKind policy payload = .ok true ↔
      ∃ required, policy.minimumFor intentKind = .ok required ∧
        taintRank required ≤ taintRank envelopeTaint ∧
        ∀ taint, Visited taint payload → taintRank required ≤ taintRank taint := by
  simp only [← mem_collectFieldTaints]
  unfold canProposeFieldLevel
  dsimp only
  split
  · next empty =>
      rw [canPropose_iff, List.length_eq_zero_iff.mp empty]
      simp
  · rw [canPropose_iff]
    refine exists_congr fun required => and_congr_right fun _ => ?_
    rw [le_meetAll]

end Gate

/-- A further property of some tainted value is below the minimum that everything else meets. -/
def Masked (envelopeTaint : Taint) (intentKind : JsString) (policy : TaintPolicy)
    (payload : JsValue) : Prop :=
  ∃ required, policy.minimumFor intentKind = .ok required ∧
    taintRank required ≤ taintRank envelopeTaint ∧
    (∀ taint, Visited taint payload → taintRank required ≤ taintRank taint) ∧
    ∃ taint, Hidden taint payload ∧ taintRank taint < taintRank required

/-- The envelope taint and every tainted value at any depth reach the minimum. -/
def Meets (envelopeTaint : Taint) (intentKind : JsString) (policy : TaintPolicy)
    (payload : JsValue) : Prop :=
  ∃ required, policy.minimumFor intentKind = .ok required ∧
    taintRank required ≤ taintRank envelopeTaint ∧
    ∀ taint, Occurs taint payload → taintRank required ≤ taintRank taint

def tainted (value : JsValue) (taint : Taint) : JsValue :=
  .obj [("value", value), ("taint", .str taint.text)]

/-- A tainted value is added somewhere, or the taint of one is lowered. -/
inductive Marked : JsValue → JsValue → Prop
  | wrap (value : JsValue) (taint : Taint) : Marked value (tainted value taint)
  | lower {props : Props JsValue} {own lower : Taint} (wrapped : taintOf props = some own)
      (below : taintRank lower ≤ taintRank own) :
      Marked (.obj props) (.obj (setOwn props "taint" (.str lower.text)))
  | addItem (front back : List JsValue) (value : JsValue) (taint : Taint) :
      Marked (.arr (front ++ back)) (.arr (front ++ tainted value taint :: back))
  | addProp {props : Props JsValue} {key : JsString} (fresh : key ∉ keys props) (value : JsValue)
      (taint : Taint) : Marked (.obj props) (.obj (props ++ [(key, tainted value taint)]))
  | item (front back : List JsValue) {before after : JsValue} (deeper : Marked before after) :
      Marked (.arr (front ++ before :: back)) (.arr (front ++ after :: back))
  | prop (front back : Props JsValue) {key : JsString} {before after : JsValue}
      (apart : taintOf (front ++ (key, before) :: back) = none ∨ key ≠ utf16 "taint")
      (deeper : Marked before after) :
      Marked (.obj (front ++ (key, before) :: back)) (.obj (front ++ (key, after) :: back))

section Marked

theorem taintNamed_text (taint : Taint) : taintNamed taint.text = some taint := by
  cases taint <;> decide

theorem taintOf_eq_some {props : Props JsValue} {taint : Taint} :
    taintOf props = some taint ↔ utf16 "value" ∈ keys props ∧
      ∃ text, props.lookup (utf16 "taint") = some (.str text) ∧ taintNamed text = some taint := by
  unfold taintOf
  split
  · next present =>
      rw [and_iff_right present]
      split
      · next text held => simp [held]
      · next other =>
          refine iff_of_false nofun ?_
          rintro ⟨text, held, -⟩
          exact other text held
  · next absent => exact iff_of_false nofun fun wrapped => absent wrapped.1

theorem mem_setOwn_of_mem {props : Props JsValue} {property : JsString × JsValue}
    (inside : property ∈ props) (key : JsString) (value : JsValue) :
    property ∈ setOwn props key value ∨
      property.1 = key ∧ props.lookup key = some property.2 := by
  induction props with
  | nil => cases inside
  | cons first rest ih =>
      obtain ⟨name, old⟩ := first
      rw [setOwn, lookup_cons_if]
      cases List.mem_cons.mp inside with
      | inl same =>
          subst same
          by_cases replaced : name = key
          · exact .inr ⟨replaced, if_pos replaced.symm⟩
          · rw [if_neg replaced]
            exact .inl List.mem_cons_self
      | inr later =>
          by_cases replaced : name = key
          · rw [if_pos replaced]
            exact .inl (List.mem_cons_of_mem _ later)
          · rw [if_neg replaced, if_neg (Ne.symm replaced)]
            exact (ih later).imp_left (List.mem_cons_of_mem _)

theorem taintOf_lower {props : Props JsValue} {own : Taint} (wrapped : taintOf props = some own)
    (lower : Taint) : taintOf (setOwn props "taint" (.str lower.text)) = some lower := by
  have present := (taintOf_eq_some.mp wrapped).1
  have differ : utf16 "value" ≠ utf16 "taint" := by decide
  rw [taintOf_eq_some]
  refine ⟨?_, lower.text, ?_, taintNamed_text lower⟩
  · by_contra absent
    rw [← lookup_eq_none, lookup_setOwn, if_neg differ, lookup_eq_none] at absent
    exact absent present
  · rw [lookup_setOwn, if_pos rfl]

theorem taintOf_append {props : Props JsValue} {own : Taint} (wrapped : taintOf props = some own)
    (added : Props JsValue) : taintOf (props ++ added) = some own := by
  obtain ⟨present, text, held, named⟩ := taintOf_eq_some.mp wrapped
  rw [taintOf_eq_some]
  refine ⟨?_, text, ?_, named⟩
  · rw [keys, List.map_append]
    exact List.mem_append_left _ present
  · rw [List.lookup_append, held]
    rfl

theorem taintOf_replace {front back : Props JsValue} {key : JsString} {before after : JsValue}
    (apart : key ≠ utf16 "taint") :
    taintOf (front ++ (key, after) :: back) = taintOf (front ++ (key, before) :: back) := by
  have sameKeys : keys (front ++ (key, after) :: back) = keys (front ++ (key, before) :: back) := by
    simp [keys]
  have sameTaint : (front ++ (key, after) :: back).lookup (utf16 "taint") =
      (front ++ (key, before) :: back).lookup (utf16 "taint") := by
    rw [List.lookup_append, List.lookup_append, lookup_cons_if, lookup_cons_if,
      if_neg (Ne.symm apart), if_neg (Ne.symm apart)]
  rw [taintOf, taintOf, sameKeys, sameTaint]

/-- Marking a payload loses no taint but those that it lowers. -/
theorem Marked.occurs {before after : JsValue} (marked : Marked before after) :
    ∀ taint, Occurs taint before →
      ∃ lower, Occurs lower after ∧ taintRank lower ≤ taintRank taint := by
  induction marked with
  | wrap value own =>
      intro taint occurs
      exact ⟨taint, .prop List.mem_cons_self occurs, le_rfl⟩
  | @lower props own lower wrapped below =>
      intro taint occurs
      cases occurs with
      | here again =>
          cases again.symm.trans wrapped
          exact ⟨lower, .here (taintOf_lower wrapped lower), below⟩
      | @prop _ property inside deeper =>
          cases mem_setOwn_of_mem inside "taint" (.str lower.text) with
          | inl kept => exact ⟨taint, .prop kept deeper, le_rfl⟩
          | inr replaced =>
              obtain ⟨-, text, held, -⟩ := taintOf_eq_some.mp wrapped
              rw [Option.some.inj (replaced.2.symm.trans held)] at deeper
              cases deeper
  | addItem front back value own =>
      intro taint occurs
      cases occurs with
      | item inside deeper =>
          refine ⟨taint, .item ?_ deeper, le_rfl⟩
          rw [List.mem_append] at inside ⊢
          exact inside.imp_right (List.mem_cons_of_mem _)
  | addProp fresh value own =>
      intro taint occurs
      cases occurs with
      | here wrapped => exact ⟨taint, .here (taintOf_append wrapped _), le_rfl⟩
      | prop inside deeper => exact ⟨taint, .prop (List.mem_append_left _ inside) deeper, le_rfl⟩
  | item front back deeper ih =>
      intro taint occurs
      cases occurs with
      | item inside occurs =>
          rw [List.mem_append, List.mem_cons] at inside
          obtain early | rfl | late := inside
          · exact ⟨taint, .item (List.mem_append_left _ early) occurs, le_rfl⟩
          · obtain ⟨lower, kept, below⟩ := ih taint occurs
            exact ⟨lower, .item (by simp) kept, below⟩
          · exact ⟨taint, .item (List.mem_append_right _ (List.mem_cons_of_mem _ late)) occurs, le_rfl⟩
  | @prop front back key before after apart deeper ih =>
      intro taint occurs
      cases occurs with
      | here wrapped =>
          have other : key ≠ utf16 "taint" := apart.resolve_left (by simp [wrapped])
          exact ⟨taint, .here ((taintOf_replace other).trans wrapped), le_rfl⟩
      | @prop _ property inside occurs =>
          rw [List.mem_append, List.mem_cons] at inside
          obtain early | rfl | late := inside
          · exact ⟨taint, .prop (List.mem_append_left _ early) occurs, le_rfl⟩
          · obtain ⟨lower, kept, below⟩ := ih taint occurs
            refine ⟨lower, ?_, below⟩
            exact .prop (List.mem_append_right front (List.mem_cons_self : (key, after) ∈ _)) kept
          · exact ⟨taint, .prop (List.mem_append_right _ (List.mem_cons_of_mem _ late)) occurs, le_rfl⟩

end Marked

section Meet

variable {envelopeTaint : Taint} {intentKind : JsString} {policy : TaintPolicy} {payload : JsValue}

theorem proposes_of_meets (meets : Meets envelopeTaint intentKind policy payload) :
    canProposeFieldLevel envelopeTaint intentKind policy payload = .ok true := by
  obtain ⟨required, minimum, envelope, all⟩ := meets
  rw [canProposeFieldLevel_iff_visited]
  exact ⟨required, minimum, envelope, fun taint visited => all taint visited.occurs⟩

/-- The gate is the meet of everything marked exactly on a payload that masks nothing. -/
theorem proposes_iff_meets :
    (canProposeFieldLevel envelopeTaint intentKind policy payload = .ok true ↔
      Meets envelopeTaint intentKind policy payload) ↔
        ¬Masked envelopeTaint intentKind policy payload := by
  constructor
  · rintro exact ⟨required, minimum, envelope, visited, taint, hidden, below⟩
    obtain ⟨other, minimumToo, -, all⟩ :=
      exact.mp (canProposeFieldLevel_iff_visited.mpr ⟨required, minimum, envelope, visited⟩)
    cases minimum.symm.trans minimumToo
    exact absurd (all taint hidden.occurs) (Nat.not_le.mpr below)
  · intro bare
    refine ⟨fun proposes => ?_, proposes_of_meets⟩
    obtain ⟨required, minimum, envelope, visited⟩ := canProposeFieldLevel_iff_visited.mp proposes
    refine ⟨required, minimum, envelope, fun taint occurs => ?_⟩
    cases occurs.visited_or_hidden with
    | inl seen => exact visited taint seen
    | inr hidden =>
        by_contra below
        exact bare ⟨required, minimum, envelope, visited, taint, hidden, Nat.not_le.mp below⟩

theorem Marked.meets {before after : JsValue} (marked : Marked before after)
    (meets : Meets envelopeTaint intentKind policy after) :
    Meets envelopeTaint intentKind policy before := by
  obtain ⟨required, minimum, envelope, all⟩ := meets
  refine ⟨required, minimum, envelope, fun taint occurs => ?_⟩
  obtain ⟨lower, kept, below⟩ := marked.occurs taint occurs
  exact (all lower kept).trans below

end Meet

/-- The field-level gate is the meet of everything marked exactly when no further property of a
tainted value masks a taint; on such payloads a mark never opens the gate. -/
theorem canProposeFieldLevel_meets_iff (envelopeTaint : Taint) (intentKind : JsString)
    (policy : TaintPolicy) :
    (∀ payload, (canProposeFieldLevel envelopeTaint intentKind policy payload = .ok true ↔
        Meets envelopeTaint intentKind policy payload) ↔
      ¬Masked envelopeTaint intentKind policy payload) ∧
    ∀ before after, Marked before after → ¬Masked envelopeTaint intentKind policy after →
      canProposeFieldLevel envelopeTaint intentKind policy after = .ok true →
      canProposeFieldLevel envelopeTaint intentKind policy before = .ok true := by
  constructor
  · intro payload
    exact proposes_iff_meets
  · intro before after marked bare proposes
    exact proposes_of_meets (marked.meets ((proposes_iff_meets.mpr bare).mp proposes))

def trustedOnly : TaintPolicy where
  minimumFor _ := .ok .trusted
  requiresUncontaminatedOrigin := none

/-- A note of the user. -/
def userNote : JsValue := tainted (.str "leave at the door") .untrusted

theorem canProposeFieldLevel_meets_iff_userNote :
    (canProposeFieldLevel .system "checkout" trustedOnly userNote = .ok true ↔
        Meets .system "checkout" trustedOnly userNote) ∧
      (canProposeFieldLevel .system "checkout" trustedOnly userNote = .ok true →
        canProposeFieldLevel .system "checkout" trustedOnly (.str "leave at the door") = .ok true) := by
  have bare : ¬Masked .system "checkout" trustedOnly userNote := by
    rintro ⟨required, ⟨⟩, -, visited, -⟩
    exact absurd (visited .untrusted (.here (by decide))) (by decide)
  obtain ⟨exact, kept⟩ := canProposeFieldLevel_meets_iff .system "checkout" trustedOnly
  exact ⟨(exact userNote).mpr bare, kept _ userNote (.wrap _ _) bare⟩

/-- The price of the catalog with the note of the user beside it. -/
def notedPrice : Props JsValue := [("taint", .str "SYSTEM"), ("note", userNote)]

/-- The price joins its note. -/
def joinedPrice : Props JsValue := notedPrice ++ [(utf16 "value", tainted (.num 5) .system)]

/-- A tainted value that joins the note hides it from the gate. -/
theorem joinedPrice_masked :
    canProposeFieldLevel .system "checkout" trustedOnly (.obj notedPrice) = .ok false ∧
      Marked (.obj notedPrice) (.obj joinedPrice) ∧
      canProposeFieldLevel .system "checkout" trustedOnly (.obj joinedPrice) = .ok true ∧
      ¬Meets .system "checkout" trustedOnly (.obj joinedPrice) := by
  refine ⟨by decide +kernel, .addProp (by decide) _ _, by decide +kernel, ?_⟩
  rintro ⟨required, ⟨⟩, -, all⟩
  have hidden : Occurs .untrusted userNote := .here (by decide)
  have inside : (utf16 "note", userNote) ∈ joinedPrice := by simp [joinedPrice, notedPrice]
  exact absurd (all .untrusted (.prop inside hidden)) (by decide)

end Adjudicate.Core
