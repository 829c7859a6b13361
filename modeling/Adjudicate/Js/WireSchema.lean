/-
This file develops the parsing of values by schemas that keep the declared properties of an object.
-/

import Adjudicate.Js.Value

namespace Adjudicate.Js

/-- An object schema lists its members with their names and says which of them are optional. -/
inductive WireSchema where
  | unknown
  | text (check : JsString → Bool)
  | number (check : JsNumber → Bool)
  | array (items : WireSchema)
  | record (check : JsValue → Bool)
  | object (shape : List (JsString × Bool × WireSchema))
  | union (tag : JsString) (options : List (JsString × WireSchema))

/-- An optional member may be missing. -/
def readMember (optional : Bool) (parse : JsValue → Option JsValue) (value : JsValue) :
    Option JsValue :=
  if optional && value.isUndefined then some value else parse value

/-- A member that is missing and has no value stays missing. -/
def putMember (props : Props JsValue) (name : JsString) (value : JsValue)
    (members : Props JsValue) : Props JsValue :=
  if value.isUndefined && !(keys props).contains name then members else (name, value) :: members

mutual

/-- The parsed object has the declared members in the order of the schema and nothing else. -/
def WireSchema.parse : WireSchema → JsValue → Option JsValue
  | .unknown, value => some value
  | .text check, .str text => if check text then some (.str text) else none
  | .number check, .num number => if check number then some (.num number) else none
  | .array items, .arr values => (values.mapM items.parse).map .arr
  | .record check, .obj props =>
      if props.all fun property => check property.2 then some (.obj props) else none
  | .object shape, .obj props => (parseShape shape props).map .obj
  | .union tag options, .obj props =>
      match (JsValue.obj props).getOwn tag with
      | .str name => parseOption options name (.obj props)
      | _ => none
  | _, _ => none

def parseShape : List (JsString × Bool × WireSchema) → Props JsValue → Option (Props JsValue)
  | [], _ => some []
  | (name, optional, schema) :: rest, props => do
      let value ← readMember optional schema.parse ((JsValue.obj props).getOwn name)
      let members ← parseShape rest props
      return putMember props name value members

/-- The first option with the name parses the value. -/
def parseOption : List (JsString × WireSchema) → JsString → JsValue → Option JsValue
  | [], _, _ => none
  | (name, schema) :: rest, tag, value =>
      if tag = name then schema.parse value else parseOption rest tag value

end

mutual

/-- No object schema declares a name twice. -/
def WireSchema.wellNamed : WireSchema → Bool
  | .array items => items.wellNamed
  | .object shape => decide (keys shape).Nodup && wellNamedShape shape
  | .union _ options => wellNamedOptions options
  | _ => true

def wellNamedShape : List (JsString × Bool × WireSchema) → Bool
  | [] => true
  | (_, _, schema) :: rest => schema.wellNamed && wellNamedShape rest

def wellNamedOptions : List (JsString × WireSchema) → Bool
  | [] => true
  | (_, schema) :: rest => schema.wellNamed && wellNamedOptions rest

end

/-- A schema comes after the schemas inside it. -/
@[elab_as_elim]
theorem WireSchema.inductionOn {motive : WireSchema → Prop} (unknown : motive .unknown)
    (text : ∀ check, motive (.text check)) (number : ∀ check, motive (.number check))
    (array : ∀ items, motive items → motive (.array items))
    (record : ∀ check, motive (.record check))
    (object : ∀ shape, (∀ member ∈ shape, motive member.2.2) → motive (.object shape))
    (union : ∀ tag options, (∀ option ∈ options, motive option.2) → motive (.union tag options))
    (schema : WireSchema) : motive schema := by
  apply @WireSchema.rec motive (fun shape => ∀ member ∈ shape, motive member.2.2)
    (fun options => ∀ option ∈ options, motive option.2) (fun member => motive member.2.2)
    (fun option => motive option.2) (fun member => motive member.2) unknown text number array record
    object union
  · exact fun member absent => by cases absent
  · exact fun head tail holds rest => List.forall_mem_cons.mpr ⟨holds, rest⟩
  · exact fun option absent => by cases absent
  · exact fun head tail holds rest => List.forall_mem_cons.mpr ⟨holds, rest⟩
  · exact fun name member holds => holds
  · exact fun name schema holds => holds
  · exact fun optional schema holds => holds

theorem wellNamedShape_iff {shape : List (JsString × Bool × WireSchema)} :
    wellNamedShape shape = true ↔ ∀ member ∈ shape, member.2.2.wellNamed = true := by
  induction shape with
  | nil => simp [wellNamedShape]
  | cons member shape ih =>
      obtain ⟨name, optional, schema⟩ := member
      simp [wellNamedShape, ih]

theorem wellNamedOptions_iff {options : List (JsString × WireSchema)} :
    wellNamedOptions options = true ↔ ∀ option ∈ options, option.2.wellNamed = true := by
  induction options with
  | nil => simp [wellNamedOptions]
  | cons option options ih =>
      obtain ⟨name, schema⟩ := option
      simp [wellNamedOptions, ih]

/-- The second value has the properties of the first one in some order. A lossy arrangement may
drop some of them. -/
inductive Rearranged (lossy : Prop) : JsValue → JsValue → Prop where
  | same (value : JsValue) : Rearranged lossy value value
  | arr {left right : List JsValue} (length : left.length = right.length)
      (items : ∀ (index : Nat) (first second : JsValue), left[index]? = some first →
        right[index]? = some second → Rearranged lossy first second) :
      Rearranged lossy (.arr left) (.arr right)
  | obj {left right : Props JsValue} (distinct : (keys right).Nodup)
      (source : lossy ∨ (keys left).Nodup)
      (props : ∀ key, ¬(lossy ∧ (JsValue.obj right).getOwn key = .undefined) →
        Rearranged lossy ((JsValue.obj left).getOwn key) ((JsValue.obj right).getOwn key)) :
      Rearranged lossy (.obj left) (.obj right)

theorem Rearranged.isUndefined {lossy : Prop} {value wire : JsValue}
    (rearranged : Rearranged lossy value wire) : value.isUndefined = wire.isUndefined := by
  cases rearranged <;> rfl

/-- The schema declares every property of the value. -/
inductive Covers : WireSchema → JsValue → Prop where
  | undefined (schema : WireSchema) : Covers schema .undefined
  | unknown (value : JsValue) : Covers .unknown value
  | text (check : JsString → Bool) (value : JsValue) : Covers (.text check) value
  | number (check : JsNumber → Bool) (value : JsValue) : Covers (.number check) value
  | record (check : JsValue → Bool) (value : JsValue) : Covers (.record check) value
  | array {items : WireSchema} {values : List JsValue} (inside : ∀ value ∈ values, Covers items value) :
      Covers (.array items) (.arr values)
  | object {shape : List (JsString × Bool × WireSchema)} {props : Props JsValue}
      (distinct : (keys props).Nodup) (declared : ∀ key ∈ keys props, key ∈ keys shape)
      (members : ∀ member ∈ shape, Covers member.2.2 ((JsValue.obj props).getOwn member.1)) :
      Covers (.object shape) (.obj props)
  | union {tag : JsString} {options : List (JsString × WireSchema)} {props : Props JsValue}
      (chosen : ∀ option ∈ options, (JsValue.obj props).getOwn tag = .str option.1 →
        Covers option.2 (.obj props)) : Covers (.union tag options) (.obj props)

section

variable {props members : Props JsValue} {shape : List (JsString × Bool × WireSchema)}

theorem putMember_getOwn {name : JsString} {value : JsValue}
    (absent : (JsValue.obj members).getOwn name = .undefined) (key : JsString) :
    (JsValue.obj (putMember props name value members)).getOwn key =
      if key = name then value else (JsValue.obj members).getOwn key := by
  unfold putMember
  split
  · next missing =>
      split
      · next same =>
          rw [same, absent]
          cases value with
          | undefined => rfl
          | _ => cases missing
      · rfl
  · exact getOwn_cons name value members key

theorem parseShape_cons {name : JsString} {optional : Bool} {schema : WireSchema} :
    parseShape ((name, optional, schema) :: shape) props = some members ↔
      ∃ value rest, readMember optional schema.parse ((JsValue.obj props).getOwn name) = some value ∧
        parseShape shape props = some rest ∧ members = putMember props name value rest := by
  rw [parseShape]
  cases readMember optional schema.parse ((JsValue.obj props).getOwn name) with
  | none => simp
  | some value =>
      cases parseShape shape props with
      | none => simp
      | some rest => simp [eq_comm]

theorem parseShape_keys (parsed : parseShape shape props = some members) :
    List.Sublist (keys members) (keys shape) := by
  induction shape generalizing members with
  | nil =>
      rw [parseShape, Option.some.injEq] at parsed
      subst parsed
      exact List.Sublist.refl _
  | cons member shape ih =>
      obtain ⟨name, optional, schema⟩ := member
      obtain ⟨value, rest, -, tail, rfl⟩ := parseShape_cons.mp parsed
      unfold putMember
      split
      · exact (ih tail).cons name
      · exact (ih tail).cons_cons name

theorem getOwn_of_notMem {key : JsString} (absent : key ∉ keys members) :
    (JsValue.obj members).getOwn key = .undefined := by
  rw [JsValue.getOwn, lookup_eq_none.mpr absent]
  rfl

/-- Each declared member is read from the property of its name. -/
theorem parseShape_getOwn (parsed : parseShape shape props = some members)
    (distinct : (keys shape).Nodup) {member : JsString × Bool × WireSchema} (inside : member ∈ shape) :
    readMember member.2.1 member.2.2.parse ((JsValue.obj props).getOwn member.1) =
      some ((JsValue.obj members).getOwn member.1) := by
  induction shape generalizing members with
  | nil => cases inside
  | cons first shape ih =>
      obtain ⟨name, optional, schema⟩ := first
      obtain ⟨value, rest, head, tail, rfl⟩ := parseShape_cons.mp parsed
      obtain ⟨fresh, others⟩ := List.nodup_cons.mp distinct
      have absent : (JsValue.obj rest).getOwn name = .undefined :=
        getOwn_of_notMem fun found => fresh ((parseShape_keys tail).subset found)
      rw [putMember_getOwn absent]
      rcases List.mem_cons.mp inside with rfl | later
      · rw [if_pos rfl]
        exact head
      · have different : member.1 ≠ name := by
          rintro rfl
          exact fresh (List.mem_map.mpr ⟨member, later, rfl⟩)
        rw [if_neg different]
        exact ih tail others later

theorem parseShape_undeclared (parsed : parseShape shape props = some members) {key : JsString}
    (undeclared : key ∉ keys shape) : (JsValue.obj members).getOwn key = .undefined :=
  getOwn_of_notMem fun found => undeclared ((parseShape_keys parsed).subset found)

theorem parseOption_eq_some {options : List (JsString × WireSchema)} {tag : JsString}
    {value wire : JsValue} (parsed : parseOption options tag value = some wire) :
    ∃ schema, (tag, schema) ∈ options ∧ schema.parse value = some wire := by
  induction options with
  | nil => cases parsed
  | cons option options ih =>
      obtain ⟨name, schema⟩ := option
      rw [parseOption] at parsed
      split at parsed
      · next same =>
          subst same
          exact ⟨schema, List.mem_cons_self, parsed⟩
      · obtain ⟨other, inside, run⟩ := ih parsed
        exact ⟨other, List.mem_cons_of_mem _ inside, run⟩

theorem parseItems_eq_some {parse : JsValue → Option JsValue} {values parsed : List JsValue}
    (run : values.mapM parse = some parsed) :
    values.length = parsed.length ∧ ∀ (index : Nat) (first second : JsValue),
      values[index]? = some first → parsed[index]? = some second → parse first = some second := by
  induction values generalizing parsed with
  | nil =>
      cases run
      exact ⟨rfl, nofun⟩
  | cons value values ih =>
      rw [List.mapM_cons] at run
      cases head : parse value with
      | none =>
          rw [head] at run
          cases run
      | some first =>
          cases tail : values.mapM parse with
          | none =>
              rw [head, tail] at run
              cases run
          | some rest =>
              rw [head, tail] at run
              cases run
              obtain ⟨length, each⟩ := ih tail
              refine ⟨congrArg (· + 1) length, ?_⟩
              intro index
              cases index with
              | zero =>
                  rintro _ _ ⟨⟩ ⟨⟩
                  exact head
              | succ index => exact each index

end

/-- Parsing reorders the properties of a value and drops those that the schema does not declare. -/
theorem parse_rearranged {lossy : Prop} {schema : WireSchema} (wellNamed : schema.wellNamed = true)
    {value wire : JsValue} (covers : lossy ∨ Covers schema value)
    (parsed : schema.parse value = some wire) : Rearranged lossy value wire := by
  induction schema using WireSchema.inductionOn generalizing value wire with
  | unknown =>
      cases parsed
      exact .same _
  | text check =>
      cases value with
      | str text =>
          rw [WireSchema.parse, Option.ite_none_right_eq_some] at parsed
          cases parsed.2
          exact .same _
      | _ => cases parsed
  | number check =>
      cases value with
      | num number =>
          rw [WireSchema.parse, Option.ite_none_right_eq_some] at parsed
          cases parsed.2
          exact .same _
      | _ => cases parsed
  | record check =>
      cases value with
      | obj props =>
          rw [WireSchema.parse, Option.ite_none_right_eq_some] at parsed
          cases parsed.2
          exact .same _
      | _ => cases parsed
  | array items ih =>
      cases value with
      | arr values =>
          obtain ⟨kept, run, rfl⟩ := Option.map_eq_some_iff.mp parsed
          obtain ⟨length, each⟩ := parseItems_eq_some run
          refine .arr length fun index first second firstAt secondAt => ?_
          refine ih wellNamed (covers.imp_right ?_) (each index first second firstAt secondAt)
          intro whole
          cases whole with
          | array inside => exact inside first (List.mem_of_getElem? firstAt)
      | _ => cases parsed
  | object shape ih =>
      rw [WireSchema.wellNamed, Bool.and_eq_true, decide_eq_true_eq, wellNamedShape_iff] at wellNamed
      obtain ⟨distinct, named⟩ := wellNamed
      cases value with
      | obj props =>
          obtain ⟨members, run, rfl⟩ := Option.map_eq_some_iff.mp parsed
          have source : lossy ∨ (keys props).Nodup := covers.imp_right fun whole => by
            cases whole with
            | object distinct _ _ => exact distinct
          refine .obj (distinct.sublist (parseShape_keys run)) source fun key kept => ?_
          by_cases declared : key ∈ keys shape
          · obtain ⟨member, inside, rfl⟩ := List.mem_map.mp declared
            have read := parseShape_getOwn run distinct inside
            unfold readMember at read
            split at read
            · rw [Option.some.injEq] at read
              rw [← read]
              exact .same _
            · refine ih member inside (named member inside) (covers.imp_right ?_) read
              intro whole
              cases whole with
              | object _ _ members => exact members member inside
          · have dropped := parseShape_undeclared run declared
            rcases covers with loses | whole
            · exact absurd ⟨loses, dropped⟩ kept
            · cases whole with
              | object _ closed _ =>
                  rw [dropped, getOwn_of_notMem fun inside => declared (closed key inside)]
                  exact .same _
      | _ => cases parsed
  | union tag options ih =>
      rw [WireSchema.wellNamed, wellNamedOptions_iff] at wellNamed
      cases value with
      | obj props =>
          rw [WireSchema.parse] at parsed
          split at parsed
          · next name chosen =>
              obtain ⟨schema, inside, run⟩ := parseOption_eq_some parsed
              refine ih _ inside (wellNamed _ inside) (covers.imp_right ?_) run
              intro whole
              cases whole with
              | union covered => exact covered _ inside chosen
          · cases parsed
      | _ => cases parsed

/-- The schema has no schemas inside. -/
def WireSchema.IsLeaf : WireSchema → Prop
  | .array _ => False
  | .object _ => False
  | .union _ _ => False
  | _ => True

/-- A schema without schemas inside gives its value back. -/
theorem parse_leaf {schema : WireSchema} {value wire : JsValue} (leaf : schema.IsLeaf)
    (parsed : schema.parse value = some wire) : wire = value := by
  cases schema with
  | unknown => exact (Option.some.inj parsed).symm
  | array items => exact leaf.elim
  | object shape => exact leaf.elim
  | union tag options => exact leaf.elim
  | text check =>
      cases value with
      | str text =>
          rw [WireSchema.parse, Option.ite_none_right_eq_some] at parsed
          exact (Option.some.inj parsed.2).symm
      | _ => cases parsed
  | number check =>
      cases value with
      | num number =>
          rw [WireSchema.parse, Option.ite_none_right_eq_some] at parsed
          exact (Option.some.inj parsed.2).symm
      | _ => cases parsed
  | record check =>
      cases value with
      | obj props =>
          rw [WireSchema.parse, Option.ite_none_right_eq_some] at parsed
          exact (Option.some.inj parsed.2).symm
      | _ => cases parsed

/-- Objects are parsed alike when their declared members are. -/
theorem parseShape_congr {shape : List (JsString × Bool × WireSchema)} {left right : Props JsValue}
    (alike : ∀ member ∈ shape,
      readMember member.2.1 member.2.2.parse ((JsValue.obj left).getOwn member.1) =
          readMember member.2.1 member.2.2.parse ((JsValue.obj right).getOwn member.1) ∧
        (keys left).contains member.1 = (keys right).contains member.1) :
    parseShape shape left = parseShape shape right := by
  induction shape with
  | nil => rfl
  | cons member shape ih =>
      obtain ⟨name, optional, schema⟩ := member
      obtain ⟨⟨value, present⟩, rest⟩ := List.forall_mem_cons.mp alike
      rw [parseShape, parseShape, value, ih rest]
      simp only [putMember, present]

theorem Rearranged.obj_members {lossy : Prop} {left : Props JsValue} {wire : JsValue}
    (rearranged : Rearranged lossy (.obj left) wire) (distinct : (keys left).Nodup) :
    ∃ right, wire = .obj right ∧ (keys right).Nodup := by
  cases rearranged with
  | same => exact ⟨left, rfl, distinct⟩
  | @obj _ right fresh _ _ => exact ⟨right, rfl, fresh⟩

/-- Every property that is not lost is rearranged. -/
theorem Rearranged.getOwn {lossy : Prop} {value wire : JsValue}
    (rearranged : Rearranged lossy value wire) (key : JsString)
    (kept : ¬(lossy ∧ wire.getOwn key = .undefined)) :
    Rearranged lossy (value.getOwn key) (wire.getOwn key) := by
  cases rearranged with
  | same => exact .same _
  | arr => exact .same _
  | obj _ _ props => exact props key kept

end Adjudicate.Js
