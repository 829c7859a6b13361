/-
This file compares the manifest diff with the manifest digest.
-/

import Adjudicate.Analyze.Manifest

namespace Adjudicate.Analyze

open Js Canonical

section Maps

variable {N : Type} (nameOf : N → JsString)

theorem lookup_foldl_setOwn (entries : Props N) (key : JsString) :
    ∀ props : Props N,
      (entries.foldl (fun props entry => setOwn props entry.1 entry.2) props).lookup key =
        ((entries.filter (·.1 = key)).getLast?.map Prod.snd).or (props.lookup key) := by
  induction entries with
  | nil =>
      intro props
      rfl
  | cons entry rest ih =>
      intro props
      rw [List.foldl_cons, ih, lookup_setOwn, List.filter_cons]
      by_cases same : key = entry.1
      · subst same
        simp only [decide_true, if_true, List.getLast?_cons]
        cases (rest.filter fun other => other.1 = entry.1).getLast? <;> rfl
      · have apart : ¬entry.1 = key := fun equal => same equal.symm
        rw [if_neg same, if_neg (by simpa using apart)]

/-- The map holds the last node of each name. -/
theorem lookup_nodeMap (nodes : List N) (key : JsString) :
    (nodeMap nameOf nodes).lookup key = (nodes.filter (nameOf · = key)).getLast? := by
  rw [nodeMap, defineAll, lookup_foldl_setOwn, List.lookup_nil, Option.or_none, List.filter_map,
    List.getLast?_map, Option.map_map]
  exact congrFun Option.map_id _

theorem nodeMap_nodup (nodes : List N) : (keys (nodeMap nameOf nodes)).Nodup := by
  have kept (entries : Props N) : ∀ props : Props N, (keys props).Nodup →
      (keys (entries.foldl (fun props entry => setOwn props entry.1 entry.2) props)).Nodup := by
    induction entries with
    | nil => exact fun _ distinct => distinct
    | cons entry rest ih => exact fun props distinct => ih _ (setOwn_nodup distinct entry.1 entry.2)
  exact kept _ [] List.nodup_nil

theorem nodeMap_of_nodup {nameOf : N → JsString} {nodes : List N} (distinct : (nodes.map nameOf).Nodup) :
    nodeMap nameOf nodes = nodes.map fun node => (nameOf node, node) := by
  apply defineAll_of_nodup
  rwa [keys, List.map_map]

end Maps

section Nodes

variable {keyName : JsString} {prev next : List (ManifestNode keyName)} {packId : JsString}

theorem changedFields_eq_nil_iff (prev next : Props JsValue) :
    changedFields prev next = [] ↔ SameMembers prev next := by
  rw [changedFields, ← List.length_eq_zero_iff, (sortBy_perm id _).length_eq,
    List.length_eq_zero_iff, List.filter_eq_nil_iff]
  constructor
  · intro none key member kept
    by_contra different
    exact none key (List.mem_eraseDups.mpr member) (decide_eq_true ⟨kept, different⟩)
  · intro same key member changed
    obtain ⟨kept, different⟩ := of_decide_eq_true changed
    exact different (same key (List.mem_eraseDups.mp member) kept)

theorem diffNode_eq_none_iff {prevMap : Props (ManifestNode keyName)}
    {entry : JsString × ManifestNode keyName} :
    diffNode packId prevMap entry = none ↔
      ∃ before, prevMap.lookup entry.1 = some before ∧
        SameMembers before.props entry.2.props := by
  unfold diffNode
  cases found : prevMap.lookup entry.1 with
  | none => simp
  | some before =>
      have empty := changedFields_eq_nil_iff before.props entry.2.props
      simp only [Option.some.injEq, exists_eq_left', ← empty]
      cases changedFields before.props entry.2.props <;> simp

/-- The diff of two lists is empty exactly when their last entries agree. -/
theorem diffNamed_eq_nil_iff : diffNamed packId prev next = [] ↔ SameNamed prev next := by
  have nextDistinct := nodeMap_nodup ManifestNode.name next
  have found (nodes : List (ManifestNode keyName)) (name : JsString) :
      lastNamed nodes name = (nodeMap ManifestNode.name nodes).lookup name :=
    (lookup_nodeMap ManifestNode.name nodes name).symm
  rw [diffNamed, List.append_eq_nil_iff, List.map_eq_nil_iff, List.filter_eq_nil_iff,
    List.filterMap_eq_nil_iff]
  simp only [diffNode_eq_none_iff, SameNamed, found]
  constructor
  · rintro ⟨kept, same⟩ name
    cases after : (nodeMap ManifestNode.name next).lookup name with
    | none =>
        cases before : (nodeMap ManifestNode.name prev).lookup name with
        | none => exact .none
        | some node =>
            have listed := mem_keys_of_mem (mem_of_lookup before)
            exact absurd (Option.isNone_iff_eq_none.mpr after) (kept name listed)
    | some node =>
        obtain ⟨earlier, before, members⟩ := same _ (mem_of_lookup after)
        rw [before]
        exact .some members
  · intro same
    constructor
    · intro name listed missing
      have pair := same name
      rw [Option.isNone_iff_eq_none.mp missing] at pair
      cases before : (nodeMap ManifestNode.name prev).lookup name with
      | none => exact lookup_eq_none.mp before listed
      | some node =>
          rw [before] at pair
          cases pair
    · rintro ⟨name, node⟩ member
      have pair := same name
      rw [(lookup_eq_some nextDistinct name node).mpr member] at pair
      cases before : (nodeMap ManifestNode.name prev).lookup name with
      | none =>
          rw [before] at pair
          cases pair
      | some earlier =>
          rw [before] at pair
          cases pair with
          | some members => exact ⟨earlier, rfl, members⟩

theorem diffNamed_packId {entry : NodeDiff} (member : entry ∈ diffNamed packId prev next) :
    entry.packId = packId := by
  obtain removed | compared := List.mem_append.mp member
  · obtain ⟨name, -, rfl⟩ := List.mem_map.mp removed
    rfl
  · obtain ⟨node, -, found⟩ := List.mem_filterMap.mp compared
    unfold diffNode at found
    split at found
    · cases found
      rfl
    · dsimp only at found
      split at found
      · cases found
        rfl
      · cases found

end Nodes

section Packs

variable {previous next : PolicyManifest} {packs : List PackManifestNode}

theorem lookup_packMap (distinct : (packs.map fun pack => pack.name).Nodup) {id : JsString}
    {pack : PackManifestNode} :
    (packMap packs).lookup id = some pack ↔ pack ∈ packs ∧ pack.name = id := by
  have whole : (keys (packMap packs)).Nodup := nodeMap_nodup _ packs
  rw [lookup_eq_some whole, packMap, nodeMap_of_nodup distinct, List.mem_map]
  constructor
  · rintro ⟨listed, member, same⟩
    cases same
    exact ⟨member, rfl⟩
  · rintro ⟨member, rfl⟩
    exact ⟨pack, member, rfl⟩

theorem mem_packMap (distinct : (packs.map fun pack => pack.name).Nodup) {id : JsString}
    {pack : PackManifestNode} : (id, pack) ∈ packMap packs ↔ pack ∈ packs ∧ pack.name = id := by
  have whole : (keys (packMap packs)).Nodup := nodeMap_nodup _ packs
  rw [← lookup_packMap distinct, lookup_eq_some whole]

def packTree (pack : PackManifestNode) : Option Json := stableTree pack.toJs

theorem diffPack_eq_none_iff {prevPacks : Props PackManifestNode}
    {entry : JsString × PackManifestNode} :
    diffPack prevPacks entry = none ↔
      ∃ before, prevPacks.lookup entry.1 = some before ∧ packTree before = packTree entry.2 := by
  unfold diffPack
  cases found : prevPacks.lookup entry.1 with
  | none => simp
  | some before => simp [packTree, stableStringify_iff]

/-- The diff reports no pack exactly when the manifests have the same packs in some order. -/
theorem packs_eq_nil_iff (prevDistinct : (previous.packs.map fun pack => pack.name).Nodup)
    (nextDistinct : (next.packs.map fun pack => pack.name).Nodup) :
    (diffPolicyManifests previous next).packs = [] ↔
      (∀ before ∈ previous.packs, ∃ after ∈ next.packs, after.name = before.name) ∧
        ∀ after ∈ next.packs, ∃ before ∈ previous.packs, before.name = after.name ∧
          packTree before = packTree after := by
  rw [diffPolicyManifests]
  dsimp only
  rw [List.append_eq_nil_iff, List.map_eq_nil_iff, List.filter_eq_nil_iff,
    List.filterMap_eq_nil_iff]
  simp only [diffPack_eq_none_iff]
  constructor
  · rintro ⟨kept, same⟩
    constructor
    · intro before member
      have listed := mem_keys_of_mem ((mem_packMap prevDistinct).mpr ⟨member, rfl⟩)
      obtain ⟨after, found⟩ := Option.ne_none_iff_exists'.mp
        fun missing => kept before.name listed (Option.isNone_iff_eq_none.mpr missing)
      exact ⟨after, (lookup_packMap nextDistinct).mp found⟩
    · intro after member
      obtain ⟨before, found, tree⟩ := same _ ((mem_packMap nextDistinct).mpr ⟨member, rfl⟩)
      obtain ⟨beforeIn, name⟩ := (lookup_packMap prevDistinct).mp found
      exact ⟨before, beforeIn, name, tree⟩
  · rintro ⟨kept, same⟩
    constructor
    · intro id listed missing
      obtain ⟨⟨name, before⟩, member, rfl⟩ := List.mem_map.mp listed
      obtain ⟨beforeIn, rfl⟩ := (mem_packMap prevDistinct).mp member
      obtain ⟨after, afterIn, found⟩ := kept before beforeIn
      have held := (lookup_packMap nextDistinct).mpr ⟨afterIn, found⟩
      rw [held] at missing
      cases missing
    · rintro ⟨name, after⟩ member
      obtain ⟨afterIn, rfl⟩ := (mem_packMap nextDistinct).mp member
      obtain ⟨before, beforeIn, found, tree⟩ := same after afterIn
      exact ⟨before, (lookup_packMap prevDistinct).mpr ⟨beforeIn, found⟩, tree⟩

/-- A pack tree holds the name of the pack. -/
theorem name_of_packTree {before after : PackManifestNode} (same : packTree before = packTree after) :
    before.name = after.name := by
  have member := (stableTree_obj_iff before.distinct after.distinct).mp same "id" (by decide)
  rw [before.named, after.named] at member
  exact stableTree_str.mp member

/-- The packs are the same in their order exactly when the names are and no pack is reported. -/
theorem packs_unchanged_iff (prevDistinct : (previous.packs.map fun pack => pack.name).Nodup)
    (nextDistinct : (next.packs.map fun pack => pack.name).Nodup) :
    previous.packs.map packTree = next.packs.map packTree ↔
      (previous.packs.map fun pack => pack.name) = (next.packs.map fun pack => pack.name) ∧
        (diffPolicyManifests previous next).packs = [] := by
  rw [packs_eq_nil_iff prevDistinct nextDistinct]
  have at_index {B : Type} {left right : List PackManifestNode} {f : PackManifestNode → B}
      (same : left.map f = right.map f) (index : Nat) :
      left[index]?.map f = right[index]?.map f := by
    rw [← List.getElem?_map, same, List.getElem?_map]
  have matching {left right : List PackManifestNode} {f : PackManifestNode → Option Json}
      (same : left.map f = right.map f) {pack : PackManifestNode} (member : pack ∈ left) :
      ∃ other ∈ right, f pack = f other := by
    have image : f pack ∈ right.map f := same ▸ List.mem_map_of_mem member
    obtain ⟨other, otherIn, equal⟩ := List.mem_map.mp image
    exact ⟨other, otherIn, equal.symm⟩
  constructor
  · intro trees
    refine ⟨?_, ?_, ?_⟩
    · apply List.ext_getElem?
      intro index
      have pair := at_index trees index
      rw [List.getElem?_map, List.getElem?_map]
      cases before : previous.packs[index]? with
      | none =>
          cases after : next.packs[index]? with
          | none => rfl
          | some pack => simp [before, after] at pair
      | some pack =>
          cases after : next.packs[index]? with
          | none => simp [before, after] at pair
          | some other =>
              rw [before, after] at pair
              exact congrArg some (name_of_packTree (Option.some.inj pair))
    · intro before member
      obtain ⟨after, afterIn, tree⟩ := matching trees member
      exact ⟨after, afterIn, (name_of_packTree tree).symm⟩
    · intro after member
      obtain ⟨before, beforeIn, tree⟩ := matching trees.symm member
      exact ⟨before, beforeIn, (name_of_packTree tree).symm, tree.symm⟩
  · rintro ⟨names, _, same⟩
    apply List.ext_getElem?
    intro index
    have pair := at_index names index
    rw [List.getElem?_map, List.getElem?_map]
    cases before : previous.packs[index]? with
    | none =>
        cases after : next.packs[index]? with
        | none => rfl
        | some pack => simp [before, after] at pair
    | some pack =>
        cases after : next.packs[index]? with
        | none => simp [before, after] at pair
        | some other =>
            rw [before, after] at pair
            obtain ⟨partner, partnerIn, name, tree⟩ := same other (List.mem_of_getElem? after)
            have own : partner = pack := by
              apply List.inj_on_of_nodup_map prevDistinct partnerIn (List.mem_of_getElem? before)
              exact name.trans (Option.some.inj pair).symm
            rw [Option.map_some, Option.map_some, ← own, tree]

/-- The reported intents of a pack are the diff of its intents. -/
theorem exists_diff_iff {keyName : JsString} (nextDistinct : (packs.map fun pack => pack.name).Nodup)
    {after : PackManifestNode} (member : after ∈ packs)
    (compare : JsString × PackManifestNode → List (ManifestNode keyName) × List (ManifestNode keyName)) :
    (∃ entry ∈ (packMap packs).flatMap fun entry =>
        diffNamed entry.1 (compare entry).1 (compare entry).2, entry.packId = after.name) ↔
      ¬SameNamed (compare (after.name, after)).1 (compare (after.name, after)).2 := by
  rw [← @diffNamed_eq_nil_iff keyName _ _ after.name]
  constructor
  · rintro ⟨entry, inside, own⟩ none
    obtain ⟨⟨id, pack⟩, held, listed⟩ := List.mem_flatMap.mp inside
    obtain ⟨packIn, rfl⟩ := (mem_packMap nextDistinct).mp held
    have name : pack.name = after.name := (diffNamed_packId listed).symm.trans own
    obtain rfl := List.inj_on_of_nodup_map nextDistinct packIn member name
    rw [none] at listed
    cases listed
  · intro some
    obtain ⟨entry, listed⟩ := List.exists_mem_of_ne_nil _ some
    refine ⟨entry, List.mem_flatMap.mpr ⟨_, (mem_packMap nextDistinct).mpr ⟨member, rfl⟩, listed⟩, ?_⟩
    exact diffNamed_packId listed

end Packs

section Digest

variable {host : Host} {previous next : PolicyManifest}

theorem getOwn_base (manifest : PolicyManifest) (key : JsString) :
    (JsValue.obj manifest.base).getOwn key =
      if key = utf16 "manifestVersion" then .str manifest.manifestVersion
      else if key = utf16 "adopter" then .str manifest.adopter
      else if key = utf16 "kernelVersion" then (manifest.kernelVersion.map .str).getD .undefined
      else if key = utf16 "packs" then .arr (manifest.packs.map fun node => node.toJs)
      else .undefined := by
  unfold PolicyManifest.base
  cases manifest.kernelVersion with
  | none =>
      simp only [optionalProp, Option.map_none, List.cons_append, List.nil_append, getOwn_cons,
        getOwn_nil, Option.getD_none]
      split_ifs with first second third fourth
      all_goals first | rfl | (subst third; cases fourth)
  | some version =>
      simp only [optionalProp, Option.map_some, List.cons_append, List.nil_append, getOwn_cons,
        getOwn_nil, Option.getD_some]

theorem base_nodup (manifest : PolicyManifest) : (keys manifest.base).Nodup := by
  unfold PolicyManifest.base
  cases manifest.kernelVersion with
  | none => simp [keys, optionalProp]
  | some version => simp [keys, optionalProp]

theorem stableTree_packs : stableTree (.arr (previous.packs.map fun node => node.toJs)) =
      stableTree (.arr (next.packs.map fun node => node.toJs)) ↔
    previous.packs.map packTree = next.packs.map packTree := by
  have present (pack : PackManifestNode) :
      packTree pack = some ((stableTree pack.toJs).getD .null) := by
    rw [packTree, ManifestNode.toJs, stableTree_obj pack.distinct]
    rfl
  have trees (packs : List PackManifestNode) : packs.map packTree =
      (packs.map fun pack => (stableTree pack.toJs).getD .null).map some := by
    rw [List.map_map]
    exact List.map_congr_left fun pack _ => present pack
  rw [stableTree_arr, stableTree_arr, Option.some.injEq, Json.arr.injEq, List.map_map, List.map_map,
    trees, trees, List.map_inj_right (fun _ _ => Option.some.inj)]
  rfl

theorem stableTree_base_iff : stableTree (.obj previous.base) = stableTree (.obj next.base) ↔
    previous.manifestVersion = next.manifestVersion ∧ previous.adopter = next.adopter ∧
      previous.kernelVersion = next.kernelVersion ∧
      previous.packs.map packTree = next.packs.map packTree := by
  have kernel : stableTree ((previous.kernelVersion.map JsValue.str).getD .undefined) =
      stableTree ((next.kernelVersion.map JsValue.str).getD .undefined) ↔
      previous.kernelVersion = next.kernelVersion := by
    cases previous.kernelVersion <;> cases next.kernelVersion <;>
      simp [stableTree, sortValue, JsValue.serialize]
  rw [stableTree_obj_iff (base_nodup previous) (base_nodup next)]
  simp only [getOwn_base]
  constructor
  · intro same
    exact ⟨stableTree_str.mp (same "manifestVersion" (by decide)),
      stableTree_str.mp (same "adopter" (by decide)),
      kernel.mp (same "kernelVersion" (by decide)),
      stableTree_packs.mp (same "packs" (by decide))⟩
  · rintro ⟨version, adopter, kernelVersion, packs⟩ key -
    split_ifs
    · rw [version]
    · rw [adopter]
    · exact kernel.mpr kernelVersion
    · exact stableTree_packs.mpr packs
    · rfl

/-- Without collisions, equal digests mean equal trees. -/
theorem computeManifestDigest_iff (free : host.CollisionFree) :
    computeManifestDigest host previous = computeManifestDigest host next ↔
      stableTree (.obj previous.base) = stableTree (.obj next.base) := by
  have valid (manifest : PolicyManifest) : ∃ tree : Json, tree.Valid ∧
      stableTree (.obj manifest.base) = some tree ∧
      computeManifestDigest host manifest = host.sha256Hex tree.print := by
    have shape := stableTree_obj (base_nodup manifest)
    refine ⟨_, serialize_valid _ _ shape, shape, ?_⟩
    rw [computeManifestDigest, stableStringify, JsValue.stringify]
    have text : (sortValue (.obj manifest.base)).serialize = _ := shape
    rw [text]
    rfl
  obtain ⟨left, leftValid, leftTree, leftDigest⟩ := valid previous
  obtain ⟨right, rightValid, rightTree, rightDigest⟩ := valid next
  rw [leftDigest, rightDigest, leftTree, rightTree, Option.some.injEq, ← print_inj leftValid rightValid]
  constructor
  · exact free _ _ (print_isWellFormed left leftValid) (print_isWellFormed right rightValid)
  · exact congrArg host.sha256Hex

end Digest

section Relocation

variable {keyName : JsString} {previous next : PolicyManifest}

theorem lookup_relocated {before after : Props JsValue} {key : JsString}
    (same : withoutLocations (.obj before) = withoutLocations (.obj after))
    (kept : key ∉ digestExcludedKeys) :
    (before.lookup key).map withoutLocations = (after.lookup key).map withoutLocations := by
  rw [withoutLocations, withoutLocations, JsValue.obj.injEq] at same
  rw [← lookup_propsWithoutLocations before kept, same, lookup_propsWithoutLocations after kept]

theorem sameMembers_relocated {before after : Props JsValue}
    (same : withoutLocations (.obj before) = withoutLocations (.obj after)) :
    SameMembers before after := by
  intro key _ kept
  have pair := lookup_relocated same kept
  unfold memberText
  cases first : before.lookup key with
  | none =>
      cases second : after.lookup key with
      | none => rfl
      | some value => simp [first, second] at pair
  | some value =>
      cases second : after.lookup key with
      | none => simp [first, second] at pair
      | some other =>
          rw [first, second] at pair
          exact (stableStringify_iff value other).mpr
            (stableTree_withoutLocations (Option.some.inj pair))

theorem getOwn_relocated {before after : Props JsValue} {key : JsString}
    (same : withoutLocations (.obj before) = withoutLocations (.obj after))
    (kept : key ∉ digestExcludedKeys) :
    withoutLocations ((JsValue.obj before).getOwn key) =
      withoutLocations ((JsValue.obj after).getOwn key) := by
  have read (props : Props JsValue) : withoutLocations ((JsValue.obj props).getOwn key) =
      ((props.lookup key).map withoutLocations).getD .undefined := by
    rw [JsValue.getOwn]
    cases props.lookup key <;> rfl
  rw [read, read, lookup_relocated same kept]

theorem name_relocated {before after : ManifestNode keyName}
    (same : withoutLocations before.toJs = withoutLocations after.toJs)
    (kept : keyName ∉ digestExcludedKeys) : before.name = after.name := by
  have pair := getOwn_relocated same kept
  rw [before.named, after.named] at pair
  exact JsValue.str.inj pair

/-- The nodes differ in their locations only. -/
def NodesRelocated (prev next : List (ManifestNode keyName)) : Prop :=
  prev.map (fun node => withoutLocations node.toJs) =
    next.map fun node => withoutLocations node.toJs

theorem NodesRelocated.sameNamed {prev next : List (ManifestNode keyName)}
    (relocated : NodesRelocated prev next) (kept : keyName ∉ digestExcludedKeys) :
    SameNamed prev next := by
  intro name
  have filtered : (prev.filter (·.name = name)).map (fun node => withoutLocations node.toJs) =
      (next.filter (·.name = name)).map fun node => withoutLocations node.toJs := by
    induction prev generalizing next with
    | nil =>
        rw [List.map_eq_nil_iff.mp relocated.symm]
    | cons before rest ih =>
        obtain ⟨after, others, rfl, own, later⟩ := List.map_eq_cons_iff.mp relocated.symm
        have same := name_relocated own kept
        rw [List.filter_cons, List.filter_cons, same]
        split
        · rw [List.map_cons, List.map_cons, own, ih later.symm]
        · exact ih later.symm
  have last := congrArg List.getLast? filtered
  rw [List.getLast?_map, List.getLast?_map] at last
  unfold lastNamed
  cases first : (prev.filter (·.name = name)).getLast? with
  | none =>
      cases second : (next.filter (·.name = name)).getLast? with
      | none => exact .none
      | some node => simp [first, second] at last
  | some before =>
      cases second : (next.filter (·.name = name)).getLast? with
      | none => simp [first, second] at last
      | some after =>
          rw [first, second] at last
          exact .some (sameMembers_relocated (Option.some.inj last))

/-- The manifests differ in their locations only. -/
structure Relocated (previous next : PolicyManifest) : Prop where
  manifestVersion : previous.manifestVersion = next.manifestVersion
  adopter : previous.adopter = next.adopter
  kernelVersion : previous.kernelVersion = next.kernelVersion
  packs : NodesRelocated (previous.packs.map PackManifestNode.toManifestNode)
    (next.packs.map PackManifestNode.toManifestNode)

theorem intents_relocated {before after : PackManifestNode}
    (same : withoutLocations before.toJs = withoutLocations after.toJs) :
    NodesRelocated before.intentNodes after.intentNodes := by
  have pair := @getOwn_relocated _ _ "intents" same (by decide)
  rw [before.listsIntents, after.listsIntents, withoutLocations, withoutLocations,
    itemsWithoutLocations_eq, itemsWithoutLocations_eq, JsValue.arr.injEq, List.map_map,
    List.map_map] at pair
  rw [NodesRelocated, PackManifestNode.intentNodes, PackManifestNode.intentNodes, List.map_map,
    List.map_map]
  exact pair

theorem guards_relocated {before after : PackManifestNode}
    (same : withoutLocations before.toJs = withoutLocations after.toJs) :
    NodesRelocated before.guards after.guards := by
  have pair := @getOwn_relocated _ _ "guards" same (by decide)
  rw [before.listsGuards, after.listsGuards, withoutLocations, withoutLocations,
    itemsWithoutLocations_eq, itemsWithoutLocations_eq, JsValue.arr.injEq, List.map_map,
    List.map_map] at pair
  exact pair

theorem packTree_eq (pack : PackManifestNode) :
    packTree pack = stableTree (withoutLocations pack.toJs) := by
  rw [stableTree, sortValue_withoutLocations]
  rfl

theorem Relocated.packTrees (relocated : Relocated previous next) :
    previous.packs.map packTree = next.packs.map packTree := by
  have packs := relocated.packs
  rw [NodesRelocated, List.map_map, List.map_map] at packs
  have trees := congrArg (List.map stableTree) packs
  rw [List.map_map, List.map_map] at trees
  simp only [funext packTree_eq]
  exact trees

/-- Every pack has a relocated counterpart under its name. -/
theorem Relocated.counterpart (relocated : Relocated previous next)
    (prevDistinct : (previous.packs.map fun pack => pack.name).Nodup) {after : PackManifestNode}
    (member : after ∈ next.packs) :
    ∃ before, (packMap previous.packs).lookup after.name = some before ∧
      withoutLocations before.toJs = withoutLocations after.toJs := by
  have packs := relocated.packs
  rw [NodesRelocated, List.map_map, List.map_map] at packs
  have image := packs ▸ List.mem_map_of_mem member
  obtain ⟨before, beforeIn, same⟩ := List.mem_map.mp image
  have name := name_relocated same (by decide)
  exact ⟨before, (lookup_packMap prevDistinct).mpr ⟨beforeIn, name⟩, same⟩

/-- A change of locations alone is not reported. -/
theorem Relocated.unreported (relocated : Relocated previous next)
    (prevDistinct : (previous.packs.map fun pack => pack.name).Nodup)
    (nextDistinct : (next.packs.map fun pack => pack.name).Nodup) :
    (diffPolicyManifests previous next).packs = [] ∧
      (diffPolicyManifests previous next).intents = [] ∧
      (diffPolicyManifests previous next).guards = [] := by
  refine ⟨((packs_unchanged_iff prevDistinct nextDistinct).mp relocated.packTrees).2, ?_, ?_⟩
  · apply List.flatMap_eq_nil_iff.mpr
    rintro ⟨name, after⟩ listed
    obtain ⟨afterIn, rfl⟩ := (mem_packMap nextDistinct).mp listed
    obtain ⟨before, found, same⟩ := relocated.counterpart prevDistinct afterIn
    dsimp only
    rw [found]
    exact diffNamed_eq_nil_iff.mpr ((intents_relocated same).sameNamed (by decide))
  · apply List.flatMap_eq_nil_iff.mpr
    rintro ⟨name, after⟩ listed
    obtain ⟨afterIn, rfl⟩ := (mem_packMap nextDistinct).mp listed
    obtain ⟨before, found, same⟩ := relocated.counterpart prevDistinct afterIn
    dsimp only
    rw [found]
    exact diffNamed_eq_nil_iff.mpr ((guards_relocated same).sameNamed (by decide))

end Relocation

section Exactness

variable {host : Host} {previous next : PolicyManifest}

/-- The pack ids are distinct and the digest is correct. -/
structure PolicyManifest.Sealed (host : Host) (manifest : PolicyManifest) : Prop where
  distinct : (manifest.packs.map fun pack => pack.name).Nodup
  digest : manifest.digest = computeManifestDigest host manifest

/-- A change of the array with this name has an entry among the reported ones. -/
def ChangeReported (arrayName : JsString) (before after : PackManifestNode)
    (reported : List NodeDiff) : Prop :=
  stableStringify ((JsValue.obj before.props).getOwn arrayName) ≠
      stableStringify ((JsValue.obj after.props).getOwn arrayName) →
    ∃ entry ∈ reported, entry.packId = after.name

/-- A change of the array with this name shows in the last entry of some name. -/
def ChangeShows {keyName : JsString} (arrayName : JsString)
    (nodesOf : PackManifestNode → List (ManifestNode keyName)) (before after : PackManifestNode) :
    Prop :=
  stableStringify ((JsValue.obj before.props).getOwn arrayName) ≠
      stableStringify ((JsValue.obj after.props).getOwn arrayName) →
    ¬SameNamed (nodesOf before) (nodesOf after)

theorem digest_ne_iff (free : host.CollisionFree) (sealedPrev : previous.Sealed host)
    (sealedNext : next.Sealed host) :
    previous.digest ≠ next.digest ↔
      previous.adopter ≠ next.adopter ∨ previous.kernelVersion ≠ next.kernelVersion ∨
        previous.manifestVersion ≠ next.manifestVersion ∨
        (previous.packs.map fun pack => pack.name) ≠ (next.packs.map fun pack => pack.name) ∨
        (diffPolicyManifests previous next).packs ≠ [] := by
  rw [sealedPrev.digest, sealedNext.digest, Ne, computeManifestDigest_iff free, stableTree_base_iff,
    packs_unchanged_iff sealedPrev.distinct sealedNext.distinct]
  tauto

/-- The digests differ exactly when the diff or a header field does, a change of locations is not
reported, and a changed array is reported exactly when the change shows in a last entry. -/
theorem diffPolicyManifests_exact (free : host.CollisionFree) (sealedPrev : previous.Sealed host)
    (sealedNext : next.Sealed host) :
    (previous.digest ≠ next.digest ↔
      previous.adopter ≠ next.adopter ∨ previous.kernelVersion ≠ next.kernelVersion ∨
        previous.manifestVersion ≠ next.manifestVersion ∨
        (previous.packs.map fun pack => pack.name) ≠ (next.packs.map fun pack => pack.name) ∨
        (diffPolicyManifests previous next).packs ≠ []) ∧
      (Relocated previous next → (diffPolicyManifests previous next).packs = [] ∧
        (diffPolicyManifests previous next).intents = [] ∧
        (diffPolicyManifests previous next).guards = []) ∧
      ∀ before ∈ previous.packs, ∀ after ∈ next.packs, before.name = after.name →
        (ChangeReported "intents" before after (diffPolicyManifests previous next).intents ↔
          ChangeShows "intents" PackManifestNode.intentNodes before after) ∧
        (ChangeReported "guards" before after (diffPolicyManifests previous next).guards ↔
          ChangeShows "guards" PackManifestNode.guards before after) := by
  refine ⟨digest_ne_iff free sealedPrev sealedNext,
    fun relocated => relocated.unreported sealedPrev.distinct sealedNext.distinct, ?_⟩
  intro before beforeIn after afterIn name
  have found := (lookup_packMap sealedPrev.distinct).mpr ⟨beforeIn, name⟩
  constructor
  · apply imp_congr_right
    intro _
    have reported := exists_diff_iff sealedNext.distinct afterIn fun entry =>
      ((((packMap previous.packs).lookup entry.1).map PackManifestNode.intentNodes).getD [],
        entry.2.intentNodes)
    dsimp only at reported
    rw [found] at reported
    exact reported
  · apply imp_congr_right
    intro _
    have reported := exists_diff_iff sealedNext.distinct afterIn fun entry =>
      ((((packMap previous.packs).lookup entry.1).map PackManifestNode.guards).getD [],
        entry.2.guards)
    dsimp only at reported
    rw [found] at reported
    exact reported

end Exactness

section Repeated

def guardNode (author : JsString) : GuardManifestNode where
  props := [(utf16 "name", .str "limit"), (utf16 "author", .str author)]
  distinct := by simp [keys]
  name := "limit"
  named := rfl

/-- A pack whose two guards share a name. -/
def repeatedPack (firstAuthor : JsString) : PackManifestNode where
  props := [(utf16 "id", .str "pay"), (utf16 "intents", .arr []),
    (utf16 "guards", .arr [(guardNode firstAuthor).toJs, (guardNode "c").toJs])]
  distinct := by simp [keys]
  name := "pay"
  named := rfl
  intents := []
  guards := [guardNode firstAuthor, guardNode "c"]
  listsIntents := rfl
  listsGuards := rfl

def manifestHost : Host := .ofDigests []

def repeatedManifest (firstAuthor : JsString) : PolicyManifest :=
  let draft : PolicyManifest :=
    { manifestVersion := "1.0", adopter := "shop", kernelVersion := none, generatedAt := none,
      packs := [repeatedPack firstAuthor], digest := [] }
  { draft with digest := computeManifestDigest manifestHost draft }

theorem manifestHost_collisionFree : manifestHost.CollisionFree :=
  Host.ofDigests_collisionFree List.nodup_nil (by simp)

theorem repeatedManifest_sealed (firstAuthor : JsString) :
    (repeatedManifest firstAuthor).Sealed manifestHost := ⟨List.nodup_singleton _, rfl⟩

theorem repeatedManifest_changed :
    (diffPolicyManifests (repeatedManifest "a") (repeatedManifest "b")).packs =
      [⟨"pay", .changed⟩] := by
  decide +kernel

theorem diffPolicyManifests_exact_repeated :
    (repeatedManifest "a").digest ≠ (repeatedManifest "b").digest ∧
      (ChangeReported "guards" (repeatedPack "a") (repeatedPack "b")
          (diffPolicyManifests (repeatedManifest "a") (repeatedManifest "b")).guards ↔
        ChangeShows "guards" PackManifestNode.guards (repeatedPack "a") (repeatedPack "b")) := by
  obtain ⟨digests, -, arrays⟩ := diffPolicyManifests_exact manifestHost_collisionFree
    (repeatedManifest_sealed "a") (repeatedManifest_sealed "b")
  refine ⟨digests.mpr ?_, (arrays _ (List.mem_singleton_self _) _ (List.mem_singleton_self _) rfl).2⟩
  rw [repeatedManifest_changed]
  exact .inr (.inr (.inr (.inr (List.cons_ne_nil _ _))))

/-- The first of two guards with one name changes and no guard is reported. -/
theorem repeatedGuard_unreported :
    manifestHost.CollisionFree ∧ (repeatedManifest "a").Sealed manifestHost ∧
      (repeatedManifest "b").Sealed manifestHost ∧
      (diffPolicyManifests (repeatedManifest "a") (repeatedManifest "b")).packs =
        [⟨"pay", .changed⟩] ∧
      stableStringify ((JsValue.obj (repeatedPack "a").props).getOwn "guards") ≠
        stableStringify ((JsValue.obj (repeatedPack "b").props).getOwn "guards") ∧
      (diffPolicyManifests (repeatedManifest "a") (repeatedManifest "b")).guards = [] :=
  ⟨manifestHost_collisionFree, repeatedManifest_sealed "a", repeatedManifest_sealed "b",
    repeatedManifest_changed, by decide +kernel, by decide +kernel⟩

end Repeated

end Adjudicate.Analyze
