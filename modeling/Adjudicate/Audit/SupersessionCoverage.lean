/-
This file proves which records the report of supersession chains shows.
-/

import Adjudicate.Audit.SupersessionChain

namespace Adjudicate.Audit

open Js Chain Adjudicate.Core

section Coverage

variable {Ref : Type} {read : Ref → AuditRecord} {records : List Ref}

theorem mem_bucketOf {hash : JsString} {record : Ref} :
    record ∈ bucketOf read records hash ↔ record ∈ records ∧ (read record).intentHash = hash := by
  simp [bucketOf]

theorem findRecord_mem {hash : JsString} {predecessorAt : Option JsString} {found : Ref}
    (result : findRecord read records hash predecessorAt = some found) :
    found ∈ bucketOf read records hash := by
  unfold findRecord at result
  split at result
  · cases result
  · next bucket =>
      rw [bucket]
      exact Option.some.inj result ▸ List.mem_cons_self
  · next bucket =>
      rw [bucket]
      exact Option.some.inj result ▸ List.mem_cons_self
  · next first second rest instant bucket =>
      rw [bucket]
      rcases Option.or_eq_some_iff.mp result with chosen | ⟨-, fallback⟩
      · exact List.mem_of_find?_eq_some chosen
      · exact Option.some.inj fallback ▸ List.mem_cons_self

theorem findRecord_eq_none {hash : JsString} {predecessorAt : Option JsString} :
    findRecord read records hash predecessorAt = none ↔ bucketOf read records hash = [] := by
  unfold findRecord
  split
  · next bucket => simp [bucket]
  · next bucket => simp [bucket]
  · next bucket => simp [bucket]
  · next bucket => simp [bucket]

/-- The resolved predecessors stay inside of the report's records. -/
theorem predecessorOf_inside : Inside (predecessorOf read records) records := by
  intro later _ earlier linked
  obtain ⟨supersedes, -, found⟩ := Option.bind_eq_some_iff.mp linked
  exact (mem_bucketOf.mp (findRecord_mem found)).1

theorem not_shown_iff (entry : Ref × Walk Ref) :
    (isChain entry || entry.2.cycleDetected || isSingleton read entry) = false ↔
      entry.2.tail = [] ∧ entry.2.cycleDetected = false ∧ (read entry.1).supersedes.isSome := by
  rcases entry with ⟨head, tail, reasons, cycleDetected⟩
  simp only [isChain, isSingleton]
  cases cycleDetected <;> cases tail <;> cases (read head).supersedes <;> simp

theorem mem_chainOf (head : Ref) (met : Walk Ref) (node : SupersessionChainNode) :
    node ∈ (chainOf read head met).head :: (chainOf read head met).tail ↔
      ∃ record ∈ head :: met.tail, node = nodeOf (read record) := by
  simp [chainOf, eq_comm]

/-- The salvage starts from the records whose hash is not yet taken, in the order of the records. -/
def Surfaces (read : Ref → AuditRecord) (records : List Ref) (taken : JsString → Prop) :
    List Ref → Ref → Prop
  | [], _ => False
  | record :: rest, surfaced =>
      (taken (read record).intentHash ∧ Surfaces read records taken rest surfaced) ∨
        (¬ taken (read record).intentHash ∧ (surfaced = record ∨
          Surfaces read records (fun hash => taken hash ∨ ∃ other,
            TracesTo (predecessorOf read records) record other ∧ (read other).intentHash = hash)
            rest surfaced))

theorem surfaces_mem {taken : JsString → Prop} {rest : List Ref} {start : Ref}
    (surfaced : Surfaces read records taken rest start) : start ∈ rest := by
  induction rest generalizing taken with
  | nil => exact surfaced.elim
  | cons record rest ih =>
      rcases surfaced with ⟨-, later⟩ | ⟨-, rfl | later⟩
      · exact List.mem_cons_of_mem _ (ih later)
      · exact List.mem_cons_self
      · exact List.mem_cons_of_mem _ (ih later)

variable [DecidableEq Ref]

theorem walkBack_eq (unvisited : List Ref) (cursor : Ref) :
    walk (predecessorOf read records) unvisited cursor =
      ((walkBack read records unvisited cursor).tail,
        (walkBack read records unvisited cursor).cycleDetected) := by
  fun_induction walkBack read records unvisited cursor with
  | case1 unvisited cursor root => rw [walk, predecessorOf, root, Option.bind_none]
  | case2 unvisited cursor supersedes link missing =>
      rw [walk, predecessorOf, link, Option.bind_some, missing]
  | case3 unvisited cursor supersedes link previous found fresh later ih =>
      rw [walk, predecessorOf, link, Option.bind_some, found]
      dsimp only
      rw [if_pos fresh, ih]
  | case4 unvisited cursor supersedes link previous found met =>
      rw [walk, predecessorOf, link, Option.bind_some, found]
      dsimp only
      rw [if_neg met]

/-- The walk from a record meets exactly the records that it traces to. -/
theorem mem_walkFrom_iff {start : Ref} (member : start ∈ records) (other : Ref) :
    other ∈ start :: (walkFrom read records start).tail ↔
      TracesTo (predecessorOf read records) start other := by
  rw [← mem_walk_iff predecessorOf_inside member, walkBack_eq]
  rfl

theorem mem_heads {record : Ref} :
    record ∈ heads read records ↔ IsHead (predecessorOf read records) records record := by
  rw [heads, List.mem_filter, decide_eq_true_iff, superseded, List.mem_filterMap]
  simp only [Option.filter_eq_some_iff, decide_eq_true_iff]
  constructor
  · rintro ⟨member, free⟩
    refine ⟨member, ?_⟩
    intro other known linked
    by_contra different
    exact free ⟨other, known, linked, Ne.symm different⟩
  · rintro ⟨member, only⟩
    refine ⟨member, ?_⟩
    rintro ⟨other, known, linked, different⟩
    exact different (only other known linked).symm

/-- The link of a lone head leaves the report's records. -/
def Adrift (read : Ref → AuditRecord) (records : List Ref) (record : Ref) : Prop :=
  IsHead (predecessorOf read records) records record ∧ (read record).supersedes.isSome ∧
    predecessorOf read records record = none

/-- These are the walks from the heads that the report shows. -/
def shownWalks (read : Ref → AuditRecord) (records : List Ref) : List (Ref × Walk Ref) :=
  (headWalks read records).filter fun entry =>
    isChain entry || entry.2.cycleDetected || isSingleton read entry

theorem mem_headWalks {entry : Ref × Walk Ref} :
    entry ∈ headWalks read records ↔
      IsHead (predecessorOf read records) records entry.1 ∧
        entry.2 = walkFrom read records entry.1 := by
  rw [headWalks, List.mem_map]
  constructor
  · rintro ⟨head, member, rfl⟩
    exact ⟨mem_heads.mp member, rfl⟩
  · rintro ⟨head, met⟩
    exact ⟨entry.1, mem_heads.mpr head, Prod.ext rfl met.symm⟩

/-- The walks that are shown meet the headed records that are not adrift. -/
theorem mem_shownWalks_iff (record : Ref) :
    (∃ entry ∈ shownWalks read records, record ∈ entry.1 :: entry.2.tail) ↔
      Headed (predecessorOf read records) records record ∧ ¬ Adrift read records record := by
  constructor
  · rintro ⟨⟨head, met⟩, shown, member⟩
    obtain ⟨walked, visible⟩ := List.mem_filter.mp shown
    obtain ⟨isHead, same⟩ := mem_headWalks.mp walked
    dsimp only at isHead same
    subst same
    have traced := (mem_walkFrom_iff isHead.1 record).mp member
    refine ⟨⟨head, isHead, traced⟩, ?_⟩
    rintro ⟨alone, supersedes, missing⟩
    -- Nothing else links to a record that is adrift, so the walk starts at it and stops there.
    have same : head = record := by
      rcases Relation.ReflTransGen.cases_tail traced with rfl | ⟨later, reached, linked⟩
      · rfl
      · have known := mem_of_tracesTo predecessorOf_inside isHead.1 reached
        obtain rfl := alone.2 later known linked
        rw [missing] at linked
        cases linked
    subst same
    have stopped : walk (predecessorOf read records) (others records head) head = ([], false) := by
      rw [walk, missing]
    rw [walkBack_eq, Prod.mk.injEq] at stopped
    have hidden := (@not_shown_iff _ read (head, walkFrom read records head)).mpr
      ⟨stopped.1, stopped.2, supersedes⟩
    rw [hidden] at visible
    cases visible
  · rintro ⟨⟨head, isHead, traced⟩, kept⟩
    have member := (mem_walkFrom_iff isHead.1 record).mpr traced
    refine ⟨(head, walkFrom read records head), ?_, member⟩
    refine List.mem_filter.mpr ⟨mem_headWalks.mpr ⟨isHead, rfl⟩, ?_⟩
    by_contra invisible
    rw [Bool.not_eq_true] at invisible
    obtain ⟨alone, opened, supersedes⟩ := (not_shown_iff _).mp invisible
    dsimp only at alone opened supersedes
    rw [alone] at member
    obtain rfl := List.mem_singleton.mp member
    have ending := @walk_open _ _ (predecessorOf read records) (others records record) record
    rw [walkBack_eq] at ending
    have missing := ending opened
    change predecessorOf read records
      ((record :: (walkFrom read records record).tail).getLast _) = none at missing
    simp only [alone, List.getLast_singleton] at missing
    exact kept ⟨isHead, supersedes, missing⟩

/-- A headed record carries the hash. -/
def TakenHash (read : Ref → AuditRecord) (records : List Ref) (hash : JsString) : Prop :=
  ∃ record, Headed (predecessorOf read records) records record ∧ (read record).intentHash = hash

theorem mem_salvage_iff {accountedFor : List JsString} {taken : JsString → Prop}
    (accounted : ∀ hash, hash ∈ accountedFor ↔ taken hash) {rest : List Ref} (inside : rest ⊆ records)
    (entry : Ref × Walk Ref) :
    entry ∈ salvage read records accountedFor rest ↔
      Surfaces read records taken rest entry.1 ∧ entry.2 = walkFrom read records entry.1 := by
  induction rest generalizing accountedFor taken with
  | nil => simp [salvage, Surfaces]
  | cons record rest ih =>
      obtain ⟨member, later⟩ := List.cons_subset.mp inside
      rw [salvage, Surfaces]
      split
      · next met =>
          have known := (accounted _).mp met
          rw [ih accounted later]
          simp [known]
      · next unmet =>
          have unknown : ¬ taken (read record).intentHash := fun known => unmet ((accounted _).mpr known)
          rw [List.mem_cons, @ih _ (fun hash => taken hash ∨ ∃ other,
            TracesTo (predecessorOf read records) record other ∧ (read other).intentHash = hash) ?_ later]
          · rcases entry with ⟨start, met⟩
            simp only [Prod.mk.injEq, unknown, false_and, not_false_eq_true, true_and, false_or]
            constructor
            · rintro (⟨rfl, rfl⟩ | ⟨surfaced, walked⟩)
              · exact ⟨Or.inl rfl, rfl⟩
              · exact ⟨Or.inr surfaced, walked⟩
            · rintro ⟨rfl | surfaced, walked⟩
              · exact Or.inl ⟨rfl, walked⟩
              · exact Or.inr ⟨surfaced, walked⟩
          · intro hash
            rw [List.mem_append, accounted, List.mem_map, or_comm]
            simp only [mem_walkFrom_iff member]

theorem mem_accountedHashes_iff (hash : JsString) :
    hash ∈ accountedHashes read records ↔ TakenHash read records hash := by
  rw [accountedHashes, List.mem_append, List.mem_flatMap]
  constructor
  · rintro (⟨entry, shown, member⟩ | dangling)
    · obtain ⟨record, met, rfl⟩ := List.mem_map.mp member
      exact ⟨record, ((mem_shownWalks_iff record).mp ⟨entry, shown, met⟩).1, rfl⟩
    · obtain ⟨reference, listed, rfl⟩ := List.mem_map.mp dangling
      obtain ⟨record, member, entry⟩ := List.mem_filterMap.mp listed
      obtain ⟨supersedes, link, chosen⟩ := Option.bind_eq_some_iff.mp entry
      split at chosen
      · next missing =>
          obtain rfl := Option.some.inj chosen
          refine ⟨record, ?_, rfl⟩
          -- A record on a loop resolves its predecessor.
          by_contra unheaded
          obtain ⟨-, previous, linked⟩ := loop_of_not_headed member unheaded Relation.ReflTransGen.refl
          rw [predecessorOf, link, Option.bind_some, findRecord_eq_none.mpr missing] at linked
          cases linked
      · cases chosen
  · rintro ⟨record, headed, rfl⟩
    by_cases adrift : Adrift read records record
    · right
      obtain ⟨alone, superseding, missing⟩ := adrift
      obtain ⟨supersedes, link⟩ := Option.isSome_iff_exists.mp superseding
      rw [predecessorOf, link, Option.bind_some, findRecord_eq_none] at missing
      refine List.mem_map.mpr ⟨⟨(read record).intentHash, supersedes.predecessorIntentHash⟩, ?_, rfl⟩
      refine List.mem_filterMap.mpr ⟨record, alone.1, ?_⟩
      rw [link, Option.bind_some, if_pos missing]
    · left
      obtain ⟨entry, shown, met⟩ := (mem_shownWalks_iff record).mpr ⟨headed, adrift⟩
      exact ⟨entry, shown, List.mem_map_of_mem met⟩

/-- The report shows the record itself, on a walk from a head or on a salvaged loop. -/
def Surfaced (read : Ref → AuditRecord) (records : List Ref) (record : Ref) : Prop :=
  (Headed (predecessorOf read records) records record ∧ ¬ Adrift read records record) ∨
    ∃ start, Surfaces read records (TakenHash read records) records start ∧
      TracesTo (predecessorOf read records) start record

/-- These are the nodes of the chains, the cycles and the singletons. -/
def SupersessionChainReport.nodes (report : SupersessionChainReport) : List SupersessionChainNode :=
  (report.chains ++ report.cycles).flatMap (fun chain => chain.head :: chain.tail) ++ report.singletons

theorem mem_nodes_walks (node : SupersessionChainNode) :
    node ∈ (buildSupersessionChains read records).nodes ↔
      (∃ entry ∈ shownWalks read records, ∃ record ∈ entry.1 :: entry.2.tail,
        node = nodeOf (read record)) ∨
      ∃ entry ∈ salvage read records (accountedHashes read records) records,
        ∃ record ∈ entry.1 :: entry.2.tail, node = nodeOf (read record) := by
  simp only [SupersessionChainReport.nodes, buildSupersessionChains, shownWalks, List.mem_append,
    List.mem_flatMap, mem_sortBy, List.mem_map, List.mem_filter, Bool.or_eq_true]
  constructor
  · rintro (⟨chain, ⟨entry, ⟨walked, shown⟩, rfl⟩ | ⟨entry, ⟨walked, closed⟩ | found, rfl⟩, member⟩ |
      ⟨entry, ⟨walked, alone⟩, rfl⟩)
    · exact Or.inl ⟨entry, ⟨walked, Or.inl (Or.inl shown)⟩, (mem_chainOf _ _ _).mp member⟩
    · exact Or.inl ⟨entry, ⟨walked, Or.inl (Or.inr closed)⟩, (mem_chainOf _ _ _).mp member⟩
    · exact Or.inr ⟨entry, found, (mem_chainOf _ _ _).mp member⟩
    · exact Or.inl ⟨entry, ⟨walked, Or.inr alone⟩, entry.1, List.mem_cons_self, rfl⟩
  · rintro (⟨entry, ⟨walked, (shown | closed) | alone⟩, met⟩ | ⟨entry, found, met⟩)
    · exact Or.inl ⟨_, Or.inl ⟨entry, ⟨walked, shown⟩, rfl⟩, (mem_chainOf _ _ _).mpr met⟩
    · exact Or.inl ⟨_, Or.inr ⟨entry, Or.inl ⟨walked, closed⟩, rfl⟩, (mem_chainOf _ _ _).mpr met⟩
    · right
      -- A singleton has no tail, so the record of the walk is its head.
      obtain ⟨record, member, rfl⟩ := met
      simp only [isSingleton, Bool.and_eq_true, List.isEmpty_iff] at alone
      rw [alone.1.2] at member
      obtain rfl := List.mem_singleton.mp member
      exact ⟨entry, ⟨walked, by simp [isSingleton, alone]⟩, rfl⟩
    · exact Or.inl ⟨_, Or.inr ⟨entry, Or.inr found, rfl⟩, (mem_chainOf _ _ _).mpr met⟩

/-- The nodes of the report are those of the surfaced records. -/
theorem mem_nodes_iff (node : SupersessionChainNode) :
    node ∈ (buildSupersessionChains read records).nodes ↔
      ∃ record, Surfaced read records record ∧ node = nodeOf (read record) := by
  have salvaged (entry : Ref × Walk Ref) :
      entry ∈ salvage read records (accountedHashes read records) records ↔
        Surfaces read records (TakenHash read records) records entry.1 ∧
          entry.2 = walkFrom read records entry.1 :=
    mem_salvage_iff mem_accountedHashes_iff (List.Subset.refl records) entry
  rw [mem_nodes_walks]
  constructor
  · rintro (⟨entry, shown, record, met, rfl⟩ | ⟨entry, found, record, met, rfl⟩)
    · exact ⟨record, Or.inl ((mem_shownWalks_iff record).mp ⟨entry, shown, met⟩), rfl⟩
    · obtain ⟨surfaces, walked⟩ := (salvaged entry).mp found
      rw [walked, mem_walkFrom_iff (surfaces_mem surfaces)] at met
      exact ⟨record, Or.inr ⟨entry.1, surfaces, met⟩, rfl⟩
  · rintro ⟨record, headed | ⟨start, surfaces, traced⟩, rfl⟩
    · obtain ⟨entry, shown, met⟩ := (mem_shownWalks_iff record).mpr headed
      exact Or.inl ⟨entry, shown, record, met, rfl⟩
    · refine Or.inr ⟨(start, walkFrom read records start), (salvaged _).mpr ⟨surfaces, rfl⟩, record, ?_, rfl⟩
      exact (mem_walkFrom_iff (surfaces_mem surfaces) record).mpr traced

/-- The node carries the hash, the instant and the decision kind of the record. -/
def SupersessionChainNode.Describes (node : SupersessionChainNode) (record : AuditRecord) : Prop :=
  node.intentHash = record.intentHash ∧ node.at = record.at ∧ node.decisionKind = record.decision.kind

/-- The report shows the record as a node or lists it because its own predecessor is missing. -/
def Reported (read : Ref → AuditRecord) (records : List Ref) (record : Ref) : Prop :=
  (∃ node ∈ (buildSupersessionChains read records).nodes, node.Describes (read record)) ∨
    ∃ supersedes, (read record).supersedes = some supersedes ∧
      (∀ other ∈ records, (read other).intentHash ≠ supersedes.predecessorIntentHash) ∧
      { intentHash := (read record).intentHash,
        missingPredecessor := supersedes.predecessorIntentHash } ∈
          (buildSupersessionChains read records).danglingReferences

theorem reported_of_adrift {record : Ref} (adrift : Adrift read records record) :
    Reported read records record := by
  obtain ⟨alone, superseding, missing⟩ := adrift
  obtain ⟨supersedes, link⟩ := Option.isSome_iff_exists.mp superseding
  rw [predecessorOf, link, Option.bind_some, findRecord_eq_none] at missing
  refine Or.inr ⟨supersedes, link, ?_, ?_⟩
  · intro other member same
    have found : other ∈ bucketOf read records supersedes.predecessorIntentHash :=
      mem_bucketOf.mpr ⟨member, same⟩
    rw [missing] at found
    cases found
  · simp only [buildSupersessionChains, mem_sortBy]
    refine List.mem_filterMap.mpr ⟨record, alone.1, ?_⟩
    rw [link, Option.bind_some, if_pos missing]

theorem reported_of_surfaced {record other : Ref} (surfaced : Surfaced read records other)
    (same : (nodeOf (read other)).Describes (read record)) : Reported read records record :=
  Or.inl ⟨nodeOf (read other), (mem_nodes_iff _).mpr ⟨other, surfaced, rfl⟩, same⟩

/-- The report keeps every record exactly when each record without a head has the hash, the instant
and the decision kind of a surfaced one. -/
theorem reported_iff (read : Ref → AuditRecord) (records : List Ref) :
    (∀ record ∈ records, Reported read records record) ↔
      ∀ record ∈ records, ¬ Headed (predecessorOf read records) records record →
        ∃ other, Surfaced read records other ∧ (nodeOf (read other)).Describes (read record) := by
  constructor
  · intro kept record member unheaded
    rcases kept record member with ⟨node, shown, described⟩ | ⟨supersedes, link, missing, -⟩
    · obtain ⟨other, surfaced, rfl⟩ := (mem_nodes_iff node).mp shown
      exact ⟨other, surfaced, described⟩
    · -- A record on a loop resolves its predecessor.
      obtain ⟨-, previous, linked⟩ := loop_of_not_headed member unheaded Relation.ReflTransGen.refl
      rw [predecessorOf, link, Option.bind_some] at linked
      obtain ⟨known, same⟩ := mem_bucketOf.mp (findRecord_mem linked)
      exact absurd same (missing previous known)
  · intro surfaces record member
    by_cases headed : Headed (predecessorOf read records) records record
    · by_cases adrift : Adrift read records record
      · exact reported_of_adrift adrift
      · exact reported_of_surfaced (Or.inl ⟨headed, adrift⟩) ⟨rfl, rfl, rfl⟩
    · obtain ⟨other, surfaced, same⟩ := surfaces record member headed
      exact reported_of_surfaced surfaced same

end Coverage

/-- The loop of the last two records carries the hashes of the first two. -/
def maskedLoop : Fin 4 → AuditRecord
  | 0 => linkedRecord "h" "1" none
  | 1 => linkedRecord "g" "1" none
  | 2 => linkedRecord "h" "2" (some ("g", "2"))
  | 3 => linkedRecord "g" "2" (some ("h", "2"))

theorem maskedLoop_vanishes : ¬ ∀ record ∈ [0, 1, 2, 3], Reported maskedLoop [0, 1, 2, 3] record := by
  intro kept
  have instants : ∀ node ∈ (buildSupersessionChains maskedLoop [0, 1, 2, 3]).nodes,
      node.at = utf16 "1" := by decide +kernel
  have references : (buildSupersessionChains maskedLoop [0, 1, 2, 3]).danglingReferences = [] := by
    decide +kernel
  rcases kept 2 (by decide) with ⟨node, shown, -, instant, -⟩ | ⟨supersedes, -, -, listed⟩
  · have other : utf16 "1" = utf16 "2" := (instants node shown).symm.trans instant
    exact absurd other (by decide +kernel)
  · rw [references] at listed
    cases listed

end Adjudicate.Audit
