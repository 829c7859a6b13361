/-
This file proves that the supersession chains of exactly linked records are their lineages.
-/

import Adjudicate.Audit.SupersessionCoverage

namespace Adjudicate.Audit

open Js Chain Adjudicate.Core

section Lineages

variable {Ref : Type} (read : Ref → AuditRecord) (records : List Ref)

/-- The later record names the hash and the instant of the earlier one. -/
def Names (later earlier : Ref) : Prop :=
  ∃ supersedes, (read later).supersedes = some supersedes ∧
    (read earlier).intentHash = supersedes.predecessorIntentHash ∧
    (read earlier).at = supersedes.predecessorAt

/-- Every link names one existing record exactly, whose instant is strictly earlier. -/
structure WellLinked {T : Type} [Preorder T] (clock : JsString → T) : Prop where
  once : records.Nodup
  distinct : ∀ first ∈ records, ∀ second ∈ records,
    (read first).intentHash = (read second).intentHash → (read first).at = (read second).at →
      first = second
  linked : ∀ record ∈ records, (read record).supersedes.isSome →
    ∃ earlier ∈ records, Names read record earlier ∧ clock (read earlier).at < clock (read record).at

/-- A lineage is a maximal predecessor path from a record that no other record supersedes. -/
structure IsLineage (head : Ref) (tail : List Ref) : Prop where
  inside : head :: tail ⊆ records
  chained : (head :: tail).IsChain (Names read)
  newest : ∀ record ∈ records, Names read record head → record = head
  oldest : (read ((head :: tail).getLast (List.cons_ne_nil _ _))).supersedes = none

def lineageReasons (path : List Ref) : List SupersessionReason :=
  path.filterMap fun record => (read record).supersedes.map Supersession.reason

def lineageChain (head : Ref) (tail : List Ref) : SupersessionChain where
  head := nodeOf (read head)
  tail := tail.map fun record => nodeOf (read record)
  reasonCounts := tally (lineageReasons read (head :: tail))
  length := (head :: tail).length

variable {read records} {T : Type} [Preorder T] {clock : JsString → T}

theorem WellLinked.perm (exact : WellLinked read records clock) {other : List Ref}
    (perm : other.Perm records) : WellLinked read other clock where
  once := perm.nodup_iff.mpr exact.once
  distinct first firstIn second secondIn :=
    exact.distinct first (perm.mem_iff.mp firstIn) second (perm.mem_iff.mp secondIn)
  linked record member superseding := by
    obtain ⟨earlier, known, names⟩ := exact.linked record (perm.mem_iff.mp member) superseding
    exact ⟨earlier, perm.mem_iff.mpr known, names⟩

/-- The exact record is found whether its hash is shared or not. -/
theorem findRecord_eq_some (exact : WellLinked read records clock) {found : Ref}
    (member : found ∈ records) :
    findRecord read records (read found).intentHash (some (read found).at) = some found := by
  have inBucket : found ∈ bucketOf read records (read found).intentHash :=
    mem_bucketOf.mpr ⟨member, rfl⟩
  unfold findRecord
  split
  · next bucket =>
      rw [bucket] at inBucket
      cases inBucket
  · next absent => cases absent
  · next bucket given =>
      rw [bucket] at inBucket
      rw [List.mem_singleton.mp inBucket]
  · next first second rest instant bucket given =>
      obtain rfl := Option.some.inj given
      rw [← bucket]
      cases chosen : (bucketOf read records (read found).intentHash).find? fun record =>
          (read record).at = (read found).at with
      | none =>
          have unmatched := List.find?_eq_none.mp chosen found inBucket
          simp at unmatched
      | some picked =>
          obtain ⟨known, sameHash⟩ := mem_bucketOf.mp (List.mem_of_find?_eq_some chosen)
          have sameInstant := List.find?_some chosen
          rw [decide_eq_true_iff] at sameInstant
          rw [exact.distinct picked known found member sameHash sameInstant]
          rfl

/-- A resolved predecessor is the record that the link names. -/
theorem predecessorOf_eq_some_iff (exact : WellLinked read records clock) {record previous : Ref}
    (member : record ∈ records) :
    predecessorOf read records record = some previous ↔
      previous ∈ records ∧ Names read record previous := by
  have resolved {earlier : Ref} (known : earlier ∈ records) (names : Names read record earlier) :
      predecessorOf read records record = some earlier := by
    obtain ⟨supersedes, link, sameHash, sameInstant⟩ := names
    rw [predecessorOf, link, Option.bind_some, ← sameHash, ← sameInstant]
    exact findRecord_eq_some exact known
  constructor
  · intro linked
    obtain ⟨supersedes, link, -⟩ := Option.bind_eq_some_iff.mp linked
    obtain ⟨earlier, known, names, -⟩ := exact.linked record member (by rw [link]; rfl)
    obtain rfl := Option.some.inj (linked.symm.trans (resolved known names))
    exact ⟨known, names⟩
  · rintro ⟨known, names⟩
    exact resolved known names

theorem predecessorOf_eq_none_iff (exact : WellLinked read records clock) {record : Ref}
    (member : record ∈ records) :
    predecessorOf read records record = none ↔ (read record).supersedes = none := by
  constructor
  · intro missing
    by_contra superseding
    obtain ⟨earlier, known, names, -⟩ := exact.linked record member
      (Option.isSome_iff_ne_none.mpr superseding)
    rw [(predecessorOf_eq_some_iff exact member).mpr ⟨known, names⟩] at missing
    cases missing
  · intro root
    rw [predecessorOf, root, Option.bind_none]

theorem earlier_of_predecessorOf (exact : WellLinked read records clock) :
    ∀ later ∈ records, ∀ previous, predecessorOf read records later = some previous →
      clock (read previous).at < clock (read later).at := by
  intro later member previous linked
  obtain ⟨supersedes, link, -⟩ := Option.bind_eq_some_iff.mp linked
  obtain ⟨earlier, known, names, below⟩ := exact.linked later member (by rw [link]; rfl)
  have same := (predecessorOf_eq_some_iff exact member).mpr ⟨known, names⟩
  obtain rfl := Option.some.inj (linked.symm.trans same)
  exact below

/-- The links of a path of records are the resolved ones. -/
theorem isChain_names_iff (exact : WellLinked read records clock) {path : List Ref}
    (inside : path ⊆ records) :
    path.IsChain (Names read) ↔ path.IsChain fun later earlier =>
      predecessorOf read records later = some earlier := by
  have agree {later earlier : Ref} (laterIn : later ∈ path) (earlierIn : earlier ∈ path) :
      Names read later earlier ↔ predecessorOf read records later = some earlier := by
    rw [predecessorOf_eq_some_iff exact (inside laterIn)]
    exact ⟨fun names => ⟨inside earlierIn, names⟩, And.right⟩
  constructor
  · intro chain
    exact chain.imp_of_mem_imp fun later earlier laterIn earlierIn => (agree laterIn earlierIn).mp
  · intro chain
    exact chain.imp_of_mem_imp fun later earlier laterIn earlierIn => (agree laterIn earlierIn).mpr

theorem isLineage_perm {other : List Ref} (perm : other.Perm records) (head : Ref) (tail : List Ref) :
    IsLineage read other head tail ↔ IsLineage read records head tail := by
  have transfer {left right : List Ref} (same : left.Perm right)
      (lineage : IsLineage read left head tail) : IsLineage read right head tail :=
    { inside := fun record member => same.mem_iff.mp (lineage.inside member)
      chained := lineage.chained
      newest := fun record member => lineage.newest record (same.mem_iff.mpr member)
      oldest := lineage.oldest }
  exact ⟨transfer perm, transfer perm.symm⟩

theorem danglingReferences_eq_nil (exact : WellLinked read records clock) :
    danglingReferences read records = [] := by
  refine List.filterMap_eq_nil_iff.mpr ?_
  intro record member
  cases link : (read record).supersedes with
  | none => rfl
  | some supersedes =>
      obtain ⟨earlier, known, ⟨named, same, hash, -⟩, -⟩ := exact.linked record member (by rw [link]; rfl)
      obtain rfl := Option.some.inj (link.symm.trans same)
      rw [Option.bind_some, if_neg]
      exact List.ne_nil_of_mem (mem_bucketOf.mpr ⟨known, hash⟩)

theorem knownLinks_perm {other : List Ref} (perm : other.Perm records) :
    (knownLinks read other).Perm (knownLinks read records) := by
  have missing (hash : JsString) : bucketOf read other hash = [] ↔ bucketOf read records hash = [] := by
    have same : (bucketOf read other hash).Perm (bucketOf read records hash) := perm.filter _
    rw [← List.length_eq_zero_iff, ← List.length_eq_zero_iff, same.length_eq]
  unfold knownLinks
  simp only [missing]
  exact perm.filterMap _

theorem sum_counts_chains (walks : List (Ref × Walk Ref)) (reason : SupersessionReason)
    (alone : ∀ entry ∈ walks, isChain entry = false → entry.2.reasons = []) :
    tally (walks.flatMap fun entry => entry.2.reasons) reason =
      (((walks.filter isChain).map fun entry => chainOf read entry.1 entry.2).map
        fun chain => chain.reasonCounts reason).sum := by
  induction walks with
  | nil => rfl
  | cons entry rest ih =>
      have later := ih fun other member => alone other (List.mem_cons_of_mem _ member)
      rw [tally] at later ⊢
      rw [List.flatMap_cons, List.count_append, later]
      cases shown : isChain entry with
      | true =>
          rw [List.filter_cons_of_pos shown, List.map_cons, List.map_cons, List.sum_cons]
          rfl
      | false =>
          rw [List.filter_cons_of_neg (by simp [shown]), alone entry List.mem_cons_self shown,
            List.count_nil, Nat.zero_add]

variable [DecidableEq Ref]

/-- The counted reasons are those of the records that the walk leaves. -/
theorem walkBack_reasons (unvisited : List Ref) (cursor : Ref) :
    (walkBack read records unvisited cursor).reasons =
      lineageReasons read (cursor :: (walkBack read records unvisited cursor).tail).dropLast := by
  fun_induction walkBack read records unvisited cursor with
  | case1 => rfl
  | case2 => rfl
  | case3 unvisited cursor supersedes link previous found fresh later ih =>
      dsimp only
      rw [List.dropLast_cons_of_ne_nil (List.cons_ne_nil _ _), lineageReasons, List.filterMap_cons,
        link]
      exact congrArg _ ih
  | case4 => rfl

/-- A walk from a record of exact links is open and its tail is the rest of a lineage. -/
theorem walkFrom_open (exact : WellLinked read records clock) {start : Ref}
    (member : start ∈ records) : (walkFrom read records start).cycleDetected = false := by
  have opened := walk_open_of_rank (earlier_of_predecessorOf exact) predecessorOf_inside member
  rw [walkBack_eq] at opened
  exact opened

theorem walkFrom_isChain (start : Ref) :
    (start :: (walkFrom read records start).tail).IsChain fun later earlier =>
      predecessorOf read records later = some earlier := by
  have chain := @walk_isChain _ _ (predecessorOf read records) (others records start) start
  rw [walkBack_eq] at chain
  exact chain

theorem walkFrom_getLast (exact : WellLinked read records clock) {start : Ref}
    (member : start ∈ records) :
    predecessorOf read records ((start :: (walkFrom read records start).tail).getLast
      (List.cons_ne_nil _ _)) = none := by
  have ending := walk_open (walk_open_of_rank (earlier_of_predecessorOf exact) predecessorOf_inside
    member)
  simp only [walkBack_eq] at ending
  exact ending

theorem walkFrom_subset {start : Ref} (member : start ∈ records) :
    start :: (walkFrom read records start).tail ⊆ records := fun other met =>
  mem_of_tracesTo predecessorOf_inside member ((mem_walkFrom_iff member other).mp met)

/-- The lineages are the walks from the heads. -/
theorem isLineage_iff (exact : WellLinked read records clock) (head : Ref) (tail : List Ref) :
    IsLineage read records head tail ↔
      head ∈ heads read records ∧ tail = (walkFrom read records head).tail := by
  rw [mem_heads]
  constructor
  · intro lineage
    have member := lineage.inside List.mem_cons_self
    refine ⟨⟨member, ?_⟩, ?_⟩
    · intro record known linked
      exact lineage.newest record known ((predecessorOf_eq_some_iff exact known).mp linked).2
    · have chain := (isChain_names_iff exact lineage.inside).mp lineage.chained
      have last := lineage.inside (List.getLast_mem (List.cons_ne_nil head tail))
      exact chain_unique chain (walkFrom_isChain head)
        ((predecessorOf_eq_none_iff exact last).mpr lineage.oldest) (walkFrom_getLast exact member)
  · rintro ⟨⟨member, alone⟩, rfl⟩
    have inside : head :: (walkFrom read records head).tail ⊆ records := walkFrom_subset member
    refine ⟨inside, (isChain_names_iff exact inside).mpr (walkFrom_isChain head), ?_, ?_⟩
    · intro record known names
      exact alone record known ((predecessorOf_eq_some_iff exact known).mpr ⟨member, names⟩)
    · have last := inside (List.getLast_mem (List.cons_ne_nil _ _))
      exact (predecessorOf_eq_none_iff exact last).mp (walkFrom_getLast exact member)

/-- The oldest record adds no reason, so a walk counts the reasons of its whole lineage. -/
theorem chainOf_walkFrom (exact : WellLinked read records clock) {head : Ref}
    (member : head ∈ records) :
    chainOf read head (walkFrom read records head) =
      lineageChain read head (walkFrom read records head).tail := by
  have reasons : (walkFrom read records head).reasons =
      lineageReasons read (head :: (walkFrom read records head).tail) := by
    have inside : head :: (walkFrom read records head).tail ⊆ records := walkFrom_subset member
    have last := inside (List.getLast_mem (List.cons_ne_nil head (walkFrom read records head).tail))
    have root := (predecessorOf_eq_none_iff exact last).mp (walkFrom_getLast exact member)
    have whole := List.dropLast_append_getLast
      (List.cons_ne_nil head (walkFrom read records head).tail)
    rw [walkFrom, walkBack_reasons, ← walkFrom]
    conv_rhs => rw [← whole]
    simp only [lineageReasons, List.filterMap_append, List.filterMap_cons, root, Option.map_none,
      List.filterMap_nil, List.append_nil]
  rw [chainOf, lineageChain, reasons, List.length_cons, Nat.add_comm]

theorem heads_perm (exact : WellLinked read records clock) {other : List Ref}
    (perm : other.Perm records) (head : Ref) :
    head ∈ heads read other ↔ head ∈ heads read records := by
  have known (list : List Ref) (linked : WellLinked read list clock) :
      head ∈ heads read list ↔ ∃ tail, IsLineage read list head tail := by
    simp only [isLineage_iff linked, exists_and_left, exists_eq, and_true]
  rw [known other (exact.perm perm), known records exact]
  simp only [isLineage_perm perm]

/-- The walk from a head does not depend on the order of the records. -/
theorem walkFrom_perm (exact : WellLinked read records clock) {other : List Ref}
    (perm : other.Perm records) {head : Ref} (member : head ∈ heads read records) :
    walkFrom read other head = walkFrom read records head := by
  have inRecords := (mem_heads.mp member).1
  have lineage := (isLineage_iff exact head _).mpr ⟨member, rfl⟩
  have tails := ((isLineage_iff (exact.perm perm) head _).mp
    ((isLineage_perm perm head _).mpr lineage)).2
  have reasons : (walkFrom read other head).reasons = (walkFrom read records head).reasons := by
    simp only [walkFrom, walkBack_reasons] at tails ⊢
    rw [tails]
  have opened := walkFrom_open (exact.perm perm) (perm.mem_iff.mpr inRecords)
  have openedToo := walkFrom_open exact inRecords
  exact Walk.ext tails.symm reasons (opened.trans openedToo.symm)

/-- These are the entries of a collection that reads the walks from the heads. -/
def headEntry {B : Type} (read : Ref → AuditRecord) (records : List Ref)
    (pick : Ref × Walk Ref → Option B) (record : Ref) : Option B :=
  if record ∈ heads read records then pick (record, walkFrom read records record) else none

theorem filterMap_headWalks {B : Type} (pick : Ref × Walk Ref → Option B) :
    (headWalks read records).filterMap pick = records.filterMap (headEntry read records pick) := by
  rw [headWalks, List.filterMap_map]
  conv_lhs => rw [heads, List.filterMap_filter]
  apply List.filterMap_congr
  intro record member
  have isHead : record ∈ heads read records ↔ record ∉ superseded read records := by
    rw [heads, List.mem_filter, decide_eq_true_iff]
    exact and_iff_right member
  simp only [headEntry, isHead, Function.comp_apply, decide_eq_true_eq]

theorem headEntry_perm {B : Type} (exact : WellLinked read records clock) {other : List Ref}
    (perm : other.Perm records) (pick : Ref × Walk Ref → Option B) :
    headEntry read other pick = headEntry read records pick := by
  funext record
  rw [headEntry, headEntry]
  by_cases member : record ∈ heads read records
  · rw [if_pos member, if_pos ((heads_perm exact perm record).mpr member),
      walkFrom_perm exact perm member]
  · rw [if_neg member, if_neg fun also => member ((heads_perm exact perm record).mp also)]

def chainEntry (read : Ref → AuditRecord) (entry : Ref × Walk Ref) : Option SupersessionChain :=
  if isChain entry then some (chainOf read entry.1 entry.2) else none

def singletonEntry (read : Ref → AuditRecord) (entry : Ref × Walk Ref) :
    Option SupersessionChainNode :=
  if isSingleton read entry then some (nodeOf (read entry.1)) else none

theorem filter_map_eq {A B : Type} (keep : A → Bool) (make : A → B) (items : List A) :
    (items.filter keep).map make = items.filterMap fun item =>
      if keep item then some (make item) else none := by
  rw [← List.filterMap_eq_map, List.filterMap_filter]
  rfl

theorem chains_eq :
    (buildSupersessionChains read records).chains =
      sortBy (fun chain => chain.head.intentHash)
        (records.filterMap (headEntry read records (chainEntry read))) := by
  rw [← filterMap_headWalks]
  exact congrArg _ (filter_map_eq _ _ _)

theorem singletons_eq :
    (buildSupersessionChains read records).singletons =
      sortBy SupersessionChainNode.intentHash
        (records.filterMap (headEntry read records (singletonEntry read))) := by
  rw [← filterMap_headWalks]
  exact congrArg _ (filter_map_eq _ _ _)

theorem salvage_eq_nil (exact : WellLinked read records clock) :
    salvage read records (accountedHashes read records) records = [] := by
  have accounted (record : Ref) (member : record ∈ records) :
      (read record).intentHash ∈ accountedHashes read records :=
    (mem_accountedHashes_iff _).mpr ⟨record,
      headed_of_rank (earlier_of_predecessorOf exact) predecessorOf_inside member, rfl⟩
  have skips (rest : List Ref) (inside : rest ⊆ records) :
      salvage read records (accountedHashes read records) rest = [] := by
    induction rest with
    | nil => rfl
    | cons record rest ih =>
        obtain ⟨member, later⟩ := List.cons_subset.mp inside
        rw [salvage, if_pos (accounted record member)]
        exact ih later
  exact skips records (List.Subset.refl _)

theorem cycles_eq_nil (exact : WellLinked read records clock) :
    (buildSupersessionChains read records).cycles = [] := by
  have opened : (headWalks read records).filter (fun entry => entry.2.cycleDetected) = [] := by
    refine List.filter_eq_nil_iff.mpr ?_
    intro entry walked
    obtain ⟨isHead, walk⟩ := mem_headWalks.mp walked
    rw [walk, walkFrom_open exact isHead.1]
    exact Bool.false_ne_true
  rw [buildSupersessionChains, opened, salvage_eq_nil exact]
  rfl

theorem aggregateReasonCounts_eq (exact : WellLinked read records clock) :
    (buildSupersessionChains read records).aggregateReasonCounts =
      tally ((headWalks read records).flatMap fun entry => entry.2.reasons) := by
  simp only [buildSupersessionChains, salvage_eq_nil exact, List.append_nil]

theorem successorsAt_perm {left right : List (JsString × JsString)} (perm : left.Perm right)
    (hash : JsString) : (successorsAt left hash).Perm (successorsAt right hash) :=
  (perm.filter _).map _

theorem forkOf_predecessor {entry : JsString × List JsString} {fork : Fork}
    (forked : forkOf entry = some fork) : fork.predecessorIntentHash = entry.1 := by
  unfold forkOf at forked
  split at forked
  · exact Option.some.inj forked ▸ rfl
  · cases forked

/-- The sorted forks do not depend on the order of the links. -/
theorem forks_perm {left right : List (JsString × JsString)} (perm : left.Perm right) :
    sortBy Fork.predecessorIntentHash ((successorsOf left).filterMap forkOf) =
      sortBy Fork.predecessorIntentHash ((successorsOf right).filterMap forkOf) := by
  have entries (hash : JsString) : forkOf (hash, successorsAt left hash) =
      forkOf (hash, successorsAt right hash) := by
    have same := successorsAt_perm perm hash
    have sorted : sortBy id (successorsAt left hash) = sortBy id (successorsAt right hash) :=
      sortBy_congr id same fun _ _ _ _ => id
    simp only [forkOf, same.length_eq, sorted]
  have names : (left.map Prod.fst).eraseDups.Perm (right.map Prod.fst).eraseDups :=
    eraseDups_perm (perm.map Prod.fst)
  simp only [successorsOf, List.filterMap_map, Function.comp_def, entries]
  refine sortBy_congr _ (names.filterMap _) ?_
  intro first firstIn second secondIn tied
  obtain ⟨firstHash, -, firstFork⟩ := List.mem_filterMap.mp firstIn
  obtain ⟨secondHash, -, secondFork⟩ := List.mem_filterMap.mp secondIn
  rw [forkOf_predecessor firstFork, forkOf_predecessor secondFork] at tied
  dsimp only at tied
  rw [tied, secondFork] at firstFork
  exact (Option.some.inj firstFork).symm

theorem chainBreakOf_perm (exact : WellLinked read records clock) {other : List Ref}
    (perm : other.Perm records) {record : Ref} (member : record ∈ records) :
    chainBreakOf read other record = chainBreakOf read records record := by
  have resolved (supersedes : Supersession) (link : (read record).supersedes = some supersedes) :
      findRecord read other supersedes.predecessorIntentHash (some supersedes.predecessorAt) =
        findRecord read records supersedes.predecessorIntentHash (some supersedes.predecessorAt) := by
    obtain ⟨earlier, known, ⟨named, same, hash, instant⟩, -⟩ :=
      exact.linked record member (by rw [link]; rfl)
    obtain rfl := Option.some.inj (link.symm.trans same)
    rw [← hash, ← instant, findRecord_eq_some exact known,
      findRecord_eq_some (exact.perm perm) (perm.mem_iff.mpr known)]
  unfold chainBreakOf
  cases (read record).prevAuditHash with
  | none => rfl
  | some prevAuditHash =>
      cases link : (read record).supersedes with
      | none => rfl
      | some supersedes =>
          dsimp only
          rw [resolved supersedes link]

theorem headWalks_perm (exact : WellLinked read records clock) {other : List Ref}
    (perm : other.Perm records) : (headWalks read other).Perm (headWalks read records) := by
  have whole (list : List Ref) : headWalks read list = list.filterMap (headEntry read list some) := by
    rw [← filterMap_headWalks, List.filterMap_some]
  rw [whole other, whole records, headEntry_perm exact perm]
  exact perm.filterMap _

/-- Reordered records agree on the report up to the order of chains, singletons and breaks. -/
theorem buildSupersessionChains_perm (exact : WellLinked read records clock) {other : List Ref}
    (perm : other.Perm records) :
    buildSupersessionChains read other = buildSupersessionChains read records ↔
      sortBy (fun chain => chain.head.intentHash)
          (other.filterMap (headEntry read records (chainEntry read))) =
        sortBy (fun chain => chain.head.intentHash)
          (records.filterMap (headEntry read records (chainEntry read))) ∧
      sortBy SupersessionChainNode.intentHash
          (other.filterMap (headEntry read records (singletonEntry read))) =
        sortBy SupersessionChainNode.intentHash
          (records.filterMap (headEntry read records (singletonEntry read))) ∧
      sortBy ChainBreak.intentHash (other.filterMap (chainBreakOf read records)) =
        sortBy ChainBreak.intentHash (records.filterMap (chainBreakOf read records)) := by
  have breaks : chainBreaks read other = other.filterMap (chainBreakOf read records) :=
    List.filterMap_congr fun record member => chainBreakOf_perm exact perm (perm.mem_iff.mp member)
  have chains : (buildSupersessionChains read other).chains =
      sortBy (fun chain => chain.head.intentHash)
        (other.filterMap (headEntry read records (chainEntry read))) := by
    rw [chains_eq, headEntry_perm exact perm]
  have singletons : (buildSupersessionChains read other).singletons =
      sortBy SupersessionChainNode.intentHash
        (other.filterMap (headEntry read records (singletonEntry read))) := by
    rw [singletons_eq, headEntry_perm exact perm]
  constructor
  · intro same
    rw [← chains, ← singletons, ← chains_eq, ← singletons_eq, ← breaks, same]
    exact ⟨rfl, rfl, congrArg SupersessionChainReport.chainBreaks same⟩
  · rintro ⟨sameChains, sameSingletons, sameBreaks⟩
    have counts : (buildSupersessionChains read other).aggregateReasonCounts =
        (buildSupersessionChains read records).aggregateReasonCounts := by
      rw [aggregateReasonCounts_eq exact, aggregateReasonCounts_eq (exact.perm perm)]
      funext reason
      exact ((headWalks_perm exact perm).flatMap_right _).count_eq reason
    refine SupersessionChainReport.ext rfl ?_ ?_ ?_ ?_ ?_ counts ?_
    · rw [chains, sameChains, chains_eq]
    · rw [singletons, sameSingletons, singletons_eq]
    · simp only [buildSupersessionChains, danglingReferences_eq_nil exact,
        danglingReferences_eq_nil (exact.perm perm)]
    · rw [cycles_eq_nil exact, cycles_eq_nil (exact.perm perm)]
    · exact forks_perm (knownLinks_perm perm)
    · exact (congrArg _ breaks).trans sameBreaks

/-- The report holds the lineages of the records, whatever the order of the records is. -/
structure TrueLineages (read : Ref → AuditRecord) (records : List Ref) : Prop where
  acyclic : (buildSupersessionChains read records).cycles = []
  whole : (buildSupersessionChains read records).danglingReferences = []
  lineages : ∃ paths : List (Ref × List Ref), paths.Nodup ∧
    (∀ head tail, (head, tail) ∈ paths ↔ IsLineage read records head tail) ∧
    (buildSupersessionChains read records).chains.Perm
      ((paths.filter fun path => !path.2.isEmpty).map fun path => lineageChain read path.1 path.2) ∧
    (buildSupersessionChains read records).singletons.Perm
      ((paths.filter fun path => path.2.isEmpty).map fun path => nodeOf (read path.1))
  aggregate : ∀ reason, (buildSupersessionChains read records).aggregateReasonCounts reason =
    ((buildSupersessionChains read records).chains.map fun chain => chain.reasonCounts reason).sum
  stable : ∀ other : List Ref, other.Perm records →
    buildSupersessionChains read other = buildSupersessionChains read records

/-- The record's chain link differs from the hash of the record that it supersedes. -/
def Mislinked (read : Ref → AuditRecord) (record previous : Ref) : Prop :=
  Names read record previous ∧
    ∃ link, (read record).prevAuditHash = some link ∧ (read previous).auditHash ≠ some link

/-- No two heads of chains, no two singletons and no two different breaks share a hash. -/
structure Untied (read : Ref → AuditRecord) (records : List Ref) : Prop where
  heads : ∀ first ∈ records, ∀ second ∈ records,
    (∀ record ∈ records, Names read record first → record = first) →
    (∀ record ∈ records, Names read record second → record = second) →
    (read first).intentHash = (read second).intentHash →
    (read first).supersedes.isSome = (read second).supersedes.isSome → first = second
  breaks : ∀ first ∈ records, ∀ second ∈ records, ∀ firstPrevious ∈ records,
    ∀ secondPrevious ∈ records, Mislinked read first firstPrevious →
    Mislinked read second secondPrevious → (read first).intentHash = (read second).intentHash →
    (read first).prevAuditHash = (read second).prevAuditHash ∧
    (read firstPrevious).intentHash = (read secondPrevious).intentHash ∧
    (read firstPrevious).auditHash = (read secondPrevious).auditHash

theorem walkFrom_tail_eq_nil (exact : WellLinked read records clock) {head : Ref}
    (member : head ∈ records) :
    (walkFrom read records head).tail = [] ↔ (read head).supersedes = none := by
  have ending := walkFrom_getLast exact member
  constructor
  · intro alone
    simp only [alone, List.getLast_singleton] at ending
    exact (predecessorOf_eq_none_iff exact member).mp ending
  · intro root
    rw [walkFrom, walkBack, root]

/-- The heads with a tail are the chains and the heads without one are the singletons. -/
theorem shown_lineages (exact : WellLinked read records clock) {head : Ref} (member : head ∈ records) :
    isChain (head, walkFrom read records head) = !(walkFrom read records head).tail.isEmpty ∧
      isSingleton read (head, walkFrom read records head) =
        (walkFrom read records head).tail.isEmpty := by
  have root := walkFrom_tail_eq_nil exact member
  simp only [isChain, isSingleton, walkFrom_open exact member]
  cases tail : (walkFrom read records head).tail with
  | nil => simp [root.mp tail]
  | cons => simp

theorem lineages_perm (exact : WellLinked read records clock) :
    let paths := (heads read records).map fun head => (head, (walkFrom read records head).tail)
    (buildSupersessionChains read records).chains.Perm
      ((paths.filter fun path => !path.2.isEmpty).map fun path => lineageChain read path.1 path.2) ∧
    (buildSupersessionChains read records).singletons.Perm
      ((paths.filter fun path => path.2.isEmpty).map fun path => nodeOf (read path.1)) := by
  have inside {head : Ref} (member : head ∈ heads read records) : head ∈ records :=
    (mem_heads.mp member).1
  constructor
  · refine (sortBy_perm _ _).trans (List.Perm.of_eq ?_)
    simp only [filter_map_eq, headWalks, List.filterMap_map]
    apply List.filterMap_congr
    intro head member
    simp only [Function.comp_apply, (shown_lineages exact (inside member)).1,
      chainOf_walkFrom exact (inside member)]
  · refine (sortBy_perm _ _).trans (List.Perm.of_eq ?_)
    simp only [filter_map_eq, headWalks, List.filterMap_map]
    apply List.filterMap_congr
    intro head member
    simp only [Function.comp_apply, (shown_lineages exact (inside member)).2]

theorem aggregate_eq_sum (exact : WellLinked read records clock) (reason : SupersessionReason) :
    (buildSupersessionChains read records).aggregateReasonCounts reason =
      ((buildSupersessionChains read records).chains.map fun chain =>
        chain.reasonCounts reason).sum := by
  rw [aggregateReasonCounts_eq exact, @sum_counts_chains _ read]
  · exact (((sortBy_perm _ _).map _).sum_eq).symm
  · intro entry walked hidden
    obtain ⟨isHead, walk⟩ := mem_headWalks.mp walked
    rw [← Prod.eta entry, walk, (shown_lineages exact isHead.1).1, Bool.not_eq_false',
      List.isEmpty_iff] at hidden
    rw [walk, walkFrom, walkBack_reasons, ← walkFrom, hidden]
    rfl

theorem mem_heads_iff_newest (exact : WellLinked read records clock) {head : Ref} :
    head ∈ heads read records ↔
      head ∈ records ∧ ∀ record ∈ records, Names read record head → record = head := by
  rw [mem_heads]
  refine and_congr_right fun member => ?_
  refine forall₂_congr fun record known => ?_
  rw [predecessorOf_eq_some_iff exact known]
  exact ⟨fun alone names => alone ⟨member, names⟩, fun alone linked => alone linked.2⟩

theorem mem_chainEntry (exact : WellLinked read records clock) {head : Ref} {entry : SupersessionChain} :
    entry ∈ headEntry read records (chainEntry read) head ↔
      head ∈ heads read records ∧ (read head).supersedes.isSome = true ∧
        entry = chainOf read head (walkFrom read records head) := by
  rw [headEntry]
  by_cases member : head ∈ heads read records
  · have inRecords := (mem_heads.mp member).1
    have root := walkFrom_tail_eq_nil exact inRecords
    rw [if_pos member, chainEntry, (shown_lineages exact inRecords).1]
    cases link : (read head).supersedes with
    | none => simp [root.mpr link]
    | some supersedes =>
        have tailed : (walkFrom read records head).tail.isEmpty = false := by
          rw [List.isEmpty_eq_false_iff, ne_eq, root, link]
          exact Option.some_ne_none _
        rw [tailed]
        constructor
        · intro shown
          exact ⟨member, rfl, (Option.some.inj shown).symm⟩
        · rintro ⟨-, -, rfl⟩
          rfl
  · rw [if_neg member]
    simp [member]

theorem mem_singletonEntry (exact : WellLinked read records clock) {head : Ref}
    {entry : SupersessionChainNode} :
    entry ∈ headEntry read records (singletonEntry read) head ↔
      head ∈ heads read records ∧ (read head).supersedes.isSome = false ∧
        entry = nodeOf (read head) := by
  rw [headEntry]
  by_cases member : head ∈ heads read records
  · have inRecords := (mem_heads.mp member).1
    have root := walkFrom_tail_eq_nil exact inRecords
    rw [if_pos member, singletonEntry, (shown_lineages exact inRecords).2]
    cases link : (read head).supersedes with
    | none => simp [member, root.mpr link, eq_comm]
    | some supersedes => simp [root, link]
  · rw [if_neg member]
    simp [member]

/-- A break reports a record that is mislinked to its predecessor. -/
theorem mem_chainBreakOf (exact : WellLinked read records clock) {record : Ref}
    (member : record ∈ records) {entry : ChainBreak} :
    entry ∈ chainBreakOf read records record ↔
      ∃ previous ∈ records, ∃ link, Names read record previous ∧
        (read record).prevAuditHash = some link ∧ (read previous).auditHash ≠ some link ∧
        entry = { intentHash := (read record).intentHash, prevAuditHash := link,
                  predecessorAuditHash := (read previous).auditHash,
                  predecessorIntentHash := (read previous).intentHash } := by
  have resolved {previous : Ref} (known : previous ∈ records) (names : Names read record previous) :
      previous ≠ record ∧ ∃ supersedes, (read record).supersedes = some supersedes ∧
        findRecord read records supersedes.predecessorIntentHash (some supersedes.predecessorAt) =
          some previous ∧ supersedes.predecessorIntentHash = (read previous).intentHash := by
    have linked := (predecessorOf_eq_some_iff exact member).mpr ⟨known, names⟩
    have below := earlier_of_predecessorOf exact record member previous linked
    obtain ⟨supersedes, link, hash, instant⟩ := names
    refine ⟨fun same => absurd (same ▸ below) (lt_irrefl _), supersedes, link, ?_, hash.symm⟩
    rw [← hash, ← instant]
    exact findRecord_eq_some exact known
  constructor
  · intro broken
    unfold chainBreakOf at broken
    split at broken
    · next prevAuditHash supersedes hashLink link =>
        obtain ⟨earlier, known, names, -⟩ := exact.linked record member (by rw [link]; rfl)
        obtain ⟨different, own, same, found, hash⟩ := resolved known names
        obtain rfl := Option.some.inj (link.symm.trans same)
        rw [found] at broken
        dsimp only at broken
        split at broken
        · cases broken
        · next mislinked =>
            obtain rfl := Option.some.inj broken
            rw [hash]
            exact ⟨earlier, known, prevAuditHash, names, hashLink,
              fun same => mislinked (Or.inr same), rfl⟩
    · cases broken
  · rintro ⟨previous, known, link, names, hashLink, mislinked, rfl⟩
    obtain ⟨different, supersedes, same, found, hash⟩ := resolved known names
    unfold chainBreakOf
    rw [hashLink, same]
    dsimp only
    rw [found]
    dsimp only
    rw [if_neg (not_or.mpr ⟨different, mislinked⟩), hash]
    rfl

/-- The report is stable under reordering exactly when nothing that is sorted is tied. -/
theorem stable_iff_untied (exact : WellLinked read records clock) :
    (∀ other : List Ref, other.Perm records →
      buildSupersessionChains read other = buildSupersessionChains read records) ↔
      Untied read records := by
  have chains := sortBy_filterMap_perm_iff (fun chain : SupersessionChain => chain.head.intentHash)
    (headEntry read records (chainEntry read)) records
  have singletons := sortBy_filterMap_perm_iff SupersessionChainNode.intentHash
    (headEntry read records (singletonEntry read)) records
  have breaks := sortBy_filterMap_perm_iff ChainBreak.intentHash (chainBreakOf read records) records
  constructor
  · intro stable
    have parts (other : List Ref) (perm : other.Perm records) :=
      (buildSupersessionChains_perm exact perm).mp (stable other perm)
    refine ⟨?_, ?_⟩
    · intro first firstIn second secondIn firstNewest secondNewest tied alike
      have firstHead := (mem_heads_iff_newest exact).mpr ⟨firstIn, firstNewest⟩
      have secondHead := (mem_heads_iff_newest exact).mpr ⟨secondIn, secondNewest⟩
      cases superseding : (read first).supersedes.isSome with
      | true =>
          have same := chains.mp (fun other perm => (parts other perm).1) first firstIn second secondIn
            _ ((mem_chainEntry exact).mpr ⟨firstHead, superseding, rfl⟩)
            _ ((mem_chainEntry exact).mpr ⟨secondHead, alike.symm.trans superseding, rfl⟩) tied
          exact exact.distinct first firstIn second secondIn tied
            (congrArg (fun chain : SupersessionChain => chain.head.at) same)
      | false =>
          have same := singletons.mp (fun other perm => (parts other perm).2.1) first firstIn second
            secondIn _ ((mem_singletonEntry exact).mpr ⟨firstHead, superseding, rfl⟩)
            _ ((mem_singletonEntry exact).mpr ⟨secondHead, alike.symm.trans superseding, rfl⟩) tied
          exact exact.distinct first firstIn second secondIn tied
            (congrArg SupersessionChainNode.at same)
    · intro first firstIn second secondIn firstPrevious firstKnown secondPrevious secondKnown
        firstLink secondLink tied
      obtain ⟨firstNames, link, firstAudit, firstBroken⟩ := firstLink
      obtain ⟨secondNames, other, secondAudit, secondBroken⟩ := secondLink
      have same := breaks.mp (fun other perm => (parts other perm).2.2) first firstIn second secondIn
        _ ((mem_chainBreakOf exact firstIn).mpr
          ⟨firstPrevious, firstKnown, link, firstNames, firstAudit, firstBroken, rfl⟩)
        _ ((mem_chainBreakOf exact secondIn).mpr
          ⟨secondPrevious, secondKnown, other, secondNames, secondAudit, secondBroken, rfl⟩) tied
      obtain ⟨-, sameLink, sameAudit, sameIntent⟩ := ChainBreak.mk.inj same
      rw [firstAudit, secondAudit, sameLink]
      exact ⟨rfl, sameIntent, sameAudit⟩
  · intro untied other perm
    refine (buildSupersessionChains_perm exact perm).mpr ⟨chains.mpr ?_ other perm,
      singletons.mpr ?_ other perm, breaks.mpr ?_ other perm⟩
    · intro first firstIn second secondIn one oneAt two twoAt tied
      obtain ⟨firstHead, firstLinked, rfl⟩ := (mem_chainEntry exact).mp oneAt
      obtain ⟨secondHead, secondLinked, rfl⟩ := (mem_chainEntry exact).mp twoAt
      rw [untied.heads first firstIn second secondIn ((mem_heads_iff_newest exact).mp firstHead).2
        ((mem_heads_iff_newest exact).mp secondHead).2 tied (firstLinked.trans secondLinked.symm)]
    · intro first firstIn second secondIn one oneAt two twoAt tied
      obtain ⟨firstHead, firstRoot, rfl⟩ := (mem_singletonEntry exact).mp oneAt
      obtain ⟨secondHead, secondRoot, rfl⟩ := (mem_singletonEntry exact).mp twoAt
      rw [untied.heads first firstIn second secondIn ((mem_heads_iff_newest exact).mp firstHead).2
        ((mem_heads_iff_newest exact).mp secondHead).2 tied (firstRoot.trans secondRoot.symm)]
    · intro first firstIn second secondIn one oneAt two twoAt tied
      obtain ⟨firstPrevious, firstKnown, link, firstNames, firstAudit, firstBroken, rfl⟩ :=
        (mem_chainBreakOf exact firstIn).mp oneAt
      obtain ⟨secondPrevious, secondKnown, other, secondNames, secondAudit, secondBroken, rfl⟩ :=
        (mem_chainBreakOf exact secondIn).mp twoAt
      obtain ⟨sameLink, sameIntent, sameAudit⟩ := untied.breaks first firstIn second secondIn
        firstPrevious firstKnown secondPrevious secondKnown ⟨firstNames, link, firstAudit, firstBroken⟩
        ⟨secondNames, other, secondAudit, secondBroken⟩ tied
      rw [firstAudit, secondAudit] at sameLink
      exact ChainBreak.ext tied (Option.some.inj sameLink) sameAudit sameIntent

/-- The report of exactly linked records shows their lineages exactly when nothing is tied. -/
theorem trueLineages_iff {Ref : Type} [DecidableEq Ref] (read : Ref → AuditRecord)
    (records : List Ref) {T : Type} [Preorder T] (clock : JsString → T)
    (exact : WellLinked read records clock) : TrueLineages read records ↔ Untied read records := by
  rw [← stable_iff_untied exact]
  constructor
  · exact TrueLineages.stable
  · intro stable
    refine ⟨cycles_eq_nil exact, ?_, ?_, aggregate_eq_sum exact, stable⟩
    · simp only [buildSupersessionChains, danglingReferences_eq_nil exact]
      rfl
    · refine ⟨(heads read records).map fun head => (head, (walkFrom read records head).tail), ?_, ?_,
        lineages_perm exact⟩
      · refine List.Nodup.map ?_ (exact.once.filter _)
        exact fun first second same => (Prod.mk.inj same).1
      · intro head tail
        rw [isLineage_iff exact, List.mem_map]
        constructor
        · rintro ⟨start, member, same⟩
          obtain ⟨rfl, rfl⟩ := Prod.mk.inj same
          exact ⟨member, rfl⟩
        · rintro ⟨member, rfl⟩
          exact ⟨head, member, rfl⟩

end Lineages

/-- A confirmed payment follows the request for its confirmation under the same hash. -/
def confirmedPayment : Fin 2 → AuditRecord
  | 0 => linkedRecord "h" "1" none
  | 1 => linkedRecord "h" "2" (some ("h", "1"))

theorem confirmedPayment_wellLinked : WellLinked confirmedPayment [0, 1] id where
  once := by decide
  distinct := by decide +kernel
  linked record _ superseding := by
    match record with
    | 0 => cases superseding
    | 1 => exact ⟨0, by decide, ⟨_, rfl, rfl, rfl⟩, by decide +kernel⟩

theorem trueLineages_iff_confirmedPayment :
    TrueLineages confirmedPayment [0, 1] ↔ Untied confirmedPayment [0, 1] :=
  trueLineages_iff confirmedPayment [0, 1] id confirmedPayment_wellLinked

/-- Two decisions on one intent, neither of which supersedes the other. -/
def repeatedSuppression : Fin 2 → AuditRecord
  | 0 => linkedRecord "h" "1" none
  | 1 => linkedRecord "h" "2" none

theorem repeatedSuppression_unstable :
    WellLinked repeatedSuppression [0, 1] id ∧ ¬ TrueLineages repeatedSuppression [0, 1] := by
  constructor
  · refine ⟨by decide, by decide +kernel, ?_⟩
    intro record _ superseding
    match record with
    | 0 => cases superseding
    | 1 => cases superseding
  · intro lineages
    have same := lineages.stable [1, 0] (by decide)
    have instants : (buildSupersessionChains repeatedSuppression [1, 0]).singletons.map
        SupersessionChainNode.at ≠ (buildSupersessionChains repeatedSuppression [0, 1]).singletons.map
          SupersessionChainNode.at := by decide +kernel
    exact instants (congrArg (fun report => report.singletons.map SupersessionChainNode.at) same)

end Adjudicate.Audit
