import Mathlib.Data.List.Induction
import QueryCache.Proofs.Cache.Upkeep

/-! What is read from a cache in memory stands in its tag index.

A key can lose its place there while its payload stays in one way only: an entry that is already
expired is put over it. The old payload is then read until it expires, and no invalidation finds it. -/

set_option autoImplicit false

namespace QueryCache

/-- Whether the entry of a key has been outlived, by an action, given whether it was before it. -/
def CacheAction.outlives (now : Time) (key : String) (before : Bool) : CacheAction → Bool
  | .put entry => if key = entry.key then entry.isExpired now else before
  | .touch place _ => if key = place then false else before
  | _ => before

-- A touch gives the old payload its place in the index back.
/-- Whether the last that was written of a key is an entry that was already expired. -/
def isOutlived (events : List (Time × CacheAction)) (key : String) : Bool :=
  events.foldl (fun before event => event.2.outlives event.1 key before) false

theorem isOutlived_concat (events : List (Time × CacheAction)) (event : Time × CacheAction) (key : String) :
    isOutlived (events ++ [event]) key = event.2.outlives event.1 key (isOutlived events key) :=
  List.foldl_concat _ _ _ _

namespace MemoryCache

variable {c c' : MemoryCache} {key : String} {before now : Time} {outlived : Bool}

/-- The keys of a tag in the index as it is shown. -/
def Lists (c : MemoryCache) (tag key : String) : Prop := ∃ keys, (tag, keys) ∈ c.tagIndex ∧ key ∈ keys

theorem lists_iff (tidy : c.Tidy) (tag key : String) : c.Lists tag key ↔ key ∈ keysOf c.tags tag := by
  unfold Lists tagIndex keysOf
  simp only [List.mem_mergeSort, List.mem_map, Prod.mk.injEq]
  constructor
  · rintro ⟨-, ⟨⟨tag', keys⟩, member, rfl, rfl⟩, inside⟩
    rw [Table.get?_of_mem tidy.unique member]
    exact List.mem_mergeSort.1 inside
  · intro inside
    cases found : Table.get? c.tags tag with
    | none => simp [found] at inside
    | some keys =>
      rw [found] at inside
      exact ⟨_, ⟨_, Table.mem_of_get? found, rfl, rfl⟩, List.mem_mergeSort.2 inside⟩

/-! ## One action -/

/-- What can be read of a key stands under its tags, unless it is outlived: then under none. -/
def CoveredAt (c : MemoryCache) (now : Time) (key : String) (outlived : Bool) : Prop :=
  ∀ entry, Table.get? c.entries key = some entry → entry.isExpired now = false →
    Table.get? c.keyTags key = if outlived then none else some entry.tags

theorem CoveredAt.of_leaves (covered : c.CoveredAt now key outlived) (leaves : Leaves c c' key) :
    c'.CoveredAt now key outlived := by
  intro entry held valid
  rw [leaves.keyTags]
  exact covered entry (leaves.entries.symm.trans held) valid

theorem coveredAt_of_gone (gone : Table.get? c.entries key = none) : c.CoveredAt now key outlived := by
  intro entry held
  cases gone.symm.trans held

theorem CoveredAt.of_unseen (covered : c.CoveredAt now key outlived) (unseen : Unseen before c c' key) :
    c'.CoveredAt now key outlived := by
  rcases unseen with leaves | ⟨gone, -⟩
  · exact covered.of_leaves leaves
  · exact coveredAt_of_gone gone

theorem CoveredAt.put (covered : c.CoveredAt now key outlived) (tidy : c.Tidy) (passed : before.le now = true)
    (entry : CacheEntry) :
    (c.put before entry).CoveredAt now key (CacheAction.outlives before key outlived (.put entry)) := by
  unfold CacheAction.outlives
  dsimp only
  split
  · next own =>
    subst own
    intro held found valid
    rcases put_own tidy before entry with ⟨written, tags⟩ | ⟨ended, tags, -⟩
    · cases written.symm.trans found
      -- An entry that is written and valid now was valid when it was written.
      have fresh : entry.isExpired before = false := by
        by_contra ended
        rw [Bool.not_eq_false] at ended
        cases valid.symm.trans (CacheEntry.isExpired_mono passed ended)
      simpa [fresh] using tags
    · simpa [ended] using tags
  · next different => exact covered.of_unseen ((put_unseen tidy before entry).2 key different)

theorem CoveredAt.touch (covered : c.CoveredAt now key outlived) (tidy : c.Tidy) (passed : before.le now = true)
    (place : String) (span : Binary64) :
    (c.touch before place span).2.CoveredAt now key (CacheAction.outlives before key outlived (.touch place span)) := by
  unfold CacheAction.outlives
  dsimp only
  split
  · next same =>
    subst same
    intro held found valid
    rcases touch_own tidy before key span with ⟨entry, -, -, -, written, tags⟩ | ⟨ended, nothing⟩
    · cases written.symm.trans found
      exact tags
    · rw [nothing] at found
      cases valid.symm.trans (CacheEntry.isExpired_mono passed (ended held found))
  · next different => exact covered.of_leaves ((touch_leaves tidy before place span).2 key different)

theorem CoveredAt.act (covered : c.CoveredAt now key outlived) (tidy : c.Tidy) (passed : before.le now = true)
    (action : CacheAction) : (c.act before action).CoveredAt now key (action.outlives before key outlived) := by
  cases action with
  | get place => exact covered.of_unseen ((get_unseen tidy before place).2 key)
  | put entry => exact covered.put tidy passed entry
  | touch place span => exact covered.touch tidy passed place span
  | delete place =>
    obtain ⟨-, gone, others⟩ := delete_leaves tidy place
    by_cases same : key = place
    · exact coveredAt_of_gone (same ▸ gone)
    · exact covered.of_leaves (others key same)
  | invalidate tags =>
    have dropped := (invalidate_leaves tidy tags).2 key
    split at dropped
    · exact coveredAt_of_gone dropped
    · exact covered.of_leaves dropped
  | clear => exact coveredAt_of_gone rfl
  | lapse place =>
    by_cases same : key = place
    · exact coveredAt_of_gone (same ▸ Table.get?_erase_self c.entries place)
    · exact covered.of_leaves (leaves_drop same)

/-! ## Runs -/

theorem coveredAt_run (events : List (Time × CacheAction)) (now : Time)
    (past : ∀ event ∈ events, event.1.le now = true) (key : String) :
    (run {} events).CoveredAt now key (isOutlived events key) := by
  induction events using List.reverseRecOn with
  | nil => exact coveredAt_of_gone rfl
  | append_singleton events event ih =>
    rw [run_concat, isOutlived_concat]
    have covered := ih fun earlier member => past earlier (List.mem_append_left _ member)
    exact covered.act (tidy_empty.run events) (past event (List.mem_append_right _ List.mem_cons_self)) event.2

theorem lists_of_read (tidy : c.Tidy) (covered : c.CoveredAt now key outlived) {entry : CacheEntry}
    (found : (c.get now key).1 = some entry) (tag : String) :
    key ∈ keysOf c.tags tag ↔ outlived = false ∧ tag ∈ entry.tags := by
  obtain ⟨held, valid⟩ := get_eq_some.1 found
  rw [(tidy.at_ key).listed, covered entry held valid]
  cases outlived <;> simp

/-- What is read stands under exactly its tags, and an invalidation takes away exactly what has one
of its tags; but what is outlived stands under no tag and stays. -/
theorem reads_invalidated (events : List (Time × CacheAction)) (now : Time)
    (past : ∀ event ∈ events, event.1.le now = true) (key : String) :
    (∀ entry, ((run {} events).get now key).1 = some entry →
      ∀ tag, (run {} events).Lists tag key ↔ isOutlived events key = false ∧ tag ∈ entry.tags) ∧
    ∀ tags, (((run {} events).invalidate tags).2.get now key).1 = ((run {} events).get now key).1.filter
      fun entry => isOutlived events key || !tags.any entry.tags.contains := by
  have tidy := tidy_empty.run events
  have covered := coveredAt_run events now past key
  refine ⟨fun entry found tag => ?_, fun tags => ?_⟩
  · rw [lists_iff tidy]
    exact lists_of_read tidy covered found tag
  · have dropped := (invalidate_leaves tidy tags).2 key
    ext entry
    rw [get_eq_some, Option.filter_eq_some_iff]
    split at dropped
    · next under =>
      obtain ⟨tag, member, listed⟩ := under
      refine ⟨fun both => (nomatch dropped.symm.trans both.1), ?_⟩
      rintro ⟨found, stays⟩
      -- A key that stands under the tag is not outlived, and its entry has the tag.
      obtain ⟨fresh, own⟩ := (lists_of_read tidy covered found tag).1 listed
      have none_ : ∀ tag ∈ tags, tag ∉ entry.tags := by simpa [fresh] using stays
      exact absurd own (none_ tag member)
    · next apart =>
      rw [dropped.entries, ← get_eq_some]
      refine ⟨fun found => ⟨found, ?_⟩, And.left⟩
      by_contra goes
      simp only [Bool.or_eq_true, not_or, Bool.not_eq_true, Bool.not_eq_false', List.any_eq_true,
        List.contains_iff_mem] at goes
      obtain ⟨fresh, tag, member, own⟩ := goes
      exact apart ⟨tag, member, (lists_of_read tidy covered found tag).2 ⟨fresh, own⟩⟩

/-! ## A run -/

/-- A run that writes over two keys: over the one a valid entry, over the other one that is already
expired. -/
def overwriting : List (Time × CacheAction) := [
  (Binary64.zero, .put ⟨"kept", ["first"], [0], none⟩),
  (Binary64.zero, .put ⟨"left", ["first"], [0], none⟩),
  (.finite false 1, .put ⟨"kept", ["second"], [1], none⟩),
  (.finite false 1, .put ⟨"left", ["first"], [1], some (.finite false 1)⟩)]

theorem reads_invalidated_overwriting :
    ((run {} overwriting).Lists "second" "kept" ∧ ¬ (run {} overwriting).Lists "first" "kept") ∧
      (((run {} overwriting).invalidate ["second"]).2.get (.finite false 1) "kept").1 = none ∧
      (((run {} overwriting).invalidate ["first"]).2.get (.finite false 1) "kept").1 ≠ none := by
  obtain ⟨listed, dropped⟩ := reads_invalidated overwriting (.finite false 1) (by decide) "kept"
  have listed := listed ⟨"kept", ["second"], [1], none⟩ (by decide)
  refine ⟨⟨(listed "second").2 (by decide), fun other => ?_⟩, ?_, ?_⟩
  · exact absurd ((listed "first").1 other).2 (by decide)
  · rw [dropped]
    decide
  · rw [dropped]
    decide

-- The other key is still read, and has a tag, but does not stand under it; invalidating the tag
-- does not take it away.
theorem outlived_read_not_listed :
    ((run {} overwriting).get (.finite false 1) "left").1 = some ⟨"left", ["first"], [0], none⟩ ∧
      ¬ (run {} overwriting).Lists "first" "left" ∧
      (((run {} overwriting).invalidate ["first"]).2.get (.finite false 1) "left").1 =
        some ⟨"left", ["first"], [0], none⟩ := by
  refine ⟨by decide, ?_, by decide⟩
  rw [lists_iff (tidy_empty.run overwriting)]
  decide

end MemoryCache

end QueryCache
