import QueryCache.Cache.Memory
import QueryCache.Proofs.Distinct

/-! The tag index of a cache in memory covers its payloads.

Every operation keeps a payload reachable by each tag of its entry, and none but `put` brings a
payload in. `put` needs the old payload of its key to be gone: an expired entry takes the old
tags away and leaves an old payload behind. -/

set_option autoImplicit false

namespace QueryCache

namespace Table

variable {α : Type}

theorem get?_erase (t : Table α) (key other : String) :
    get? (erase t key) other = if other = key then none else get? t other := by
  split
  · next same => rw [same, get?_erase_self]
  · next different => exact get?_erase_of_ne t different

theorem get?_put (t : Table α) (key other : String) (value : α) :
    get? (put t key value) other = if other = key then some value else get? t other := by
  split
  · next same => rw [same, get?_put_self]
  · next different => exact get?_put_of_ne t value different

end Table

namespace MemoryCache

/-- The keys that stand under a tag. -/
def keysOf (tags : Table (List String)) (tag : String) : List String :=
  (Table.get? tags tag).getD []

/-- Each payload is found under its own key by every tag of its entry. -/
def Indexed (c : MemoryCache) : Prop :=
  ∀ key entry, Table.get? c.entries key = some entry →
    entry.key = key ∧ Table.get? c.keyTags key = some entry.tags ∧
      ∀ tag ∈ entry.tags, key ∈ keysOf c.tags tag

/-- Payloads only went away; those that stayed differ in their expiry at most. -/
def NothingNew (before after : MemoryCache) : Prop :=
  ∀ key entry, Table.get? after.entries key = some entry →
    ∃ old, Table.get? before.entries key = some old ∧
      old.key = entry.key ∧ old.tags = entry.tags ∧ old.payload = entry.payload

theorem NothingNew.refl (c : MemoryCache) : NothingNew c c :=
  fun _ entry found => ⟨entry, found, rfl, rfl, rfl⟩

theorem NothingNew.trans {a b c : MemoryCache} (first : NothingNew a b) (last : NothingNew b c) :
    NothingNew a c := by
  intro key entry found
  obtain ⟨middle, found, sameKey, sameTags, samePayload⟩ := last key entry found
  obtain ⟨old, found, sameKey', sameTags', samePayload'⟩ := first key middle found
  exact ⟨old, found, sameKey'.trans sameKey, sameTags'.trans sameTags,
    samePayload'.trans samePayload⟩

/-! ## Keys under tags -/

theorem mem_keysOf_unlink {tags : Table (List String)} {key tag other place : String} :
    other ∈ keysOf (unlink tags key tag) place ↔
      other ∈ keysOf tags place ∧ ¬ (other = key ∧ place = tag) := by
  unfold unlink keysOf
  split
  · next absent =>
    by_cases same : place = tag
    · simp [same, absent]
    · simp [same]
  · next keys found =>
    dsimp only
    split
    · next empty =>
      rw [Table.get?_erase]
      by_cases same : place = tag
      · have all : ∀ x ∈ keys, x = key := by simpa using empty
        simpa [same, found] using all other
      · simp [same]
    · rw [Table.get?_put]
      by_cases same : place = tag
      · simp [same, found]
      · simp [same]

theorem mem_keysOf_foldl_unlink {key other place : String} (list : List String)
    (tags : Table (List String)) :
    other ∈ keysOf (list.foldl (fun tags tag => unlink tags key tag) tags) place ↔
      other ∈ keysOf tags place ∧ ¬ (other = key ∧ place ∈ list) := by
  induction list generalizing tags with
  | nil => simp
  | cons tag rest ih =>
    rw [List.foldl_cons, ih, mem_keysOf_unlink, List.mem_cons]
    constructor
    · rintro ⟨⟨found, first⟩, others⟩
      refine ⟨found, fun ⟨same, member⟩ => ?_⟩
      rcases member with member | member
      · exact first ⟨same, member⟩
      · exact others ⟨same, member⟩
    · rintro ⟨found, apart⟩
      exact ⟨⟨found, fun ⟨same, member⟩ => apart ⟨same, .inl member⟩⟩,
        fun ⟨same, member⟩ => apart ⟨same, .inr member⟩⟩

theorem mem_keysOf_link {tags : Table (List String)} {key tag other place : String} :
    other ∈ keysOf (link tags key tag) place ↔
      other ∈ keysOf tags place ∨ (other = key ∧ place = tag) := by
  unfold link keysOf
  rw [Table.get?_put]
  by_cases same : place = tag
  · subst same
    rw [if_pos rfl, Option.getD_some]
    split
    · next member =>
      have member : key ∈ (Table.get? tags place).getD [] := by simpa using member
      constructor
      · exact .inl
      · rintro (found | ⟨rfl, -⟩)
        · exact found
        · exact member
    · simp
  · simp [same]

theorem mem_keysOf_foldl_link {key other place : String} (list : List String)
    (tags : Table (List String)) :
    other ∈ keysOf (list.foldl (fun tags tag => link tags key tag) tags) place ↔
      other ∈ keysOf tags place ∨ (other = key ∧ place ∈ list) := by
  induction list generalizing tags with
  | nil => simp
  | cons tag rest ih =>
    rw [List.foldl_cons, ih, mem_keysOf_link, List.mem_cons, or_assoc]
    constructor
    · rintro (found | ⟨same, member⟩ | ⟨same, member⟩)
      · exact .inl found
      · exact .inr ⟨same, .inl member⟩
      · exact .inr ⟨same, .inr member⟩
    · rintro (found | ⟨same, member | member⟩)
      · exact .inl found
      · exact .inr (.inl ⟨same, member⟩)
      · exact .inr (.inr ⟨same, member⟩)

theorem mem_keysOf_foldl_erase {other place : String} (list : List String)
    (tags : Table (List String)) :
    other ∈ keysOf (list.foldl Table.erase tags) place ↔ other ∈ keysOf tags place ∧ place ∉ list := by
  induction list generalizing tags with
  | nil => simp
  | cons tag rest ih =>
    rw [List.foldl_cons, ih, keysOf, Table.get?_erase, List.mem_cons, not_or]
    by_cases same : place = tag
    · simp [same]
    · simp [same, keysOf]

/-! ## Payloads and their index -/

theorem get?_drop (c : MemoryCache) (key other : String) :
    Table.get? (c.drop key).entries other =
      if other = key then none else Table.get? c.entries other :=
  Table.get?_erase c.entries key other

theorem nothingNew_drop (c : MemoryCache) (key : String) : NothingNew c (c.drop key) := by
  intro other entry found
  rw [get?_drop] at found
  split at found
  · cases found
  · exact ⟨entry, found, rfl, rfl, rfl⟩

theorem Indexed.drop {c : MemoryCache} (indexed : c.Indexed) (key : String) :
    (c.drop key).Indexed := by
  intro other entry found
  rw [get?_drop] at found
  split at found
  · cases found
  · exact indexed other entry found

/-- A key without a payload may leave the index. -/
theorem Indexed.unindex {c : MemoryCache} {key : String} (indexed : c.Indexed)
    (gone : Table.get? c.entries key = none) : (c.unindex key).Indexed := by
  intro other entry found
  have different : other ≠ key := by
    rintro rfl
    cases gone.symm.trans found
  obtain ⟨same, tags, listed⟩ := indexed other entry found
  refine ⟨same, ?_, fun tag member => ?_⟩
  · exact (Table.get?_erase_of_ne c.keyTags different).trans tags
  · exact (mem_keysOf_foldl_unlink _ _).2 ⟨listed tag member, fun both => different both.1⟩

/-- Dropping a payload together with its index. -/
theorem Indexed.remove {c : MemoryCache} (indexed : c.Indexed) (key : String) :
    ((c.drop key).unindex key).Indexed :=
  (indexed.drop key).unindex (by rw [get?_drop, if_pos rfl])

/-- A payload comes in together with its index. -/
theorem Indexed.hold {c : MemoryCache} (indexed : c.Indexed) (now : Time) (entry : CacheEntry)
    (span : Option Binary64) : ((c.hold now entry span).index entry).Indexed := by
  intro key found? held
  change Table.get? (Table.put c.entries entry.key entry) key = some found? at held
  rw [Table.get?_put] at held
  split at held
  · next same =>
    cases held
    subst same
    refine ⟨rfl, Table.get?_put_self _ _ _, fun tag member => ?_⟩
    exact (mem_keysOf_foldl_link _ _).2 (.inr ⟨rfl, member⟩)
  · next different =>
    obtain ⟨same, tags, listed⟩ := indexed key found? held
    refine ⟨same, (Table.get?_put_of_ne _ _ different).trans tags, fun tag member => ?_⟩
    exact (mem_keysOf_foldl_link _ _).2 (.inl (listed tag member))

/-! ## Operations -/

theorem dropDue_nothingNew (c : MemoryCache) (row : Time × String) : NothingNew c (c.dropDue row) := by
  unfold dropDue
  split
  · split
    · exact nothingNew_drop c row.2
    · exact .refl c
  · exact .refl c

theorem Indexed.dropDue {c : MemoryCache} (indexed : c.Indexed) (row : Time × String) :
    (c.dropDue row).Indexed := by
  unfold MemoryCache.dropDue
  split
  · split
    · exact indexed.remove row.2
    · exact indexed
  · exact indexed

/-- What every step of a fold keeps, the fold keeps. -/
theorem foldl_keeps {β : Type} {f : MemoryCache → β → MemoryCache} {c : MemoryCache}
    (indexed : c.Indexed) (list : List β)
    (step : ∀ c b, c.Indexed → (f c b).Indexed ∧ NothingNew c (f c b)) :
    (list.foldl f c).Indexed ∧ NothingNew c (list.foldl f c) := by
  induction list generalizing c with
  | nil => exact ⟨indexed, .refl c⟩
  | cons b rest ih =>
    obtain ⟨indexed', nothing⟩ := step c b indexed
    obtain ⟨kept, more⟩ := ih indexed'
    exact ⟨kept, nothing.trans more⟩

theorem prune_keeps {c : MemoryCache} (indexed : c.Indexed) (now : Time) :
    (c.prune now).Indexed ∧ NothingNew c (c.prune now) := by
  unfold prune
  generalize Heap.popWhile rowBefore (fun row => row.1.le now) c.rows.size c.rows = split
  obtain ⟨due, later⟩ := split
  have same : ({ c with rows := later } : MemoryCache).Indexed := indexed
  exact foldl_keeps (f := dropDue) same due fun c row indexed =>
    ⟨indexed.dropDue row, dropDue_nothingNew c row⟩

theorem fireTimers_keeps {c : MemoryCache} (indexed : c.Indexed) (now : Time) :
    (c.fireTimers now).Indexed ∧ NothingNew c (c.fireTimers now) := by
  unfold fireTimers
  exact foldl_keeps indexed _ fun c timer indexed =>
    ⟨indexed.drop timer.1, nothingNew_drop c timer.1⟩

/-- A look-up gives a payload that is kept, or leaves none. -/
theorem get_keeps {c : MemoryCache} (indexed : c.Indexed) (now : Time) (key : String) :
    (c.get now key).2.Indexed ∧ NothingNew c (c.get now key).2 ∧
      Table.get? (c.get now key).2.entries key = (c.get now key).1 ∧
      ∀ entry, (c.get now key).1 = some entry → Table.get? c.entries key = some entry := by
  unfold get
  split
  · next gone => exact ⟨indexed.unindex gone, .refl c, gone, nofun⟩
  · next entry found =>
    split
    · refine ⟨indexed.remove key, nothingNew_drop c key, ?_, nofun⟩
      exact (get?_drop c key key).trans (if_pos rfl)
    · exact ⟨indexed, .refl c, found, fun _ same => same ▸ found⟩

/-- An entry takes a free place, if it is not expired; nothing else comes in. -/
theorem put_keeps {c : MemoryCache} (indexed : c.Indexed) (now : Time) (entry : CacheEntry)
    (free : Table.get? c.entries entry.key = none) :
    (c.put now entry).Indexed ∧
      ∀ key found, Table.get? (c.put now entry).entries key = some found →
        key = entry.key ∧ found = entry ∨
          ∃ old, Table.get? c.entries key = some old ∧
            old.key = found.key ∧ old.tags = found.tags ∧ old.payload = found.payload := by
  obtain ⟨pruned, nothing⟩ := prune_keeps indexed now
  have stillFree : Table.get? (c.prune now).entries entry.key = none := by
    by_contra some
    obtain ⟨found, held⟩ := Option.ne_none_iff_exists'.1 some
    obtain ⟨old, kept, -⟩ := nothing entry.key found held
    cases free.symm.trans kept
  have bare := pruned.unindex stillFree
  have stored (span : Option Binary64) (key : String) (found : CacheEntry)
      (held : Table.get? (((c.prune now).unindex entry.key).hold now entry span |>.index entry).entries
        key = some found) :
      key = entry.key ∧ found = entry ∨
        ∃ old, Table.get? c.entries key = some old ∧
          old.key = found.key ∧ old.tags = found.tags ∧ old.payload = found.payload := by
    change Table.get? (Table.put (c.prune now).entries entry.key entry) key = some found at held
    rw [Table.get?_put] at held
    split at held
    · next same => exact .inl ⟨same, (Option.some.inj held).symm⟩
    · exact .inr (nothing key found held)
  unfold put
  dsimp only
  split
  · exact ⟨bare.hold now entry none, stored none⟩
  · split
    · exact ⟨bare, fun key found held => .inr (nothing key found held)⟩
    · next left _ _ => exact ⟨bare.hold now entry (some left), stored (some left)⟩

theorem delete_keeps {c : MemoryCache} (indexed : c.Indexed) (key : String) :
    (c.delete key).2.Indexed ∧ NothingNew c (c.delete key).2 ∧
      Table.get? (c.delete key).2.entries key = none :=
  ⟨indexed.remove key, nothingNew_drop c key, (get?_drop c key key).trans (if_pos rfl)⟩

theorem touch_keeps {c : MemoryCache} (indexed : c.Indexed) (now : Time) (key : String)
    (span : Binary64) : (c.touch now key span).2.Indexed ∧ NothingNew c (c.touch now key span).2 := by
  unfold touch
  split
  · exact ⟨indexed, .refl c⟩
  · next entry found =>
    split
    · exact ⟨indexed, .refl c⟩
    · refine ⟨indexed.hold now (entry.refreshed now span) (some span), fun other held found' => ?_⟩
      obtain ⟨same, -, -⟩ := indexed key entry found
      change Table.get? (Table.put c.entries entry.key (entry.refreshed now span)) other = some held
        at found'
      rw [Table.get?_put] at found'
      split at found'
      · next place =>
        cases found'
        rw [place, same]
        exact ⟨entry, found, rfl, rfl, rfl⟩
      · exact ⟨held, found', rfl, rfl, rfl⟩

/-- Dropping keys with their index leaves the other keys as they are. -/
theorem foldl_remove (keys : List String) (c : MemoryCache) (key : String) :
    let after := keys.foldl (fun c key => (c.drop key).unindex key) c
    (key ∈ keys → Table.get? after.entries key = none) ∧
      (key ∉ keys → Table.get? after.entries key = Table.get? c.entries key ∧
        Table.get? after.keyTags key = Table.get? c.keyTags key ∧
        ∀ tag, key ∈ keysOf after.tags tag ↔ key ∈ keysOf c.tags tag) := by
  induction keys generalizing c with
  | nil => simp
  | cons first rest ih =>
    obtain ⟨gone, kept⟩ := ih ((c.drop first).unindex first)
    have entry : Table.get? ((c.drop first).unindex first).entries key =
        if key = first then none else Table.get? c.entries key := get?_drop c first key
    rw [List.foldl_cons, List.mem_cons, not_or]
    constructor
    · intro member
      by_cases later : key ∈ rest
      · exact gone later
      · obtain rfl : key = first := member.resolve_right later
        rw [(kept later).1, entry, if_pos rfl]
    · rintro ⟨different, later⟩
      obtain ⟨entries, tags, listed⟩ := kept later
      refine ⟨?_, ?_, fun tag => ?_⟩
      · rw [entries, entry, if_neg different]
      · rw [tags]
        exact Table.get?_erase_of_ne c.keyTags different
      · rw [listed]
        refine (mem_keysOf_foldl_unlink _ _).trans ?_
        exact ⟨And.left, fun found => ⟨found, fun both => different both.1⟩⟩

/-- Payloads under the tags go, whatever their keys. -/
theorem invalidate_keeps {c : MemoryCache} (indexed : c.Indexed) (tags : List String) :
    (c.invalidate tags).2.Indexed ∧ NothingNew c (c.invalidate tags).2 ∧
      ∀ key entry, Table.get? (c.invalidate tags).2.entries key = some entry →
        ∀ tag ∈ tags, tag ∉ entry.tags := by
  have others := foldl_remove (distinct (tags.flatMap fun tag => keysOf c.tags tag))
    { c with tags := tags.foldl Table.erase c.tags }
  -- A payload that stays is under none of the tags, so its key is none of those dropped.
  have stays (key : String) (entry : CacheEntry)
      (found : Table.get? (c.invalidate tags).2.entries key = some entry) :
      Table.get? c.entries key = some entry ∧
        key ∉ distinct (tags.flatMap fun tag => keysOf c.tags tag) := by
    by_cases member : key ∈ distinct (tags.flatMap fun tag => keysOf c.tags tag)
    · cases ((others key).1 member).symm.trans found
    · exact ⟨((others key).2 member).1.symm.trans found, member⟩
  have apart (key : String) (entry : CacheEntry)
      (found : Table.get? (c.invalidate tags).2.entries key = some entry) :
      ∀ tag ∈ tags, tag ∉ entry.tags := by
    intro tag member under
    obtain ⟨old, absent⟩ := stays key entry found
    apply absent
    rw [mem_distinct, List.mem_flatMap]
    exact ⟨tag, member, (indexed key entry old).2.2 tag under⟩
  refine ⟨fun key entry found => ?_, fun key entry found => ?_, apart⟩
  · obtain ⟨old, absent⟩ := stays key entry found
    obtain ⟨same, listedTags, listed⟩ := indexed key entry old
    obtain ⟨-, keyTags, keys⟩ := (others key).2 absent
    refine ⟨same, keyTags.trans listedTags, fun tag member => (keys tag).2 ?_⟩
    refine (mem_keysOf_foldl_erase _ _).2 ⟨listed tag member, fun inside => ?_⟩
    exact apart key entry found tag inside member
  · exact ⟨entry, (stays key entry found).1, rfl, rfl, rfl⟩

theorem indexed_clear (c : MemoryCache) : c.clear.Indexed := by
  intro key entry found
  cases found

end MemoryCache

end QueryCache
