import QueryCache.Proofs.Cache.Clock
import QueryCache.Proofs.Cache.Index
import QueryCache.Proofs.Order.Heap

/-! What the operations of a cache in memory do to one key.

Payloads, tags, expiries and the index are four tables that every operation changes one after the
other. Seen from one key little can happen: all that is known of it stays as it was, or its payload
goes, or `put` and `touch` write it. -/

set_option autoImplicit false

namespace QueryCache

namespace Table

variable {α : Type}

theorem nodup_keys_erase {t : Table α} (unique : (keys t).Nodup) (key : String) : (keys (erase t key)).Nodup :=
  unique.sublist (List.filter_sublist.map _)

theorem nodup_keys_put {t : Table α} (unique : (keys t).Nodup) (key : String) (value : α) :
    (keys (put t key value)).Nodup := by
  refine List.nodup_cons.2 ⟨fun member => ?_, nodup_keys_erase unique key⟩
  obtain ⟨entry, kept, own⟩ := List.mem_map.1 member
  simp [erase, own] at kept

theorem get?_of_mem {t : Table α} (unique : (keys t).Nodup) {key : String} {value : α} (member : (key, value) ∈ t) :
    get? t key = some value := by
  induction t with
  | nil => cases member
  | cons entry rest ih =>
    obtain ⟨absent, unique⟩ := List.nodup_cons.1 unique
    unfold get? at *
    rw [List.find?_cons]
    rcases List.mem_cons.1 member with rfl | member
    · simp
    · have other : (entry.1 == key) = false := by
        rw [beq_eq_false_iff_ne]
        rintro rfl
        exact absent (List.mem_map.2 ⟨_, member, rfl⟩)
      rw [other]
      exact ih unique member

theorem mem_of_get? {t : Table α} {key : String} {value : α} (found : get? t key = some value) :
    (key, value) ∈ t := by
  obtain ⟨⟨other, value'⟩, hit, same⟩ := Option.map_eq_some_iff.1 found
  have own : other = key := by simpa using List.find?_some hit
  cases same
  exact own ▸ List.mem_of_find?_eq_some hit

end Table

theorem CacheEntry.isExpired_mono {entry : CacheEntry} {before now : Time} (passed : before.le now = true)
    (ended : entry.isExpired before = true) : entry.isExpired now = true := by
  obtain ⟨expiry, own, due⟩ := (Option.any_eq_true _ _).1 ended
  exact (Option.any_eq_true _ _).2 ⟨expiry, own, Time.le_trans due passed⟩

namespace MemoryCache

variable {c c' c'' : MemoryCache} {key place : String} {now : Time}

/-! ## Seen from one key -/

/-- All that is known of a key is as it was. -/
structure Leaves (c c' : MemoryCache) (key : String) : Prop where
  entries : Table.get? c'.entries key = Table.get? c.entries key
  keyTags : Table.get? c'.keyTags key = Table.get? c.keyTags key
  expiry : Table.get? c'.expiry key = Table.get? c.expiry key
  listed : ∀ tag, key ∈ keysOf c'.tags tag ↔ key ∈ keysOf c.tags tag

theorem Leaves.refl (c : MemoryCache) (key : String) : Leaves c c key := ⟨rfl, rfl, rfl, fun _ => Iff.rfl⟩

theorem Leaves.trans (first : Leaves c c' key) (last : Leaves c' c'' key) : Leaves c c'' key where
  entries := last.entries.trans first.entries
  keyTags := last.keyTags.trans first.keyTags
  expiry := last.expiry.trans first.expiry
  listed tag := (last.listed tag).trans (first.listed tag)

-- Callers cannot tell this from nothing at all.
/-- A key is left alone, or its payload goes because its time is over. -/
def Unseen (now : Time) (c c' : MemoryCache) (key : String) : Prop :=
  Leaves c c' key ∨ Table.get? c'.entries key = none ∧
    ∀ entry, Table.get? c.entries key = some entry → entry.isExpired now = true

theorem leaves_drop (different : place ≠ key) : Leaves c (c.drop key) place where
  entries := Table.get?_erase_of_ne c.entries different
  keyTags := rfl
  expiry := rfl
  listed _ := Iff.rfl

theorem leaves_unindex (different : place ≠ key) : Leaves c (c.unindex key) place where
  entries := rfl
  keyTags := Table.get?_erase_of_ne c.keyTags different
  expiry := Table.get?_erase_of_ne c.expiry different
  listed _ := (mem_keysOf_foldl_unlink _ _).trans (and_iff_left fun both => different both.1)

theorem leaves_remove (different : place ≠ key) : Leaves c ((c.drop key).unindex key) place :=
  (leaves_drop different).trans (leaves_unindex different)

theorem leaves_hold (entry : CacheEntry) (different : place ≠ entry.key) (now : Time) (span : Option Binary64) :
    Leaves c ((c.hold now entry span).index entry) place where
  entries := Table.get?_put_of_ne c.entries entry different
  keyTags := Table.get?_put_of_ne c.keyTags entry.tags different
  expiry := by
    unfold index
    dsimp only
    split
    · exact Table.get?_put_of_ne c.expiry _ different
    · exact Table.get?_erase_of_ne c.expiry different
  listed _ := (mem_keysOf_foldl_link _ _).trans (or_iff_left fun both => different both.1)

theorem leaves_foldl_remove (keys : List String) (absent : key ∉ keys) :
    Leaves c (keys.foldl (fun c key => (c.drop key).unindex key) c) key := by
  induction keys generalizing c with
  | nil => exact .refl c key
  | cons first rest ih =>
    obtain ⟨different, later⟩ := not_or.1 (mt List.mem_cons.2 absent)
    exact (leaves_remove different).trans (ih later)

/-! ## The tables agree -/

/-- What the tables say of a key agrees: it stands under its tags alone, and its payload, if it is
there, is of these tags and of this expiry. -/
structure TidyAt (c : MemoryCache) (key : String) : Prop where
  own : ∀ entry, Table.get? c.entries key = some entry → entry.key = key
  tags : ∀ entry tags, Table.get? c.entries key = some entry → Table.get? c.keyTags key = some tags →
    tags = entry.tags
  listed : ∀ tag, key ∈ keysOf c.tags tag ↔ ∃ tags, Table.get? c.keyTags key = some tags ∧ tag ∈ tags
  indexed : ∀ expiry, Table.get? c.expiry key = some expiry → Table.get? c.keyTags key ≠ none
  expiry : ∀ entry expiry, Table.get? c.entries key = some entry → Table.get? c.expiry key = some expiry →
    entry.expiresAt = some expiry

structure Tidy (c : MemoryCache) : Prop where
  at_ : ∀ key, c.TidyAt key
  /-- No tag stands twice in the index. -/
  unique : (Table.keys c.tags).Nodup

theorem TidyAt.of_leaves (tidy : c.TidyAt key) (leaves : Leaves c c' key) : c'.TidyAt key := by
  obtain ⟨entries, keyTags, expiry, listed⟩ := leaves
  constructor
  · rw [entries]
    exact tidy.own
  · rw [entries, keyTags]
    exact tidy.tags
  · intro tag
    rw [listed, keyTags]
    exact tidy.listed tag
  · rw [expiry, keyTags]
    exact tidy.indexed
  · rw [entries, expiry]
    exact tidy.expiry

/-- A key may leave the index whatever stood there, so long as it stood under its tags only. -/
theorem tidyAt_unindex (own : ∀ entry, Table.get? c.entries key = some entry → entry.key = key)
    (listed : ∀ tag, key ∈ keysOf c.tags tag → ∃ tags, Table.get? c.keyTags key = some tags ∧ tag ∈ tags) :
    (c.unindex key).TidyAt key := by
  have noTags : Table.get? (c.unindex key).keyTags key = none := Table.get?_erase_self c.keyTags key
  have noExpiry : Table.get? (c.unindex key).expiry key = none := Table.get?_erase_self c.expiry key
  constructor
  · exact own
  · intro entry tags _ found
    cases noTags.symm.trans found
  · intro tag
    rw [noTags]
    refine ⟨fun member => ?_, by rintro ⟨-, ⟨⟩, -⟩⟩
    obtain ⟨before, apart⟩ := (mem_keysOf_foldl_unlink _ _).1 member
    obtain ⟨tags, found, inside⟩ := listed tag before
    exact absurd ⟨rfl, by simpa [found] using inside⟩ apart
  · intro expiry found
    cases noExpiry.symm.trans found
  · intro entry expiry _ found
    cases noExpiry.symm.trans found

theorem nodup_foldl {β : Type} {f : Table (List String) → β → Table (List String)} (list : List β)
    (step : ∀ tags b, (Table.keys tags).Nodup → (Table.keys (f tags b)).Nodup) (tags : Table (List String))
    (unique : (Table.keys tags).Nodup) : (Table.keys (list.foldl f tags)).Nodup := by
  induction list generalizing tags with
  | nil => exact unique
  | cons b rest ih => exact ih _ (step tags b unique)

theorem nodup_unlink {tags : Table (List String)} (unique : (Table.keys tags).Nodup) (key tag : String) :
    (Table.keys (unlink tags key tag)).Nodup := by
  unfold unlink
  split
  · exact unique
  · dsimp only
    split
    · exact Table.nodup_keys_erase unique tag
    · exact Table.nodup_keys_put unique tag _

theorem TidyAt.drop (tidy : c.TidyAt place) (key : String) : (c.drop key).TidyAt place := by
  by_cases same : place = key
  · subst same
    have gone : Table.get? (c.drop place).entries place = none := Table.get?_erase_self c.entries place
    constructor
    · intro entry found
      cases gone.symm.trans found
    · intro entry tags found
      cases gone.symm.trans found
    · exact tidy.listed
    · exact tidy.indexed
    · intro entry expiry found
      cases gone.symm.trans found
  · exact tidy.of_leaves (leaves_drop same)

theorem TidyAt.unindex (tidy : c.TidyAt place) (key : String) : (c.unindex key).TidyAt place := by
  by_cases same : place = key
  · subst same
    exact tidyAt_unindex tidy.own fun tag => (tidy.listed tag).1
  · exact tidy.of_leaves (leaves_unindex same)

theorem nodup_unindex (unique : (Table.keys c.tags).Nodup) (key : String) :
    (Table.keys (c.unindex key).tags).Nodup :=
  nodup_foldl _ (fun _ tag unique => nodup_unlink unique key tag) _ unique

theorem Tidy.drop (tidy : c.Tidy) (key : String) : (c.drop key).Tidy :=
  ⟨fun place => (tidy.at_ place).drop key, tidy.unique⟩

theorem Tidy.unindex (tidy : c.Tidy) (key : String) : (c.unindex key).Tidy :=
  ⟨fun place => (tidy.at_ place).unindex key, nodup_unindex tidy.unique key⟩

/-- An entry may be written where none is indexed, or one of the same tags. -/
theorem Tidy.hold (tidy : c.Tidy) (entry : CacheEntry)
    (free : ∀ tags, Table.get? c.keyTags entry.key = some tags → tags = entry.tags) (now : Time)
    (span : Option Binary64) : ((c.hold now entry span).index entry).Tidy where
  at_ place := by
    -- What is written stands under its own key, and leaves every other place alone.
    by_cases same : place = entry.key
    · subst same
      have held : Table.get? ((c.hold now entry span).index entry).entries entry.key = some entry :=
        Table.get?_put_self c.entries entry.key entry
      have tags : Table.get? ((c.hold now entry span).index entry).keyTags entry.key = some entry.tags :=
        Table.get?_put_self c.keyTags entry.key entry.tags
      constructor
      · intro found held'
        cases held.symm.trans held'
        rfl
      · intro found tags' held' found'
        cases held.symm.trans held'
        cases tags.symm.trans found'
        rfl
      · intro tag
        rw [tags]
        refine (mem_keysOf_foldl_link _ _).trans ⟨?_, ?_⟩
        · rintro (before | ⟨-, member⟩)
          · obtain ⟨tags', found, member⟩ := ((tidy.at_ entry.key).listed tag).1 before
            exact ⟨_, rfl, free tags' found ▸ member⟩
          · exact ⟨_, rfl, member⟩
        · rintro ⟨tags', ⟨⟩, member⟩
          exact .inr ⟨rfl, member⟩
      · intro expiry _ gone
        cases tags.symm.trans gone
      · intro found expiry held' recorded
        cases held.symm.trans held'
        unfold index at recorded
        dsimp only at recorded
        split at recorded
        · next expiry' known => rw [known, ← recorded, Table.get?_put_self]
        · rw [Table.get?_erase_self] at recorded
          cases recorded
    · exact (tidy.at_ place).of_leaves (leaves_hold entry same now span)
  unique := nodup_foldl entry.tags (fun _ tag unique => Table.nodup_keys_put unique tag _) _ tidy.unique

theorem tidy_empty : ({} : MemoryCache).Tidy := by
  refine ⟨fun key => ?_, List.nodup_nil⟩
  constructor
  · intro entry found
    cases found
  · intro entry tags found
    cases found
  · intro tag
    constructor
    · intro member
      cases member
    · rintro ⟨tags, ⟨⟩, -⟩
  · intro expiry found
    cases found
  · intro entry expiry found
    cases found

/-! ## Pruning -/

theorem Unseen.trans (first : Unseen now c c' key) (last : Unseen now c' c'' key) : Unseen now c c'' key := by
  rcases first with kept | ⟨gone, ended⟩
  · rcases last with kept' | ⟨gone', ended'⟩
    · exact .inl (kept.trans kept')
    · exact .inr ⟨gone', fun entry held => ended' entry (kept.entries.trans held)⟩
  · rcases last with kept' | ⟨gone', -⟩
    · exact .inr ⟨kept'.entries.trans gone, ended⟩
    · exact .inr ⟨gone', ended⟩

theorem Tidy.dropDue (tidy : c.Tidy) (row : Time × String) : (c.dropDue row).Tidy := by
  unfold MemoryCache.dropDue
  split
  · split
    · exact (tidy.drop row.2).unindex row.2
    · exact tidy
  · exact tidy

/-- Nothing is known of a key. -/
structure Gone (c : MemoryCache) (key : String) : Prop where
  entries : Table.get? c.entries key = none
  keyTags : Table.get? c.keyTags key = none
  expiry : Table.get? c.expiry key = none
  listed : ∀ tag, key ∉ keysOf c.tags tag

theorem Gone.of_leaves (gone : Gone c key) (leaves : Leaves c c' key) : Gone c' key where
  entries := leaves.entries.trans gone.entries
  keyTags := leaves.keyTags.trans gone.keyTags
  expiry := leaves.expiry.trans gone.expiry
  listed tag member := gone.listed tag ((leaves.listed tag).1 member)

theorem gone_remove (tidy : c.TidyAt key) : Gone ((c.drop key).unindex key) key where
  entries := Table.get?_erase_self c.entries key
  keyTags := Table.get?_erase_self c.keyTags key
  expiry := Table.get?_erase_self c.expiry key
  listed tag member := by
    obtain ⟨tags, recorded, -⟩ := (((tidy.drop key).unindex key).listed tag).1 member
    cases (Table.get?_erase_self c.keyTags key).symm.trans recorded

/-- A key is left alone, or its recorded expiry was due and it is gone. -/
def PrunedAt (now : Time) (c c' : MemoryCache) (key : String) : Prop :=
  Leaves c c' key ∨ (∃ expiry, Table.get? c.expiry key = some expiry ∧ expiry.le now = true) ∧ Gone c' key

theorem PrunedAt.trans (first : PrunedAt now c c' key) (last : PrunedAt now c' c'' key) : PrunedAt now c c'' key := by
  rcases first with leaves | ⟨due, gone⟩
  · rcases last with leaves' | ⟨⟨expiry, recorded, due⟩, gone⟩
    · exact .inl (leaves.trans leaves')
    · exact .inr ⟨⟨expiry, leaves.expiry.symm.trans recorded, due⟩, gone⟩
  · rcases last with leaves' | ⟨-, gone'⟩
    · exact .inr ⟨due, gone.of_leaves leaves'⟩
    · exact .inr ⟨due, gone'⟩

-- The recorded expiry is that of the payload, if there is one.
theorem PrunedAt.unseen (pruned : PrunedAt now c c' key) (tidy : c.TidyAt key) : Unseen now c c' key := by
  rcases pruned with leaves | ⟨⟨expiry, recorded, due⟩, gone⟩
  · exact .inl leaves
  · refine .inr ⟨gone.entries, fun entry held => ?_⟩
    rw [CacheEntry.isExpired, tidy.expiry entry expiry held recorded]
    exact due

theorem prunedAt_dropDue (tidy : c.TidyAt key) {row : Time × String} (due : row.1.le now = true) :
    PrunedAt now c (c.dropDue row) key := by
  unfold dropDue
  split
  · next expiry recorded =>
    split
    · next agrees =>
      by_cases own : key = row.2
      · subst own
        exact .inr ⟨⟨expiry, recorded, Time.le_trans (Bool.and_eq_true_iff.1 agrees).1 due⟩, gone_remove tidy⟩
      · exact .inl (leaves_remove own)
    · exact .inl (.refl c key)
  · exact .inl (.refl c key)

theorem foldl_dropDue (tidy : c.Tidy) (due : List (Time × String)) (all : ∀ row ∈ due, row.1.le now = true) :
    (due.foldl dropDue c).Tidy ∧ ∀ place, PrunedAt now c (due.foldl dropDue c) place := by
  induction due generalizing c with
  | nil => exact ⟨tidy, fun place => .inl (.refl c place)⟩
  | cons row rest ih =>
    obtain ⟨tidy', pruned⟩ := ih (tidy.dropDue row) fun row later => all row (List.mem_cons_of_mem _ later)
    exact ⟨tidy', fun place => (prunedAt_dropDue (tidy.at_ place) (all row List.mem_cons_self)).trans (pruned place)⟩

theorem prunedAt_prune (tidy : c.Tidy) (now : Time) :
    (c.prune now).Tidy ∧ ∀ place, PrunedAt now c (c.prune now) place := by
  have due := Heap.holds_of_mem_popWhile rowBefore (fun row => row.1.le now) c.rows.size c.rows
  unfold prune
  generalize Heap.popWhile rowBefore (fun row => row.1.le now) c.rows.size c.rows = split at due ⊢
  obtain ⟨due', later⟩ := split
  -- The rows are read by nothing but pruning itself.
  have same : ({ c with rows := later } : MemoryCache).Tidy :=
    ⟨fun key => (tidy.at_ key).of_leaves ⟨rfl, rfl, rfl, fun _ => Iff.rfl⟩, tidy.unique⟩
  obtain ⟨tidy', pruned⟩ := foldl_dropDue same due' due
  have before (place : String) : PrunedAt now c { c with rows := later } place :=
    .inl ⟨rfl, rfl, rfl, fun _ => Iff.rfl⟩
  exact ⟨tidy', fun place => (before place).trans (pruned place)⟩

theorem prune_unseen (tidy : c.Tidy) (now : Time) :
    (c.prune now).Tidy ∧ ∀ place, Unseen now c (c.prune now) place := by
  obtain ⟨tidy', pruned⟩ := prunedAt_prune tidy now
  exact ⟨tidy', fun place => (pruned place).unseen (tidy.at_ place)⟩

/-! ## Operations -/

theorem get_unseen (tidy : c.Tidy) (now : Time) (key : String) :
    (c.get now key).2.Tidy ∧ ∀ place, Unseen now c (c.get now key).2 place := by
  unfold get
  split
  · next gone =>
    refine ⟨tidy.unindex key, fun place => ?_⟩
    by_cases same : place = key
    · subst same
      refine .inr ⟨gone, fun entry held => ?_⟩
      cases gone.symm.trans held
    · exact .inl (leaves_unindex same)
  · next entry found =>
    split
    · next ended =>
      refine ⟨(tidy.drop key).unindex key, fun place => ?_⟩
      by_cases same : place = key
      · subst same
        refine .inr ⟨Table.get?_erase_self c.entries place, fun entry' held => ?_⟩
        cases found.symm.trans held
        exact ended
      · exact .inl (leaves_remove same)
    · exact ⟨tidy, fun place => .inl (.refl c place)⟩

/-- A look-up finds what is there and not expired. -/
theorem get_eq_some {entry : CacheEntry} : (c.get now key).1 = some entry ↔
    Table.get? c.entries key = some entry ∧ entry.isExpired now = false := by
  unfold get
  split
  · next gone => simp [gone]
  · next entry' found =>
    split
    · next ended =>
      refine ⟨nofun, ?_⟩
      rintro ⟨held, valid⟩
      cases found.symm.trans held
      cases ended.symm.trans valid
    · next valid =>
      refine ⟨?_, ?_⟩
      · rintro ⟨⟩
        exact ⟨found, by simpa using valid⟩
      · rintro ⟨held, -⟩
        exact found.symm.trans held

/-- What `put` leaves of its key: the entry under its tags, or, when the entry is expired, no tag and
at most the payload from before. -/
theorem put_own (tidy : c.Tidy) (now : Time) (entry : CacheEntry) :
    (Table.get? (c.put now entry).entries entry.key = some entry ∧
        Table.get? (c.put now entry).keyTags entry.key = some entry.tags ∨
      entry.isExpired now = true ∧ Table.get? (c.put now entry).keyTags entry.key = none ∧
        (Table.get? (c.put now entry).entries entry.key = Table.get? c.entries entry.key ∨
          Table.get? (c.put now entry).entries entry.key = none ∧
            ∀ old, Table.get? c.entries entry.key = some old → old.isExpired now = true)) := by
  have pruned := (prune_unseen tidy now).2 entry.key
  unfold put
  dsimp only
  split
  · exact .inl ⟨Table.get?_put_self _ entry.key entry, Table.get?_put_self _ entry.key entry.tags⟩
  · next left known =>
    split
    · next spent =>
      refine .inr ⟨?_, Table.get?_erase_self _ entry.key, ?_⟩
      · unfold CacheEntry.remaining at known
        obtain ⟨expiry, own, rfl⟩ := Option.map_eq_some_iff.1 known
        rw [CacheEntry.isExpired, own]
        exact Time.le_of_left_le_zero spent
      · rcases pruned with kept | ⟨gone, ended⟩
        · exact .inl kept.entries
        · exact .inr ⟨gone, ended⟩
    · exact .inl ⟨Table.get?_put_self _ entry.key entry, Table.get?_put_self _ entry.key entry.tags⟩

theorem put_unseen (tidy : c.Tidy) (now : Time) (entry : CacheEntry) :
    (c.put now entry).Tidy ∧ ∀ place, place ≠ entry.key → Unseen now c (c.put now entry) place := by
  obtain ⟨pruned, unseen⟩ := prune_unseen tidy now
  have bare := pruned.unindex entry.key
  have noTags : Table.get? ((c.prune now).unindex entry.key).keyTags entry.key = none :=
    Table.get?_erase_self _ entry.key
  have stored (span : Option Binary64) : (((c.prune now).unindex entry.key).hold now entry span |>.index entry).Tidy :=
    bare.hold entry (fun tags found => by cases noTags.symm.trans found) now span
  have aside {place : String} (different : place ≠ entry.key) :
      Unseen now c ((c.prune now).unindex entry.key) place :=
    (unseen place).trans (.inl (leaves_unindex different))
  unfold put
  dsimp only
  split
  · exact ⟨stored none, fun place different =>
      (aside different).trans (.inl (leaves_hold entry different now none))⟩
  · next left _ =>
    split
    · exact ⟨bare, fun place different => aside different⟩
    · exact ⟨stored (some left),
        fun place different => (aside different).trans (.inl (leaves_hold entry different now (some left)))⟩

theorem touch_leaves (tidy : c.Tidy) (now : Time) (key : String) (span : Binary64) :
    (c.touch now key span).2.Tidy ∧ ∀ place, place ≠ key → Leaves c (c.touch now key span).2 place := by
  unfold touch
  split
  · exact ⟨tidy, fun place _ => .refl c place⟩
  · next entry found =>
    split
    · exact ⟨tidy, fun place _ => .refl c place⟩
    · have own := (tidy.at_ key).own entry found
      refine ⟨tidy.hold (entry.refreshed now span) (fun tags recorded => ?_) now (some span),
        fun place different => ?_⟩
      · change Table.get? c.keyTags entry.key = some tags at recorded
        rw [own] at recorded
        exact (tidy.at_ key).tags entry tags found recorded
      · exact leaves_hold (entry.refreshed now span) (fun same => different (same.trans own)) now (some span)

/-- A touch finds what is there and not expired, and writes it anew; else it does nothing. -/
theorem touch_own (tidy : c.Tidy) (now : Time) (key : String) (span : Binary64) :
    (∃ entry, Table.get? c.entries key = some entry ∧ entry.isExpired now = false ∧
        (c.touch now key span).1 = true ∧
        Table.get? (c.touch now key span).2.entries key = some (entry.refreshed now span) ∧
        Table.get? (c.touch now key span).2.keyTags key = some entry.tags) ∨
      (∀ entry, Table.get? c.entries key = some entry → entry.isExpired now = true) ∧
        c.touch now key span = (false, c) := by
  unfold touch
  split
  · next gone => exact .inr ⟨fun entry held => (nomatch gone.symm.trans held), rfl⟩
  · next entry found =>
    split
    · next ended =>
      refine .inr ⟨fun entry' held => ?_, rfl⟩
      cases found.symm.trans held
      exact ended
    · next valid =>
      have own := (tidy.at_ key).own entry found
      refine .inl ⟨entry, found, by simpa using valid, rfl, ?_, ?_⟩
      · rw [← own]
        exact Table.get?_put_self c.entries entry.key (entry.refreshed now span)
      · rw [← own]
        exact Table.get?_put_self c.keyTags entry.key entry.tags

theorem delete_leaves (tidy : c.Tidy) (key : String) :
    (c.delete key).2.Tidy ∧ Table.get? (c.delete key).2.entries key = none ∧
      ∀ place, place ≠ key → Leaves c (c.delete key).2 place :=
  ⟨(tidy.drop key).unindex key, Table.get?_erase_self c.entries key, fun _ different => leaves_remove different⟩

/-- A key that is removed with others is in order, whatever still stood under its tags. -/
theorem tidyAt_foldl_remove (keys : List String) (member : key ∈ keys)
    (own : ∀ entry, Table.get? c.entries key = some entry → entry.key = key)
    (listed : ∀ tag, key ∈ keysOf c.tags tag → ∃ tags, Table.get? c.keyTags key = some tags ∧ tag ∈ tags) :
    (keys.foldl (fun c key => (c.drop key).unindex key) c).TidyAt key := by
  have later (keys : List String) (c : MemoryCache) (tidy : c.TidyAt key) :
      (keys.foldl (fun c key => (c.drop key).unindex key) c).TidyAt key := by
    induction keys generalizing c with
    | nil => exact tidy
    | cons first rest ih => exact ih _ ((tidy.drop first).unindex first)
  induction keys generalizing c with
  | nil => cases member
  | cons first rest ih =>
    by_cases same : key = first
    · subst same
      refine later rest _ (tidyAt_unindex (fun entry held => ?_) listed)
      cases (Table.get?_erase_self c.entries key).symm.trans held
    · have kept := leaves_remove (c := c) same
      refine ih ((List.mem_cons.1 member).resolve_left same) (fun entry held => ?_) fun tag found => ?_
      · exact own entry (kept.entries.symm.trans held)
      · obtain ⟨tags, recorded, inside⟩ := listed tag ((kept.listed tag).1 found)
        exact ⟨tags, kept.keyTags.trans recorded, inside⟩

/-- Invalidation removes the keys that stand under the tags and leaves the others alone. -/
theorem invalidate_leaves (tidy : c.Tidy) (tags : List String) :
    (c.invalidate tags).2.Tidy ∧ ∀ place,
      if ∃ tag ∈ tags, place ∈ keysOf c.tags tag then Table.get? (c.invalidate tags).2.entries place = none
      else Leaves c (c.invalidate tags).2 place := by
  have member (place : String) : place ∈ distinct (tags.flatMap fun tag => keysOf c.tags tag) ↔
      ∃ tag ∈ tags, place ∈ keysOf c.tags tag := by rw [mem_distinct, List.mem_flatMap]
  have away {place tag : String} (found : place ∈ keysOf (tags.foldl Table.erase c.tags) tag) :
      place ∈ keysOf c.tags tag := ((mem_keysOf_foldl_erase _ _).1 found).1
  have left (place : String) (apart : ¬ ∃ tag ∈ tags, place ∈ keysOf c.tags tag) :
      Leaves c (c.invalidate tags).2 place := by
    have kept : Leaves c { c with tags := tags.foldl Table.erase c.tags } place := by
      refine ⟨rfl, rfl, rfl, fun tag => ⟨away, fun found => ?_⟩⟩
      exact (mem_keysOf_foldl_erase _ _).2 ⟨found, fun inside => apart ⟨tag, inside, found⟩⟩
    exact kept.trans (leaves_foldl_remove _ (mt (member place).1 apart))
  -- The tags are erased first; the places under them are then removed one by one.
  refine ⟨⟨fun place => ?_, ?_⟩, fun place => ?_⟩
  · by_cases inside : ∃ tag ∈ tags, place ∈ keysOf c.tags tag
    · exact tidyAt_foldl_remove _ ((member place).2 inside) (tidy.at_ place).own
        fun tag found => ((tidy.at_ place).listed tag).1 (away found)
    · exact (tidy.at_ place).of_leaves (left place inside)
  · have erased : (Table.keys (tags.foldl Table.erase c.tags)).Nodup :=
      nodup_foldl tags (fun _ tag unique => Table.nodup_keys_erase unique tag) _ tidy.unique
    have removed (keys : List String) (c : MemoryCache) (unique : (Table.keys c.tags).Nodup) :
        (Table.keys (keys.foldl (fun c key => (c.drop key).unindex key) c).tags).Nodup := by
      induction keys generalizing c with
      | nil => exact unique
      | cons first rest ih => exact ih _ (nodup_unindex (c := c.drop first) unique first)
    exact removed _ _ erased
  · split
    · next inside => exact (foldl_remove _ _ place).1 ((member place).2 inside)
    · next apart => exact left place apart

theorem tidy_clear (c : MemoryCache) : c.clear.Tidy := tidy_empty

end MemoryCache

/-! ## Runs -/

/-- What is done to a cache in memory. -/
inductive CacheAction where
  | get (key : String)
  | put (entry : CacheEntry)
  | touch (key : String) (span : Binary64)
  | delete (key : String)
  | invalidate (tags : List String)
  | clear
  /-- A payload goes by itself. -/
  | lapse (key : String)
  deriving Repr

namespace MemoryCache

variable {c : MemoryCache}

def act (c : MemoryCache) (now : Time) : CacheAction → MemoryCache
  | .get key => (c.get now key).2
  | .put entry => c.put now entry
  | .touch key span => (c.touch now key span).2
  | .delete key => (c.delete key).2
  | .invalidate tags => (c.invalidate tags).2
  | .clear => c.clear
  | .lapse key => c.drop key

def run (c : MemoryCache) (events : List (Time × CacheAction)) : MemoryCache :=
  events.foldl (fun c event => c.act event.1 event.2) c

theorem run_concat (events : List (Time × CacheAction)) (event : Time × CacheAction) :
    c.run (events ++ [event]) = (c.run events).act event.1 event.2 := List.foldl_concat _ _ _ _

theorem Tidy.act (tidy : c.Tidy) (now : Time) (action : CacheAction) : (c.act now action).Tidy := by
  cases action with
  | get key => exact (get_unseen tidy now key).1
  | put entry => exact (put_unseen tidy now entry).1
  | touch key span => exact (touch_leaves tidy now key span).1
  | delete key => exact (delete_leaves tidy key).1
  | invalidate tags => exact (invalidate_leaves tidy tags).1
  | clear => exact tidy_clear c
  | lapse key => exact tidy.drop key

theorem Tidy.run (tidy : c.Tidy) (events : List (Time × CacheAction)) : (c.run events).Tidy := by
  induction events generalizing c with
  | nil => exact tidy
  | cons event rest ih => exact ih (tidy.act event.1 event.2)

/-- What is kept by each of the changes that actions are made of. -/
structure Invariant (P : MemoryCache → Prop) : Prop where
  empty : P {}
  drop : ∀ c key, P c → P (c.drop key)
  unindex : ∀ c key, P c → P (c.unindex key)
  hold : ∀ c now entry span, P c → P ((c.hold now entry span).index entry)
  erase : ∀ c (tags : List String), P c → P { c with tags := tags.foldl Table.erase c.tags }
  prune : ∀ c now, P c → P (c.prune now)

variable {P : MemoryCache → Prop}

theorem Invariant.put (inv : Invariant P) (own : P c) (now : Time) (entry : CacheEntry) : P (c.put now entry) := by
  have bare := inv.unindex _ entry.key (inv.prune c now own)
  unfold MemoryCache.put
  dsimp only
  split
  · exact inv.hold _ now entry none bare
  · next left _ =>
    split
    · exact bare
    · exact inv.hold _ now entry (some left) bare

theorem Invariant.act (inv : Invariant P) (own : P c) (now : Time) (action : CacheAction) : P (c.act now action) := by
  have remove (c : MemoryCache) (key : String) (own : P c) : P ((c.drop key).unindex key) :=
    inv.unindex _ key (inv.drop c key own)
  cases action with
  | get key =>
    unfold MemoryCache.act MemoryCache.get
    dsimp only
    split
    · exact inv.unindex c key own
    · split
      · exact remove c key own
      · exact own
  | put entry => exact inv.put own now entry
  | touch key span =>
    unfold MemoryCache.act MemoryCache.touch
    dsimp only
    split
    · exact own
    · next entry _ =>
      split
      · exact own
      · exact inv.hold c now (entry.refreshed now span) (some span) own
  | delete key => exact remove c key own
  | invalidate tags =>
    exact List.foldlRecOn _ _ (inv.erase c tags own) fun c own key _ => remove c key own
  | clear => exact inv.empty
  | lapse key => exact inv.drop c key own

theorem Invariant.run (inv : Invariant P) (events : List (Time × CacheAction)) : P (run {} events) :=
  List.foldlRecOn events _ inv.empty fun _ own event _ => inv.act own event.1 event.2

/-- Timers that fire are payloads that go. -/
theorem fireTimers_eq_run (c : MemoryCache) (now : Time) :
    ∃ keys : List String, c.fireTimers now = c.run (keys.map fun key => (now, .lapse key)) := by
  refine ⟨(c.timers.filter fun timer => !Time.le (Binary64.add now resolution) timer.2).map Prod.fst, ?_⟩
  unfold fireTimers run
  rw [List.map_map, List.foldl_map]
  rfl

end MemoryCache

end QueryCache
