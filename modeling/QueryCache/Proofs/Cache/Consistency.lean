import QueryCache.Proofs.Cache.Upkeep
import QueryCache.Proofs.Order.Heap

/-! The four tables of a tag index belong together.

The keys of the tags and the tags of the keys are one relation, written from both sides; no tag stands
there without a key; and whatever has an expiry is indexed and has its row in the heap. A row goes only
when it is due, and then the expiry that it was pushed for goes with it, unless that was written anew. -/

set_option autoImplicit false

namespace QueryCache.MemoryCache

variable {c : MemoryCache} {tags : Table (List String)} {key tag : String} {now : Time}

structure Consistent (c : MemoryCache) : Prop where
  /-- A key stands under a tag exactly if the tag is one of its own. -/
  listed : ∀ tag key, (∃ keys, Table.get? c.tags tag = some keys ∧ key ∈ keys) ↔
    ∃ tags, Table.get? c.keyTags key = some tags ∧ tag ∈ tags
  inhabited : ∀ tag, Table.get? c.tags tag ≠ some []
  indexed : ∀ key expiry, Table.get? c.expiry key = some expiry → Table.has c.keyTags key = true
  scheduled : ∀ key expiry, Table.get? c.expiry key = some expiry → (expiry, key) ∈ c.rows

/-! ## Tags without keys -/

/-- No tag stands without a key. -/
def Inhabited (tags : Table (List String)) : Prop := ∀ tag, Table.get? tags tag ≠ some []

theorem Inhabited.erase (inhabited : Inhabited tags) (tag : String) : Inhabited (Table.erase tags tag) := by
  intro other
  rw [Table.get?_erase]
  split
  · exact nofun
  · exact inhabited other

theorem Inhabited.put (inhabited : Inhabited tags) (tag : String) {keys : List String} (some_ : keys ≠ []) :
    Inhabited (Table.put tags tag keys) := by
  intro other
  rw [Table.get?_put]
  split
  · exact fun same => some_ (Option.some.inj same)
  · exact inhabited other

theorem Inhabited.unlink (inhabited : Inhabited tags) (key tag : String) :
    Inhabited (MemoryCache.unlink tags key tag) := by
  unfold MemoryCache.unlink
  split
  · exact inhabited
  · dsimp only
    split
    · exact inhabited.erase tag
    · next left => exact inhabited.put tag fun empty => left (List.isEmpty_iff.2 empty)

theorem Inhabited.link (inhabited : Inhabited tags) (key tag : String) :
    Inhabited (MemoryCache.link tags key tag) := by
  refine inhabited.put tag ?_
  split
  · next member => exact List.ne_nil_of_mem (List.contains_iff_mem.1 member)
  · exact List.append_ne_nil_of_right_ne_nil _ (List.cons_ne_nil key [])

/-! ## Rows of expiries -/

/-- Each recorded expiry has its row in the heap, or among those that were taken from it. -/
def ScheduledBut (taken : List (Time × String)) (c : MemoryCache) : Prop :=
  ∀ key expiry, Table.get? c.expiry key = some expiry → (expiry, key) ∈ taken ∨ (expiry, key) ∈ c.rows

/-- What a step leaves of the tables beside the tags of the keys. -/
structure Kept (taken : List (Time × String)) (c : MemoryCache) : Prop where
  inhabited : Inhabited c.tags
  scheduled : ScheduledBut taken c

variable {taken : List (Time × String)}

theorem kept_empty : Kept [] {} where
  inhabited _ found := nomatch found
  scheduled _ _ recorded := nomatch recorded

theorem Kept.drop (kept : Kept taken c) (key : String) : Kept taken (c.drop key) :=
  ⟨kept.inhabited, kept.scheduled⟩

theorem Kept.unindex (kept : Kept taken c) (key : String) : Kept taken (c.unindex key) where
  inhabited := List.foldlRecOn _ _ kept.inhabited fun _ inhabited tag _ => inhabited.unlink key tag
  scheduled other expiry recorded := by
    change Table.get? (Table.erase c.expiry key) other = some expiry at recorded
    rw [Table.get?_erase] at recorded
    split at recorded
    · cases recorded
    · exact kept.scheduled other expiry recorded

theorem Kept.remove (kept : Kept taken c) (key : String) : Kept taken ((c.drop key).unindex key) :=
  (kept.drop key).unindex key

theorem Kept.index (kept : Kept taken c) (entry : CacheEntry) : Kept taken (c.index entry) where
  inhabited := List.foldlRecOn _ _ kept.inhabited fun _ inhabited tag _ => inhabited.link entry.key tag
  scheduled other expiry recorded := by
    unfold MemoryCache.index at recorded ⊢
    dsimp only at recorded ⊢
    split at recorded
    · next own _ =>
      rw [Heap.mem_push]
      rw [Table.get?_put] at recorded
      split at recorded
      · next same =>
        cases recorded
        exact .inr (.inl (congrArg (Prod.mk _) same))
      · exact (kept.scheduled other expiry recorded).imp_right .inr
    · rw [Table.get?_erase] at recorded
      split at recorded
      · cases recorded
      · exact kept.scheduled other expiry recorded

theorem Kept.hold (kept : Kept taken c) (now : Time) (entry : CacheEntry) (span : Option Binary64) :
    Kept taken ((c.hold now entry span).index entry) :=
  Kept.index (c := c.hold now entry span) ⟨kept.inhabited, kept.scheduled⟩ entry

/-- A row that is due goes together with the expiry that it was pushed for. -/
theorem Kept.dropDue {row : Time × String} (kept : Kept (row :: taken) c) (due : row.1.le now = true) :
    Kept taken (c.dropDue row) := by
  -- What is still recorded afterwards was recorded before, and not by this row.
  have other {c' : MemoryCache} (kept' : Kept (row :: taken) c')
      (apart : Table.get? c'.expiry row.2 ≠ some row.1) : Kept taken c' := by
    refine ⟨kept'.inhabited, fun key expiry recorded => ?_⟩
    rcases kept'.scheduled key expiry recorded with member | waiting
    · rcases List.mem_cons.1 member with rfl | later
      · exact absurd recorded apart
      · exact .inl later
    · exact .inr waiting
  unfold MemoryCache.dropDue
  split
  · next expiry recorded =>
    split
    · refine other (kept.remove row.2) fun stays => ?_
      cases (Table.get?_erase_self c.expiry row.2).symm.trans stays
    · next differs =>
      refine other kept fun same => differs ?_
      cases recorded.symm.trans same
      rw [Time.le_self due, Bool.and_self]
  · next absent =>
    refine other kept fun same => ?_
    cases absent.symm.trans same

theorem kept_foldl_dropDue (due : List (Time × String)) (all : ∀ row ∈ due, row.1.le now = true)
    (kept : Kept due c) : Kept [] (due.foldl MemoryCache.dropDue c) := by
  induction due generalizing c with
  | nil => exact kept
  | cons row rest ih =>
    exact ih (fun row later => all row (List.mem_cons_of_mem _ later)) (kept.dropDue (all row List.mem_cons_self))

theorem Kept.prune (kept : Kept [] c) (now : Time) : Kept [] (c.prune now) := by
  unfold MemoryCache.prune
  dsimp only
  refine kept_foldl_dropDue _ (Heap.holds_of_mem_popWhile rowBefore _ c.rows.size c.rows) ⟨kept.inhabited, ?_⟩
  intro key expiry recorded
  have waiting := (kept.scheduled key expiry recorded).resolve_left List.not_mem_nil
  exact (Heap.mem_of_popWhile rowBefore _ c.rows.size c.rows).1 waiting

/-! ## Runs -/

theorem invariant_kept : Invariant (Kept []) where
  empty := kept_empty
  drop _ key kept := kept.drop key
  unindex _ key kept := kept.unindex key
  hold _ now entry span kept := kept.hold now entry span
  erase _ tags kept :=
    ⟨List.foldlRecOn tags _ kept.inhabited fun _ inhabited tag _ => inhabited.erase tag, kept.scheduled⟩
  prune _ now kept := kept.prune now

theorem kept_run (events : List (Time × CacheAction)) : Kept [] (run {} events) := invariant_kept.run events

/-- Whatever is done to a cache, and at whatever times, its tables belong together. -/
theorem consistent_run (events : List (Time × CacheAction)) : (run {} events).Consistent := by
  have tidy := tidy_empty.run events
  have kept := kept_run events
  refine ⟨fun tag key => ?_, kept.inhabited, fun key expiry recorded => ?_, fun key expiry recorded => ?_⟩
  · rw [← (tidy.at_ key).listed tag, keysOf]
    cases Table.get? (run {} events).tags tag with
    | none => simp
    | some keys => simp
  · exact Option.isSome_iff_ne_none.2 ((tidy.at_ key).indexed expiry recorded)
  · exact (kept.scheduled key expiry recorded).resolve_left List.not_mem_nil

end QueryCache.MemoryCache
