import Mathlib.Logic.Function.Basic
import QueryCache.Proofs.Cache.Upkeep

/-! A cache in memory is a map whose entries expire.

Callers cannot tell the tables of the cache from one map of entries in which nothing is ever cleaned
up. The backend drops a payload by itself, but not before the time that it was given is over. -/

set_option autoImplicit false

namespace QueryCache

/-- What a caller is told. -/
inductive CacheReply where
  | entry (found : Option CacheEntry)
  | touched (there : Bool)
  deriving DecidableEq

/-! ## The map -/

/-- The last entry of each key, expired or not. -/
abbrev Shelf := String → Option CacheEntry

def CacheEntry.isPresent (entry : CacheEntry) (now : Time) : Bool :=
  entry.expiresAt.all fun expiry => now.lt expiry

namespace Shelf

def read (s : Shelf) (now : Time) (key : String) : Option CacheEntry :=
  (s key).filter fun entry => entry.isPresent now

def act (s : Shelf) (now : Time) : CacheAction → Shelf
  | .put entry => Function.update s entry.key (some entry)
  | .touch key span => Function.update s key <|
      match s.read now key with
      | some entry => some (entry.refreshed now span)
      | none => s key
  | .delete key => Function.update s key none
  | .invalidate tags => fun key => (s key).filter fun entry => !tags.any entry.tags.contains
  | .clear => fun _ => none
  | .get _ | .lapse _ => s

def reply (s : Shelf) (now : Time) : CacheAction → Option CacheReply
  | .get key => some (.entry (s.read now key))
  | .touch key _ => some (.touched (s.read now key).isSome)
  | _ => none

def replies (s : Shelf) : List (Time × CacheAction) → List CacheReply
  | [] => []
  | event :: rest => (s.reply event.1 event.2).toList ++ (s.act event.1 event.2).replies rest

end Shelf

/-! ## The cache and its backend -/

/-- A cache in memory beside what its backend was told with each payload: when that was, and for how
long to keep it. -/
structure Backed where
  cache : MemoryCache := {}
  terms : String → Option (Time × Binary64) := fun _ => none

namespace Backed

def act (b : Backed) (now : Time) : CacheAction → Backed
  | .put entry =>
    let left := entry.remaining now
    ⟨b.cache.put now entry,
      if left.any fun span => Time.le span Binary64.zero then b.terms
      else Function.update b.terms entry.key (left.map (now, ·))⟩
  | .touch key span =>
    let (there, cache) := b.cache.touch now key span
    ⟨cache, if there then Function.update b.terms key (some (now, span)) else b.terms⟩
  | .lapse key =>
    if (b.terms key).any fun term => Time.elapsed term.1 term.2 now then ⟨b.cache.drop key, b.terms⟩ else b
  | action => ⟨b.cache.act now action, b.terms⟩

def reply (b : Backed) (now : Time) : CacheAction → Option CacheReply
  | .get key => some (.entry (b.cache.get now key).1)
  | .touch key span => some (.touched (b.cache.touch now key span).1)
  | _ => none

def replies (b : Backed) : List (Time × CacheAction) → List CacheReply
  | [] => []
  | event :: rest => (b.reply event.1 event.2).toList ++ (b.act event.1 event.2).replies rest

end Backed

/-- Entries are put before they expire, and touched for a number of seconds. -/
def CacheAction.Proper (now : Time) : CacheAction → Prop
  | .put entry => entry.isPresent now = true ∧ ∀ expiry ∈ entry.expiresAt, expiry.IsKept
  | .touch _ span => span ≠ .nan
  | _ => True

instance (now : Time) (action : CacheAction) : Decidable (action.Proper now) :=
  match action with
  | .put entry => inferInstanceAs <|
      Decidable (entry.isPresent now = true ∧ ∀ expiry ∈ entry.expiresAt, expiry.IsKept)
  | .touch _ span => inferInstanceAs (Decidable (span ≠ .nan))
  | .get _ | .delete _ | .invalidate _ | .clear | .lapse _ => inferInstanceAs (Decidable True)

/-! ## Seen from one key -/

namespace Backed

open MemoryCache

variable {b b' : Backed} {s s' : Shelf} {key : String} {before now : Time}

/-- The payload of a key is the entry of the map; where there is none the entry is expired. -/
structure Follows (b : Backed) (s : Shelf) (now : Time) (key : String) : Prop where
  held : ∀ entry, Table.get? b.cache.entries key = some entry → s key = some entry
  indexed : ∀ entry, Table.get? b.cache.entries key = some entry →
    Table.get? b.cache.keyTags key = some entry.tags
  gone : ∀ entry, Table.get? b.cache.entries key = none → s key = some entry → entry.isExpired now = true
  number : ∀ entry, s key = some entry → entry.expiresAt ≠ some .nan
  /-- The backend does not drop a payload before it is expired. -/
  term : ∀ entry since span, Table.get? b.cache.entries key = some entry → b.terms key = some (since, span) →
    ∀ later : Time, later.IsReading → Time.elapsed since span later = true → entry.isExpired later = true

theorem isPresent_iff {entry : CacheEntry} (number : entry.expiresAt ≠ some .nan) (reading : now.IsReading) :
    entry.isPresent now = true ↔ entry.isExpired now = false := by
  unfold CacheEntry.isPresent CacheEntry.isExpired
  cases own : entry.expiresAt with
  | none => simp
  | some expiry =>
    refine ⟨Time.not_le_of_lt, Time.lt_of_not_le reading.ne_nan fun same => number ?_⟩
    rw [own, same]

theorem Follows.read_eq (follows : b.Follows s now key) (reading : now.IsReading) :
    (b.cache.get now key).1 = s.read now key := by
  ext entry
  rw [get_eq_some, Shelf.read, Option.filter_eq_some_iff]
  constructor
  · rintro ⟨held, valid⟩
    have same := follows.held entry held
    exact ⟨same, (isPresent_iff (follows.number entry same) reading).2 valid⟩
  · rintro ⟨same, present⟩
    have valid := (isPresent_iff (follows.number entry same) reading).1 present
    cases held : Table.get? b.cache.entries key with
    | none => cases valid.symm.trans (follows.gone entry held same)
    | some entry' =>
      cases same.symm.trans (follows.held entry' held)
      exact ⟨rfl, valid⟩

theorem Follows.later (follows : b.Follows s before key) (passed : before.le now = true) : b.Follows s now key :=
  { follows with gone := fun entry gone found => CacheEntry.isExpired_mono passed (follows.gone entry gone found) }

-- What has expired may go from either side at any time.
theorem Follows.of_unseen (follows : b.Follows s now key) (unseen : Unseen now b.cache b'.cache key)
    (terms : b'.terms key = b.terms key) (less : ∀ entry, s' key = some entry → s key = some entry)
    (same : ∀ entry, Table.get? b'.cache.entries key = some entry → s' key = s key) : b'.Follows s' now key := by
  have kept (entry : CacheEntry) (held : Table.get? b'.cache.entries key = some entry) :
      Leaves b.cache b'.cache key ∧ Table.get? b.cache.entries key = some entry := by
    rcases unseen with leaves | ⟨gone, -⟩
    · exact ⟨leaves, leaves.entries.symm.trans held⟩
    · cases gone.symm.trans held
  constructor
  · intro entry held
    rw [same entry held]
    exact follows.held entry (kept entry held).2
  · intro entry held
    obtain ⟨leaves, held⟩ := kept entry held
    rw [leaves.keyTags]
    exact follows.indexed entry held
  · intro entry gone found
    have found := less entry found
    cases held : Table.get? b.cache.entries key with
    | none => exact follows.gone entry held found
    | some entry' =>
      cases found.symm.trans (follows.held entry' held)
      rcases unseen with leaves | ⟨-, ended⟩
      · cases gone.symm.trans (leaves.entries.trans held)
      · exact ended entry held
  · exact fun entry found => follows.number entry (less entry found)
  · intro entry since span held term
    exact follows.term entry since span (kept entry held).2 (terms ▸ term)

theorem follows_of_none (gone : Table.get? b.cache.entries key = none) (empty : s key = none) :
    b.Follows s now key := by
  constructor
  · intro entry held
    cases gone.symm.trans held
  · intro entry held
    cases gone.symm.trans held
  · intro entry _ found
    cases empty.symm.trans found
  · intro entry found
    cases empty.symm.trans found
  · intro entry since span held
    cases gone.symm.trans held

theorem follows_of_write {entry : CacheEntry} (held : Table.get? b.cache.entries key = some entry)
    (tags : Table.get? b.cache.keyTags key = some entry.tags) (same : s key = some entry)
    (number : entry.expiresAt ≠ some .nan)
    (term : ∀ since span, b.terms key = some (since, span) → ∀ later : Time, later.IsReading →
      Time.elapsed since span later = true → entry.isExpired later = true) : b.Follows s now key := by
  constructor
  · intro entry' held'
    cases held.symm.trans held'
    exact same
  · intro entry' held'
    cases held.symm.trans held'
    exact tags
  · intro entry' gone
    cases gone.symm.trans held
  · intro entry' same'
    cases same.symm.trans same'
    exact number
  · intro entry' since span held'
    cases held.symm.trans held'
    exact term since span

/-! ## One action -/

theorem Follows.put (follows : b.Follows s now key) (tidy : b.cache.Tidy) (reading : now.IsReading)
    (entry : CacheEntry) (proper : CacheAction.Proper now (.put entry)) :
    (b.act now (.put entry)).Follows (s.act now (.put entry)) now key := by
  obtain ⟨present, kept⟩ := proper
  have number : entry.expiresAt ≠ some .nan := by
    intro own
    simp [CacheEntry.isPresent, own, Time.lt_iff, Binary64.extent?] at present
  have valid := (isPresent_iff number reading).1 present
  -- A record that is present has time left, so it is not dropped when it is written.
  have fits : ((entry.remaining now).any fun span => Time.le span Binary64.zero) = false := by
    by_contra spent
    rw [Bool.not_eq_false, Option.any_eq_true] at spent
    obtain ⟨left, known, spent⟩ := spent
    obtain ⟨expiry, own, rfl⟩ := Option.map_eq_some_iff.1 known
    rw [CacheEntry.isExpired, own] at valid
    cases valid.symm.trans (Time.le_of_left_le_zero spent)
  by_cases own : key = entry.key
  · subst own
    rcases put_own tidy now entry with ⟨held, tags⟩ | ⟨ended, -⟩
    · refine follows_of_write held tags (Function.update_self _ _ _) number fun since span term later later' ended => ?_
      have term : (entry.remaining now).map (now, ·) = some (since, span) := by
        simpa [act, fits] using term
      obtain ⟨left, known, told⟩ := Option.map_eq_some_iff.1 term
      obtain ⟨expiry, expires, rfl⟩ := Option.map_eq_some_iff.1 known
      cases told
      rw [CacheEntry.isExpired, expires]
      refine Time.le_of_elapsed_left reading (kept expiry expires) later' ?_ ended
      simpa [CacheEntry.isPresent, expires] using present
    · cases valid.symm.trans ended
  · have terms : (b.act now (.put entry)).terms key = b.terms key := by
      simp [act, fits, Function.update_of_ne own]
    have same : s.act now (.put entry) key = s key := Function.update_of_ne own _ _
    exact follows.of_unseen ((put_unseen tidy now entry).2 key own) terms
      (fun _ found => same ▸ found) fun _ _ => same

theorem Follows.touch (follows : b.Follows s now key) (tidy : b.cache.Tidy) (reading : now.IsReading)
    (place : String) (span : Binary64) (number : span ≠ .nan) :
    (b.act now (.touch place span)).Follows (s.act now (.touch place span)) now key := by
  by_cases own : key = place
  · subst own
    rcases touch_own tidy now key span with ⟨entry, held, valid, there, held', tags⟩ | ⟨ended, nothing⟩
    · have found : s.read now key = some entry := by
        rw [← follows.read_eq reading, get_eq_some]
        exact ⟨held, valid⟩
      refine follows_of_write held' tags ?_ ?_ fun since span' term later later' ended => ?_
      · simp [Shelf.act, found]
      · exact fun expires => Time.add_ne_nan reading number (Option.some.inj expires)
      · have told : (now, span) = (since, span') := by simpa [act, there] using term
        cases told
        exact Time.le_of_elapsed reading later' ended
    · -- What has ended is read from neither side, and there is nothing to prolong.
      have missed : s.read now key = none := by
        rw [← follows.read_eq reading, Option.eq_none_iff_forall_ne_some]
        intro entry found
        obtain ⟨held, valid⟩ := get_eq_some.1 found
        cases valid.symm.trans (ended entry held)
      have still : b.act now (.touch key span) = b := by simp [act, nothing]
      have same : s.act now (.touch key span) = s := by simp [Shelf.act, missed]
      rw [still, same]
      exact follows
  · have leaves := (touch_leaves tidy now place span).2 key own
    have terms : (b.act now (.touch place span)).terms key = b.terms key := by
      simp only [act]
      split
      · exact Function.update_of_ne own _ _
      · rfl
    have same : s.act now (.touch place span) key = s key := Function.update_of_ne own _ _
    exact follows.of_unseen (.inl leaves) terms (fun _ found => same ▸ found) fun _ _ => same

theorem Follows.invalidate (follows : b.Follows s now key) (tidy : b.cache.Tidy) (tags : List String) :
    (b.act now (.invalidate tags)).Follows (s.act now (.invalidate tags)) now key := by
  have dropped := (invalidate_leaves tidy tags).2 key
  have under (entry : CacheEntry) (held : Table.get? b.cache.entries key = some entry) (tag : String) :
      key ∈ keysOf b.cache.tags tag ↔ tag ∈ entry.tags := by
    rw [(tidy.at_ key).listed, follows.indexed entry held]
    simp
  have less (entry : CacheEntry) (found : s.act now (.invalidate tags) key = some entry) : s key = some entry :=
    (Option.filter_eq_some_iff.1 found).1
  split at dropped
  · next inside =>
    obtain ⟨tag, member, listed⟩ := inside
    cases held : Table.get? b.cache.entries key with
    | none =>
      refine follows.of_unseen (.inr ⟨dropped, fun entry held' => ?_⟩) rfl less fun entry held' => ?_
      · cases held.symm.trans held'
      · cases dropped.symm.trans held'
    | some entry =>
      refine follows_of_none dropped ?_
      have taken : ∃ tag ∈ tags, tag ∈ entry.tags := ⟨tag, member, (under entry held tag).1 listed⟩
      simpa [Shelf.act, follows.held entry held] using taken
  · next apart =>
    refine follows.of_unseen (.inl dropped) rfl less fun entry held => ?_
    have held := dropped.entries.symm.trans held
    have stays : ∀ tag ∈ tags, tag ∉ entry.tags :=
      fun tag member own => apart ⟨tag, member, (under entry held tag).2 own⟩
    simpa [Shelf.act, follows.held entry held] using stays

theorem Follows.act (follows : b.Follows s now key) (tidy : b.cache.Tidy) (reading : now.IsReading)
    {action : CacheAction} (proper : action.Proper now) : (b.act now action).Follows (s.act now action) now key := by
  cases action with
  | get place => exact follows.of_unseen ((get_unseen tidy now place).2 key) rfl (fun _ => id) fun _ _ => rfl
  | put entry => exact follows.put tidy reading entry proper
  | touch place span => exact follows.touch tidy reading place span proper
  | delete place =>
    obtain ⟨-, gone, others⟩ := delete_leaves tidy place
    by_cases own : key = place
    · subst own
      exact follows_of_none gone (Function.update_self _ _ _)
    · have same : s.act now (.delete place) key = s key := Function.update_of_ne own _ _
      exact follows.of_unseen (.inl (others key own)) rfl (fun _ found => same ▸ found) fun _ _ => same
  | invalidate tags => exact follows.invalidate tidy tags
  | clear => exact follows_of_none rfl rfl
  | lapse place =>
    unfold Backed.act
    dsimp only
    split
    · next ended =>
      rw [Option.any_eq_true] at ended
      obtain ⟨⟨since, span⟩, told, ended⟩ := ended
      refine follows.of_unseen ?_ rfl (fun _ => id) fun _ _ => rfl
      by_cases own : key = place
      · subst own
        refine .inr ⟨Table.get?_erase_self b.cache.entries key, fun entry held => ?_⟩
        exact follows.term entry since span held told now reading ended
      · exact .inl (leaves_drop own)
    · exact follows

theorem act_cache (tidy : b.cache.Tidy) (now : Time) (action : CacheAction) : (b.act now action).cache.Tidy := by
  cases action with
  | lapse key =>
    unfold act
    dsimp only
    split
    · exact tidy.drop key
    · exact tidy
  | put entry => exact tidy.act now (.put entry)
  | touch key span => exact tidy.act now (.touch key span)
  | get key => exact tidy.act now (.get key)
  | delete key => exact tidy.act now (.delete key)
  | invalidate tags => exact tidy.act now (.invalidate tags)
  | clear => exact tidy.act now .clear

theorem reply_eq (follows : ∀ key, b.Follows s now key) (tidy : b.cache.Tidy) (reading : now.IsReading)
    (action : CacheAction) : b.reply now action = s.reply now action := by
  cases action with
  | get key => simp [reply, Shelf.reply, (follows key).read_eq reading]
  | touch key span =>
    have there : (b.cache.touch now key span).1 = (s.read now key).isSome := by
      rw [← (follows key).read_eq reading]
      rcases touch_own tidy now key span with ⟨entry, held, valid, there, -⟩ | ⟨ended, nothing⟩
      · rw [there, get_eq_some.2 ⟨held, valid⟩]
        rfl
      · rw [nothing]
        cases found : (b.cache.get now key).1 with
        | none => rfl
        | some entry =>
          obtain ⟨held, valid⟩ := get_eq_some.1 found
          cases valid.symm.trans (ended entry held)
    simp [reply, Shelf.reply, there]
  | put entry => rfl
  | delete key => rfl
  | invalidate tags => rfl
  | clear => rfl
  | lapse key => rfl

/-! ## Runs -/

theorem replies_eq_of_follows (events : List (Time × CacheAction)) (before : Time)
    (follows : ∀ key, b.Follows s before key) (tidy : b.cache.Tidy)
    (past : ∀ event ∈ events, before.le event.1 = true)
    (ordered : events.Pairwise fun first last => first.1.le last.1 = true)
    (readings : ∀ event ∈ events, event.1.IsReading) (proper : ∀ event ∈ events, event.2.Proper event.1) :
    b.replies events = s.replies events := by
  induction events generalizing b s before with
  | nil => rfl
  | cons event rest ih =>
    obtain ⟨next, ordered⟩ := List.pairwise_cons.1 ordered
    have reading := readings event List.mem_cons_self
    have follows (key : String) := (follows key).later (past event List.mem_cons_self)
    have later (key : String) := (follows key).act tidy reading (proper event List.mem_cons_self)
    unfold replies Shelf.replies
    rw [reply_eq follows tidy reading event.2]
    congr 1
    exact ih event.1 later (act_cache tidy event.1 event.2) next ordered
      (fun event member => readings event (List.mem_cons_of_mem _ member))
      fun event member => proper event (List.mem_cons_of_mem _ member)

/-- What callers are told of a cache in memory is what they are told of a map of expiring entries,
whenever the backend drops what it may drop. -/
theorem replies_eq_shelf (events : List (Time × CacheAction))
    (ordered : events.Pairwise fun first last => first.1.le last.1 = true)
    (readings : ∀ event ∈ events, event.1.IsReading) (proper : ∀ event ∈ events, event.2.Proper event.1) :
    ({} : Backed).replies events = Shelf.replies (fun _ => none) events :=
  replies_eq_of_follows events Binary64.zero (fun _ => follows_of_none rfl rfl) tidy_empty
    (fun event member => (readings event member).zero_le) ordered readings proper

/-- A run that writes over an entry under another tag, and lets the new one live no longer; the backend
drops it. -/
def replacing : List (Time × CacheAction) := [
  (Binary64.zero, .put ⟨"k", ["first"], [0], none⟩),
  (Binary64.zero, .put ⟨"k", ["second"], [1], some (.infinite false)⟩),
  (Binary64.zero, .invalidate ["first"]),
  (Binary64.zero, .get "k"),
  (Binary64.zero, .touch "k" Binary64.zero),
  (.finite false 1, .lapse "k"),
  (.finite false 1, .get "k"),
  (.finite false 1, .touch "k" (.infinite false))]

theorem replies_eq_shelf_replacing :
    ({} : Backed).replies replacing =
      [.entry (some ⟨"k", ["second"], [1], some (.infinite false)⟩), .touched true, .entry none,
        .touched false] := by
  have readings : ∀ event ∈ replacing, event.1.IsReading := by
    have times : ∀ event ∈ replacing, event.1 = .finite false 0 ∨ event.1 = .finite false 1 := by decide
    intro event member
    rcases times event member with same | same
    · rw [same]
      exact Time.isReading_of_narrow (by decide)
    · rw [same]
      exact Time.isReading_of_narrow (by decide)
  rw [replies_eq_shelf replacing (by decide) readings (by decide)]
  decide

/-- An entry that is touched for what is no number of seconds. -/
def touchedForNoNumber : List (Time × CacheAction) := [
  (Binary64.zero, .put ⟨"k", ["t"], [], none⟩),
  (Binary64.zero, .touch "k" .nan),
  (Binary64.zero, .get "k")]

/-- An entry put before the beginning of time. Its span is a longer number than the times at both ends,
and is rounded down. -/
def putBeforeTheBeginning : List (Time × CacheAction) := [
  (.finite true 1, .put ⟨"k", ["t"], [], some (.finite false (2 ^ 53))⟩),
  (.finite false (2 ^ 53 - 1), .lapse "k"),
  (.finite false (2 ^ 53 - 1), .get "k")]

-- The cache still gives the first entry, which is never before its expiry, and gives the second one
-- no more, although it is before its expiry.
theorem replies_differ :
    ({} : Backed).replies touchedForNoNumber ≠ Shelf.replies (fun _ => none) touchedForNoNumber ∧
      ({} : Backed).replies putBeforeTheBeginning ≠ Shelf.replies (fun _ => none) putBeforeTheBeginning := by
  refine ⟨by decide, ?_⟩
  decide +kernel

end Backed

end QueryCache
