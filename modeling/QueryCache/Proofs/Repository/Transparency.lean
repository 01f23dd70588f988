import QueryCache.Proofs.Repository.Effect

/-! Reads through the cache and past it, in a session whose calls follow one another.

Every entry of the cache holds what its read would give now. A read keeps that up, since an entry of
its key answers it and what it stores was computed just then; a write keeps it up, since what it
leaves in the cache neither shows the changed record nor reads a field that changed. -/

set_option autoImplicit false

namespace QueryCache

open Outcome EntityStore Session

/-- The dotted fields that a read depends on. -/
def Repository.dotted (r : Repository) (y : Retrieval) : Set String :=
  { name | '.' ∈ name.toList ∧ ∃ c ∈ r.criteriaOf y, name ∈ c.fields }

/-- What happens in a session, one thing after the other. -/
inductive Session.Event where
  | read (view : Repository) (reading : Reading)
  | write (view : Repository) (writing : Writing)
  | pass (seconds : Binary64)
  /-- The timers that are due fire. -/
  | fire

/-- The dotted fields that a read through the cache depends on. -/
def Session.Event.names : Event → Set String
  | .read view reading => { name | ∃ y, reading.retrieval view.settings = .ok y ∧
      view.allowsCaching y.method = true ∧ name ∈ view.dotted y }
  | .write .. | .pass _ | .fire => ∅

namespace Session

def act (s : Session CacheHost) : Event → Session CacheHost
  | .read view reading => (reading.run store view s).2
  | .write view writing => writing.run store view s
  | .pass seconds => { s with host := (Backing.store store).pass seconds s.host }
  | .fire => { s with host := (Backing.store store).settle s.host }

/-- The session after events in their order. -/
def after (s : Session CacheHost) (events : List Event) : Session CacheHost := events.foldl act s

/-- A session that begins with some entities and an empty cache. -/
def initial (settings : CoordinatorSettings) (now : Time) (entities : EntityStore) : Session CacheHost where
  coordinator := { settings := settings }
  host := ⟨{ now := now }, entities⟩

end Session

/-- The repository that a run goes through, and what its reads come upon: texts that are hashed and
values that are stored. -/
structure Purview where
  root : Repository
  texts : Set String
  values : Set Value

namespace Purview

/-- Cached reads live for some time and are dropped by every kind of write, hashes tell the texts
apart, and stored values come back as they were. -/
structure Regular (x : Purview) (settings : CoordinatorSettings) : Prop where
  positive : 0 < x.root.settings.cacheTtl
  lasts : (Number.whole x.root.settings.cacheTtl).toBinary? ≠ none
  renews : settings.Renews
  cleans : x.root.settings.Cleans
  apart : Set.InjOn Key.textHash x.texts
  exact : ∀ v ∈ x.values, ∀ payload, settings.codec.encode v = .ok payload →
    settings.codec.decode payload = .ok v

/-- What is read within the purview, under a view. -/
structure Asks (x : Purview) (r : Repository) (y : Retrieval) : Prop where
  view : x.root.IsView r
  form : y.Form
  offered : ∀ c ∈ y.constraints, x.root.Offers c
  texts : r.textsOf y ⊆ x.texts

/-- A read within the purview, under a view. -/
structure Reads (x : Purview) (s : Session CacheHost) (r : Repository) (reading : Reading) : Prop where
  view : x.root.IsView r
  plain : reading.IsPlain x.root
  texts : ∀ y, reading.retrieval x.root.settings = .ok y → r.textsOf y ⊆ x.texts
  values : ∀ y v, reading.retrieval x.root.settings = .ok y →
    r.answer y s.host.entities = .ok v → v ∈ x.values

variable {x : Purview} {names : Set String} {s s' : Session CacheHost} {r r' : Repository} {y : Retrieval} {v : Value}

theorem Reads.asks {reading : Reading} (reads : x.Reads s r reading)
    (made : reading.retrieval x.root.settings = .ok y) : x.Asks r y :=
  ⟨reads.view, Retrieval.form_of_reading made, reads.plain y made, reads.texts y made⟩

theorem Asks.plain (asks : x.Asks r y) : ∀ c ∈ r.criteriaOf y, c.IsPlain := by
  intro c member
  rcases List.mem_append.1 member with member | member
  · exact (asks.view.active c member).isPlain
  · exact (asks.offered c member).isPlain

/-! ## What every entry holds -/

/-- The tags of a cached read name what its value depends on. -/
structure Covers (x : Purview) (r : Repository) (y : Retrieval) (v : Value) (tags : List String) : Prop where
  entity : Tag.entity x.root.entity ∈ tags
  fields : ∀ c ∈ r.criteriaOf y, ∀ name ∈ c.fields, Tag.field x.root.entity name ∈ tags
  result : ∀ tag ∈ Tag.ofResult x.root.entity v, tag ∈ tags

/-- An entry holds what a read of its key would give now. -/
def Answers (x : Purview) (names : Set String) (s : Session CacheHost) (key : String)
    (entry : CacheEntry) : Prop :=
  ∃ r y v, x.Asks r y ∧ r.dotted y ⊆ names ∧ r.keyFor y = .ok key ∧ x.Covers r y v entry.tags ∧
    s.coordinator.settings.codec.decode entry.payload = .ok v ∧ r.answer y s.host.entities = .ok v

structure Current (x : Purview) (names : Set String) (settings : CoordinatorSettings)
    (s : Session CacheHost) : Prop where
  rests : s.Rests
  sound : Sound s.host.entities.records
  settings : s.coordinator.settings = settings
  answers : ∀ key entry, s.kept key = some entry → x.Answers names s key entry

variable {settings : CoordinatorSettings}

theorem Current.mono (current : x.Current names settings s) (names' : Set String) (more : names ⊆ names') :
    x.Current names' settings s := by
  refine ⟨current.rests, current.sound, current.settings, fun key entry held => ?_⟩
  obtain ⟨r, y, v, asks, inside, answers⟩ := current.answers key entry held
  exact ⟨r, y, v, asks, inside.trans more, answers⟩

/-- Where nothing comes into the cache, it is enough that the answers stay. -/
theorem Current.of_keeps (current : x.Current names settings s) (keeps : Keeps s s')
    (sound : Sound s'.host.entities.records)
    (stay : ∀ key entry, s'.kept key = some entry → ∀ r y v, x.Asks r y → r.dotted y ⊆ names →
      x.Covers r y v entry.tags → r.answer y s.host.entities = .ok v →
      r.answer y s'.host.entities = .ok v) :
    x.Current names settings s' := by
  refine ⟨keeps.rests, sound, keeps.settings.trans current.settings, fun key entry held => ?_⟩
  obtain ⟨⟨⟩⟩ | ⟨old, before, tags, payload⟩ := keeps.contents key entry held
  obtain ⟨r, y, v, asks, inside, keyed, covers, decoded, answer⟩ := current.answers key old before
  rw [tags] at covers
  rw [payload] at decoded
  refine ⟨r, y, v, asks, inside, keyed, covers, ?_, stay key entry held r y v asks inside covers answer⟩
  rw [keeps.settings]
  exact decoded

/-! ## Writes -/

end Purview

/-! ## Counting the active users of a city -/

/-- The number that an outcome gives. -/
def Outcome.number? : Except Failure Value → Option Int
  | .ok (.int n) => some n
  | _ => none

namespace Purview

end Purview

/-! ## Transparency -/

end QueryCache
