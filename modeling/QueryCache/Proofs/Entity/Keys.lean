import QueryCache.Entity.Report
import QueryCache.Proofs.Entity.Store
import Mathlib.Data.List.Find

/-! A store of entities as the dictionary that it is: records under keys, and a counter that gives numbers
to records without identifier.

Changes go by keys alone. A key is the identifier that a record was first stored under, so it may be
another object than the one its record has now: `1` and `True` are one key. That the identifiers tell what
is stored under which key is an invariant of all changes, and so is that no key is there twice. -/

set_option autoImplicit false

namespace QueryCache

open EntityStore

/-- An identifier that can be a key: it has a hash, and is the same as itself, as every object is. -/
structure Value.IsKey (id : Value) : Prop where
  hashable : id.hashable = true
  own : id.same id = true

/-- A change of a store and its arguments. -/
inductive Change where
  | insert (attributes : Record)
  | update (id : Value) (changes : Record)
  | delete (id : Value)

/-- What a change answers with: the record that it leaves, or whether it took one away. -/
inductive Change.Answer where
  | record (record : Record)
  | deleted (found : Bool)

/-- The identifier that a change is addressed to; null where a record has none. -/
def Change.address : Change → Value
  | .insert attributes => idOf attributes
  | .update id _ => id
  | .delete id => id

/-- A record after changes, its identifier apart. -/
def Record.revised (record changes : Record) : Record := record.setAll (changes.filter (·.1 != "id"))

theorem EntityStore.idOf_revised (record changes : Record) : idOf (record.revised changes) = idOf record :=
  idOf_setAll record changes

namespace Change

/-- What a change of a store answers, and the store after it. -/
def answering {α : Type} (wrap : α → Answer) (f : EntityStore → Except Failure (α × EntityStore))
    (s : EntityStore) : Except Failure Answer × EntityStore :=
  let (answer, s') := EntityStore.change f s
  (answer.map wrap, s')

def perform (s : EntityStore) : Change → Except Failure Answer × EntityStore
  | .insert attributes => answering .record (·.insert attributes) s
  | .update id changes => answering .record (·.update id changes) s
  | .delete id => answering .deleted (·.delete id) s

def performAll (s : EntityStore) : List Change → List (Except Failure Answer) × EntityStore
  | [] => ([], s)
  | change :: rest =>
    let (answer, s') := change.perform s
    let (answers, s'') := performAll s' rest
    (answer :: answers, s'')

end Change

namespace EntityStore

variable {s : EntityStore} {attributes changes record : Record} {id : Value}

theorem insert_of_null (absent : (idOf attributes).isNull = true) :
    s.insert attributes = .ok (attributes.set "id" (.int s.freeId),
      { s with records := s.records ++ [attributes.set "id" (.int s.freeId)], nextId := s.freeId + 1 }) := by
  rw [insert, if_pos absent]
  rfl

theorem insert_of_present (present : (idOf attributes).isNull = false) (hashable : (idOf attributes).hashable = true) :
    s.insert attributes = .ok (attributes, { s with records := place attributes s.records }) := by
  rw [insert, if_neg (by simp [present]), checkId, if_pos hashable]
  rfl

theorem update_of_find? (hashable : id.hashable = true) (found : s.records.find? (hasId id) = some record) :
    s.update id changes =
      .ok (record.revised changes, { s with records := place (record.revised changes) s.records }) := by
  rw [update, get?, checkId, if_pos hashable, found]
  rfl

theorem update_of_absent (hashable : id.hashable = true) (absent : s.records.find? (hasId id) = none) :
    s.update id changes = .error (.notFound s.entity id) := by
  rw [update, get?, checkId, if_pos hashable, absent]
  rfl

theorem delete_of_hashable (hashable : id.hashable = true) :
    s.delete id = .ok (s.records.any (hasId id), { s with records := s.records.filter fun r => !hasId id r }) := by
  unfold delete
  split
  · next empty =>
    rw [List.isEmpty_iff.1 empty]
    obtain ⟨entity, relations, records, nextId, executions⟩ := s
    cases List.isEmpty_iff.1 empty
    rfl
  · rw [checkId, if_pos hashable]
    rfl

end EntityStore

namespace Change

variable {s s' : EntityStore} {attributes changes record : Record} {id : Value} {e : Failure}

theorem perform_insert (run : s.insert attributes = .ok (record, s')) :
    (insert attributes).perform s = (.ok (.record record), s') := by
  simp [perform, answering, EntityStore.change, run, Except.map]

theorem perform_update (run : s.update id changes = .ok (record, s')) :
    (update id changes).perform s = (.ok (.record record), s') := by
  simp [perform, answering, EntityStore.change, run, Except.map]

theorem perform_update_error (run : s.update id changes = .error e) :
    (update id changes).perform s = (.error e, s) := by
  simp [perform, answering, EntityStore.change, run, Except.map]

theorem perform_delete {found : Bool} (run : s.delete id = .ok (found, s')) :
    (delete id).perform s = (.ok (.deleted found), s') := by
  simp [perform, answering, EntityStore.change, run, Except.map]

end Change

/-- A dictionary of records, its entries in the order in which their keys came, and the next number. -/
structure KeyedStore where
  entity : String
  entries : List (Value × Record) := []
  counter : Nat := 1

namespace KeyedStore

/-- Whether an entry is under the key. -/
def finds (key : Value) (entry : Value × Record) : Bool := entry.1.same key

def holds (d : KeyedStore) (key : Value) : Bool := d.entries.any (finds key)

/-- Puts a record under a key: under the equal key that is there, or at the end. -/
def assign (key : Value) (record : Record) : List (Value × Record) → List (Value × Record)
  | [] => [(key, record)]
  | entry :: rest => if finds key entry then (entry.1, record) :: rest else entry :: assign key record rest

/-- Numbers are drawn one after the other until one is no key. -/
inductive Draws (d : KeyedStore) : Nat → Nat → Prop where
  | free {n : Nat} : d.holds (.int n) = false → Draws d n n
  | taken {n m : Nat} : d.holds (.int n) = true → Draws d (n + 1) m → Draws d n m

/-- One change, its answer, and the dictionary after it. -/
inductive Step (d : KeyedStore) : Change → Except Failure Change.Answer → KeyedStore → Prop where
  | numbered {attributes : Record} {n : Nat} : (idOf attributes).isNull = true → d.Draws d.counter n →
      Step d (.insert attributes) (.ok (.record (attributes.set "id" (.int n))))
        { d with entries := assign (.int n) (attributes.set "id" (.int n)) d.entries, counter := n + 1 }
  | named {attributes : Record} : (idOf attributes).isNull = false →
      Step d (.insert attributes) (.ok (.record attributes))
        { d with entries := assign (idOf attributes) attributes d.entries }
  | updated {id : Value} {changes : Record} {entry : Value × Record} : d.entries.find? (finds id) = some entry →
      Step d (.update id changes) (.ok (.record (entry.2.revised changes)))
        { d with entries := assign id (entry.2.revised changes) d.entries }
  | missing {id : Value} {changes : Record} : d.entries.find? (finds id) = none →
      Step d (.update id changes) (.error (.notFound d.entity id)) d
  | deleted {id : Value} :
      Step d (.delete id) (.ok (.deleted (d.holds id))) { d with entries := d.entries.eraseP (finds id) }

inductive Runs : KeyedStore → List Change → List (Except Failure Change.Answer) → KeyedStore → Prop where
  | done {d : KeyedStore} : Runs d [] [] d
  | next {d d' d'' : KeyedStore} {change : Change} {changes : List Change} {answer : Except Failure Change.Answer}
      {answers : List (Except Failure Change.Answer)} : d.Step change answer d' → Runs d' changes answers d'' →
      Runs d (change :: changes) (answer :: answers) d''

/-! ## Keys and identifiers -/

/-- An entry whose key is the identifier of its record. -/
structure Filed (entry : Value × Record) : Prop where
  key : entry.1.hashable = true
  id : (idOf entry.2).hashable = true
  present : (idOf entry.2).isNull = false
  same : entry.1.same (idOf entry.2) = true

/-- Keys that are two. -/
def Differ (a b : Value) : Prop := a.same b = false ∧ b.same a = false

/-- What the entries of a dictionary are like after any changes. -/
structure Intact (entries : List (Value × Record)) : Prop where
  filed : ∀ entry ∈ entries, Filed entry
  differ : (entries.map Prod.fst).Pairwise Differ

/-- A store has the records of a dictionary, and both count on from the same number. -/
structure Shows (s : EntityStore) (d : KeyedStore) : Prop where
  entity : s.entity = d.entity
  records : s.records = d.entries.map Prod.snd
  counter : s.nextId = d.counter

variable {d d' : KeyedStore} {s : EntityStore} {entries : List (Value × Record)} {entry : Value × Record}
  {key id : Value} {record : Record}

/-- Keys find what identifiers find. -/
theorem Filed.finds_eq (filed : Filed entry) (id : Value) : finds id entry = hasId id entry.2 := by
  have back := Value.same_symm filed.key filed.same
  rw [Bool.eq_iff_iff]
  exact ⟨Value.same_trans filed.id back, Value.same_trans filed.key filed.same⟩

/-- What is filed under an identifier is found by it. -/
theorem Filed.own (filed : Filed entry) : hasId (idOf entry.2) entry.2 = true :=
  (filed.finds_eq (idOf entry.2)).symm.trans filed.same

theorem Intact.any_finds (intact : Intact entries) (id : Value) :
    entries.any (finds id) = (entries.map Prod.snd).any (hasId id) := by
  rw [List.any_map, Bool.eq_iff_iff, List.any_eq_true, List.any_eq_true]
  refine exists_congr fun entry => and_congr_right fun member => ?_
  rw [(intact.filed entry member).finds_eq]
  rfl

/-- Identifiers are as far apart as the keys. -/
theorem Intact.sound (intact : Intact entries) : Sound (entries.map Prod.snd) := by
  have apart {a b : Value × Record} (first : Filed a) (second : Filed b) (differ : a.1.same b.1 = false) :
      (idOf a.2).same (idOf b.2) = false := by
    by_contra found
    have middle := Value.same_trans first.id (by simpa using found) (Value.same_symm second.key second.same)
    cases (Value.same_trans first.key first.same middle).symm.trans differ
  refine ⟨?_, ?_, List.pairwise_map.2 ((List.pairwise_map.1 intact.differ).imp_of_mem ?_)⟩
  · simpa using fun record key member => (intact.filed (key, record) member).id
  · simpa using fun record key member => (intact.filed (key, record) member).present
  · intro a b first second differ
    have one := intact.filed a first
    have other := intact.filed b second
    exact ⟨apart one other differ.1, apart other one differ.2⟩

/-! ## Assigning -/

theorem assign_append {before after : List (Value × Record)} (skipped : ∀ e ∈ before, finds key e = false)
    (found : finds key entry = true) :
    assign key record (before ++ entry :: after) = before ++ (entry.1, record) :: after := by
  induction before with
  | nil => simp [assign, found]
  | cons first rest ih =>
    obtain ⟨differs, others⟩ := List.forall_mem_cons.1 skipped
    simp [assign, differs, ih others]

/-- A record comes under the equal key that is there, or under a key of its own at the end. -/
theorem assign_cases (key : Value) (record : Record) (entries : List (Value × Record)) :
    (∃ before entry after, entries = before ++ entry :: after ∧ finds key entry = true ∧
      assign key record entries = before ++ (entry.1, record) :: after) ∨
    ((∀ entry ∈ entries, finds key entry = false) ∧ assign key record entries = entries ++ [(key, record)]) := by
  induction entries with
  | nil => exact .inr ⟨by simp, rfl⟩
  | cons entry rest ih =>
    cases found : finds key entry with
    | true => exact .inl ⟨[], entry, rest, rfl, found, by simp [assign, found]⟩
    | false =>
      rcases ih with ⟨before, replaced, after, rfl, same, assigned⟩ | ⟨skipped, assigned⟩
      · exact .inl ⟨entry :: before, replaced, after, rfl, same, by simp [assign, found, assigned]⟩
      · exact .inr ⟨by simpa [found] using skipped, by simp [assign, found, assigned]⟩

/-- Where key and identifier find the same, a record is put in the same place by either. -/
theorem map_assign (agree : ∀ entry ∈ entries, finds key entry = hasId (idOf record) entry.2) :
    (assign key record entries).map Prod.snd = place record (entries.map Prod.snd) := by
  induction entries with
  | nil => rfl
  | cons entry rest ih =>
    obtain ⟨first, others⟩ := List.forall_mem_cons.1 agree
    rw [assign, List.map_cons, place, ← first]
    split
    · rfl
    · rw [List.map_cons, ih others]

theorem Intact.assign (intact : Intact entries) (filed : Filed (key, record)) :
    Intact (KeyedStore.assign key record entries) := by
  -- The key that is there stays, and the new record has an identifier that is the same; or the key
  -- is new.
  rcases assign_cases key record entries with ⟨before, entry, after, rfl, found, assigned⟩ | ⟨fresh, assigned⟩
  · rw [assigned]
    have old := intact.filed entry (by simp)
    refine ⟨fun e member => ?_, by simpa using intact.differ⟩
    rcases List.mem_append.1 member with first | rest
    · exact intact.filed e (by simp [first])
    · rcases List.mem_cons.1 rest with rfl | last
      · exact ⟨old.key, filed.id, filed.present, Value.same_trans old.key found filed.same⟩
      · exact intact.filed e (by simp [last])
  · rw [assigned]
    refine ⟨fun e member => ?_, ?_⟩
    · rcases List.mem_append.1 member with old | new
      · exact intact.filed e old
      · cases List.mem_singleton.1 new
        exact filed
    · rw [List.map_append, List.pairwise_append]
      refine ⟨intact.differ, by simp, fun a old b new => ?_⟩
      obtain ⟨e, held, rfl⟩ := List.mem_map.1 old
      cases List.mem_singleton.1 new
      refine ⟨fresh e held, ?_⟩
      by_contra found
      cases (Value.same_symm filed.key (by simpa using found)).symm.trans (fresh e held)

theorem Intact.sublist {kept : List (Value × Record)} (intact : Intact entries) (within : kept.Sublist entries) :
    Intact kept :=
  ⟨fun entry member => intact.filed entry (within.subset member), intact.differ.sublist (within.map Prod.fst)⟩

/-- A key is there once, so taking its first entry away takes all of them. -/
theorem Intact.eraseP_eq (intact : Intact entries) (key : Value) :
    entries.eraseP (finds key) = entries.filter fun entry => !finds key entry := by
  induction entries with
  | nil => rfl
  | cons entry rest ih =>
    have others := ih (intact.sublist (List.sublist_cons_self entry rest))
    cases found : finds key entry with
    | false => simp [found, others]
    | true =>
      have unlike : ∀ e ∈ rest, finds key e = false := by
        intro e member
        by_contra again
        have again : finds key e = true := by simpa using again
        -- Two entries of one key would have keys that are the same.
        have back := Value.same_symm (intact.filed e (by simp [member])).key again
        have same := Value.same_trans (intact.filed entry (by simp)).key found back
        have differ := (List.pairwise_cons.1 intact.differ).1 e.1 (List.mem_map_of_mem member)
        cases same.symm.trans differ.1
      rw [List.eraseP_cons_of_pos found, List.filter_cons_of_neg (by simp [found])]
      exact (List.filter_eq_self.2 fun e member => by simp [unlike e member]).symm

/-! ## Numbers -/

theorem Draws.least {n m : Nat} (draws : d.Draws n m) :
    d.holds (.int m) = false ∧ n ≤ m ∧ ∀ k, n ≤ k → k < m → d.holds (.int k) = true := by
  induction draws with
  | free free => exact ⟨free, le_refl _, by omega⟩
  | @taken n m taken _ ih =>
    obtain ⟨free, above, others⟩ := ih
    refine ⟨free, by omega, fun k lower upper => ?_⟩
    rcases Nat.eq_or_lt_of_le lower with rfl | later
    · exact taken
    · exact others k later upper

/-- Drawing stops at the first number that is no key. -/
theorem draws_of_least {n m : Nat} (free : d.holds (.int m) = false) (above : n ≤ m)
    (others : ∀ k, n ≤ k → k < m → d.holds (.int k) = true) : d.Draws n m := by
  obtain ⟨steps, rfl⟩ := Nat.exists_eq_add_of_le above
  clear above
  -- Induction on how many numbers are taken.
  induction steps generalizing n with
  | zero => exact .free free
  | succ steps ih =>
    refine .taken (others n (le_refl n) (by omega)) ?_
    have rest : d.Draws (n + 1) (n + 1 + steps) := by
      apply ih
      · rwa [show n + 1 + steps = n + (steps + 1) by omega]
      · exact fun k lower upper => others k (by omega) (by omega)
    rwa [show n + 1 + steps = n + (steps + 1) by omega] at rest

theorem freeId_least (s : EntityStore) : s.nextId ≤ s.freeId ∧
    ∀ k : Nat, s.nextId ≤ k → k < s.freeId → s.records.any (hasId (.int k)) = true := by
  unfold EntityStore.freeId
  dsimp only
  rw [List.find?_map]
  cases search : (List.range (s.records.length + 1)).find?
      ((fun n : Nat => !s.records.any (hasId (.int n))) ∘ (s.nextId + ·)) with
  | none => exact ⟨le_refl _, fun k lower upper => absurd upper (by simp; omega)⟩
  | some n =>
    obtain ⟨-, -, taken⟩ := List.find?_range_eq_some.1 search
    refine ⟨by simp, fun k lower upper => ?_⟩
    obtain ⟨j, rfl⟩ := Nat.exists_eq_add_of_le lower
    simpa using taken j (by simpa using upper)

/-- The number that is drawn is the one that a store of records looks for. -/
theorem Intact.draws_iff (intact : Intact d.entries) (shows : Shows s d) (n : Nat) :
    d.Draws d.counter n ↔ n = s.freeId := by
  have holds_eq (id : Value) : d.holds id = s.records.any (hasId id) := by
    rw [shows.records]
    exact intact.any_finds id
  obtain ⟨above, taken⟩ := freeId_least s
  have free : d.holds (.int s.freeId) = false := by
    have sound := intact.sound
    rw [← shows.records] at sound
    rw [holds_eq, List.any_eq_false]
    simpa using sound.freeId
  constructor
  · intro draws
    obtain ⟨free', above', taken'⟩ := draws.least
    rw [← shows.counter] at above' taken'
    -- Both are the least number that is no key.
    rcases Nat.lt_trichotomy n s.freeId with less | same | more
    · cases free'.symm.trans ((holds_eq _).trans (taken n above' less))
    · exact same
    · cases free.symm.trans (taken' _ above more)
  · rintro rfl
    refine draws_of_least free (shows.counter ▸ above) fun k lower upper => ?_
    rw [holds_eq]
    exact taken k (shows.counter ▸ lower) upper

/-! ## Changes -/

variable {change : Change} {answer : Except Failure Change.Answer}

/-- A dictionary shows at once what it holds. -/
def view (d : KeyedStore) : EntityStore :=
  { entity := d.entity, records := d.entries.map Prod.snd, nextId := d.counter }

theorem shows_view (d : KeyedStore) : Shows d.view d := ⟨rfl, rfl, rfl⟩

/-- Every change comes to an end: a number that is no key is found. -/
theorem Intact.exists_step (intact : Intact d.entries) (change : Change) : ∃ answer d', d.Step change answer d' := by
  cases change with
  | insert attributes =>
    cases absent : (idOf attributes).isNull with
    | true => exact ⟨_, _, .numbered absent ((intact.draws_iff (shows_view d) _).2 rfl)⟩
    | false => exact ⟨_, _, .named absent⟩
  | update id changes =>
    cases search : d.entries.find? (finds id) with
    | none => exact ⟨_, _, .missing search⟩
    | some entry => exact ⟨_, _, .updated search⟩
  | delete id => exact ⟨_, _, .deleted⟩

/-- Records are filed under the identifiers that they are given, and stay so. -/
theorem Intact.step (intact : Intact d.entries) (addressed : change.address.IsKey) (step : d.Step change answer d') :
    Intact d'.entries := by
  cases step with
  | numbered absent draws =>
    refine intact.assign ⟨rfl, ?_, ?_, ?_⟩ <;> rw [idOf_set]
    · rfl
    · rfl
    · exact (Value.same_iff_atom rfl).2 ⟨_, rfl, rfl⟩
  | named present => exact intact.assign ⟨addressed.hashable, addressed.hashable, present, addressed.own⟩
  | @updated id changes entry search =>
    have filed := intact.filed entry (List.mem_of_find?_eq_some search)
    have found : entry.1.same id = true := List.find?_some (p := finds id) search
    refine intact.assign ⟨addressed.hashable, ?_, ?_, ?_⟩ <;> rw [idOf_revised]
    · exact filed.id
    · exact filed.present
    · exact Value.same_trans addressed.hashable (Value.same_symm filed.key found) filed.same
  | missing => exact intact
  | deleted => exact intact.sublist List.eraseP_sublist

/-- A store of records does what the dictionary does. -/
theorem Intact.perform (intact : Intact d.entries) (addressed : change.address.IsKey) (shows : Shows s d)
    (step : d.Step change answer d') : ∃ s', change.perform s = (answer, s') ∧ Shows s' d' := by
  have agree (id : Value) : ∀ entry ∈ d.entries, finds id entry = hasId id entry.2 :=
    fun entry member => (intact.filed entry member).finds_eq id
  have found (id : Value) : s.records.find? (hasId id) = (d.entries.find? (finds id)).map Prod.snd := by
    rw [shows.records, List.find?_map]
    exact congrArg _ (List.find?_congr fun entry member => (agree id entry member).symm)
  -- Each step has a change of the store beside it, which finds by identifier what the step finds by key.
  cases step with
  | @numbered attributes n absent draws =>
    obtain rfl := (intact.draws_iff shows n).1 draws
    refine ⟨_, Change.perform_insert (insert_of_null absent), shows.entity, ?_, rfl⟩
    rcases assign_cases (.int s.freeId) (attributes.set "id" (.int s.freeId)) d.entries with
      ⟨before, entry, after, form, taken, -⟩ | ⟨-, assigned⟩
    · have fresh : ∀ entry ∈ d.entries, finds (.int s.freeId) entry = false := by
        simpa [holds] using draws.least.1
      cases taken.symm.trans (fresh entry (by simp [form]))
    · rw [assigned, List.map_append, ← shows.records]
      rfl
  | @named attributes present =>
    refine ⟨_, Change.perform_insert (insert_of_present present addressed.hashable), shows.entity, ?_, shows.counter⟩
    exact (congrArg _ shows.records).trans (map_assign (agree _)).symm
  | @updated id changes entry search =>
    have filed := intact.filed entry (List.mem_of_find?_eq_some search)
    have own : entry.1.same id = true := List.find?_some (p := finds id) search
    rw [← finds, filed.finds_eq] at own
    have run : s.update id changes = .ok (entry.2.revised changes, _) :=
      update_of_find? addressed.hashable (by rw [found, search]; rfl)
    refine ⟨_, Change.perform_update run, shows.entity, ?_, shows.counter⟩
    refine (congrArg _ shows.records).trans (map_assign fun other held => ?_).symm
    -- The record has kept its identifier, which finds what the key finds.
    rw [agree id other held, idOf_revised, Bool.eq_iff_iff]
    have known := (intact.filed other held).id
    exact ⟨fun same => Value.same_trans known same (Value.same_symm filed.id own),
      fun same => Value.same_trans known same own⟩
  | @missing id changes search =>
    have run : s.update id changes = .error (.notFound s.entity id) :=
      update_of_absent addressed.hashable (by rw [found, search]; rfl)
    rw [← shows.entity]
    exact ⟨s, Change.perform_update_error run, shows⟩
  | @deleted id =>
    have run : s.delete id = .ok (s.records.any (hasId id), _) := delete_of_hashable addressed.hashable
    rw [holds, intact.any_finds, ← shows.records]
    refine ⟨_, Change.perform_delete run, shows.entity, ?_, shows.counter⟩
    rw [intact.eraseP_eq, shows.records, List.filter_map]
    exact congrArg _ (List.filter_congr fun entry member => by rw [agree id entry member]; rfl)

section

variable {changes : List Change} {answers : List (Except Failure Change.Answer)}

/-- A store of records answers a run of changes as the dictionary does. -/
theorem Intact.runs (intact : Intact d.entries) (addressed : ∀ change ∈ changes, change.address.IsKey)
    (shows : Shows s d) (runs : Runs d changes answers d') :
    Intact d'.entries ∧ (Change.performAll s changes).1 = answers ∧ Shows (Change.performAll s changes).2 d' := by
  induction runs generalizing s with
  | done => exact ⟨intact, rfl, shows⟩
  | next step _ ih =>
    obtain ⟨first, others⟩ := List.forall_mem_cons.1 addressed
    obtain ⟨s', performed, shows'⟩ := intact.perform first shows step
    obtain ⟨kept, answered, shown⟩ := ih (intact.step first step) others shows'
    rw [Change.performAll, performed]
    exact ⟨kept, congrArg _ answered, shown⟩

theorem Intact.exists_runs (intact : Intact d.entries) (addressed : ∀ change ∈ changes, change.address.IsKey) :
    ∃ answers d', Runs d changes answers d' := by
  induction changes generalizing d with
  | nil => exact ⟨[], d, .done⟩
  | cons change rest ih =>
    obtain ⟨first, others⟩ := List.forall_mem_cons.1 addressed
    obtain ⟨answer, next, step⟩ := intact.exists_step change
    obtain ⟨answers, last, runs⟩ := ih (intact.step first step) others
    exact ⟨answer :: answers, last, .next step runs⟩

end

/-- What a change does: it leaves all entries but the addressed one as they are, and in their order. -/
inductive Touches (d : KeyedStore) : Change → Except Failure Change.Answer → KeyedStore → Prop where
  | created {attributes : Record} {n : Nat} : (idOf attributes).isNull = true →
      (∀ entry ∈ d.entries, (idOf entry.2).same (.int n) = false) →
      Touches d (.insert attributes) (.ok (.record (attributes.set "id" (.int n))))
        { d with entries := d.entries ++ [(.int n, attributes.set "id" (.int n))], counter := n + 1 }
  | added {attributes : Record} : (idOf attributes).isNull = false →
      (∀ entry ∈ d.entries, (idOf entry.2).same (idOf attributes) = false) →
      Touches d (.insert attributes) (.ok (.record attributes))
        { d with entries := d.entries ++ [(idOf attributes, attributes)] }
  | replaced {attributes : Record} {before after : List (Value × Record)} {entry : Value × Record} :
      (idOf attributes).isNull = false →
      d.entries = before ++ entry :: after → (idOf entry.2).same (idOf attributes) = true →
      Touches d (.insert attributes) (.ok (.record attributes))
        { d with entries := before ++ (entry.1, attributes) :: after }
  | updated {id : Value} {changes : Record} {before after : List (Value × Record)} {entry : Value × Record} :
      d.entries = before ++ entry :: after → (idOf entry.2).same id = true →
      idOf (entry.2.revised changes) = idOf entry.2 →
      Touches d (.update id changes) (.ok (.record (entry.2.revised changes)))
        { d with entries := before ++ (entry.1, entry.2.revised changes) :: after }
  | missing {id : Value} {changes : Record} : (∀ entry ∈ d.entries, (idOf entry.2).same id = false) →
      Touches d (.update id changes) (.error (.notFound d.entity id)) d
  | deleted {id : Value} {before after : List (Value × Record)} {entry : Value × Record} :
      d.entries = before ++ entry :: after → (idOf entry.2).same id = true →
      Touches d (.delete id) (.ok (.deleted true)) { d with entries := before ++ after }
  | absent {id : Value} : (∀ entry ∈ d.entries, (idOf entry.2).same id = false) →
      Touches d (.delete id) (.ok (.deleted false)) d

theorem Intact.touches (intact : Intact d.entries) (step : d.Step change answer d') : d.Touches change answer d' := by
  -- What a step does to keys is told by the identifiers of the records.
  have agree (id : Value) : ∀ entry ∈ d.entries, finds id entry = (idOf entry.2).same id :=
    fun entry member => (intact.filed entry member).finds_eq id
  cases step with
  | @numbered attributes n absent draws =>
    have fresh : ∀ entry ∈ d.entries, finds (.int n) entry = false := by simpa [holds] using draws.least.1
    rcases assign_cases (.int n) (attributes.set "id" (.int n)) d.entries with
      ⟨before, entry, after, form, taken, -⟩ | ⟨-, assigned⟩
    · cases taken.symm.trans (fresh entry (by simp [form]))
    · rw [assigned]
      exact .created absent fun entry member => (agree _ entry member) ▸ fresh entry member
  | @named attributes present =>
    rcases assign_cases (idOf attributes) attributes d.entries with
      ⟨before, entry, after, form, found, assigned⟩ | ⟨fresh, assigned⟩
    · rw [assigned]
      exact .replaced present form ((agree _ entry (by simp [form])) ▸ found)
    · rw [assigned]
      exact .added present fun entry member => (agree _ entry member) ▸ fresh entry member
  | @updated id changes entry search =>
    obtain ⟨found, before, after, form, skipped⟩ := List.find?_eq_some_iff_append.1 search
    have assigned : KeyedStore.assign id (entry.2.revised changes) d.entries =
        before ++ (entry.1, entry.2.revised changes) :: after := by
      rw [form]
      exact assign_append (by simpa using skipped) found
    rw [assigned]
    exact .updated form ((agree id entry (by simp [form])) ▸ found) (idOf_revised entry.2 changes)
  | missing search =>
    refine .missing fun entry member => (agree _ entry member) ▸ ?_
    simpa using List.find?_eq_none.1 search entry member
  | @deleted id =>
    cases held : d.holds id with
    | true =>
      obtain ⟨entry, member, found⟩ := List.any_eq_true.1 held
      obtain ⟨first, before, after, -, own, form, erased⟩ := List.exists_of_eraseP member found
      rw [erased]
      exact .deleted form ((agree id first (by simp [form])) ▸ own)
    | false =>
      have none : ∀ entry ∈ d.entries, finds id entry = false := by simpa [holds] using held
      rw [List.eraseP_of_forall_not (by simpa using none)]
      exact .absent fun entry member => (agree _ entry member) ▸ none entry member

/-- What holds of a dictionary after any changes, and of one change more. -/
structure Integral (d : KeyedStore) : Prop where
  keyed : ∀ entry ∈ d.entries, entry.1.same (idOf entry.2) = true
  distinct : (d.entries.map Prod.fst).Pairwise Differ
  ends : ∀ change : Change, ∃ answer d', d.Step change answer d'
  touches : ∀ change answer d', d.Step change answer d' → d.Touches change answer d'

theorem Intact.integral (intact : Intact d.entries) : d.Integral :=
  ⟨fun entry member => (intact.filed entry member).same, intact.differ, intact.exists_step,
    fun _ _ _ step => intact.touches step⟩

end KeyedStore

/-- A store is filled by inserting. -/
theorem EntityStore.ofRecords_eq (entity : String) (relations : List (String × Relation)) {records : List Record}
    (hashable : ∀ record ∈ records, (idOf record).hashable = true) :
    ofRecords entity relations records =
      .ok (Change.performAll ⟨entity, relations, [], 1, 0⟩ (records.map .insert)).2 := by
  unfold ofRecords
  generalize (⟨entity, relations, [], 1, 0⟩ : EntityStore) = s
  induction records generalizing s with
  | nil => rfl
  | cons record rest ih =>
    obtain ⟨first, others⟩ := List.forall_mem_cons.1 hashable
    obtain ⟨stored, s', run⟩ := exists_insert s first
    rw [List.foldlM_cons, run, List.map_cons, Change.performAll, Change.perform_insert run]
    exact ih others s'

end QueryCache
