import QueryCache.Proofs.Outcome
import QueryCache.Settings.Components

/-! Settings that were loaded: every one of them was read as a value of its field's type. -/

set_option autoImplicit false

namespace QueryCache

open Outcome

theorem SettingsSchema.read_of_load {schema : SettingsSchema} {env : Environment} {direct settings : Record}
    (loaded : schema.load env direct = .ok settings) {name : String} {v : Value}
    (held : settings.get? name = some v) :
    ∃ field ∈ schema.fields, field.name = name ∧ ∃ given, field.type.read given = .ok v := by
  obtain ⟨values, collected, loaded⟩ := bind_eq_ok.1 loaded
  have fields : ∀ pair ∈ values, pair.1 ∈ schema.fields := by
    refine forall_of_mapM_eq_ok collected fun field member pair made => ?_
    obtain ⟨given, -, made⟩ := bind_eq_ok.1 made
    cases made
    exact member
  dsimp only at loaded
  split at loaded
  · cases loaded
    -- What is held was kept among the settings because it could be read.
    obtain ⟨before, after, whole, -⟩ := List.lookup_eq_some_iff.1 held
    have member : (name, v) ∈ before ++ (name, v) :: after := by simp
    rw [← whole, List.mem_filterMap] at member
    obtain ⟨_, read, shown⟩ := member
    obtain ⟨⟨field, given⟩, pair, rfl⟩ := List.mem_map.1 read
    obtain ⟨_, found, same⟩ := Option.map_eq_some_iff.1 shown
    cases same
    exact ⟨field, fields _ pair, rfl, given, of_toOption found⟩
  · cases loaded

namespace RepositorySettings

variable {s : RepositorySettings}

/-- Settings that the environment and what was given directly were read as. -/
def IsLoaded (s : RepositorySettings) : Prop :=
  ∃ env direct record, schema.load env direct = .ok record ∧ s = ofRecord record

theorem isLoaded_of_load {direct : Record} (loaded : load direct = .ok s) : s.IsLoaded := by
  obtain ⟨record, run, rfl⟩ := map_eq_ok.1 loaded
  exact ⟨[], direct, record, run, rfl⟩

theorem exists_of_positive {given v : Value} (read : positive.read given = .ok v) : ∃ n, v = .int n ∧ 1 ≤ n := by
  have accepted : SettingType.accept (SettingType.readWhole? given)
      (fun n => (some 1).all (· ≤ n) && (none : Option Int).all (n ≤ ·)) .int = .ok v := read
  unfold SettingType.accept at accepted
  split at accepted
  · next n _ =>
    split at accepted
    · next inside =>
      cases accepted
      exact ⟨n, rfl, by simpa using inside⟩
    · cases accepted
  · cases accepted

/-- A number that has to be positive is, also where it is not given. -/
theorem one_le_whole {env : Environment} {direct record : Record} (loaded : schema.load env direct = .ok record)
    {name : String} (typed : ∀ field ∈ schema.fields, field.name = name → field.type = positive)
    {default : Int} (valid : 1 ≤ default) : 1 ≤ record.whole name default := by
  unfold Record.whole
  split
  · next n held =>
    obtain ⟨field, member, named, given, read⟩ := SettingsSchema.read_of_load loaded held
    rw [typed field member named] at read
    obtain ⟨m, same, least⟩ := exists_of_positive read
    cases same
    exact least
  · exact valid

theorem IsLoaded.one_le_pageSize (loaded : s.IsLoaded) : 1 ≤ s.pageSize := by
  obtain ⟨env, direct, record, loaded, rfl⟩ := loaded
  exact one_le_whole loaded (by simp [schema]) (by decide)

theorem IsLoaded.one_le_maxPageSize (loaded : s.IsLoaded) : 1 ≤ s.maxPageSize := by
  obtain ⟨env, direct, record, loaded, rfl⟩ := loaded
  exact one_le_whole loaded (by simp [schema]) (by decide)

end RepositorySettings

end QueryCache
