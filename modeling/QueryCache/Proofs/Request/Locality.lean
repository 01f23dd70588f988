import QueryCache.Proofs.Outcome
import QueryCache.Request.Parser

/-! Where a request is malformed.

Reading a request is a row of checks, each of one parameter, and the first that finds a fault is what
reading fails with. What a check finds depends on the text of its own parameter only, though several
checks may look at one parameter and others stand between them. A fault therefore is found in the same
way when its parameter stands alone. -/

set_option autoImplicit false

namespace QueryCache

namespace Request

variable {α β : Type} {param : String}

/-! ## Faults of readings -/

/-- What a reading fails with. -/
def fault? : Parsed α → Option ParseError
  | .ok _ => none
  | .error e => some e

theorem fault?_eq_some {x : Parsed α} {e : ParseError} : fault? x = some e ↔ x = .error e := by
  cases x <;> simp [fault?]

@[simp] theorem fault?_pure (a : α) : fault? (pure a : Parsed α) = none := rfl

/-- A step whose fault does not depend on what was read before it. -/
theorem fault?_bind {x : Parsed α} {f : α → Parsed β} {later : Option ParseError}
    (same : ∀ a, x = .ok a → fault? (f a) = later) : fault? (x >>= f) = (fault? x).or later := by
  cases x with
  | error e => rfl
  | ok a => exact same a rfl

theorem fault?_bind_congr {β' : Type} {x : Parsed α} {f : α → Parsed β} {g : α → Parsed β'}
    (same : ∀ a, fault? (f a) = fault? (g a)) : fault? (x >>= f) = fault? (x >>= g) := by
  cases x with
  | error e => rfl
  | ok a => exact same a

theorem fault?_mapM (f : α → Parsed β) (items : List α) :
    fault? (items.mapM f) = items.findSome? fun item => fault? (f item) := by
  induction items with
  | nil => rfl
  | cons item items ih =>
    have rest (b : β) : fault? (do let others ← items.mapM f; pure (b :: others)) = fault? (items.mapM f) := by
      rw [fault?_bind fun _ _ => fault?_pure _, Option.or_none]
    rw [List.mapM_cons, fault?_bind fun b _ => rest b, ih, List.findSome?_cons]
    cases fault? (f item) <;> rfl

/-- A reading that blames no parameter but one. -/
def Blames (param : String) (x : Parsed α) : Prop :=
  ∀ e, x = .error e → e.param = param

theorem blames_ok (a : α) : Blames param (.ok a : Parsed α) := by
  rintro e ⟨⟩

theorem blames_fail (reason : ParseReason) (token : List Char) : Blames param (fail param reason token : Parsed α) := by
  rintro e ⟨⟩
  rfl

theorem Blames.bind {x : Parsed α} {f : α → Parsed β} (first : Blames param x) (rest : ∀ a, Blames param (f a)) :
    Blames param (x >>= f) := by
  intro e failed
  rcases Outcome.bind_eq_error.1 failed with here | ⟨a, -, there⟩
  · exact first e here
  · exact rest a e there

theorem blames_mapM {f : α → Parsed β} (step : ∀ a, Blames param (f a)) (items : List α) :
    Blames param (items.mapM f) := by
  intro e failed
  obtain ⟨a, -, there⟩ := Outcome.mapM_eq_error failed
  exact step a e there

/-! ## What the readers blame -/

theorem blames_readField (name token : List Char) : Blames param (readField param name token) := by
  unfold readField
  dsimp only
  split_ifs
  · exact blames_fail _ _
  · exact blames_fail _ _
  · exact blames_fail _ _
  · exact blames_ok _

theorem blames_readValues (op : Operator) (raw token : List Char) : Blames param (readValues param op raw token) := by
  unfold readValues
  dsimp only
  split_ifs <;> first | exact blames_fail _ _ | exact blames_ok _

theorem blames_readCondition (default : Operator) (join : Join) (chunk : List Char) :
    Blames param (readCondition param default join chunk) := by
  unfold readCondition
  split
  · exact blames_fail _ _
  · refine (blames_readField _ _).bind fun field => ?_
    split
    · split
      · exact blames_fail _ _
      · exact (blames_readValues _ _ _).bind fun _ => blames_ok _
    · split
      · exact blames_ok _
      · exact (blames_readValues _ _ _).bind fun _ => blames_ok _

theorem blames_readSearchField (chunk : List Char) : Blames param (readSearchField param chunk) := by
  unfold readSearchField
  split
  · exact (blames_readField _ _).bind fun _ => blames_ok _
  · split
    · exact blames_fail _ _
    · exact (blames_readField _ _).bind fun _ => blames_ok _

theorem blames_readDirection (item : List Char) : Blames param (readDirection param item) := by
  unfold readDirection
  split
  · exact blames_ok _
  · split
    · exact blames_ok _
    · exact blames_fail _ _

theorem blames_readInclusion (path : List Char) : Blames param (readInclusion param path) := by
  unfold readInclusion
  split
  · exact (blames_readField _ _).bind fun _ => blames_ok _
  · exact (blames_readField _ _).bind fun _ => blames_ok _

theorem blames_readComparison (chunk : List Char) : Blames param (readComparison param chunk) := by
  unfold readComparison
  split
  · split
    · exact blames_fail _ _
    · exact (blames_readField _ _).bind fun _ => (blames_readField _ _).bind fun _ => blames_ok _
  · exact blames_fail _ _

/-- Reads the word for a join. -/
def joinOf (param : String) (text : List Char) : Parsed Join :=
  match Join.ofCode? (String.ofList (Text.lower (Text.trim text))) with
  | some join => .ok join
  | none => fail param .badJoin text

theorem blames_joinOf (text : List Char) : Blames param (joinOf param text) := by
  unfold joinOf
  split
  · exact blames_ok _
  · exact blames_fail _ _

/-- Conditions are malformed or not whatever they are joined with. -/
theorem fault?_readConditions (default : Operator) (join join' : Join) (raw : List Char) :
    fault? (readConditions param default join raw) = fault? (readConditions param default join' raw) := by
  have chunk (text : List Char) :
      fault? (readCondition param default join text) = fault? (readCondition param default join' text) := by
    unfold readCondition
    split
    · rfl
    · apply fault?_bind_congr
      intro field
      split
      · split
        · rfl
        · exact fault?_bind_congr fun _ => rfl
      · split
        · rfl
        · exact fault?_bind_congr fun _ => rfl
  simp only [readConditions, fault?_mapM, chunk]

/-! ## Checks -/

theorem of_textOf_eq_some {params : RequestParams} {text : List Char} (found : textOf? params param = .ok (some text)) :
    ∃ value, params.lookup param = some value ∧ value.isNull = false := by
  unfold textOf? at found
  split at found
  · cases found
  · cases found
  · next held => exact ⟨_, held, rfl⟩
  · cases found

theorem of_textOf_eq_error {params : RequestParams} {e : ParseError} (failed : textOf? params param = .error e) :
    e.param = param ∧ ∃ value, params.lookup param = some value ∧ value.isNull = false := by
  unfold textOf? at failed
  split at failed
  · cases failed
  · cases failed
  · cases failed
  · next value notNull _ held =>
    cases failed
    refine ⟨rfl, value, held, ?_⟩
    cases value <;> first | rfl | exact absurd rfl notNull

/-- The text of one parameter, looked through for a fault. -/
structure Check where
  param : String
  fault : List Char → Option ParseError
  names_param : ∀ text e, fault text = some e → e.param = param

namespace Check

variable {params params' : RequestParams} {check : Check} {e : ParseError}

/-- Looks for the fault that a reading of the text fails with. -/
def reading (param : String) (read : List Char → Parsed α) (blames : ∀ text, Blames param (read text)) : Check where
  param := param
  fault text := fault? (read text)
  names_param text e found := blames text e (fault?_eq_some.1 found)

/-- Looks only whether there is a text. -/
def text (param : String) : Check :=
  reading param (fun _ => .ok ()) fun _ => blames_ok ()

def join (param : String) : Check :=
  reading param (joinOf param) blames_joinOf

def conditions (param : String) (default : Operator) : Check :=
  reading param (readConditions param default .and) fun raw =>
    blames_mapM (blames_readCondition default .and) (chunks raw)

/-- What the check finds in the parameters. -/
def run (check : Check) (params : RequestParams) : Option ParseError :=
  match textOf? params check.param with
  | .error e => some e
  | .ok none => none
  | .ok (some text) => check.fault text

theorem run_eq_error (check : Check) (failed : textOf? params check.param = .error e) : check.run params = some e := by
  rw [run, failed]

theorem run_eq_fault (check : Check) {raw : Option (List Char)} (found : textOf? params check.param = .ok raw) :
    check.run params = raw.bind check.fault := by
  rw [run, found]
  cases raw <;> rfl

/-- A fault stands at the parameter of the check, which has a value. -/
theorem of_run (found : check.run params = some e) :
    e.param = check.param ∧ ∃ value, params.lookup check.param = some value ∧ value.isNull = false := by
  cases text : textOf? params check.param with
  | error e' =>
    rw [run_eq_error check text] at found
    cases found
    exact of_textOf_eq_error text
  | ok raw =>
    rw [run_eq_fault check text] at found
    obtain ⟨raw, rfl, found⟩ := Option.bind_eq_some_iff.1 found
    exact ⟨check.names_param raw e found, of_textOf_eq_some text⟩

/-- A check sees no other parameter than its own. -/
theorem run_congr (same : params.lookup check.param = params'.lookup check.param) :
    check.run params = check.run params' := by
  unfold run textOf?
  rw [same]

theorem run_of_absent (absent : params.lookup check.param = none) : check.run params = none := by
  unfold run textOf?
  rw [absent]

/-- The first fault that a row of checks finds, and the only parameter it needs. -/
theorem findSome?_alone {checks : List Check} (found : checks.findSome? (·.run params) = some e) :
    (∃ check ∈ checks, check.param = e.param) ∧ ∃ value, params.lookup e.param = some value ∧ value.isNull = false ∧
      checks.findSome? (·.run [(e.param, value)]) = some e := by
  obtain ⟨before, check, after, rfl, here, clean⟩ := List.findSome?_eq_some_iff.1 found
  obtain ⟨own, value, held, notNull⟩ := of_run here
  refine ⟨⟨check, by simp, own.symm⟩, value, own ▸ held, notNull, ?_⟩
  rw [own]
  have alone (other : Check) (same : other.param = check.param) :
      other.run [(check.param, value)] = other.run params := by
    apply run_congr
    rw [same, held, List.lookup_cons_self]
  -- Checks of the same parameter before this one find nothing in its text; those of others have none.
  refine List.findSome?_eq_some_iff.2 ⟨before, check, after, rfl, (alone check rfl).trans here, fun other member => ?_⟩
  by_cases same : other.param = check.param
  · exact (alone other same).trans (clean other member)
  · apply run_of_absent
    have apart : (other.param == check.param) = false := by simpa using same
    simp [List.lookup_cons, apart]

/-- What is found in a parameter that stands alone is enough for a fault among the others. -/
theorem exists_findSome? {checks : List Check} {name : String} {value : Value} (held : params.lookup name = some value)
    (found : checks.findSome? (·.run [(name, value)]) = some e) : ∃ e', checks.findSome? (·.run params) = some e' := by
  obtain ⟨check, member, here⟩ := List.exists_of_findSome?_eq_some found
  have own : check.param = name := by
    by_contra other
    have apart : (check.param == name) = false := by simpa using other
    rw [run_of_absent (by simp [List.lookup_cons, apart])] at here
    cases here
  have same : params.lookup check.param = [(name, value)].lookup check.param := by
    rw [own, held, List.lookup_cons_self]
  rw [← Option.isSome_iff_exists, List.findSome?_isSome_iff]
  exact ⟨check, member, by rw [run_congr same, here]; rfl⟩

end Check

/-! ## Readers as rows of checks -/

section

variable {params : RequestParams} {names : ParamNames} {enhanced : Bool}

theorem findSome?_run_cons (check : Check) (checks : List Check) :
    (check :: checks).findSome? (·.run params) = (check.run params).or (checks.findSome? (·.run params)) := by
  rw [List.findSome?_cons]
  cases check.run params <;> rfl

theorem fault?_textOf (param : String) : fault? (textOf? params param) = (Check.text param).run params := by
  cases found : textOf? params param with
  | error e =>
    rw [(Check.text param).run_eq_error found]
    rfl
  | ok raw =>
    rw [(Check.text param).run_eq_fault found]
    cases raw <;> rfl

/-- A reading of a text that there may be or not. -/
theorem fault?_textOf_bind {f : Option (List Char) → Parsed α} (check : Check) (nothing : fault? (f none) = none)
    (something : ∀ text, fault? (f (some text)) = check.fault text) :
    fault? (textOf? params check.param >>= f) = check.run params := by
  cases found : textOf? params check.param with
  | error e =>
    rw [check.run_eq_error found]
    rfl
  | ok raw =>
    rw [check.run_eq_fault found]
    cases raw with
    | none => exact nothing
    | some text => exact something text

theorem fault?_readJoin (param : String) (default : Join) :
    fault? (readJoin params param default) = (Check.join param).run params := by
  refine fault?_textOf_bind (Check.join param) rfl fun text => ?_
  change _ = fault? (joinOf param text)
  unfold joinOf
  dsimp only
  cases Join.ofCode? (String.ofList (Text.lower (Text.trim text))) <;> rfl

/-- The checks of a section of conditions with a join. -/
def sectionChecks (param joinParam : String) : List Check :=
  [.text param, .join joinParam, .conditions param .eq]

theorem fault?_readSection (param joinParam : String) :
    fault? (readSection params param joinParam) = (sectionChecks param joinParam).findSome? (·.run params) := by
  simp only [sectionChecks, findSome?_run_cons, List.findSome?_nil, Option.or_none, ← fault?_textOf,
    ← fault?_readJoin joinParam .and]
  refine fault?_bind fun raw found => fault?_bind fun join _ => ?_
  rw [(Check.conditions param .eq).run_eq_fault found]
  cases raw with
  | none => rfl
  | some raw =>
    dsimp only
    rw [fault?_bind fun _ _ => fault?_pure _, Option.or_none, fault?_readConditions .eq join .and]
    rfl

/-- The conditions of a search; a text without a colon is a term, which is never malformed. -/
def searchConditions (param : String) (raw : List Char) : Parsed (List Condition) :=
  if raw.contains ':' then readConditions param .like .or raw else .ok []

theorem blames_searchConditions (raw : List Char) : Blames param (searchConditions param raw) := by
  unfold searchConditions
  split
  · exact blames_mapM (blames_readCondition .like .or) (chunks raw)
  · exact blames_ok []

def Check.searchFields (param : String) : Check :=
  .reading param (fun raw => (chunks raw).mapM (readSearchField param)) fun raw =>
    blames_mapM blames_readSearchField (chunks raw)

def searchChecks (names : ParamNames) : List Check :=
  [.text names.search, .join names.searchJoin, .searchFields names.searchFields,
    .reading names.search (searchConditions names.search) blames_searchConditions]

theorem fault?_readSearch (enhanced : Bool) :
    fault? (readSearch params names enhanced) = (searchChecks names).findSome? (·.run params) := by
  have fields : fault? (do let raw ← textOf? params names.searchFields; readSearchFields names.searchFields raw) =
      (Check.searchFields names.searchFields).run params :=
    fault?_textOf_bind (.searchFields names.searchFields) rfl fun _ => rfl
  simp only [searchChecks, findSome?_run_cons, List.findSome?_nil, Option.or_none, ← fault?_textOf,
    ← fault?_readJoin names.searchJoin .or, ← fields]
  unfold readSearch
  -- The search is read first and looked through last, so two checks are of its parameter.
  refine fault?_bind fun raw found => fault?_bind fun join _ => ?_
  rw [← bind_assoc]
  refine fault?_bind fun fields _ => ?_
  rw [Check.run_eq_fault _ found]
  cases raw with
  | none => rfl
  | some raw =>
    change _ = fault? (searchConditions names.search raw)
    unfold searchConditions
    dsimp only
    split
    · rw [fault?_bind fun _ _ => fault?_pure _, Option.or_none, fault?_readConditions .like join .or]
    · rfl

def Check.directions (param : String) : Check :=
  .reading param (fun raw => (commaList (some raw)).mapM (readDirection param)) fun raw =>
    blames_mapM blames_readDirection (commaList (some raw))

def Check.orderFields (param : String) : Check :=
  .reading param (fun raw => (commaList (some raw)).mapM fun item => readField param item raw) fun raw =>
    blames_mapM (fun item => blames_readField item raw) (commaList (some raw))

def sortChecks (names : ParamNames) : List Check :=
  [.text names.orderBy, .directions names.sortedBy, .orderFields names.orderBy]

theorem fault?_readSort : fault? (readSort params names) = (sortChecks names).findSome? (·.run params) := by
  have directions : fault? (do
        let raw ← textOf? params names.sortedBy
        (commaList raw).mapM (readDirection names.sortedBy)) = (Check.directions names.sortedBy).run params :=
    fault?_textOf_bind (.directions names.sortedBy) rfl fun _ => rfl
  simp only [sortChecks, findSome?_run_cons, List.findSome?_nil, Option.or_none, ← fault?_textOf, ← directions]
  unfold readSort
  refine fault?_bind fun order found => ?_
  rw [← bind_assoc]
  refine fault?_bind fun directions _ => ?_
  rw [(Check.orderFields names.orderBy).run_eq_fault found]
  cases order with
  | none => rfl
  | some raw =>
    dsimp only
    rw [fault?_bind fun _ _ => fault?_pure _, Option.or_none]
    rfl

/-- The paths of relations that a text holds, without those left empty. -/
def listedInclusions (param : String) (raw : Option (List Char)) : Parsed (List Inclusion) :=
  ((commaList raw).filter fun item => !item.isEmpty).mapM (readInclusion param)

def Check.inclusions (param : String) : Check :=
  .reading param (fun raw => listedInclusions param (some raw)) fun _ => blames_mapM blames_readInclusion _

def includesChecks (names : ParamNames) : List Check :=
  [.inclusions names.includes, .inclusions names.includesAlias]

theorem fault?_readIncludes : fault? (readIncludes params names) = (includesChecks names).findSome? (·.run params) := by
  have inclusions (param : String) : fault? (do let raw ← textOf? params param; listedInclusions param raw) =
      (Check.inclusions param).run params :=
    fault?_textOf_bind (.inclusions param) rfl fun _ => rfl
  simp only [includesChecks, findSome?_run_cons, List.findSome?_nil, Option.or_none, ← inclusions]
  unfold readIncludes
  refine fault?_bind fun direct _ => ?_
  exact (fault?_bind fun others _ => fault?_pure _).trans (Option.or_none)

def Check.groupFields (param : String) : Check :=
  .reading param
    (fun raw => ((commaList (some raw)).filter fun item => !item.isEmpty).mapM fun item => readField param item raw)
    fun raw => blames_mapM (fun item => blames_readField item raw) _

theorem fault?_readGroupBy : fault? (readGroupBy params names) = (Check.groupFields names.groupBy).run params :=
  fault?_textOf_bind (.groupFields names.groupBy) rfl fun _ => rfl

def Check.comparisons (param : String) : Check :=
  .reading param (fun raw => (chunks raw).mapM (readComparison param)) fun raw =>
    blames_mapM blames_readComparison (chunks raw)

theorem fault?_readCompare : fault? (readCompare params names) = (Check.comparisons names.compare).run params :=
  fault?_textOf_bind (.comparisons names.compare) rfl fun _ => rfl

/-- Everything a request is checked for, in the order of reading. -/
def checks (names : ParamNames) : List Check :=
  searchChecks names ++ sectionChecks names.filter names.filterJoin ++ sortChecks names ++ includesChecks names ++
    [.groupFields names.groupBy] ++ sectionChecks names.having names.havingJoin ++ [.comparisons names.compare]

/-- Reading fails with the first fault that the checks find. -/
theorem fault?_parse : fault? (parse params names enhanced) = (checks names).findSome? (·.run params) := by
  have single (check : Check) : [check].findSome? (·.run params) = check.run params := by
    rw [findSome?_run_cons, List.findSome?_nil, Option.or_none]
  simp only [checks, List.findSome?_append, Option.or_assoc, single, ← fault?_readSearch enhanced, ← fault?_readSection,
    ← fault?_readSort, ← fault?_readIncludes, ← fault?_readGroupBy, ← fault?_readCompare]
  unfold parse
  refine fault?_bind fun search _ => fault?_bind fun filter _ => fault?_bind fun sort _ => fault?_bind fun includes _ =>
    fault?_bind fun groupBy _ => fault?_bind fun having _ => ?_
  rw [fault?_bind fun _ _ => fault?_pure _, Option.or_none]

theorem param_of_mem_checks {check : Check} (member : check ∈ checks names) :
    check.param ∈ names.fields.map Prod.snd := by
  have all : (checks names).map Check.param ⊆ names.fields.map Prod.snd := by
    intro param found
    simp only [checks, searchChecks, sectionChecks, sortChecks, includesChecks, List.map_append, List.map_cons,
      List.map_nil, Check.text, Check.join, Check.conditions, Check.searchFields, Check.directions,
      Check.orderFields, Check.inclusions, Check.groupFields, Check.comparisons, Check.reading, List.mem_append,
      List.mem_cons, List.not_mem_nil] at found
    simp only [ParamNames.fields, List.map_cons, List.map_nil, List.mem_cons, List.not_mem_nil]
    tauto
  exact all (List.mem_map_of_mem member)

end

/-- Errors of a request are local: the parameter that reading blames is a recognised one with a value, and
is blamed for the same reason where it stands alone. Nothing that others hold makes up for a parameter
that is malformed on its own. -/
theorem parse_error_local (params : RequestParams) (names : ParamNames) (enhanced : Bool) :
    (∀ e, parse params names enhanced = .error e →
      e.param ∈ names.fields.map Prod.snd ∧ ∃ value, params.lookup e.param = some value ∧ value.isNull = false ∧
        parse [(e.param, value)] names enhanced = .error e) ∧
    (∀ name value e, params.lookup name = some value → parse [(name, value)] names enhanced = .error e →
      ∃ e', parse params names enhanced = .error e') ∧
    ((∃ e, parse params names enhanced = .error e) ↔
      ∃ name ∈ names.fields.map Prod.snd, ∃ value, params.lookup name = some value ∧
        ∃ e, parse [(name, value)] names enhanced = .error e) := by
  have found {params : RequestParams} {e : ParseError} :
      parse params names enhanced = .error e ↔ (checks names).findSome? (·.run params) = some e := by
    rw [← fault?_parse, fault?_eq_some]
  have alone (e : ParseError) (failed : parse params names enhanced = .error e) :
      e.param ∈ names.fields.map Prod.snd ∧ ∃ value, params.lookup e.param = some value ∧ value.isNull = false ∧
        parse [(e.param, value)] names enhanced = .error e := by
    obtain ⟨⟨check, member, own⟩, value, held, notNull, single⟩ := Check.findSome?_alone (found.1 failed)
    exact ⟨own ▸ param_of_mem_checks member, value, held, notNull, found.2 single⟩
  have among (name : String) (value : Value) (e : ParseError) (held : params.lookup name = some value)
      (failed : parse [(name, value)] names enhanced = .error e) : ∃ e', parse params names enhanced = .error e' := by
    obtain ⟨e', first⟩ := Check.exists_findSome? held (found.1 failed)
    exact ⟨e', found.2 first⟩
  refine ⟨alone, among, ?_⟩
  constructor
  · rintro ⟨e, failed⟩
    obtain ⟨recognised, value, held, -, single⟩ := alone e failed
    exact ⟨e.param, recognised, value, held, e, single⟩
  · rintro ⟨name, -, value, held, e, failed⟩
    exact among name value e held failed

/-- The join of a search that is not there counts; the sort order comes after it. -/
example : parse [("orderBy", .str "1x"), ("filter", .str "a:1"), ("searchJoin", .str "xor")] =
    .error ⟨"searchJoin", .badJoin, some "xor"⟩ := by
  decide +kernel

end Request

end QueryCache
