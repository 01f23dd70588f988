import QueryCache.Cache.Store
import Mathlib.Data.List.Forall2
import Mathlib.Logic.Basic

/-! Computations that give a value or fail, read backwards: what a success of the whole says
about its parts. Those that keep a state are read forwards. -/

set_option autoImplicit false

namespace QueryCache.Outcome

variable {ε α β : Type}

theorem bind_eq_ok {x : Except ε α} {f : α → Except ε β} {b : β} :
    (x >>= f) = .ok b ↔ ∃ a, x = .ok a ∧ f a = .ok b := by
  cases x with
  | error e => simp [bind, Except.bind]
  | ok a => simp [bind, Except.bind]

theorem map_eq_ok {x : Except ε α} {f : α → β} {b : β} :
    x.map f = .ok b ↔ ∃ a, x = .ok a ∧ f a = b := by
  cases x with
  | error e => simp [Except.map]
  | ok a => simp [Except.map]

theorem of_toOption {x : Except ε α} {a : α} (found : x.toOption = some a) : x = .ok a := by
  cases x with
  | error e => cases found
  | ok b => exact congrArg _ (Option.some.inj found)

theorem mapM_eq_ok {f : α → Except ε β} {items : List α} {results : List β} :
    items.mapM f = .ok results ↔ List.Forall₂ (fun a b => f a = .ok b) items results := by
  induction items generalizing results with
  | nil => cases results <;> simp [pure, Except.pure]
  | cons item rest ih =>
    rw [List.mapM_cons, bind_eq_ok]
    constructor
    · rintro ⟨b, first, others⟩
      obtain ⟨bs, found, same⟩ := bind_eq_ok.1 others
      cases same
      exact .cons first (ih.1 found)
    · rintro (_ | ⟨first, others⟩)
      exact ⟨_, first, bind_eq_ok.2 ⟨_, ih.2 others, rfl⟩⟩

/-- What every step gives holds of everything that a run of them gives. -/
theorem forall_of_mapM_eq_ok {f : α → Except ε β} {P : β → Prop} {items : List α}
    {results : List β} (run : items.mapM f = .ok results)
    (step : ∀ a ∈ items, ∀ b, f a = .ok b → P b) : ∀ b ∈ results, P b := by
  have pairs := mapM_eq_ok.1 run
  clear run
  induction pairs with
  | nil => simp
  | @cons a b items results first _ ih =>
    intro c member
    rcases List.mem_cons.1 member with rfl | member
    · exact step a (by simp) c first
    · exact ih (fun a found => step a (by simp [found])) c member

/-- Every item has its result. -/
theorem exists_of_mem_mapM {f : α → Except ε β} {items : List α} {results : List β}
    (run : items.mapM f = .ok results) {a : α} (member : a ∈ items) : ∃ b ∈ results, f a = .ok b := by
  have pairs := mapM_eq_ok.1 run
  clear run
  induction pairs with
  | nil => cases member
  | @cons item b items results first _ ih =>
    rcases List.mem_cons.1 member with rfl | member
    · exact ⟨b, by simp, first⟩
    · obtain ⟨b', found, same⟩ := ih member
      exact ⟨b', by simp [found], same⟩

/-- Items that come back one by one come back together. -/
theorem mapM_map_eq_ok {f : α → Except ε β} {g : β → α} {results : List β}
    (back : ∀ b ∈ results, f (g b) = .ok b) : (results.map g).mapM f = .ok results := by
  induction results with
  | nil => rfl
  | cons b results ih =>
    rw [List.map_cons, List.mapM_cons, back b (by simp),
      ih fun c member => back c (by simp [member])]
    rfl

/-- Where every step gives something, so does a run of them. -/
theorem exists_mapM_eq_ok {f : α → Except ε β} {P : β → Prop} {items : List α}
    (step : ∀ a ∈ items, ∃ b, f a = .ok b ∧ P b) :
    ∃ results, items.mapM f = .ok results ∧ ∀ b ∈ results, P b := by
  induction items with
  | nil => exact ⟨[], rfl, by simp⟩
  | cons a items ih =>
    obtain ⟨b, first, holds⟩ := step a (by simp)
    obtain ⟨results, run, all⟩ := ih fun a member => step a (by simp [member])
    refine ⟨b :: results, ?_, ?_⟩
    · rw [List.mapM_cons, first, run]
      rfl
    · simpa using ⟨holds, all⟩

/-- Where steps tell items apart, a run of them tells lists apart. -/
theorem eq_of_mapM_eq_ok {f : α → Except ε β} {xs ys : List α} {results : List β}
    (apart : ∀ x ∈ xs, ∀ y ∈ ys, ∀ b, f x = .ok b → f y = .ok b → x = y)
    (first : xs.mapM f = .ok results) (second : ys.mapM f = .ok results) : xs = ys := by
  have pairs := mapM_eq_ok.1 first
  have pairs' := mapM_eq_ok.1 second
  clear first second
  induction pairs generalizing ys with
  | nil => cases pairs'; rfl
  | @cons x b xs results head _ ih =>
    obtain _ | ⟨head', others⟩ := pairs'
    rw [apart x (by simp) _ (by simp) b head head', ih (fun x found y found' => ?_) others]
    exact apart x (by simp [found]) y (by simp [found'])

/-- Steps that do the same to items of two lists do the same to the lists. -/
theorem mapM_eq_of_forall₂ {α' : Type} {f : α → Except ε β} {g : α' → Except ε β} {xs : List α} {ys : List α'}
    (same : List.Forall₂ (fun x y => f x = g y) xs ys) : xs.mapM f = ys.mapM g := by
  induction same with
  | nil => rfl
  | cons first _ ih => rw [List.mapM_cons, List.mapM_cons, first, ih]

/-- What every step keeps, a run of steps keeps. -/
theorem of_foldlM_eq_ok {γ : Type} {f : γ → α → Except ε γ} {P : γ → Prop} {items : List α} {c c' : γ}
    (run : items.foldlM f c = .ok c') (start : P c)
    (step : ∀ a ∈ items, ∀ c c', P c → f c a = .ok c' → P c') : P c' := by
  induction items generalizing c with
  | nil =>
    cases run
    exact start
  | cons a items ih =>
    rw [List.foldlM_cons, bind_eq_ok] at run
    obtain ⟨next, first, rest⟩ := run
    apply ih rest (step a (by simp) c next start first)
    exact fun b member => step b (by simp [member])

/-- Every item has its step. -/
theorem step_of_foldlM_eq_ok {γ : Type} {f : γ → α → Except ε γ} {items : List α} {c c' : γ}
    (run : items.foldlM f c = .ok c') {a : α} (member : a ∈ items) : ∃ d d', f d a = .ok d' := by
  induction items generalizing c with
  | nil => cases member
  | cons b items ih =>
    rw [List.foldlM_cons, bind_eq_ok] at run
    obtain ⟨next, first, rest⟩ := run
    rcases List.mem_cons.1 member with rfl | member
    · exact ⟨c, next, first⟩
    · exact ih rest member

/-- Items are chosen where every one of them can be decided on. -/
theorem filterM_eq_ok {p : α → Except ε Bool} {items kept : List α}
    (run : items.filterM p = .ok kept) :
    (∀ a ∈ items, ∃ b, p a = .ok b) ∧ kept = items.filter fun a => (p a).toOption = some true := by
  obtain ⟨found, chosen, same⟩ := bind_eq_ok.1 run
  cases same
  suffices ∀ acc, List.filterAuxM p items acc = .ok found → (∀ a ∈ items, ∃ b, p a = .ok b) ∧
      found = (items.filter fun a => (p a).toOption = some true).reverse ++ acc by
    obtain ⟨decided, rfl⟩ := this [] chosen
    exact ⟨decided, by simp⟩
  clear run chosen
  induction items with
  | nil =>
    rintro acc ⟨⟩
    simp
  | cons a items ih =>
    intro acc chosen
    obtain ⟨b, first, chosen⟩ := bind_eq_ok.1 chosen
    obtain ⟨decided, rfl⟩ := ih _ chosen
    refine ⟨List.forall_mem_cons.2 ⟨⟨b, first⟩, decided⟩, ?_⟩
    cases b with
    | true => simp [first, Except.toOption]
    | false => simp [first, Except.toOption]

/-! ## Failures -/

theorem bind_eq_error {x : Except ε α} {f : α → Except ε β} {e : ε} :
    (x >>= f) = .error e ↔ x = .error e ∨ ∃ a, x = .ok a ∧ f a = .error e := by
  cases x with
  | error e' => simp [bind, Except.bind]
  | ok a => simp [bind, Except.bind]

theorem map_eq_error {x : Except ε α} {f : α → β} {e : ε} : x.map f = .error e ↔ x = .error e := by
  cases x with
  | error e' => simp [Except.map]
  | ok a => simp [Except.map]

theorem mapError_eq_ok {ε' : Type} {x : Except ε α} {f : ε → ε'} {a : α} :
    x.mapError f = .ok a ↔ x = .ok a := by
  cases x with
  | error cause => simp [Except.mapError]
  | ok a => simp [Except.mapError]

theorem mapError_eq_error {ε' : Type} {x : Except ε α} {f : ε → ε'} {e : ε'} :
    x.mapError f = .error e ↔ ∃ cause, x = .error cause ∧ f cause = e := by
  cases x with
  | error cause => simp [Except.mapError]
  | ok a => simp [Except.mapError]

/-- A run fails with what one of its steps fails with. -/
theorem mapM_eq_error {f : α → Except ε β} {items : List α} {e : ε} (failed : items.mapM f = .error e) :
    ∃ a ∈ items, f a = .error e := by
  induction items with
  | nil => cases failed
  | cons a items ih =>
    rw [List.mapM_cons] at failed
    rcases bind_eq_error.1 failed with here | ⟨b, -, failed⟩
    · exact ⟨a, by simp, here⟩
    · rcases bind_eq_error.1 failed with later | ⟨bs, -, absurd⟩
      · obtain ⟨a', member, there⟩ := ih later
        exact ⟨a', by simp [member], there⟩
      · cases absurd

theorem foldlM_eq_error {γ : Type} {f : γ → α → Except ε γ} {items : List α} {c : γ} {e : ε}
    (failed : items.foldlM f c = .error e) : ∃ a ∈ items, ∃ c, f c a = .error e := by
  induction items generalizing c with
  | nil => cases failed
  | cons a items ih =>
    rw [List.foldlM_cons] at failed
    rcases bind_eq_error.1 failed with here | ⟨next, -, later⟩
    · exact ⟨a, by simp, c, here⟩
    · obtain ⟨a', member, there⟩ := ih later
      exact ⟨a', by simp [member], there⟩

theorem filterM_eq_error {p : α → Except ε Bool} {items : List α} {e : ε}
    (failed : items.filterM p = .error e) : ∃ a ∈ items, p a = .error e := by
  rcases bind_eq_error.1 failed with undecided | ⟨_, _, absurd⟩
  · clear failed
    generalize [] = acc at undecided
    induction items generalizing acc with
    | nil => cases undecided
    | cons a items ih =>
      rcases bind_eq_error.1 undecided with here | ⟨b, -, undecided⟩
      · exact ⟨a, by simp, here⟩
      · obtain ⟨a', member, there⟩ := ih _ undecided
        exact ⟨a', by simp [member], there⟩
  · cases absurd

/-- A choice that is decided on every item is a filter. -/
theorem filterM_of_decided {p : α → Except ε Bool} {meets : α → Bool} {items : List α}
    (decided : ∀ a ∈ items, p a = .ok (meets a)) : items.filterM p = .ok (items.filter meets) := by
  cases run : items.filterM p with
  | error e =>
    obtain ⟨a, member, failed⟩ := filterM_eq_error run
    rw [decided a member] at failed
    cases failed
  | ok kept =>
    rw [(filterM_eq_ok run).2]
    refine congrArg _ (List.filter_congr fun a member => ?_)
    rw [decided a member]
    cases meets a <;> rfl

/-- Results of which each has the mark of its item: those of one mark are what the items of that mark give. -/
theorem exists_marked {f : α → Except ε β} {items : List α} {results : List β}
    (run : items.mapM f = .ok results) (meets : α → Bool) :
    ∃ marked : List (β × Bool), results = marked.map Prod.fst ∧ ∀ keep : Bool,
      (items.filter fun a => meets a == keep).mapM f = .ok ((marked.filter fun b => b.2 == keep).map Prod.fst) := by
  have pairs := mapM_eq_ok.1 run
  clear run
  induction pairs with
  | nil => exact ⟨[], rfl, fun _ => rfl⟩
  | @cons a b items results first _ ih =>
    obtain ⟨marked, rfl, others⟩ := ih
    refine ⟨(b, meets a) :: marked, rfl, fun keep => ?_⟩
    simp only [List.filter_cons]
    split
    · rw [List.mapM_cons, first, others]
      rfl
    · exact others keep

end QueryCache.Outcome

namespace QueryCache.Attempt

variable {σ α β : Type}

theorem bind_eq (work : Attempt σ α) (f : α → Attempt σ β) (s : σ) :
    (work >>= f) s = match work s with
      | (.ok a, s) => f a s
      | (.error e, s) => (.error e, s) := by
  change (ExceptT.bindCont f (work s).1) (work s).2 = _
  rcases work s with ⟨_ | a, s'⟩ <;> rfl

theorem bind_ok {work : Attempt σ α} {f : α → Attempt σ β} {s s' : σ} {a : α}
    (run : work s = (.ok a, s')) : (work >>= f) s = f a s' := by
  rw [bind_eq, run]

theorem bind_error {work : Attempt σ α} {f : α → Attempt σ β} {s s' : σ} {e : Failure}
    (run : work s = (.error e, s')) : (work >>= f) s = (.error e, s') := by
  rw [bind_eq, run]

theorem bind_eq_ok {work : Attempt σ α} {f : α → Attempt σ β} {s s' : σ} {b : β} :
    (work >>= f) s = (.ok b, s') ↔ ∃ a t, work s = (.ok a, t) ∧ f a t = (.ok b, s') := by
  rw [bind_eq]
  constructor
  · intro run
    split at run
    · next a t first => exact ⟨a, t, first, run⟩
    · cases run
  · rintro ⟨a, t, first, rest⟩
    rw [first]
    exact rest

theorem map_eq (work : Attempt σ α) (f : α → β) (s : σ) :
    (work >>= fun a => pure (f a)) s = ((work s).1.map f, (work s).2) := by
  rw [bind_eq]
  rcases work s with ⟨_ | a, s'⟩ <;> rfl

theorem lift_eq (x : Except Failure α) (s : σ) : (liftM x : Attempt σ α) s = (x, s) := rfl

end QueryCache.Attempt
