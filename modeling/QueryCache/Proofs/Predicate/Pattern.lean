import QueryCache.Predicate.Like
import Mathlib.Data.List.Forall2

/-! What a pattern covers.

The texts that a pattern stands for are derived from it, one character after the other. Matching goes
through the pattern once and keeps what each beginning of it can leave of the text, so that several
percent signs are not a search through all ways to split the text. -/

set_option autoImplicit false

namespace QueryCache.Like

variable {c : Char} {pattern text rest : List Char} {left : List (List Char)}

/-- The texts that can be derived from a pattern. -/
inductive Covers : List Char → List Char → Prop
  | nil : Covers [] []
  | any (skipped : List Char) {pattern text : List Char} (others : Covers pattern text) :
    Covers ('%' :: pattern) (skipped ++ text)
  | one (d : Char) {pattern text : List Char} (others : Covers pattern text) : Covers ('_' :: pattern) (d :: text)
  | letter {c d : Char} {pattern text : List Char} (percent : c ≠ '%') (line : c ≠ '_')
    (same : Text.sameLetter c d = true) (others : Covers pattern text) : Covers (c :: pattern) (d :: text)

/-- What a single character of a pattern takes from a text. -/
def Takes (c : Char) (piece : List Char) : Prop :=
  if c = '%' then True
  else if c = '_' then ∃ d, piece = [d]
  else ∃ d, piece = [d] ∧ Text.sameLetter c d = true

theorem covers_cons : Covers (c :: pattern) text ↔
    ∃ piece others, text = piece ++ others ∧ Takes c piece ∧ Covers pattern others := by
  constructor
  · intro covers
    cases covers with
    | any skipped others => exact ⟨skipped, _, rfl, by simp [Takes], others⟩
    | one d others => exact ⟨[d], _, rfl, by simp [Takes], others⟩
    | letter percent line same others => exact ⟨[_], _, rfl, by simp [Takes, percent, line, same], others⟩
  · rintro ⟨piece, others, rfl, takes, covers⟩
    unfold Takes at takes
    split at takes
    · next percent =>
      subst percent
      exact .any piece covers
    · next percent =>
      split at takes
      · next line =>
        subst line
        obtain ⟨d, rfl⟩ := takes
        exact .one d covers
      · next line =>
        obtain ⟨d, rfl, same⟩ := takes
        exact .letter percent line same covers

/-! ## What is left of a text -/

@[simp]
theorem mem_endings : rest ∈ endings text ↔ rest <:+ text := by
  induction text with
  | nil => simp [endings]
  | cons c text ih => rw [endings, List.mem_cons, ih, List.suffix_cons_iff]

/-- Endings of one text, the longest first. -/
def Falling (left : List (List Char)) : Prop := left.Pairwise fun longer shorter => shorter <:+ longer

theorem falling_endings (text : List Char) : Falling (endings text) := by
  induction text with
  | nil => exact List.pairwise_singleton _ _
  | cons c text ih =>
    refine List.pairwise_cons.2 ⟨fun rest member => ?_, ih⟩
    exact (mem_endings.1 member).trans (List.suffix_cons c text)

/-- Endings that each lose their first character are endings still. -/
theorem Falling.filterMap {take? : List Char → Option (List Char)} (falling : Falling left)
    (first : ∀ start rest, take? start = some rest → ∃ d, start = d :: rest) : Falling (left.filterMap take?) := by
  refine List.Pairwise.filterMap take? ?_ falling
  intro longer shorter shorter_longer rest taken rest' taken'
  obtain ⟨d, rfl⟩ := first longer rest taken
  obtain ⟨d', rfl⟩ := first shorter rest' taken'
  -- The shorter ending is the longer one, or already lies behind its first character.
  rcases List.suffix_cons_iff.1 shorter_longer with same | within
  · cases same
    exact List.suffix_refl rest
  · exact (List.suffix_cons d' rest').trans within

theorem dropAny_eq_some {start : List Char} : dropAny? start = some rest ↔ ∃ d, start = d :: rest := by
  cases start <;> simp [dropAny?]

theorem dropLike_eq_some {start : List Char} :
    dropLike? c start = some rest ↔ ∃ d, start = d :: rest ∧ Text.sameLetter c d = true := by
  cases start with
  | nil => simp [dropLike?]
  | cons d others => cases same : Text.sameLetter c d <;> simp [dropLike?, same]

theorem Falling.advance (falling : Falling left) (c : Char) : Falling (advance left c) := by
  unfold Like.advance
  split
  · cases left with
    | nil => exact .nil
    | cons longest _ => exact falling_endings longest
  · split
    · exact falling.filterMap fun start rest taken => dropAny_eq_some.1 taken
    · refine falling.filterMap fun start rest taken => ?_
      obtain ⟨d, same, -⟩ := dropLike_eq_some.1 taken
      exact ⟨d, same⟩

/-- A percent sign may as well begin at the longest ending, which has all others among its own. -/
theorem mem_advance (falling : Falling left) :
    rest ∈ advance left c ↔ ∃ piece, Takes c piece ∧ piece ++ rest ∈ left := by
  unfold advance Takes
  split
  · cases left with
    | nil => simp
    | cons longest others =>
      simp only [mem_endings, true_and]
      constructor
      · rintro ⟨piece, rfl⟩
        exact ⟨piece, List.mem_cons_self⟩
      · rintro ⟨piece, member⟩
        have within : rest <:+ piece ++ rest := List.suffix_append piece rest
        rcases List.mem_cons.1 member with same | member
        · exact same ▸ within
        · exact within.trans (List.rel_of_pairwise_cons falling member)
  · split
    · simp only [List.mem_filterMap, dropAny_eq_some]
      constructor
      · rintro ⟨_, member, d, rfl⟩
        exact ⟨[d], ⟨d, rfl⟩, member⟩
      · rintro ⟨_, ⟨d, rfl⟩, member⟩
        exact ⟨_, member, d, rfl⟩
    · simp only [List.mem_filterMap, dropLike_eq_some]
      constructor
      · rintro ⟨_, member, d, rfl, same⟩
        exact ⟨[d], ⟨d, rfl, same⟩, member⟩
      · rintro ⟨_, ⟨d, rfl, same⟩, member⟩
        exact ⟨_, member, d, rfl, same⟩

theorem mem_foldl_advance (falling : Falling left) :
    rest ∈ pattern.foldl advance left ↔ ∃ covered, Covers pattern covered ∧ covered ++ rest ∈ left := by
  -- Each character turns what may be left into what may be left behind it.
  induction pattern generalizing left with
  | nil =>
    constructor
    · exact fun member => ⟨[], .nil, member⟩
    · rintro ⟨_, ⟨⟩, member⟩
      exact member
  | cons c pattern ih =>
    rw [List.foldl_cons, ih (falling.advance c)]
    constructor
    · rintro ⟨covered, covers, member⟩
      obtain ⟨piece, takes, member⟩ := (mem_advance falling).1 member
      rw [← List.append_assoc] at member
      exact ⟨piece ++ covered, covers_cons.2 ⟨piece, covered, rfl, takes, covers⟩, member⟩
    · rintro ⟨_, covers, member⟩
      obtain ⟨piece, covered, rfl, takes, covers⟩ := covers_cons.1 covers
      rw [List.append_assoc] at member
      exact ⟨covered, covers, (mem_advance falling).2 ⟨piece, takes, member⟩⟩

/-- What a pattern leaves of a text is what stands behind something that it covers. -/
theorem mem_leftOver : rest ∈ leftOver pattern text ↔ ∃ covered, Covers pattern covered ∧ covered ++ rest = text := by
  have falling : Falling [text] := List.pairwise_singleton _ _
  simp only [leftOver, mem_foldl_advance falling, List.mem_singleton]

/-- Matching finds the texts that can be derived from a pattern, and these with a line feed behind them. -/
theorem matchesText_iff_covers (pattern text : List Char) : matchesText pattern text = true ↔
    ∃ body, Covers pattern body ∧ (text = body ∨ text = body ++ ['\n']) := by
  simp only [matchesText, List.any_eq_true, mem_leftOver, Bool.or_eq_true, beq_iff_eq]
  constructor
  · rintro ⟨rest, ⟨body, covers, rfl⟩, rfl | rfl⟩
    · exact ⟨body, covers, .inl (List.append_nil body)⟩
    · exact ⟨body, covers, .inr rfl⟩
  · rintro ⟨body, covers, rfl | rfl⟩
    · exact ⟨[], ⟨text, covers, List.append_nil text⟩, .inl rfl⟩
    · exact ⟨['\n'], ⟨body, covers, rfl⟩, .inr rfl⟩

end QueryCache.Like
