import QueryCache.Proofs.Decimal.Notation
import QueryCache.Value.Canonical

/-! Days and times can be told by their texts.

All parts of a text but the last two have a width of their own, and those two begin with marks. -/

set_option autoImplicit false

namespace QueryCache

variable {rest rest' : List Char}

namespace Date

variable {width n m : Nat}

theorem toList_padded (width n : Nat) : (padded width n).toList =
    List.replicate (width - (Nat.toDigits 10 n).length) '0' ++ Nat.toDigits 10 n := String.toList_ofList

theorem length_padded (positive : 0 < width) (small : n < 10 ^ width) : (padded width n).toList.length = width := by
  have := (Nat.length_toDigits_le_iff (by decide) positive).2 small
  rw [toList_padded, List.length_append, List.length_replicate]
  omega

theorem padded_append (positive : 0 < width) (small : n < 10 ^ width) (small' : m < 10 ^ width)
    (same : (padded width n).toList ++ rest = (padded width m).toList ++ rest') : n = m ∧ rest = rest' := by
  have lengths := (length_padded positive small).trans (length_padded positive small').symm
  obtain ⟨texts, rests⟩ := List.append_inj same lengths
  have value (n : Nat) : Nat.ofDigitChars 10 (padded width n).toList 0 = n := by
    rw [toList_padded, Binary64.ofDigitChars_zeros, Nat.ofDigitChars_ten_toDigits]
  exact ⟨by rw [← value n, texts, value], rests⟩

theorem toList_text (d : Date) : d.text.toList = (padded 4 d.year).toList ++
    '-' :: ((padded 2 d.month).toList ++ '-' :: (padded 2 d.day).toList) := by
  simp [text, String.toList_append]

structure Fits (d : Date) : Prop where
  year : d.year < 10 ^ 4
  month : d.month < 10 ^ 2
  day : d.day < 10 ^ 2

theorem fits_of_isValid {d : Date} (valid : d.isValid = true) : d.Fits := by
  simp only [isValid, Bool.and_eq_true, decide_eq_true_eq] at valid
  have most : daysInMonth d.year d.month ≤ 31 := by
    unfold daysInMonth
    split
    · split <;> omega
    · split <;> omega
  constructor <;> omega

theorem text_append {d e : Date} (fits : d.Fits) (fits' : e.Fits)
    (same : d.text.toList ++ rest = e.text.toList ++ rest') : d = e ∧ rest = rest' := by
  rw [toList_text, toList_text] at same
  simp only [List.append_assoc, List.cons_append] at same
  obtain ⟨years, same⟩ := padded_append (by decide) fits.year fits'.year same
  obtain ⟨months, same⟩ := padded_append (by decide) fits.month fits'.month (List.cons.inj same).2
  obtain ⟨days, rests⟩ := padded_append (by decide) fits.day fits'.day (List.cons.inj same).2
  cases d
  cases e
  simp only [Date.mk.injEq]
  exact ⟨⟨years, months, days⟩, rests⟩

theorem text_inj {d e : Date} (valid : d.isValid = true) (valid' : e.isValid = true)
    (same : d.text = e.text) : d = e := by
  have texts : d.text.toList ++ [] = e.text.toList ++ [] := by rw [same]
  exact (text_append (fits_of_isValid valid) (fits_of_isValid valid') texts).1

end Date

namespace DateTime

/-- A time of the calendar whose offset is one of whole minutes. -/
def isLegible (t : DateTime) : Bool := t.isValid && t.offset.all (· % (60 * microsPerSecond) == 0)

/-- What is written of an offset. -/
def suffixChars (offset : Option Int) : List Char := ((offset.map canonicalOffset).getD "").toList

/-- What is written of a part of a second. -/
def microChars (micro : Nat) : List Char :=
  if micro = 0 then [] else '.' :: (Date.padded 6 micro).toList

theorem toList_canonicalText (t : DateTime) : t.canonicalText.toList = t.date.text.toList ++ 'T' ::
    ((Date.padded 2 t.hour).toList ++ ':' :: ((Date.padded 2 t.minute).toList ++ ':' ::
      ((Date.padded 2 t.second).toList ++ (microChars t.micro ++ suffixChars t.offset)))) := by
  have micro : (if t.micro = 0 then "" else "." ++ Date.padded 6 t.micro).toList = microChars t.micro := by
    unfold microChars
    split
    · rfl
    · simp [String.toList_append]
  simp [canonicalText, text, textWith, clockText, String.toList_append, micro, suffixChars]

theorem suffixChars_head (offset : Option Int) : ∀ c ∈ (suffixChars offset).head?, c = 'Z' ∨ c = '+' ∨ c = '-' := by
  cases offset with
  | none => simp [suffixChars]
  | some offset =>
    unfold suffixChars canonicalOffset
    simp only [Option.map_some, Option.getD_some]
    split
    · simp
    · split <;> simp [String.toList_append]

/-- An offset of whole minutes, under a day either way. -/
def Coarse (offset : Int) : Prop := ∃ minutes : Int, offset = 60 * microsPerSecond * minutes ∧ minutes.natAbs < 1440

theorem suffixChars_some {minutes : Int} (small : minutes.natAbs < 1440) :
    suffixChars (some (60 * microsPerSecond * minutes)) =
      if minutes = 0 then ['Z']
      else (if minutes < 0 then '-' else '+') ::
        ((Date.padded 2 (minutes.natAbs / 60)).toList ++ ':' :: (Date.padded 2 (minutes.natAbs % 60)).toList) := by
  have seconds : (Int.fdiv (60 * microsPerSecond * minutes) microsPerSecond).natAbs = 60 * minutes.natAbs := by
    unfold microsPerSecond
    rw [Int.fdiv_eq_ediv_of_nonneg _ (by decide)]
    omega
  have rounded : roundedMinutes (60 * microsPerSecond * minutes) % 1440 = minutes.natAbs := by
    unfold roundedMinutes
    rw [seconds]
    dsimp only
    rw [if_neg (by omega)]
    omega
  have sign : 60 * microsPerSecond * minutes < 0 ↔ minutes < 0 := by
    unfold microsPerSecond
    omega
  simp only [suffixChars, Option.map_some, Option.getD_some, canonicalOffset, rounded, sign, Int.natAbs_eq_zero]
  split
  · rfl
  · split <;> simp [String.toList_append]

theorem suffixChars_inj {offset offset' : Option Int} (coarse : ∀ o ∈ offset, Coarse o)
    (coarse' : ∀ o ∈ offset', Coarse o) (same : suffixChars offset = suffixChars offset') : offset = offset' := by
  have some_ne_nil {minutes : Int} (small : minutes.natAbs < 1440) :
      suffixChars (some (60 * microsPerSecond * minutes)) ≠ [] := by
    rw [suffixChars_some small]
    split <;> simp
  cases offset with
  | none =>
    cases offset' with
    | none => rfl
    | some o =>
      obtain ⟨minutes, rfl, small⟩ := coarse' o rfl
      exact absurd same.symm (some_ne_nil small)
  | some o =>
    obtain ⟨minutes, rfl, small⟩ := coarse o rfl
    cases offset' with
    | none => exact absurd same (some_ne_nil small)
    | some o' =>
      obtain ⟨minutes', rfl, small'⟩ := coarse' o' rfl
      rw [suffixChars_some small, suffixChars_some small'] at same
      have minutes_eq : minutes = minutes' := by
        by_cases zero : minutes = 0
        · by_cases zero' : minutes' = 0
          · rw [zero, zero']
          · rw [if_pos zero, if_neg zero'] at same
            split at same <;> simp at same
        · by_cases zero' : minutes' = 0
          · rw [if_neg zero, if_pos zero'] at same
            split at same <;> simp at same
          · rw [if_neg zero, if_neg zero'] at same
            obtain ⟨signs, same⟩ := List.cons.inj same
            obtain ⟨hours, same⟩ := Date.padded_append (by decide) (by omega) (by omega) same
            have ends : (Date.padded 2 (minutes.natAbs % 60)).toList ++ [] =
                (Date.padded 2 (minutes'.natAbs % 60)).toList ++ [] := by
              rw [(List.cons.inj same).2]
            obtain ⟨rests, -⟩ := Date.padded_append (by decide) (by omega) (by omega) ends
            split at signs <;> split at signs <;> first | omega | cases signs
      rw [minutes_eq]

theorem microChars_append {micro micro' : Nat} {offset offset' : Option Int} (small : micro < 10 ^ 6)
    (small' : micro' < 10 ^ 6)
    (same : microChars micro ++ suffixChars offset = microChars micro' ++ suffixChars offset') :
    micro = micro' ∧ suffixChars offset = suffixChars offset' := by
  have point {offset : Option Int} {rest : List Char} : suffixChars offset ≠ '.' :: rest := by
    intro same
    rcases suffixChars_head offset '.' (by rw [same]; rfl) with mark | mark | mark <;> cases mark
  unfold microChars at same
  split at same
  · next zero =>
    split at same
    · next zero' => exact ⟨zero.trans zero'.symm, same⟩
    · exact absurd same point
  · split at same
    · exact absurd same.symm point
    · exact Date.padded_append (by decide) small small' (List.cons.inj same).2

structure Fits (t : DateTime) : Prop where
  date : t.date.Fits
  hour : t.hour < 10 ^ 2
  minute : t.minute < 10 ^ 2
  second : t.second < 10 ^ 2
  micro : t.micro < 10 ^ 6
  offset : ∀ o ∈ t.offset, Coarse o

theorem fits_of_isLegible {t : DateTime} (legible : t.isLegible = true) : t.Fits := by
  simp only [isLegible, isValid, Bool.and_eq_true, decide_eq_true_eq] at legible
  obtain ⟨⟨⟨⟨⟨⟨valid, hours⟩, minutes⟩, seconds⟩, micros⟩, range⟩, whole⟩ := legible
  refine ⟨Date.fits_of_isValid valid, by omega, by omega, by omega, by omega, ?_⟩
  intro o held
  rw [held] at range whole
  simp only [Option.all_some, Bool.and_eq_true, decide_eq_true_eq, beq_iff_eq] at range whole
  unfold microsPerDay microsPerSecond at *
  exact ⟨o / (60 * 1000000), by unfold microsPerSecond; omega, by omega⟩

/-- Times can be told by their canonical texts, offsets of whole minutes included. -/
theorem canonicalText_inj {s t : DateTime} (legible : s.isLegible = true) (legible' : t.isLegible = true)
    (same : s.canonicalText = t.canonicalText) : s = t := by
  have fits := fits_of_isLegible legible
  have fits' := fits_of_isLegible legible'
  have texts : s.canonicalText.toList = t.canonicalText.toList := by rw [same]
  rw [toList_canonicalText, toList_canonicalText] at texts
  obtain ⟨dates, texts⟩ := Date.text_append fits.date fits'.date texts
  obtain ⟨hours, texts⟩ := Date.padded_append (by decide) fits.hour fits'.hour (List.cons.inj texts).2
  obtain ⟨minutes, texts⟩ := Date.padded_append (by decide) fits.minute fits'.minute (List.cons.inj texts).2
  obtain ⟨seconds, texts⟩ := Date.padded_append (by decide) fits.second fits'.second (List.cons.inj texts).2
  obtain ⟨micros, texts⟩ := microChars_append fits.micro fits'.micro texts
  have offsets := suffixChars_inj fits.offset fits'.offset texts
  cases s
  cases t
  simp only [DateTime.mk.injEq]
  exact ⟨dates, hours, minutes, seconds, micros, offsets⟩

end DateTime

end QueryCache
