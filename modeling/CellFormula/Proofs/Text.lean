/-
Runs of characters of one class at the front of a text, and the texts that keep a number or a name from going on.

- `takeWhile_run`, `dropWhile_run`: a run ends where the next character is of another class.
- `Apart.digit`, `Apart.alpha`: what stands behind an operand neither starts with a digit nor with a letter.
-/
import Mathlib
import CellFormula.Text

namespace CellFormula.Text

/-! ## Runs -/

/-- the text does not start with a character of this class -/
def Stops (p : Char → Bool) (rest : List Char) : Prop := ∀ c ∈ rest.head?, p c = false

theorem stops_nil (p : Char → Bool) : Stops p [] := by simp [Stops]

theorem stops_cons {p : Char → Bool} {c : Char} {cs : List Char} : Stops p (c :: cs) ↔ p c = false := by simp [Stops]

theorem Stops.takeWhile {p : Char → Bool} {rest : List Char} (stop : Stops p rest) : rest.takeWhile p = [] := by
  cases rest with
  | nil => rfl
  | cons c cs => simp [stops_cons.mp stop]

theorem Stops.dropWhile {p : Char → Bool} {rest : List Char} (stop : Stops p rest) : rest.dropWhile p = rest := by
  cases rest with
  | nil => rfl
  | cons c cs => simp [stops_cons.mp stop]

theorem stops_dropWhile (p : Char → Bool) (cs : List Char) : Stops p (cs.dropWhile p) := by
  intro c mem
  obtain ⟨more, found⟩ := List.head?_eq_some_iff.mp mem
  simpa [found] using List.head?_dropWhile_not p cs

theorem Stops.append {p : Char → Bool} {cs rest : List Char} (h : Stops p cs) (k : Stops p rest) : Stops p (cs ++ rest) := by
  cases cs with
  | nil => exact k
  | cons c cs => exact stops_cons.mpr (stops_cons.mp h)

theorem stops_of_ne_cons {a : Char} {cs : List Char} (h : ∀ more, cs ≠ a :: more) : Stops (· == a) cs := by
  cases cs with
  | nil => exact stops_nil _
  | cons c cs => exact stops_cons.mpr (beq_eq_false_iff_ne.mpr fun same => h cs (same ▸ rfl))

theorem stops_of_takeWhile {p : Char → Bool} {cs : List Char} (h : cs.takeWhile p = []) : Stops p cs := by
  cases cs with
  | nil => exact stops_nil p
  | cons c cs => exact stops_cons.mpr (by simpa using h)

theorem takeWhile_run {p : Char → Bool} {run rest : List Char} (all : ∀ c ∈ run, p c = true) (stop : Stops p rest) :
    (run ++ rest).takeWhile p = run := by
  rw [List.takeWhile_append_of_pos all, stop.takeWhile, List.append_nil]

theorem dropWhile_run {p : Char → Bool} {run rest : List Char} (all : ∀ c ∈ run, p c = true) (stop : Stops p rest) :
    (run ++ rest).dropWhile p = rest := by
  rw [List.dropWhile_append_of_pos all, stop.dropWhile]

theorem takeWhile_append_of_stops {p : Char → Bool} {rest : List Char} (stop : Stops p rest) (cs : List Char) :
    (cs ++ rest).takeWhile p = cs.takeWhile p := by
  induction cs with
  | nil => exact stop.takeWhile
  | cons c cs ih => cases h : p c <;> simp [h, ih]

theorem dropWhile_append_of_stops {p : Char → Bool} {rest : List Char} (stop : Stops p rest) (cs : List Char) :
    (cs ++ rest).dropWhile p = cs.dropWhile p ++ rest := by
  induction cs with
  | nil => exact stop.dropWhile
  | cons c cs ih => cases h : p c <;> simp [h, ih]

/-- characters in two parts are a text in two parts -/
theorem eq_append_of_toList {text : String} {front behind : List Char} (h : text.toList = front ++ behind) :
    text = String.ofList front ++ String.ofList behind := by
  rw [← String.toList_inj, String.toList_append, String.toList_ofList, String.toList_ofList]
  exact h

/-! ## Blanks -/

/-- blanks only, or nothing -/
def Blank (gap : List Char) : Prop := ∀ c ∈ gap, isBlank c = true

theorem blank_nil : Blank [] := by simp [Blank]

theorem Blank.append {a b : List Char} (ha : Blank a) (hb : Blank b) : Blank (a ++ b) := by
  intro c mem
  rcases List.mem_append.mp mem with h | h
  · exact ha c h
  · exact hb c h

/-! ## Classes of characters -/

theorem isDigit_iff {c : Char} : c.isDigit = true ↔ 48 ≤ c.toNat ∧ c.toNat ≤ 57 := by
  simp only [Char.isDigit, Bool.and_eq_true, decide_eq_true_eq, ge_iff_le, UInt32.le_iff_toNat_le]
  rfl

theorem isAlpha_iff {c : Char} :
    c.isAlpha = true ↔ 65 ≤ c.toNat ∧ c.toNat ≤ 90 ∨ 97 ≤ c.toNat ∧ c.toNat ≤ 122 := by
  simp only [Char.isAlpha, Char.isUpper, Char.isLower, Bool.or_eq_true, Bool.and_eq_true, decide_eq_true_eq, ge_iff_le,
    UInt32.le_iff_toNat_le]
  rfl

theorem isAlpha_eq_false_of_isDigit {c : Char} (h : c.isDigit = true) : c.isAlpha = false := by
  rw [isDigit_iff] at h
  rw [← Bool.not_eq_true, isAlpha_iff]
  omega

theorem isDigit_eq_false_of_isAlpha {c : Char} (h : c.isAlpha = true) : c.isDigit = false := by
  rw [isAlpha_iff] at h
  rw [← Bool.not_eq_true, isDigit_iff]
  omega

theorem isBlank_eq_false_of_ascii {c : Char} (low : 33 ≤ c.toNat) (high : c.toNat ≤ 126) : isBlank c = false := by
  rw [← Bool.not_eq_true, isBlank, inRanges_iff]
  intro h
  rcases h with ⟨r, mem, lo, hi⟩
  simp only [blankRanges, List.mem_cons, List.not_mem_nil, or_false] at mem
  rcases mem with rfl | rfl | rfl | rfl | rfl | rfl | rfl | rfl | rfl | rfl <;> simp only at lo hi <;> omega

theorem isBlank_eq_false_of_isDigit {c : Char} (h : c.isDigit = true) : isBlank c = false := by
  rw [isDigit_iff] at h
  exact isBlank_eq_false_of_ascii (by omega) (by omega)

theorem isBlank_eq_false_of_isAlpha {c : Char} (h : c.isAlpha = true) : isBlank c = false := by
  rw [isAlpha_iff] at h
  exact isBlank_eq_false_of_ascii (by omega) (by omega)

/-! ## Texts that keep tokens apart -/

/-- no character with which a number or a name could go on stands in front -/
def Apart (rest : List Char) : Prop :=
  ∀ c ∈ rest.head?, c.isDigit = false ∧ c.isAlpha = false ∧ c ≠ '.'

theorem apart_nil : Apart [] := by simp [Apart]

theorem Apart.digit {rest : List Char} (h : Apart rest) : Stops Char.isDigit rest := fun c mem => (h c mem).1

theorem Apart.alpha {rest : List Char} (h : Apart rest) : Stops Char.isAlpha rest := fun c mem => (h c mem).2.1

theorem apart_cons_of_isBlank {c : Char} (cs : List Char) (h : isBlank c = true) : Apart (c :: cs) := by
  intro d mem
  obtain rfl : c = d := by simpa using mem
  refine ⟨?_, ?_, ?_⟩
  · by_contra digit
    simp [isBlank_eq_false_of_isDigit (Bool.eq_true_of_not_eq_false digit)] at h
  · by_contra alpha
    simp [isBlank_eq_false_of_isAlpha (Bool.eq_true_of_not_eq_false alpha)] at h
  · rintro rfl
    exact absurd h (by decide)

end CellFormula.Text
