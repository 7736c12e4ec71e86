/-
Numerals: digits, an optional fraction and an optional exponent.

A point belongs to the numeral only if a digit follows it, and the mark of an exponent only if a digit follows it, with or
without a sign between them. So `1.` is the numeral 1 and a point, and `2e+` the numeral 2 followed by other text.

- `scan_append`: a scan splits the text and loses nothing.
- `whole_isDigit`, `whole_ne_nil`: the whole part is digits, and not empty where the text starts with a digit.
-/
import CellFormula.Binary64.Rounding

namespace CellFormula

/-- the part of a numeral from the mark of its exponent on -/
structure Numeral.Exponent where
  mark : Char
  sign : Option Char
  digits : List Char
deriving DecidableEq

structure Numeral where
  whole : List Char
  fraction : Option (List Char)
  exponent : Option Numeral.Exponent
deriving DecidableEq

namespace Numeral

/-! ## Text and value -/

def Exponent.chars (e : Exponent) : List Char := e.mark :: (e.sign.toList ++ e.digits)

def Exponent.value (e : Exponent) : Int :=
  if e.sign = some '-' then -(Decimal.ofDigits e.digits : Int) else Decimal.ofDigits e.digits

def chars (n : Numeral) : List Char :=
  n.whole ++ (n.fraction.elim [] ('.' :: ·)) ++ n.exponent.elim [] Exponent.chars

/-- the exact value of a numeral -/
def value (n : Numeral) : Decimal where
  coefficient := Decimal.ofDigits (n.whole ++ n.fraction.getD [])
  exponent := n.exponent.elim 0 Exponent.value - (n.fraction.getD []).length

/-- the double nearest to the value of a numeral -/
def toBinary64 (n : Numeral) : Binary64 := Binary64.ofDecimal n.value

/-! ## Scanning -/

/-- a point with at least one digit behind it, if the text starts so, and the text after it -/
def takeFraction : List Char → Option (List Char) × List Char
  | '.' :: cs =>
    match cs.takeWhile Char.isDigit with
    | [] => (none, '.' :: cs)
    | d :: ds => (some (d :: ds), cs.dropWhile Char.isDigit)
  | cs => (none, cs)

/-- a sign, if the text starts with one, and the text after it -/
def takeSign : List Char → Option Char × List Char
  | '+' :: cs => (some '+', cs)
  | '-' :: cs => (some '-', cs)
  | cs => (none, cs)

/-- an exponent with at least one digit, if the text starts with one, and the text after it -/
def takeExponent : List Char → Option Exponent × List Char
  | [] => (none, [])
  | c :: cs =>
    if c = 'e' ∨ c = 'E' then
      let (sign, after) := takeSign cs
      match after.takeWhile Char.isDigit with
      | [] => (none, c :: cs)
      | d :: ds => (some ⟨c, sign, d :: ds⟩, after.dropWhile Char.isDigit)
    else (none, c :: cs)

/-- the numeral at the front of a text, and the text after it -/
def scan (cs : List Char) : Numeral × List Char :=
  let (fraction, afterFraction) := takeFraction (cs.dropWhile Char.isDigit)
  let (exponent, rest) := takeExponent afterFraction
  (⟨cs.takeWhile Char.isDigit, fraction, exponent⟩, rest)

/-! ## A scan loses nothing -/

theorem takeFraction_append (cs : List Char) :
    (takeFraction cs).1.elim [] ('.' :: ·) ++ (takeFraction cs).2 = cs := by
  fun_cases takeFraction cs with
  | case1 cs h => rfl
  | case2 cs d ds h => simp [← h]
  | case3 cs h => rfl

theorem takeSign_append (cs : List Char) : (takeSign cs).1.toList ++ (takeSign cs).2 = cs := by
  fun_cases takeSign cs <;> rfl

theorem takeExponent_append (cs : List Char) :
    (takeExponent cs).1.elim [] Exponent.chars ++ (takeExponent cs).2 = cs := by
  fun_cases takeExponent cs with
  | case1 => rfl
  | case2 c cs h sign after hs hd => rfl
  | case3 c cs h sign after hs d ds hd =>
    have joined := takeSign_append cs
    rw [hs] at joined
    simp [Exponent.chars, ← hd, ← joined]
  | case4 c cs h => rfl

theorem scan_append (cs : List Char) : (scan cs).1.chars ++ (scan cs).2 = cs := by
  have hf := takeFraction_append (cs.dropWhile Char.isDigit)
  have he := takeExponent_append (takeFraction (cs.dropWhile Char.isDigit)).2
  simp only [scan, chars, List.append_assoc, he, hf, List.takeWhile_append_dropWhile]

theorem whole_isDigit (cs : List Char) : ∀ c ∈ (scan cs).1.whole, c.isDigit = true :=
  List.all_eq_true.mp List.all_takeWhile

theorem whole_ne_nil {c : Char} {cs : List Char} (h : c.isDigit = true) : (scan (c :: cs)).1.whole ≠ [] := by
  simp [scan, h]

end Numeral

end CellFormula
