/-
The piece at the front of a text: one token, or the characters that are refused together.

A piece is an operator, a parenthesis, a numeral or a variable. A numeral whose value is too large for a double, a run of
letters that no digit follows and any other character are pieces that spell no token. Variables are kept in upper case.

- `chars_append_rest`: a piece and the text after it are the whole text.
- `chars_ne_nil`, `length_rest_lt`: a piece is never empty, so the text after it is shorter.
-/
import CellFormula.Numeral
import CellFormula.Token

namespace CellFormula

/-- the front of a text, what it means if it spells a token, and the text after it -/
structure Piece where
  token : Option Token
  chars : List Char
  rest : List Char

namespace Piece

def symbol? : Char → Option Token
  | '+' => some (.operator .plus)
  | '-' => some (.operator .minus)
  | '*' => some (.operator .times)
  | '/' => some (.operator .divide)
  | '(' => some .leftParen
  | ')' => some .rightParen
  | _ => none

/-- the numeral at the front of a text; it spells a token unless its value overflows -/
def numeral (cs : List Char) : Piece :=
  let (numeral, rest) := Numeral.scan cs
  let value := numeral.toBinary64
  ⟨if value.isFinite then some (.number value) else none, numeral.chars, rest⟩

/-- the letters at the front of a text and the digits after them; without digits they spell no token -/
def variableName (cs : List Char) : Piece :=
  let letters := cs.takeWhile Char.isAlpha
  let digits := (cs.dropWhile Char.isAlpha).takeWhile Char.isDigit
  let name := letters ++ digits
  ⟨if digits.isEmpty then none else some (.var (String.ofList (name.map Char.toUpper))), name,
    (cs.dropWhile Char.isAlpha).dropWhile Char.isDigit⟩

/-- the piece at the front of a text that starts with the character `c` -/
def read (c : Char) (cs : List Char) : Piece :=
  match symbol? c with
  | some token => ⟨some token, [c], cs⟩
  | none =>
    if c.isDigit then numeral (c :: cs)
    else if c.isAlpha then variableName (c :: cs)
    else ⟨none, [c], cs⟩

/-! ## A piece and the text after it -/

theorem numeral_append (cs : List Char) : (numeral cs).chars ++ (numeral cs).rest = cs :=
  Numeral.scan_append cs

theorem variableName_append (cs : List Char) : (variableName cs).chars ++ (variableName cs).rest = cs := by
  simp [variableName, List.append_assoc, List.takeWhile_append_dropWhile]

theorem chars_append_rest (c : Char) (cs : List Char) : (read c cs).chars ++ (read c cs).rest = c :: cs := by
  unfold read
  split
  · rfl
  · split
    · exact numeral_append _
    · split
      · exact variableName_append _
      · rfl

theorem numeral_ne_nil {c : Char} {cs : List Char} (h : c.isDigit = true) : (numeral (c :: cs)).chars ≠ [] := by
  intro empty
  have whole : (Numeral.scan (c :: cs)).1.whole ≠ [] := Numeral.whole_ne_nil h
  simp only [numeral, Numeral.chars, List.append_eq_nil_iff] at empty
  exact whole empty.1.1

theorem variableName_ne_nil {c : Char} {cs : List Char} (h : c.isAlpha = true) :
    (variableName (c :: cs)).chars ≠ [] := by
  simp [variableName, h]

theorem chars_ne_nil (c : Char) (cs : List Char) : (read c cs).chars ≠ [] := by
  unfold read
  split
  · simp
  · split
    · rename_i h
      exact numeral_ne_nil h
    · split
      · rename_i h
        exact variableName_ne_nil h
      · simp

theorem length_rest_lt (c : Char) (cs : List Char) : (read c cs).rest.length < (c :: cs).length := by
  have whole := congrArg List.length (chars_append_rest c cs)
  have some_chars := List.length_pos_iff.mpr (chars_ne_nil c cs)
  rw [List.length_append] at whole
  omega

end Piece

end CellFormula
