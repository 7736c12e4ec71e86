/-
Reading is local: what is read in one place does not change with what stands far from it.

To know where a token ends, the reader looks at the characters behind it, but never past the token that follows or past a
blank. So if a text is cut off behind one of its spans and goes on with any other text, the spans before that one are read
as they were. The span itself may grow with the new text, or overflow, but it stays where it is and of the kind it is.
Where a text is read from has no part in it either: at another offset, the same text gives the same items, shifted.

- `Piece.read_of_guarded`: a token is read the same whatever stands behind the token that follows it.
- `Piece.kind_of_grown`: a token that goes on in other text keeps its kind.
- `Cursor.exists_front`: the spans before an item do not change with what stands behind it.
- `Cursor.exists_cut`, `Cursor.exists_cut_apart`: a text cut off behind a span and continued.
- `Cursor.items_shift`: a text read from another offset on.
-/
import CellFormula.Proofs.Tiling

namespace CellFormula

open Text

/-! ## What a numeral sees of the text behind it -/

theorem Text.Stops.append_congr {p : Char → Bool} {front rest : List Char} (some_chars : front ≠ [])
    (h : Stops p (front ++ rest)) (other : List Char) : Stops p (front ++ other) := by
  obtain ⟨c, more, rfl⟩ := List.exists_cons_of_ne_nil some_chars
  exact stops_cons.mpr (stops_cons.mp h)

namespace Numeral

theorem takeFraction_stops {cs : List Char} (stop : Stops Char.isDigit cs) : Stops Char.isDigit (takeFraction cs).2 := by
  fun_cases takeFraction cs with
  | case1 cs h => exact stop
  | case2 cs d ds h => exact stops_dropWhile _ _
  | case3 cs h => exact stop

theorem takeExponent_stops {cs : List Char} (stop : Stops Char.isDigit cs) : Stops Char.isDigit (takeExponent cs).2 := by
  fun_cases takeExponent cs with
  | case1 => exact stop
  | case2 c cs h sign after hs hd => exact stop
  | case3 c cs h sign after hs d ds hd => exact stops_dropWhile _ _
  | case4 c cs h => exact stop

theorem stops_of_scan (cs : List Char) : Stops Char.isDigit (scan cs).2 :=
  takeExponent_stops (takeFraction_stops (stops_dropWhile _ cs))

theorem takeExponent_of_scan {cs rest : List Char} {n : Numeral} (h : scan cs = (n, rest)) (plain : n.exponent = none) :
    takeExponent rest = (none, rest) := by
  set behind := (takeFraction (cs.dropWhile Char.isDigit)).2 with behind_def
  have taken : takeExponent behind = (n.exponent, rest) := by
    rw [scan] at h
    obtain ⟨rfl, rfl⟩ := Prod.mk.inj h
    rfl
  have whole := takeExponent_append behind
  rw [taken, plain] at whole
  rw [plain] at taken
  obtain rfl : rest = behind := whole
  exact taken

/-- two letters are no exponent -/
theorem takeExponent_letters {c l : Char} (alpha : l.isAlpha = true) (cs : List Char) :
    takeExponent (c :: l :: cs) = (none, c :: l :: cs) := by
  have unsigned : l ≠ '+' ∧ l ≠ '-' := by
    refine ⟨?_, ?_⟩ <;> rintro rfl <;> simp at alpha
  have sign : takeSign (l :: cs) = (none, l :: cs) :=
    takeSign_of_stops (stops_cons.mpr (by simpa using unsigned.1)) (stops_cons.mpr (by simpa using unsigned.2))
  simp [takeExponent, sign, isDigit_eq_false_of_isAlpha alpha]

/-- whether a name starts with an exponent is seen in the name alone -/
theorem takeExponent_name {letters digits : List Char} (some_letters : letters ≠ [])
    (all_letters : ∀ c ∈ letters, c.isAlpha = true) (isDigits : IsDigits digits) {rest : List Char}
    (h : takeExponent (letters ++ (digits ++ rest)) = (none, letters ++ (digits ++ rest))) (other : List Char) :
    takeExponent (letters ++ (digits ++ other)) = (none, letters ++ (digits ++ other)) := by
  obtain ⟨c, more, rfl⟩ := List.exists_cons_of_ne_nil some_letters
  cases more with
  | cons l more => exact takeExponent_letters (all_letters l (by simp)) _
  | nil =>
    by_cases mark : c = 'e' ∨ c = 'E'
    · -- one letter that marks an exponent, and its digits
      have taken := takeExponent_append_digits (e := ⟨c, none, digits⟩) mark (by simp) isDigits rest
      have text : Exponent.chars ⟨c, none, digits⟩ ++ rest = [c] ++ (digits ++ rest) := by simp [Exponent.chars]
      rw [text, h] at taken
      cases (Prod.mk.inj taken).1
    · simp [takeExponent, mark]

end Numeral

/-! ## What any token sees of the text behind it -/

/-- blanks, if any, and a whole token stand in front -/
def Guarded (front : List Char) : Prop :=
  ∃ (gap x behind : List Char) (t : Token), Blank gap ∧ t.Spelled x ∧ front = gap ++ (x ++ behind)

theorem Guarded.ne_nil {front : List Char} (h : Guarded front) : front ≠ [] := by
  obtain ⟨gap, x, behind, t, -, spelled, rfl⟩ := h
  simp [spelled.ne_nil]

/-- in front stands something apart, a digit, or a name -/
theorem Guarded.apart_or_digit_or_name {front : List Char} (h : Guarded front) :
    (∀ rest, Apart (front ++ rest)) ∨ (∀ rest, ¬ Stops Char.isDigit (front ++ rest)) ∨
      ∃ letters digits behind, letters ≠ [] ∧ (∀ c ∈ letters, c.isAlpha = true) ∧ Numeral.IsDigits digits ∧
        front = letters ++ (digits ++ behind) := by
  obtain ⟨gap, x, behind, t, blank, spelled, rfl⟩ := h
  cases gap with
  | cons c gap => exact .inl fun rest => apart_cons_of_isBlank _ (blank c List.mem_cons_self)
  | nil =>
    cases spelled with
    | number shape rounds =>
      obtain ⟨c, more, text, digit⟩ := shape.exists_cons
      refine .inr (.inl fun rest stop => ?_)
      rw [text] at stop
      simp [stops_cons.mp stop] at digit
    | var some_letters all_letters isDigits =>
      exact .inr (.inr ⟨_, _, behind, some_letters, all_letters, isDigits, by simp⟩)
    | operator op => exact .inl fun rest => Piece.apart_cons_of_symbol? _ (Piece.symbol?_char op)
    | leftParen => exact .inl fun rest => Piece.apart_cons_of_symbol? _ (show Piece.symbol? '(' = some _ from rfl)
    | rightParen => exact .inl fun rest => Piece.apart_cons_of_symbol? _ (show Piece.symbol? ')' = some _ from rfl)

theorem Numeral.scan_of_guarded {n : Numeral} {front rest : List Char} (shape : n.WellFormed) (guard : Guarded front)
    (h : scan (n.chars ++ (front ++ rest)) = (n, front ++ rest)) (other : List Char) :
    scan (n.chars ++ (front ++ other)) = (n, front ++ other) := by
  have stop : Stops Char.isDigit (front ++ rest) := by
    have behind := stops_of_scan (n.chars ++ (front ++ rest))
    rwa [h] at behind
  rcases guard.apart_or_digit_or_name with
    apart | digit | ⟨letters, digits, behind, some_letters, all_letters, isDigits, rfl⟩
  · exact scan_chars shape (apart other)
  · exact absurd stop (digit rest)
  · obtain ⟨c, more, rfl⟩ := List.exists_cons_of_ne_nil some_letters
    have alpha : c.isAlpha = true := all_letters c List.mem_cons_self
    refine scan_chars_of_stops shape (stop.append_congr guard.ne_nil other) ?_ ?_
    · refine stops_cons.mpr ?_
      rw [beq_eq_false_iff_ne]
      rintro rfl
      exact absurd alpha (by decide)
    · intro plain
      have ended := takeExponent_of_scan h plain
      simp only [List.append_assoc] at ended ⊢
      exact takeExponent_name some_letters all_letters isDigits ended (behind ++ other)

namespace Piece

/-- a token is read the same whatever stands behind the token that follows it -/
theorem read_of_guarded {c : Char} {more front rest : List Char} {t : Token} (guard : Guarded front)
    (h : read c (more ++ (front ++ rest)) = ⟨some t, c :: more, front ++ rest⟩) (other : List Char) :
    read c (more ++ (front ++ other)) = ⟨some t, c :: more, front ++ other⟩ := by
  have spelled : t.Spelled (c :: more) := spelled_of_read h
  generalize text : c :: more = x at spelled h ⊢
  cases spelled with
  | @number n value shape rounds =>
    obtain ⟨_, _, chars, digit⟩ := shape.exists_cons
    obtain ⟨rfl, rfl⟩ := List.cons.inj (text.trans chars)
    obtain ⟨same, finite⟩ := Numeral.rounds_amount_iff.mp rounds
    rw [read_of_isDigit digit, ← List.cons_append, text] at h ⊢
    have scanned : Numeral.scan (n.chars ++ (front ++ rest)) = (n, front ++ rest) := by
      have whole : (Numeral.scan (n.chars ++ (front ++ rest))).1.WellFormed := by
        rw [← text, List.cons_append]
        exact Numeral.scan_wellFormed digit
      exact Prod.ext (Numeral.chars_injective whole shape (congrArg Piece.chars h)) (congrArg Piece.rest h)
    rw [numeral, Numeral.scan_of_guarded shape guard scanned other]
    simp only [same, finite, ite_true]
  | @var letters digits some_letters all_letters isDigits =>
    obtain ⟨_, _, name, -, read_eq⟩ := read_letters_digits some_letters all_letters isDigits (front ++ rest)
    obtain ⟨_, _, name', -, other_eq⟩ := read_letters_digits some_letters all_letters isDigits (front ++ other)
    obtain ⟨rfl, rfl⟩ := List.cons.inj (text.trans name)
    obtain ⟨rfl, rfl⟩ := List.cons.inj (text.trans name')
    rw [h] at read_eq
    have no_digits : (front ++ rest).takeWhile Char.isDigit = [] := by
      simpa using (Piece.mk.inj read_eq).2.1
    have stop : Stops Char.isDigit (front ++ other) := (stops_of_takeWhile no_digits).append_congr guard.ne_nil other
    rw [other_eq, stop.takeWhile, stop.dropWhile, List.append_nil]
  | operator op =>
    obtain ⟨rfl, rfl⟩ := List.cons.inj text
    simp [read, symbol?_char]
  | leftParen =>
    obtain ⟨rfl, rfl⟩ := List.cons.inj text
    rfl
  | rightParen =>
    obtain ⟨rfl, rfl⟩ := List.cons.inj text
    rfl

/-- a token that goes on in other text keeps its kind, unless it is a token no more -/
theorem kind_of_grown {c : Char} {more : List Char} {t u : Token} (spelled : t.Spelled (c :: more)) {rest : List Char}
    (h : (read c (more ++ rest)).token = some u) : u.kind = t.kind := by
  generalize text : c :: more = x at spelled
  cases spelled with
  | number shape rounds =>
    obtain ⟨_, _, chars, digit⟩ := shape.exists_cons
    obtain ⟨rfl, rfl⟩ := List.cons.inj (text.trans chars)
    rw [read_of_isDigit digit] at h
    simp only [numeral] at h
    split_ifs at h with finite
    obtain rfl := Option.some.inj h
    rfl
  | var some_letters all_letters isDigits =>
    obtain ⟨_, _, name, -, read_eq⟩ := read_letters_digits some_letters all_letters isDigits rest
    obtain ⟨rfl, rfl⟩ := List.cons.inj (text.trans name)
    rw [read_eq] at h
    obtain rfl := Option.some.inj h
    rfl
  | operator op =>
    obtain ⟨rfl, rfl⟩ := List.cons.inj text
    simp only [read, symbol?_char] at h
    obtain rfl := Option.some.inj h
    rfl
  | leftParen =>
    obtain ⟨rfl, rfl⟩ := List.cons.inj text
    obtain rfl := Option.some.inj h
    rfl
  | rightParen =>
    obtain ⟨rfl, rfl⟩ := List.cons.inj text
    obtain rfl := Option.some.inj h
    rfl

end Piece

/-! ## A text cut off behind a span -/

namespace Cursor

/-- a span is read off the front of the text behind some blanks -/
theorem exists_of_next?_ok {c d : Cursor} {s : Span} (h : c.next? = some (.ok s, d)) :
    ∃ (gap more : List Char) (first : Char), Blank gap ∧ isBlank first = false ∧
      c.rest = gap ++ (first :: more ++ d.rest) ∧
      Piece.read first (more ++ d.rest) = ⟨some s.token, first :: more, d.rest⟩ ∧
      s = ⟨s.token, String.ofList (first :: more), c.offset + byteSize gap⟩ ∧
      d.offset = s.offset + s.text.utf8ByteSize := by
  obtain ⟨gap, cs, first, blank, visible, text, made, rfl⟩ := exists_of_next? h
  have whole := Piece.chars_append_rest first cs
  obtain ⟨c', more, chars⟩ := List.exists_cons_of_ne_nil (Piece.chars_ne_nil first cs)
  rw [chars] at whole
  obtain ⟨rfl, behind⟩ := List.cons.inj whole
  obtain ⟨token, placed⟩ := eq_span_of_item made.symm
  rw [chars] at placed
  refine ⟨gap, more, c', blank, visible, by rw [text, whole], ?_, placed, ?_⟩
  · rw [show more ++ (Piece.read c' cs).rest = cs from behind]
    exact Piece.mk.injEq .. |>.mpr ⟨token, chars, rfl⟩
  · rw [placed, utf8ByteSize_ofList, chars]

/-- the spans before an item are read off the front of the text, and they are the same spans with any other text behind
the first token that is left -/
theorem exists_front {c : Cursor} {spans : List Span} {i : Item} {more : List Item}
    (h : c.items = spans.map .ok ++ i :: more) :
    ∃ (front : List Char) (d : Cursor), c.rest = front ++ d.rest ∧ c.offset + byteSize front = d.offset ∧
      d.items = i :: more ∧ ∀ x, Guarded x → x <+: d.rest → Guarded (front ++ x) ∧
        ∀ other, (Cursor.mk c.offset (front ++ (x ++ other))).items =
          spans.map .ok ++ (Cursor.mk d.offset (x ++ other)).items := by
  induction spans generalizing c with
  | nil => exact ⟨[], c, rfl, rfl, h, fun x guard _ => ⟨guard, fun _ => rfl⟩⟩
  | cons before spans ih =>
    obtain ⟨e, next, items⟩ := exists_of_items_cons h
    obtain ⟨gap, token, first, blank, visible, text, read, placed, stop⟩ := exists_of_next?_ok next
    obtain ⟨front, d, text', size, items', same⟩ := ih items
    have moved : c.offset + byteSize gap + byteSize (first :: token) = e.offset := by
      rw [stop, placed, utf8ByteSize_ofList]
    refine ⟨gap ++ (first :: token ++ front), d, by rw [text, text']; simp, ?_, items', ?_⟩
    · rw [← size, ← moved, byteSize_append, byteSize_append]
      simp only [Nat.add_assoc]
    · rintro x guard ⟨behind, rest⟩
      obtain ⟨guarded, go_on⟩ := same x guard ⟨behind, rest⟩
      have spelled : before.token.Spelled (first :: token) := Piece.spelled_of_read read
      refine ⟨⟨gap, first :: token, front ++ x, before.token, blank, spelled, by simp⟩, ?_⟩
      intro other
      rw [text', ← rest, ← List.append_assoc front] at read
      have step := next?_of_append c.offset (token ++ (front ++ x ++ other)) blank visible
      rw [Piece.read_of_guarded guarded read other] at step
      have whole : gap ++ (first :: token ++ front) ++ (x ++ other) =
          gap ++ first :: (token ++ (front ++ x ++ other)) := by simp
      rw [whole, items_of_some step]
      simp only [moved]
      rw [List.append_assoc, go_on, placed]
      rfl

/-- a text cut off behind a span and continued in any way: the spans before it are read as they were, and in place of the
span an item that lies where it lay and, if it is a span, is of its kind -/
theorem exists_cut {c : Cursor} {spans : List Span} {s : Span} {more : List Item}
    (h : c.items = spans.map .ok ++ .ok s :: more) :
    ∃ front behind, c.rest = front ++ behind ∧ c.offset + byteSize front = s.offset + s.text.utf8ByteSize ∧
      Guarded front ∧
      ∀ other, ∃ i later, (Cursor.mk c.offset (front ++ other)).items = spans.map .ok ++ i :: later ∧
        Item.position i = s.offset ∧ ∀ s', i = .ok s' → s'.kind = s.kind := by
  obtain ⟨front, d, text, size, items, same⟩ := exists_front h
  obtain ⟨e, next, -⟩ := exists_of_items_cons items
  obtain ⟨gap, token, first, blank, visible, text', read, placed, -⟩ := exists_of_next?_ok next
  have spelled : s.token.Spelled (first :: token) := Piece.spelled_of_read read
  obtain ⟨guard, go_on⟩ := same (gap ++ first :: token) ⟨gap, first :: token, [], s.token, blank, spelled, by simp⟩
    ⟨e.rest, by rw [text', List.append_assoc]⟩
  refine ⟨front ++ (gap ++ first :: token), e.rest, by rw [text, text']; simp, ?_, guard, ?_⟩
  · rw [placed, utf8ByteSize_ofList, byteSize_append, byteSize_append, ← Nat.add_assoc, ← Nat.add_assoc, size]
  · intro other
    have step := next?_of_append d.offset (token ++ other) blank visible
    have whole : gap ++ first :: token ++ other = gap ++ first :: (token ++ other) := by simp
    refine ⟨_, _, by rw [List.append_assoc, go_on, whole, items_of_some step], ?_, ?_⟩
    · rw [(Piece.cut_read_of_visible _ visible _).position_eq, placed]
    · intro s' found
      exact Piece.kind_of_grown spelled (eq_span_of_item found).1

/-- if what stands there instead cannot go on with the span, the span itself is read as it was, and then the other text -/
theorem exists_cut_apart {c : Cursor} {spans : List Span} {s : Span} {more : List Item}
    (h : c.items = spans.map .ok ++ .ok s :: more) :
    ∃ front behind, c.rest = front ++ behind ∧ c.offset + byteSize front = s.offset + s.text.utf8ByteSize ∧
      (Cursor.mk (s.offset + s.text.utf8ByteSize) behind).items = more ∧
      ∀ other, Apart other →
        (Cursor.mk c.offset (front ++ other)).items =
          spans.map .ok ++ .ok s :: (Cursor.mk (s.offset + s.text.utf8ByteSize) other).items := by
  obtain ⟨front, d, text, size, items, same⟩ := exists_front h
  obtain ⟨e, next, later⟩ := exists_of_items_cons items
  obtain ⟨gap, token, first, blank, visible, text', read, placed, stop⟩ := exists_of_next?_ok next
  have spelled : s.token.Spelled (first :: token) := Piece.spelled_of_read read
  have moved : d.offset + byteSize gap + byteSize (first :: token) = s.offset + s.text.utf8ByteSize := by
    rw [placed, utf8ByteSize_ofList]
  obtain ⟨-, go_on⟩ := same (gap ++ first :: token) ⟨gap, first :: token, [], s.token, blank, spelled, by simp⟩
    ⟨e.rest, by rw [text', List.append_assoc]⟩
  refine ⟨front ++ (gap ++ first :: token), e.rest, by rw [text, text']; simp, ?_, ?_, ?_⟩
  · rw [← moved, byteSize_append, byteSize_append, ← Nat.add_assoc, ← Nat.add_assoc, size]
  · rw [← stop]
    exact later
  · intro other apart
    obtain ⟨_, _, chars, -, read'⟩ := Piece.read_of_spelled spelled fun _ => apart
    obtain ⟨rfl, rfl⟩ := List.cons.inj chars
    have step := next?_of_append d.offset (token ++ other) blank visible
    rw [read'] at step
    simp only [moved] at step
    have whole : gap ++ first :: token ++ other = gap ++ first :: (token ++ other) := by simp
    rw [List.append_assoc, go_on, whole, items_of_some step, placed]
    rfl

end Cursor

/-! ## Other offsets -/

def Span.shift (n : ℕ) (s : Span) : Span := ⟨s.token, s.text, s.offset + n⟩

/-- the fault, so many bytes later; one without a place of its own stays as it is -/
def Fault.shift (n : ℕ) : Fault → Fault
  | .unreadable position found => .unreadable (position + n) found
  | .empty => .empty
  | .badStart position kind => .badStart (position + n) kind
  | .badEnd position kind => .badEnd (position + n) kind
  | .operandExpected position kind => .operandExpected (position + n) kind
  | .operatorExpected position kind => .operatorExpected (position + n) kind
  | .unopened position => .unopened (position + n)
  | .unclosed position missing => .unclosed (position + n) missing

def Item.shift (n : ℕ) : Item → Item
  | .ok s => .ok (s.shift n)
  | .error fault => .error (fault.shift n)

@[simp] theorem Span.kind_shift (n : ℕ) (s : Span) : (s.shift n).kind = s.kind := rfl

@[simp] theorem Span.stop_shift (n : ℕ) (s : Span) : (s.shift n).stop = s.stop + n := Nat.add_right_comm _ _ _

namespace Cursor

theorem item_shift (offset n : ℕ) (first : Char) (piece : Piece) :
    item (offset + n) first piece = (item offset first piece).shift n := by
  unfold item
  cases piece.token <;> rfl

theorem next?_shift (c : Cursor) (n : ℕ) :
    next? ⟨c.offset + n, c.rest⟩ = c.next?.map fun (i, d) => (i.shift n, ⟨d.offset + n, d.rest⟩) := by
  unfold next?
  cases c.rest.dropWhile isBlank with
  | nil => rfl
  | cons first more =>
    simp only [Nat.add_right_comm _ n, item_shift, Option.map_some]

theorem items_shift (c : Cursor) (n : ℕ) : (Cursor.mk (c.offset + n) c.rest).items = c.items.map (Item.shift n) :=
  items_map (fun c => ⟨c.offset + n, c.rest⟩) (fun c => next?_shift c n) c

end Cursor

end CellFormula
