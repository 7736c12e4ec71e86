/-
A text is read in parts as it is read as a whole.

Cut at the end of a span, the two parts are read alone as they are read in the whole text. Nothing in front of the cut was
read with regard to what stands behind it but the last token, which ends there, and so it does where nothing follows. And
joined with a blank between them, two texts are read one after the other. No token goes on with a blank, so all that stands
in front of it, a fault too, is read as at the end of a text.

- `Piece.read_of_still`: a piece is the same at the end of a text and in front of a blank.
- `Cursor.items_append`: the items of two texts with a blank between them.
- `Reader.exists_of_getElem?_upToFault`: where a span of the stream stands among all items.
- `Reader.stream_cut`: the parts of a text that is cut at the end of a span, and texts joined.
-/
import CellFormula.Proofs.Stream

namespace CellFormula

open Text

/-! ## In front of a blank -/

/-- the text has ended or goes on with a blank -/
def Text.Still (rest : List Char) : Prop := ∀ c ∈ rest.head?, isBlank c = true

theorem Text.still_cons {c : Char} {cs : List Char} : Still (c :: cs) ↔ isBlank c = true := by simp [Still]

theorem Text.Still.apart {rest : List Char} (h : Still rest) : Apart rest := by
  cases rest with
  | nil => exact apart_nil
  | cons c cs => exact apart_cons_of_isBlank cs (still_cons.mp h)

theorem Text.Still.stops {rest : List Char} (h : Still rest) {a : Char} (visible : isBlank a = false) :
    Stops (· == a) rest := by
  intro c mem
  rw [beq_eq_false_iff_ne]
  rintro rfl
  simp [h c mem] at visible

namespace Numeral

variable {rest : List Char} (still : Still rest)
include still

theorem takeFraction_of_still (cs : List Char) :
    takeFraction (cs ++ rest) = ((takeFraction cs).1, (takeFraction cs).2 ++ rest) := by
  have stop : Stops Char.isDigit rest := still.apart.digit
  fun_cases takeFraction cs with
  | case1 cs h => simp [takeFraction, takeWhile_append_of_stops stop, h]
  | case2 cs d ds h => simp [takeFraction, takeWhile_append_of_stops stop, dropWhile_append_of_stops stop, h]
  | case3 cs no_point => exact takeFraction_of_stops ((stops_of_ne_cons no_point).append (still.stops (by decide)))

theorem takeSign_of_still (cs : List Char) : takeSign (cs ++ rest) = ((takeSign cs).1, (takeSign cs).2 ++ rest) := by
  fun_cases takeSign cs with
  | case1 cs => rfl
  | case2 cs => rfl
  | case3 cs no_plus no_minus =>
    apply takeSign_of_stops
    · exact (stops_of_ne_cons no_plus).append (still.stops (by decide))
    · exact (stops_of_ne_cons no_minus).append (still.stops (by decide))

theorem takeExponent_of_still (cs : List Char) :
    takeExponent (cs ++ rest) = ((takeExponent cs).1, (takeExponent cs).2 ++ rest) := by
  have stop : Stops Char.isDigit rest := still.apart.digit
  fun_cases takeExponent cs with
  | case1 => exact takeExponent_of_stops still.apart.alpha
  | case2 c cs mark sign after signed no_digits =>
    simp only [List.cons_append, takeExponent, if_pos mark, takeSign_of_still still, signed,
      takeWhile_append_of_stops stop, no_digits]
  | case3 c cs mark sign after signed d ds digits =>
    simp only [List.cons_append, takeExponent, if_pos mark, takeSign_of_still still, signed,
      takeWhile_append_of_stops stop, dropWhile_append_of_stops stop, digits]
  | case4 c cs unmarked => simp only [List.cons_append, takeExponent, if_neg unmarked]

theorem scan_of_still (cs : List Char) : scan (cs ++ rest) = ((scan cs).1, (scan cs).2 ++ rest) := by
  have stop : Stops Char.isDigit rest := still.apart.digit
  simp only [scan, takeWhile_append_of_stops stop, dropWhile_append_of_stops stop, takeFraction_of_still still,
    takeExponent_of_still still]

end Numeral

/-- a piece is the same at the end of a text and in front of a blank -/
theorem Piece.read_of_still {rest : List Char} (still : Still rest) (c : Char) (cs : List Char) :
    read c (cs ++ rest) = ⟨(read c cs).token, (read c cs).chars, (read c cs).rest ++ rest⟩ := by
  have digit : Stops Char.isDigit rest := still.apart.digit
  have alpha : Stops Char.isAlpha rest := still.apart.alpha
  unfold read
  cases symbol? c with
  | some token => rfl
  | none =>
    simp only [← List.cons_append]
    split_ifs
    · simp only [numeral, Numeral.scan_of_still still]
    · simp only [variableName, takeWhile_append_of_stops alpha, dropWhile_append_of_stops alpha,
        takeWhile_append_of_stops digit, dropWhile_append_of_stops digit]
    · rfl

/-- in front of a blank all items are read as at the end of a text, and then those behind -/
theorem Cursor.items_append {rest : List Char} (still : Still rest) (c : Cursor) :
    (Cursor.mk c.offset (c.rest ++ rest)).items = c.items ++ (Cursor.mk (c.offset + byteSize c.rest) rest).items := by
  fun_induction Cursor.items c with
  | case1 c ended => exact items_of_blank_append c.offset rest (blank_of_next? ended)
  | case2 c item next found ih =>
    obtain ⟨gap, cs, first, blank, visible, text, rfl, rfl⟩ := exists_of_next? found
    have step := next?_of_append c.offset (cs ++ rest) blank visible
    have whole : c.rest ++ rest = gap ++ first :: (cs ++ rest) := by simp [text]
    have size : c.offset + byteSize gap + byteSize (Piece.read first cs).chars + byteSize (Piece.read first cs).rest =
        c.offset + byteSize c.rest := by
      rw [text, ← Piece.chars_append_rest first cs]
      simp only [byteSize_append, Nat.add_assoc]
    rw [Piece.read_of_still still] at step
    rw [whole, items_of_some step, ih, size]
    rfl

/-- the items of two texts with a blank between them are those of the one, and then those of the other -/
theorem Cursor.items_joined (a b : String) {w : Char} (blank : isBlank w = true) :
    (start (a ++ String.singleton w ++ b)).items =
      (start a).items ++ (start b).items.map (Item.shift (a.utf8ByteSize + w.utf8Size)) := by
  have still : Still (w :: b.toList) := still_cons.mpr blank
  have gap : Blank [w] := by simpa [Blank] using blank
  have text : start (a ++ String.singleton w ++ b) = ⟨0, a.toList ++ w :: b.toList⟩ := by simp [start]
  have size : byteSize a.toList + byteSize [w] = a.utf8ByteSize + w.utf8Size := by simp [byteSize_toList]
  have shifted := items_shift (start b) (a.utf8ByteSize + w.utf8Size)
  calc (start (a ++ String.singleton w ++ b)).items
      = (Cursor.mk 0 (a.toList ++ w :: b.toList)).items := by rw [text]
    _ = (start a).items ++ (Cursor.mk (0 + byteSize a.toList) ([w] ++ b.toList)).items := items_append still (start a)
    _ = (start a).items ++ (Cursor.mk (0 + (a.utf8ByteSize + w.utf8Size)) b.toList).items := by
      rw [items_of_blank_append _ _ gap, Nat.add_assoc, size]
    _ = _ := congrArg ((start a).items ++ ·) shifted

namespace Reader

/-! ## Cut and joined -/

/-- in front of a span of the stream all items are spans -/
theorem exists_of_getElem?_upToFault {items : List Item} {i : ℕ} {s : Span}
    (h : (upToFault items)[i]? = some (.ok s)) :
    ∃ (spans : List Span) (more : List Item), items = spans.map .ok ++ .ok s :: more ∧ spans.length = i := by
  induction items generalizing i with
  | nil => cases h
  | cons item items ih =>
    cases item with
    | error fault => cases i <;> cases h
    | ok first =>
      cases i with
      | zero =>
        obtain rfl : first = s := by simpa [upToFault] using h
        exact ⟨[], items, rfl, rfl⟩
      | succ i =>
        obtain ⟨spans, more, rfl, rfl⟩ := ih (i := i) (by simpa [upToFault] using h)
        exact ⟨first :: spans, more, rfl, rfl⟩

theorem upToFault_shift (n : ℕ) (items : List Item) :
    upToFault (items.map (Item.shift n)) = (upToFault items).map (Item.shift n) := by
  induction items with
  | nil => rfl
  | cons item items ih =>
    cases item with
    | ok s => exact congrArg (.ok (s.shift n) :: ·) ih
    | error fault => rfl

theorem firstFault?_shift (n : ℕ) (items : List Item) :
    firstFault? (items.map (Item.shift n)) = (firstFault? items).map (Fault.shift n) := by
  induction items with
  | nil => rfl
  | cons item items ih =>
    cases item with
    | ok s => exact ih
    | error fault => rfl

theorem exists_cut_stream {raw : String} {i : ℕ} {s : Span} (h : (start raw).stream[i]? = some (.ok s)) :
    ∃ (front behind : String) (ss : List Span), raw = front ++ behind ∧
      front.utf8ByteSize = s.offset + s.text.utf8ByteSize ∧
      (start raw).stream.take (i + 1) = ss.map .ok ∧ (start front).stream = ss.map .ok ∧
      (start behind).stream.map (Item.shift (s.offset + s.text.utf8ByteSize)) = (start raw).stream.drop (i + 1) := by
  rw [start, stream_eq] at h
  obtain ⟨spans, more, items, rfl⟩ := exists_of_getElem?_upToFault h
  obtain ⟨front, behind, text, size, later, same⟩ := Cursor.exists_cut_apart items
  have whole : (start raw).stream = spans.map .ok ++ .ok s :: upToFault more := by
    rw [start, stream_eq, items, upToFault_append, upToFault]
  refine ⟨String.ofList front, String.ofList behind, spans ++ [s], eq_append_of_toList text, ?_, ?_, ?_, ?_⟩
  · rw [utf8ByteSize_ofList, ← size]
    exact (Nat.zero_add _).symm
  · simp [whole, List.take_append]
  · have alone : (Cursor.start (String.ofList front)).items = spans.map .ok ++ [.ok s] := by
      have ended : (Cursor.mk (s.offset + s.text.utf8ByteSize) []).items = [] :=
        Cursor.items_of_none (Cursor.next?_of_blank blank_nil)
      have cut := same [] apart_nil
      rw [ended, List.append_nil] at cut
      simpa [Cursor.start] using cut
    rw [start, stream_eq, alone, upToFault_append, List.map_append]
    rfl
  · have alone : (Cursor.start (String.ofList behind)).items.map (Item.shift (s.offset + s.text.utf8ByteSize)) = more := by
      rw [← Cursor.items_shift, ← later]
      simp [Cursor.start]
    rw [whole, start, stream_eq, ← upToFault_shift, alone]
    simp [List.drop_append]

/-- **Reading is local.** Let a text be cut at the end of a span of its stream. Read alone, the part in front of the cut
gives the spans up to this one and no fault, and the part behind it what follows in the stream, as many bytes earlier as
the part in front is long. And let two texts be joined with a blank between them. If the first can be gathered, the whole
gives its spans and then what the second gives, as many bytes later as stand in front of it; otherwise the fault of the
first is the fault of the whole. -/
theorem stream_cut :
    (∀ (raw : String) (i : ℕ) (s : Span), (start raw).stream[i]? = some (.ok s) →
      ∃ (front behind : String) (ss : List Span), raw = front ++ behind ∧
        front.utf8ByteSize = s.offset + s.text.utf8ByteSize ∧
        (start raw).stream.take (i + 1) = ss.map .ok ∧ (start front).stream = ss.map .ok ∧
        (start behind).stream.map (Item.shift (s.offset + s.text.utf8ByteSize)) = (start raw).stream.drop (i + 1)) ∧
      ∀ (a b : String) (w : Char), isBlank w = true →
        let whole := a ++ String.singleton w ++ b
        let n := a.utf8ByteSize + w.utf8Size
        (∀ ss, tokenize a = .ok ss →
          (∀ ts, tokenize b = .ok ts → tokenize whole = .ok (ss ++ ts.map (Span.shift n))) ∧
            ∀ fault, tokenize b = .error fault → tokenize whole = .error (fault.shift n)) ∧
          ∀ fault, tokenize a = .error fault → tokenize whole = .error fault := by
  refine ⟨fun raw i s h => exists_cut_stream h, ?_⟩
  intro a b w blank whole n
  have joined : (Cursor.start whole).items = (Cursor.start a).items ++ (Cursor.start b).items.map (Item.shift n) :=
    Cursor.items_joined a b blank
  refine ⟨?_, ?_⟩
  · intro ss first
    rw [gather_eq_ok_iff.mp first] at joined
    refine ⟨?_, ?_⟩
    · intro ts second
      rw [gather_eq_ok_iff.mp second] at joined
      apply gather_eq_ok
      rw [joined]
      simp [Function.comp_def, Item.shift]
    · intro fault second
      apply gather_eq_error_iff.mpr
      rw [joined, firstFault?_append, firstFault?_map_ok, Option.none_or, firstFault?_shift,
        gather_eq_error_iff.mp second, Option.map_some]
  · intro fault first
    apply gather_eq_error_iff.mpr
    rw [joined, firstFault?_append, gather_eq_error_iff.mp first, Option.some_or]

/-- a number in front of a mark without digits: cut behind the number, and with a wide blank in front of it or between the
mark and a digit -/
theorem stream_cut_mark :
    let a : Span := ⟨.var "A1", "a1", 0⟩
    let s : Span := ⟨.number ⟨false, 0x4000000000000000, by decide⟩, "2", 3⟩
    (start "a1 2e+ $").stream[1]? = some (.ok s) ∧
      (∃ front behind : String, "a1 2e+ $" = front ++ behind ∧ front.utf8ByteSize = 4 ∧
        (start front).stream = [.ok a, .ok s] ∧
        (start behind).stream.map (Item.shift 4) = [.error (.unreadable 4 'e')]) ∧
      isBlank '\u3000' = true ∧ tokenize "a1" = .ok [a] ∧ tokenize "   2" = .ok [s] ∧
      tokenize ("a1" ++ String.singleton '\u3000' ++ "   2") = .ok [a, s.shift 5] ∧
      tokenize "2e+" = .error (.unreadable 1 'e') ∧
      tokenize ("a1" ++ String.singleton '\u3000' ++ "2e+") = .error (.unreadable 6 'e') ∧
      tokenize ("2e+" ++ String.singleton '\u3000' ++ "   2") = .error (.unreadable 1 'e') := by
  intro a s
  have stream : (start "a1 2e+ $").stream = [.ok a, .ok s, .error (.unreadable 4 'e')] := by decide +kernel
  have at_one : (start "a1 2e+ $").stream[1]? = some (.ok s) := by rw [stream]; rfl
  have wide : isBlank '\u3000' = true := by decide
  have name : tokenize "a1" = .ok [a] := by decide +kernel
  have number : tokenize "   2" = .ok [s] := by decide +kernel
  have mark : tokenize "2e+" = .error (.unreadable 1 'e') := by decide +kernel
  obtain ⟨cut, joined⟩ := stream_cut
  obtain ⟨front, behind, ss, text, size, spans, first, second⟩ := cut _ 1 s at_one
  rw [stream] at spans second
  obtain ⟨gathered, -⟩ := joined "a1" "   2" '\u3000' wide
  obtain ⟨gathered', -⟩ := joined "a1" "2e+" '\u3000' wide
  obtain ⟨-, faulty⟩ := joined "2e+" "   2" '\u3000' wide
  exact ⟨at_one, ⟨front, behind, text, size, first.trans spans.symm, second⟩, wide, name, number,
    (gathered _ name).1 _ number, mark, (gathered' _ name).2 _ mark, faulty _ mark⟩

end Reader

end CellFormula
