/-
A text is cut into blanks and pieces without remainder.

Read on behind every fault, a text gives one item after the other until only blanks are left. The items cut it: in front
of each stands a gap of blanks, then its piece, and the next one goes on where the piece ends. A piece is the text of a
span, or characters refused together: one stray character, a whole run of letters without a digit behind, or a whole
numeral that overflows. So there are no more items than characters, and each lies behind the one before.

- `Piece.cut_read_of_visible`: what is read at the front of a text is a span or is refused for one of three reasons.
- `Cursor.tiled`: the items of any cursor cut the text from there on.
- `Tiled.exists_of_append`: of a text that is cut, what stands behind some of the items is cut too.
- `Tiled.pairwise_position`: items lie one behind the other.
- `Reader.run_skips_tiled`: what repeated requests give, and how it covers the text.
-/
import CellFormula.Proofs.LongestPiece

namespace CellFormula

open Text

/-! ## Gaps and pieces -/

/-- these characters spell no token and are refused together, in front of the rest of the text -/
inductive Unreadable : List Char → List Char → Prop where
  /-- a character with which nothing starts -/
  | stray {c : Char} (rest : List Char) : isBlank c = false → c.isDigit = false → c.isAlpha = false →
      c ∉ ['+', '-', '*', '/', '(', ')'] → Unreadable [c] rest
  /-- all the letters there are, and no digit behind them -/
  | letters {run rest : List Char} : run ≠ [] → (∀ c ∈ run, c.isAlpha = true) → Stops Char.isAlpha rest →
      Stops Char.isDigit rest → Unreadable run rest
  /-- the longest numeral there is, where it rounds to infinity -/
  | overflow {n : Numeral} {rest : List Char} {place : ℕ} : n.WellFormed →
      (∀ m : Numeral, m.WellFormed → m.chars <+: n.chars ++ rest → m.chars.length ≤ n.chars.length) →
      Binary64.IsNearest n.amount place → Binary64.infinity ≤ place → Unreadable n.chars rest

/-- a piece that starts at this offset, in front of the rest of the text, and the item that it gives -/
inductive Cut (offset : ℕ) : List Char → List Char → Item → Prop where
  | span {t : Token} {x : List Char} (rest : List Char) : t.Spelled x →
      Cut offset x rest (.ok ⟨t, String.ofList x, offset⟩)
  | fault {first : Char} {more rest : List Char} : Unreadable (first :: more) rest →
      Cut offset (first :: more) rest (.error (.unreadable offset first))

/-- the text that starts at this offset is cut into pieces, one for each item, with blanks in front of each and behind
the last -/
inductive Tiled : ℕ → List Char → List Item → Prop where
  | gap {offset : ℕ} {gap : List Char} : Blank gap → Tiled offset gap []
  | piece {offset : ℕ} {gap x rest : List Char} {i : Item} {items : List Item} : Blank gap →
      Cut (offset + byteSize gap) x rest i → Tiled (offset + byteSize gap + byteSize x) rest items →
      Tiled offset (gap ++ (x ++ rest)) (i :: items)

def Item.position : Item → ℕ
  | .ok s => s.offset
  | .error fault => fault.position

/-- the span is a stretch of the text: characters of it, one or more, at the byte offset where they stand -/
def Span.LiesIn (s : Span) (text : String) : Prop :=
  s.text ≠ "" ∧ ∃ before after : String, text = before ++ s.text ++ after ∧ before.utf8ByteSize = s.offset

/-! ## One piece -/

theorem Token.Spelled.ne_nil {t : Token} {x : List Char} (h : t.Spelled x) : x ≠ [] := by
  obtain ⟨c, more, rfl, -⟩ := h.pattern.exists_cons
  exact List.cons_ne_nil c more

theorem Text.byteSize_pos {cs : List Char} (h : cs ≠ []) : 0 < byteSize cs := by
  obtain ⟨c, more, rfl⟩ := List.exists_cons_of_ne_nil h
  rw [byteSize_cons]
  exact Nat.add_pos_left c.utf8Size_pos _

theorem Cut.position_eq {offset : ℕ} {x rest : List Char} {i : Item} (h : Cut offset x rest i) :
    Item.position i = offset := by
  cases h with
  | span rest spelled => rfl
  | fault unreadable => rfl

theorem Cut.ne_nil {offset : ℕ} {x rest : List Char} {i : Item} (h : Cut offset x rest i) : x ≠ [] := by
  cases h with
  | span rest spelled => exact spelled.ne_nil
  | fault unreadable => exact List.cons_ne_nil _ _

namespace Piece

theorem unreadable_numeral {c : Char} {cs : List Char} (digit : c.isDigit = true)
    (h : (numeral (c :: cs)).token = none) : Unreadable (numeral (c :: cs)).chars (numeral (c :: cs)).rest := by
  obtain ⟨place, nearest, large⟩ := overflow_of_token_eq_none h
  have longest : ∀ m : Numeral, m.WellFormed →
      m.chars <+: (Numeral.scan (c :: cs)).1.chars ++ (Numeral.scan (c :: cs)).2 →
      m.chars.length ≤ (Numeral.scan (c :: cs)).1.chars.length := by
    intro m shape front
    rw [Numeral.scan_append] at front
    obtain ⟨behind, text⟩ := front
    rw [← text]
    exact Numeral.length_le_scan shape behind
  exact .overflow (Numeral.scan_wellFormed digit) longest nearest large

theorem unreadable_variableName {c : Char} {cs : List Char} (alpha : c.isAlpha = true)
    (h : (variableName (c :: cs)).token = none) :
    Unreadable (variableName (c :: cs)).chars (variableName (c :: cs)).rest := by
  set behind := (c :: cs).dropWhile Char.isAlpha with behind_def
  have no_digits : behind.takeWhile Char.isDigit = [] := by simpa [variableName] using h
  have stop : Stops Char.isDigit behind := stops_of_takeWhile no_digits
  simp only [variableName, ← behind_def, no_digits, List.append_nil, stop.dropWhile]
  refine .letters ?_ (List.all_eq_true.mp List.all_takeWhile) (stops_dropWhile _ _) stop
  simp [alpha]

/-- what is read at the front and gives no token is refused for one of three reasons -/
theorem unreadable_of_token_eq_none {c : Char} {cs : List Char} (visible : isBlank c = false)
    (h : (read c cs).token = none) : Unreadable (read c cs).chars (read c cs).rest := by
  unfold read at h ⊢
  split at h
  · cases h
  · rename_i unknown
    split_ifs at h ⊢ with digit alpha
    · exact unreadable_numeral digit h
    · exact unreadable_variableName alpha h
    · refine .stray cs visible (Bool.not_eq_true _ ▸ digit) (Bool.not_eq_true _ ▸ alpha) ?_
      intro mem
      obtain ⟨t, symbol⟩ := exists_symbol? mem
      simp [unknown] at symbol

/-- what is read at the front of a text is the text of a span, or is refused -/
theorem cut_read_of_visible {c : Char} (cs : List Char) (visible : isBlank c = false) (offset : ℕ) :
    Cut offset (read c cs).chars (read c cs).rest (Cursor.item offset c (read c cs)) := by
  cases found : (read c cs).token with
  | some t =>
    rw [Cursor.item, found]
    exact .span _ (spelled_of_token found)
  | none =>
    have unreadable := unreadable_of_token_eq_none visible found
    have whole := chars_append_rest c cs
    obtain ⟨first, more, text⟩ := List.exists_cons_of_ne_nil (chars_ne_nil c cs)
    rw [text] at whole unreadable ⊢
    obtain rfl : first = c := (List.cons.inj whole).1
    rw [Cursor.item, found]
    exact .fault unreadable

end Piece

/-! ## All items -/

/-- the items of any cursor cut the text from there on -/
theorem Cursor.tiled (c : Cursor) : Tiled c.offset c.rest c.items := by
  fun_induction Cursor.items c with
  | case1 c ended => exact .gap (blank_of_next? ended)
  | case2 c item next found ih =>
    obtain ⟨gap, cs, first, blank, visible, text, rfl, rfl⟩ := exists_of_next? found
    rw [text, ← Piece.chars_append_rest first cs]
    exact .piece blank (Piece.cut_read_of_visible cs visible _) ih

theorem Tiled.length_le {offset : ℕ} {cs : List Char} {items : List Item} (h : Tiled offset cs items) :
    items.length ≤ cs.length := by
  induction h with
  | gap _ => exact Nat.zero_le _
  | piece _ cut _ ih =>
    have one := List.length_pos_iff.mpr cut.ne_nil
    simp only [List.length_cons, List.length_append]
    omega

theorem Tiled.exists_of_append {offset : ℕ} {cs : List Char} {before items : List Item}
    (h : Tiled offset cs (before ++ items)) :
    ∃ front rest, cs = front ++ rest ∧ Tiled (offset + byteSize front) rest items := by
  induction before generalizing offset cs with
  | nil => exact ⟨[], cs, rfl, h⟩
  | cons i before ih =>
    cases h with
    | @piece _ gap x rest _ _ blank cut behind =>
      obtain ⟨front, rest, rfl, tiled⟩ := ih behind
      refine ⟨gap ++ (x ++ front), rest, by simp, ?_⟩
      rw [byteSize_append, byteSize_append, ← Nat.add_assoc, ← Nat.add_assoc]
      exact tiled

theorem Tiled.exists_of_mem {offset : ℕ} {cs : List Char} {items : List Item} (h : Tiled offset cs items) {i : Item}
    (mem : i ∈ items) : ∃ before x after, cs = before ++ (x ++ after) ∧ Cut (offset + byteSize before) x after i := by
  obtain ⟨earlier, later, rfl⟩ := List.append_of_mem mem
  obtain ⟨front, _, rfl, tiled⟩ := h.exists_of_append
  cases tiled with
  | @piece _ gap x rest _ _ blank cut behind =>
    refine ⟨front ++ gap, x, rest, by simp, ?_⟩
    rw [byteSize_append, ← Nat.add_assoc]
    exact cut

/-- the faults of a stream are those of characters that cannot be read -/
theorem Cursor.eq_unreadable_of_mem {c : Cursor} {fault : Fault} (h : .error fault ∈ c.items) :
    ∃ position found, fault = .unreadable position found := by
  obtain ⟨before, x, after, -, cut⟩ := c.tiled.exists_of_mem h
  cases cut with
  | fault unreadable => exact ⟨_, _, rfl⟩

theorem Tiled.le_position {offset : ℕ} {cs : List Char} {items : List Item} (h : Tiled offset cs items) :
    ∀ i ∈ items, offset ≤ Item.position i := by
  intro i mem
  obtain ⟨before, x, after, -, cut⟩ := h.exists_of_mem mem
  rw [cut.position_eq]
  exact Nat.le_add_right _ _

/-- items lie one behind the other -/
theorem Tiled.pairwise_position {offset : ℕ} {cs : List Char} {items : List Item} (h : Tiled offset cs items) :
    (items.map Item.position).Pairwise (· < ·) := by
  induction h with
  | gap _ => exact .nil
  | @piece offset gap x rest i items blank cut behind ih =>
    refine List.pairwise_cons.mpr ⟨?_, ih⟩
    intro p mem
    obtain ⟨j, later, rfl⟩ := List.mem_map.mp mem
    have size := byteSize_pos cut.ne_nil
    have far := behind.le_position j later
    rw [cut.position_eq]
    omega

theorem Cursor.position_lt {c : Cursor} {front behind : List Item} (split : c.items = front ++ behind) {i j : Item}
    (hi : i ∈ front) (hj : j ∈ behind) : Item.position i < Item.position j := by
  have order := c.tiled.pairwise_position
  rw [split, List.map_append, List.pairwise_append] at order
  exact order.2.2 _ (List.mem_map_of_mem hi) _ (List.mem_map_of_mem hj)

/-- only blanks lie between two spans that follow each other -/
theorem Tiled.exists_gap {offset : ℕ} {cs : List Char} {before after : List Item} {s t : Span}
    (h : Tiled offset cs (before ++ .ok s :: .ok t :: after)) :
    ∃ front gap behind, cs = front ++ (s.text.toList ++ (gap ++ (t.text.toList ++ behind))) ∧ Blank gap ∧
      offset + byteSize front = s.offset ∧ s.offset + s.text.utf8ByteSize + byteSize gap = t.offset := by
  obtain ⟨front, _, rfl, tiled⟩ := h.exists_of_append
  cases tiled with
  | @piece _ gap x _ _ _ blank cut behind =>
    cases cut with
    | span _ spelled =>
      cases behind with
      | @piece _ gap' y rest _ _ blank' cut' behind' =>
        cases cut' with
        | span _ spelled' =>
          refine ⟨front ++ gap, gap', rest, by simp, blank', ?_, ?_⟩
          · rw [byteSize_append, ← Nat.add_assoc]
          · rw [utf8ByteSize_ofList]

/-! ## Requests for item after item -/

/-- repeated requests for an item of the text give its items, and then nothing for ever -/
theorem Reader.run_skips (r : Reader) (log : Log) (n : ℕ) :
    (r.run log (List.replicate n .skip)).1 = (List.range n).map fun k => .item r.cursor.items[k]? := by
  induction n generalizing r with
  | zero => rfl
  | succ n ih =>
    rw [List.replicate_succ, List.range_succ_eq_map, List.map_cons, List.map_map]
    cases next : r.cursor.next? with
    | none =>
      have answered : r.answer log .skip = (.item none, r, log) := by simp [answer, skip, next]
      simp [run, answered, ih, Cursor.items_of_none next, Function.comp_def]
    | some found =>
      obtain ⟨i, d⟩ := found
      have answered : r.answer log .skip = (.item (some i), ⟨d, r.halted⟩, log) := by simp [answer, skip, next]
      simp [run, answered, ih, Cursor.items_of_some next]

/-- **Nothing is lost.** Requests for item after item give no more items than the text has characters, and then nothing
for ever. The items cut the whole text into blanks and pieces. A span has the characters of its stretch of the text; a
fault lies where its piece starts and shows the first character of it; items lie one behind the other, and between two
spans in a row only blanks. -/
theorem Reader.run_skips_tiled (text : String) (log : Log) :
    let items := (Cursor.start text).items
    (∀ n, ((start text).run log (List.replicate n .skip)).1 = (List.range n).map fun k => .item items[k]?) ∧
      items.length ≤ text.length ∧ Tiled 0 text.toList items ∧
      (∀ s, .ok s ∈ items → s.LiesIn text) ∧
      (∀ fault, .error fault ∈ items → ∃ before first more after, text.toList = before ++ (first :: more ++ after) ∧
        fault = .unreadable (String.ofList before).utf8ByteSize first ∧ Unreadable (first :: more) after) ∧
      (items.map Item.position).Pairwise (· < ·) ∧
      ∀ before s t after, items = before ++ .ok s :: .ok t :: after →
        ∃ front gap behind : String, text = front ++ s.text ++ gap ++ t.text ++ behind ∧ Blank gap.toList ∧
          front.utf8ByteSize = s.offset ∧ s.offset + s.text.utf8ByteSize + gap.utf8ByteSize = t.offset := by
  intro items
  have tiled : Tiled 0 text.toList items := (Cursor.start text).tiled
  refine ⟨run_skips (start text) log, ?_, tiled, ?_, ?_, tiled.pairwise_position, ?_⟩
  · rw [← String.length_toList]
    exact tiled.length_le
  · intro s mem
    obtain ⟨before, x, after, whole, cut⟩ := tiled.exists_of_mem mem
    cases cut with
    | span _ spelled =>
      refine ⟨by simpa using spelled.ne_nil, String.ofList before, String.ofList after, ?_, ?_⟩
      · rw [← String.toList_inj, whole]
        simp
      · rw [utf8ByteSize_ofList, Nat.zero_add]
  · intro fault mem
    obtain ⟨before, x, after, whole, cut⟩ := tiled.exists_of_mem mem
    cases cut with
    | fault unreadable =>
      refine ⟨before, _, _, after, whole, ?_, unreadable⟩
      rw [utf8ByteSize_ofList, Nat.zero_add]
  · intro before s t after split
    rw [split] at tiled
    obtain ⟨front, gap, behind, whole, blank, offset, next⟩ := tiled.exists_gap
    refine ⟨String.ofList front, String.ofList gap, String.ofList behind, ?_, by simpa using blank, ?_, ?_⟩
    · rw [← String.toList_inj, whole]
      simp
    · rw [utf8ByteSize_ofList, ← offset, Nat.zero_add]
    · rw [utf8ByteSize_ofList, next]

/-- two spans behind a wide blank, then a fault of each kind -/
theorem Reader.run_skips_tiled_faults :
    let name : Span := ⟨.var "A1", "a1", 3⟩
    let plus : Span := ⟨.operator .plus, "+", 6⟩
    let items : List Item :=
      [.ok name, .ok plus, .error (.unreadable 7 'a'), .error (.unreadable 10 'é'), .error (.unreadable 12 '1')]
    ((start "　a1 +ab é1e999").run (.blank .off) (List.replicate 7 .skip)).1 =
        (List.range 7).map (fun k => .item items[k]?) ∧
      name.LiesIn "　a1 +ab é1e999" ∧
      (∃ before first more after, "　a1 +ab é1e999".toList = before ++ (first :: more ++ after) ∧
        Fault.unreadable 12 '1' = .unreadable (String.ofList before).utf8ByteSize first ∧
        Unreadable (first :: more) after) ∧
      ∃ front gap behind : String, "　a1 +ab é1e999" = front ++ "a1" ++ gap ++ "+" ++ behind ∧ Blank gap.toList ∧
        front.utf8ByteSize = 3 ∧ 5 + gap.utf8ByteSize = 6 := by
  intro name plus items
  have items_eq : (Cursor.start "　a1 +ab é1e999").items = items := by decide +kernel
  obtain ⟨replies, -, -, spans, faults, -, neighbours⟩ := run_skips_tiled "　a1 +ab é1e999" (.blank .off)
  rw [items_eq] at replies spans faults neighbours
  refine ⟨replies 7, spans name (by decide), faults _ (by decide), ?_⟩
  exact neighbours [] name plus [.error (.unreadable 7 'a'), .error (.unreadable 10 'é'), .error (.unreadable 12 '1')] rfl

end CellFormula
