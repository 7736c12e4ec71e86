/-
The character grammar of formulas, and the texts that are accepted.

  formula := ws* operand tail
  tail    := ws* (op ws* operand ws*)*
  operand := number | variable | '(' formula ')'

The grammar knows nothing of longest pieces, of the token before, or of counts of parentheses. `Spells` derives a text
together with its terminals: numbers as the doubles they round to, names in upper case.

- `Spells.laid`, `Spells.tree`: a derived text is laid out in its terminals, and they are the leaves of a tree.
- `Tree.peels`: a text laid out in the leaves of a tree is derived along the tree.
- `Formula.read_eq_ok_iff_spells`: a text is accepted exactly if it is derived, with its terminals as the tokens.
-/
import CellFormula.Proofs.Lexing

namespace CellFormula

open Text

/-! ## The grammar -/

/-- the text is derived from a part of the grammar, with these terminals -/
inductive Spells : Part → List Char → List Token → Prop where
  | number {x : Binary64} {cs : List Char} : Token.Spelled (.number x) cs → Spells .operand cs [.number x]
  | var {name : String} {cs : List Char} : Token.Spelled (.var name) cs → Spells .operand cs [.var name]
  | group {cs : List Char} {ts : List Token} : Spells .formula cs ts →
      Spells .operand ('(' :: (cs ++ [')'])) (.leftParen :: (ts ++ [.rightParen]))
  | done : Spells .tail [] []
  | more (op : Operator) {a cs b ds : List Char} {ts us : List Token} :
      Blank a → Spells .operand cs ts → Blank b → Spells .tail ds us →
      Spells .tail (op.char :: (a ++ (cs ++ (b ++ ds)))) (.operator op :: (ts ++ us))
  | formula {a cs b ds : List Char} {ts us : List Token} :
      Blank a → Spells .operand cs ts → Blank b → Spells .tail ds us →
      Spells .formula (a ++ (cs ++ (b ++ ds))) (ts ++ us)

/-! ## From a derivation to the layout and the tree -/

theorem Laid.pad {ts : List Token} {gap cs : List Char} (blank : Blank gap) (h : Laid ts cs) : Laid ts (gap ++ cs) := by
  cases h with
  | blank more => exact .blank (blank.append more)
  | token more spelled behind =>
    rw [← List.append_assoc]
    exact .token (blank.append more) spelled behind

theorem Laid.append {ts us : List Token} {cs ds : List Char} (h : Laid ts cs) (k : Laid us ds) :
    Laid (ts ++ us) (cs ++ ds) := by
  induction h with
  | blank blank => exact k.pad blank
  | token blank spelled _ ih =>
    simp only [List.append_assoc, List.cons_append]
    exact .token blank spelled ih

theorem Token.Spelled.laid {t : Token} {x : List Char} (h : t.Spelled x) : Laid [t] x := by
  simpa using Laid.token blank_nil h (.blank blank_nil)

theorem Laid.group {ts : List Token} {cs : List Char} (h : Laid ts cs) :
    Laid (.leftParen :: (ts ++ [.rightParen])) ('(' :: (cs ++ [')'])) :=
  Token.Spelled.leftParen.laid.append (h.append Token.Spelled.rightParen.laid)

theorem Spells.laid {part : Part} {cs : List Char} {ts : List Token} (h : Spells part cs ts) : Laid ts cs := by
  induction h with
  | number spelled => exact spelled.laid
  | var spelled => exact spelled.laid
  | group _ ih => exact ih.group
  | done => exact .blank blank_nil
  | more op blank _ blank' _ ihNext ihRest =>
    exact (Token.Spelled.operator op).laid.append ((ihNext.append (ihRest.pad blank')).pad blank)
  | formula blank _ blank' _ ihFirst ihRest => exact (ihFirst.append (ihRest.pad blank')).pad blank

theorem Spells.tree {part : Part} {cs : List Char} {ts : List Token} (h : Spells part cs ts) :
    ∃ t : Tree part, t.tokens = ts := by
  induction h with
  | @number x _ _ => exact ⟨.number x, rfl⟩
  | @var name _ _ => exact ⟨.var name, rfl⟩
  | group _ ih =>
    obtain ⟨inner, rfl⟩ := ih
    exact ⟨.group inner, rfl⟩
  | done => exact ⟨.done, rfl⟩
  | more op _ _ _ _ ihNext ihRest =>
    obtain ⟨next, rfl⟩ := ihNext
    obtain ⟨rest, rfl⟩ := ihRest
    exact ⟨.more op next rest, rfl⟩
  | formula _ _ _ _ ihFirst ihRest =>
    obtain ⟨first, rfl⟩ := ihFirst
    obtain ⟨rest, rfl⟩ := ihRest
    exact ⟨.formula first rest, rfl⟩

/-! ## From the layout and the tree to a derivation -/

/-- laid out without a blank in front: with the first token, or with nothing at all -/
def Tight (ts : List Token) (cs : List Char) : Prop :=
  match ts with
  | [] => cs = []
  | t :: ts => ∃ x behind, cs = x ++ behind ∧ t.Spelled x ∧ Laid ts behind

theorem Laid.tight {ts : List Token} {cs : List Char} (h : Laid ts cs) :
    ∃ gap rest, Blank gap ∧ cs = gap ++ rest ∧ Tight ts rest := by
  cases h with
  | blank blank => exact ⟨cs, [], blank, by simp, rfl⟩
  | @token t ts gap x behind blank spelled laid => exact ⟨gap, x ++ behind, blank, rfl, x, behind, rfl, spelled, laid⟩

/-- what can be taken off the front of a text laid out in the leaves of a tree and more tokens: a text derived along the
tree, with all blanks behind it where blanks may end such a part -/
def Peels (part : Part) (ts us : List Token) (cs : List Char) : Prop :=
  match part with
  | .operand => Tight (ts ++ us) cs → ∃ x behind, cs = x ++ behind ∧ Spells .operand x ts ∧ Laid us behind
  | .tail => Laid (ts ++ us) cs →
      ∃ gap x behind, cs = gap ++ (x ++ behind) ∧ Blank gap ∧ Spells .tail x ts ∧ Tight us behind
  | .formula => Laid (ts ++ us) cs → ∃ x behind, cs = x ++ behind ∧ Spells .formula x ts ∧ Tight us behind

theorem Tree.peels {part : Part} (t : Tree part) (us : List Token) (cs : List Char) : Peels part t.tokens us cs := by
  induction t generalizing us cs with
  | number value =>
    intro h
    rcases h with ⟨x, behind, rfl, spelled, laid⟩
    exact ⟨x, behind, rfl, .number spelled, laid⟩
  | var name =>
    intro h
    rcases h with ⟨x, behind, rfl, spelled, laid⟩
    exact ⟨x, behind, rfl, .var spelled, laid⟩
  | group inner ih =>
    intro h
    rcases h with ⟨x, behind, rfl, spelled, laid⟩
    cases spelled
    change Laid ((inner.tokens ++ [.rightParen]) ++ us) behind at laid
    rw [List.append_assoc] at laid
    obtain ⟨y, rest, rfl, spells, z, behind, rfl, closing, outside⟩ := ih _ _ laid
    cases closing
    exact ⟨_, behind, by simp, .group spells, outside⟩
  | done =>
    intro laid
    obtain ⟨gap, rest, blank, rfl, tight⟩ := laid.tight
    exact ⟨gap, [], rest, rfl, blank, .done, tight⟩
  | more op next rest ihNext ihRest =>
    intro laid
    obtain ⟨gap, _, blank, rfl, _, behind, rfl, spelled, operands⟩ := laid.tight
    cases spelled
    change Laid ((next.tokens ++ rest.tokens) ++ us) behind at operands
    rw [List.append_assoc] at operands
    obtain ⟨a, behind, blankA, rfl, tight⟩ := operands.tight
    obtain ⟨y, behind, rfl, spellsNext, tail⟩ := ihNext _ _ tight
    obtain ⟨b, z, behind, rfl, blankB, spellsRest, tight⟩ := ihRest _ _ tail
    exact ⟨gap, _, behind, by simp, blank, .more op blankA spellsNext blankB spellsRest, tight⟩
  | formula first rest ihFirst ihRest =>
    intro laid
    rw [Tree.tokens, List.append_assoc] at laid
    obtain ⟨a, behind, blankA, rfl, tight⟩ := laid.tight
    obtain ⟨y, behind, rfl, spellsFirst, laid⟩ := ihFirst _ _ tight
    obtain ⟨b, z, behind, rfl, blankB, spellsRest, tight⟩ := ihRest _ _ laid
    exact ⟨_, behind, by simp, .formula blankA spellsFirst blankB spellsRest, tight⟩

/-- **The accepted texts are the sentences of the grammar**, and the tokens are the terminals of their derivations. -/
theorem Formula.read_eq_ok_iff_spells (log : Log) (raw : String) (f : Formula) :
    (read log raw).1 = .ok f ↔ Spells .formula raw.toList f.tokens := by
  rw [read_eq_ok_iff_laid, fits_iff_tree]
  refine ⟨?_, ?_⟩
  · intro h
    rcases h with ⟨laid, t, eq⟩
    have whole : Laid (t.tokens ++ []) raw.toList := by rwa [List.append_nil, eq]
    obtain ⟨x, behind, text, spells, rfl⟩ := t.peels [] raw.toList whole
    rw [List.append_nil] at text
    rwa [text, ← eq]
  · intro h
    exact ⟨h.laid, h.tree⟩

end CellFormula
