/-
The structure of formulas: derivation trees over tokens, and the one-pass reading of a token list.

A formula is an operand and a tail, the tail a sequence of operators with an operand behind each; an operand is a
number, a variable or a formula in parentheses. `Fits` reads a token list once from the left and remembers only whether
an operand is due and how many parentheses are open.

- `Fits.tree`: a list that fits from an open operand on starts with one, and what is behind it closes every
  parenthesis.
- `fits_tokens`: the tokens of a tree fit wherever what is behind them does.
- `fits_iff_tree`: the lists that fit from the start are those of the trees.
- `Tree.tokens_injective`: no two trees have the same tokens.
-/
import Mathlib.Tactic
import CellFormula.Token

namespace CellFormula

/-! ## Trees -/

/-- the nonterminals of the grammar -/
inductive Part where
  | operand
  | tail
  | formula
deriving DecidableEq

/-- whether an operand is due where such a part begins -/
def Part.due : Part → Bool
  | .tail => false
  | .operand | .formula => true

inductive Tree : Part → Type where
  | number (value : Binary64) : Tree .operand
  | var (name : String) : Tree .operand
  | group (inner : Tree .formula) : Tree .operand
  | done : Tree .tail
  | more (op : Operator) (next : Tree .operand) (rest : Tree .tail) : Tree .tail
  | formula (first : Tree .operand) (rest : Tree .tail) : Tree .formula

/-- the leaves of a tree, from left to right -/
def Tree.tokens {part : Part} : Tree part → List Token
  | .number value => [.number value]
  | .var name => [.var name]
  | .group inner => .leftParen :: (inner.tokens ++ [.rightParen])
  | .done => []
  | .more op next rest => .operator op :: (next.tokens ++ rest.tokens)
  | .formula first rest => first.tokens ++ rest.tokens

/-! ## Reading from the left -/

/-- the tokens bring a formula to its end from a point where an operand is due or has just ended, and where `depth`
parentheses are open -/
inductive Fits : Bool → ℕ → List Token → Prop where
  | done : Fits false 0 []
  | number (value : Binary64) {depth : ℕ} {ts : List Token} :
      Fits false depth ts → Fits true depth (.number value :: ts)
  | var (name : String) {depth : ℕ} {ts : List Token} : Fits false depth ts → Fits true depth (.var name :: ts)
  | opening {depth : ℕ} {ts : List Token} : Fits true (depth + 1) ts → Fits true depth (.leftParen :: ts)
  | closing {depth : ℕ} {ts : List Token} : Fits false depth ts → Fits false (depth + 1) (.rightParen :: ts)
  | operator (op : Operator) {depth : ℕ} {ts : List Token} : Fits true depth ts → Fits false depth (.operator op :: ts)

/-- the number of parentheses open behind a token, if so many are open in front of it -/
def Token.Kind.depthBehind (depth : ℕ) : Token.Kind → ℕ
  | .leftParen => depth + 1
  | .rightParen => depth - 1
  | .number | .var | .operator => depth

theorem fits_nil_iff {due : Bool} {depth : ℕ} : Fits due depth [] ↔ due = false ∧ depth = 0 := by
  refine ⟨?_, ?_⟩
  · intro h
    cases h
    exact ⟨rfl, rfl⟩
  · intro h
    rcases h with ⟨rfl, rfl⟩
    exact .done

/-- the reading said by kinds: a token fits if it starts an operand exactly where one is due, and closes only what is
open -/
theorem fits_cons_iff {due : Bool} {depth : ℕ} {t : Token} {ts : List Token} :
    Fits due depth (t :: ts) ↔
      t.kind.startsOperand = due ∧ (t.kind = .rightParen → 0 < depth) ∧
        Fits (!t.kind.endsOperand) (t.kind.depthBehind depth) ts := by
  refine ⟨?_, ?_⟩
  · intro h
    cases h with
    | number value behind => exact ⟨rfl, by simp [Token.kind], behind⟩
    | var name behind => exact ⟨rfl, by simp [Token.kind], behind⟩
    | opening behind => exact ⟨rfl, by simp [Token.kind], behind⟩
    | closing behind => exact ⟨rfl, by simp, behind⟩
    | operator op behind => exact ⟨rfl, by simp [Token.kind], behind⟩
  · intro h
    rcases h with ⟨rfl, room, behind⟩
    cases t with
    | number value => exact .number value behind
    | var name => exact .var name behind
    | operator op => exact .operator op behind
    | leftParen => exact .opening behind
    | rightParen =>
      obtain ⟨outer, rfl⟩ := Nat.exists_eq_add_one_of_ne_zero (room rfl).ne'
      exact .closing behind

/-- the tokens of a tree fit in front of any that fit behind an operand -/
theorem fits_tokens {part : Part} (t : Tree part) {depth : ℕ} {ts : List Token} (behind : Fits false depth ts) :
    Fits part.due depth (t.tokens ++ ts) := by
  induction t generalizing depth ts with
  | number value => exact .number value behind
  | var name => exact .var name behind
  | group inner ih =>
    have inside := ih (.closing behind)
    simp only [Tree.tokens, List.cons_append, List.append_assoc, List.nil_append]
    exact .opening inside
  | done => exact behind
  | more op next rest ihNext ihRest =>
    have operand := ihNext (ihRest behind)
    simp only [Tree.tokens, List.cons_append, List.append_assoc]
    exact .operator op operand
  | formula first rest ihFirst ihRest =>
    have operand := ihFirst (ihRest behind)
    simp only [Tree.tokens, List.append_assoc]
    exact operand

/-- tails with a right parenthesis after each but the last, `depth` of them -/
inductive Closes : ℕ → List Token → Prop where
  | last (rest : Tree .tail) : Closes 0 rest.tokens
  | close (rest : Tree .tail) {depth : ℕ} {ts : List Token} :
      Closes depth ts → Closes (depth + 1) (rest.tokens ++ .rightParen :: ts)

/-- another operand in front belongs to the first tail -/
theorem Closes.more {depth : ℕ} {ts : List Token} (h : Closes depth ts) (op : Operator) (next : Tree .operand) :
    Closes depth (.operator op :: (next.tokens ++ ts)) := by
  cases h with
  | last rest => exact .last (.more op next rest)
  | close rest inner =>
    have longer := Closes.close (.more op next rest) inner
    simpa [Tree.tokens] using longer

/-- what fits can be read as trees: where an operand is due there is one, and the rest closes every parenthesis -/
theorem Fits.tree {due : Bool} {depth : ℕ} {ts : List Token} (h : Fits due depth ts) :
    if due then ∃ (o : Tree .operand) (rest : List Token), ts = o.tokens ++ rest ∧ Closes depth rest
    else Closes depth ts := by
  induction h with
  | done => exact Closes.last .done
  | number value _ ih => exact ⟨.number value, _, rfl, ih⟩
  | var name _ ih => exact ⟨.var name, _, rfl, ih⟩
  | opening _ ih =>
    obtain ⟨first, rest, rfl, closes⟩ := ih
    cases closes with
    | close tail outer =>
      refine ⟨.group (.formula first tail), _, ?_, outer⟩
      simp [Tree.tokens]
  | closing _ ih => exact Closes.close .done ih
  | operator op _ ih =>
    obtain ⟨next, rest, rfl, closes⟩ := ih
    exact closes.more op next

/-- the token lists that fit from the start are those of the trees -/
theorem fits_iff_tree {ts : List Token} : Fits true 0 ts ↔ ∃ t : Tree .formula, t.tokens = ts := by
  refine ⟨?_, ?_⟩
  · intro h
    obtain ⟨first, rest, rfl, closes⟩ := h.tree
    cases closes with
    | last tail => exact ⟨.formula first tail, rfl⟩
  · intro h
    rcases h with ⟨t, rfl⟩
    have fits : Fits true 0 (t.tokens ++ []) := fits_tokens t .done
    rwa [List.append_nil] at fits

/-! ## One tree -/

/-- such a part cannot go on with these tokens: an operand ends by itself, and the others where no operator follows -/
def Part.EndsBefore (part : Part) (us : List Token) : Prop :=
  part = .operand ∨ ∀ op vs, us ≠ .operator op :: vs

theorem Part.endsBefore_operand (us : List Token) : Part.operand.EndsBefore us := .inl rfl

theorem Part.endsBefore_nil (part : Part) : part.EndsBefore [] := .inr fun _ _ => (List.cons_ne_nil _ _).symm

/-- a tree is known by its tokens, wherever they stop -/
theorem Tree.eq_of_tokens_append {part : Part} (t u : Tree part) {us vs : List Token} (hu : part.EndsBefore us)
    (hv : part.EndsBefore vs) (h : t.tokens ++ us = u.tokens ++ vs) : t = u ∧ us = vs := by
  induction t generalizing us vs with
  | number value =>
    cases u with
    | number other =>
      obtain ⟨same, rfl⟩ := List.cons.inj h
      obtain rfl := Token.number.inj same
      exact ⟨rfl, rfl⟩
    | var name => cases (List.cons.inj h).1
    | group inner => cases (List.cons.inj h).1
  | var name =>
    cases u with
    | number value => cases (List.cons.inj h).1
    | var other =>
      obtain ⟨same, rfl⟩ := List.cons.inj h
      obtain rfl := Token.var.inj same
      exact ⟨rfl, rfl⟩
    | group inner => cases (List.cons.inj h).1
  | group inner ih =>
    cases u with
    | number value => cases (List.cons.inj h).1
    | var name => cases (List.cons.inj h).1
    | group other =>
      -- the right parenthesis ends both formulas inside
      have closing (ws : List Token) : Part.formula.EndsBefore (.rightParen :: ws) :=
        .inr fun op vs same => by cases (List.cons.inj same).1
      simp only [Tree.tokens, List.cons_append, List.append_assoc, List.nil_append, List.cons.injEq, true_and] at h
      obtain ⟨rfl, behind⟩ := ih other (closing us) (closing vs) h
      exact ⟨rfl, (List.cons.inj behind).2⟩
  | done =>
    cases u with
    | done => exact ⟨rfl, h⟩
    | more op next rest => exact absurd h (hu.resolve_left Part.noConfusion op _)
  | more op next rest ihNext ihRest =>
    cases u with
    | done => exact absurd h.symm (hv.resolve_left Part.noConfusion op _)
    | more op' next' rest' =>
      simp only [Tree.tokens, List.cons_append, List.append_assoc, List.cons.injEq, Token.operator.injEq] at h
      obtain ⟨rfl, operands⟩ := h
      obtain ⟨rfl, tails⟩ := ihNext next' (Part.endsBefore_operand _) (Part.endsBefore_operand _) operands
      obtain ⟨rfl, behind⟩ := ihRest rest' hu hv tails
      exact ⟨rfl, behind⟩
  | formula first rest ihFirst ihRest =>
    cases u with
    | formula first' rest' =>
      have ends {ws : List Token} (h : Part.formula.EndsBefore ws) : Part.tail.EndsBefore ws :=
        .inr (h.resolve_left Part.noConfusion)
      simp only [Tree.tokens, List.append_assoc] at h
      obtain ⟨rfl, tails⟩ := ihFirst first' (Part.endsBefore_operand _) (Part.endsBefore_operand _) h
      obtain ⟨rfl, behind⟩ := ihRest rest' (ends hu) (ends hv) tails
      exact ⟨rfl, behind⟩

/-- no two trees have the same tokens -/
theorem Tree.tokens_injective {part : Part} : Function.Injective (@tokens part) := by
  intro t u h
  have whole : t.tokens ++ [] = u.tokens ++ [] := congrArg (· ++ []) h
  exact (eq_of_tokens_append t u part.endsBefore_nil part.endsBefore_nil whole).1

end CellFormula
