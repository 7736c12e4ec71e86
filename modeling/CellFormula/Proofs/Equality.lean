/-
Formulas are equal exactly if they mean the same.

Equality looks at the canonical texts alone. Two accepted formulas with one canonical text have the same tokens, for
the text is read back as either; and tokens are the same where their source texts are the same operator or parenthesis,
names that differ at most in the case of letters, or numerals that round to the same double.

- `Span.alike_iff`: spans mean the same exactly if their tokens are the same.
- `Formula.beq_iff_tokens_eq`: accepted formulas are equal exactly if their tokens are.
- `Collection.size_ofTexts`: a set of formulas counts the token sequences of the texts accepted.
- `Formula.beq_iff_alike`: equality said of the source texts, and what follows for hashes, names and sets.
-/
import CellFormula.Formula.Collection
import CellFormula.Proofs.Canonical

namespace CellFormula

open Text

/-! ## Source texts that mean the same -/

/-- two spans mean the same: one operator or parenthesis, names up to the case of letters, or numerals that round to one
double -/
inductive Span.Alike (s t : Span) : Prop where
  | symbol : s.kind ≠ .number → s.kind ≠ .var → s.token = t.token → Alike s t
  | name : s.kind = .var → t.kind = .var → s.text.toList.map Char.toLower = t.text.toList.map Char.toLower → Alike s t
  | number {n m : Numeral} {x : Binary64} : s.kind = .number → t.kind = .number → n.WellFormed → m.WellFormed →
      n.chars = s.text.toList → m.chars = t.text.toList →
      Binary64.Rounds n.amount x → Binary64.Rounds m.amount x → Alike s t

theorem Binary64.Rounds.unique {v : ℚ} {x y : Binary64} (hx : Rounds v x) (hy : Rounds v y) : x = y := by
  ext
  · rw [hx.positive, hy.positive]
  · exact hx.nearest.unique hy.nearest

theorem map_toUpper_eq_iff {cs ds : List Char} :
    cs.map Char.toUpper = ds.map Char.toUpper ↔ cs.map Char.toLower = ds.map Char.toLower := by
  refine ⟨?_, ?_⟩
  · intro h
    have lower := congrArg (List.map Char.toLower) h
    simpa [Function.comp_def] using lower
  · intro h
    have upper := congrArg (List.map Char.toUpper) h
    simpa [Function.comp_def] using upper

theorem Token.Spelled.numeral {x : Binary64} {cs : List Char} (h : Token.Spelled (.number x) cs) :
    ∃ n : Numeral, n.WellFormed ∧ n.chars = cs ∧ Binary64.Rounds n.amount x := by
  cases h with
  | number shape rounds => exact ⟨_, shape, rfl, rounds⟩

theorem Token.Spelled.name_eq {name : String} {cs : List Char} (h : Token.Spelled (.var name) cs) :
    name = String.ofList (cs.map Char.toUpper) := by
  cases h with
  | var _ _ _ => rfl

/-- spans whose texts spell their tokens mean the same exactly if the tokens are the same -/
theorem Span.alike_iff {s t : Span} (hs : s.token.Spelled s.text.toList) (ht : t.token.Spelled t.text.toList) :
    s.Alike t ↔ s.token = t.token := by
  obtain ⟨token, text, offset⟩ := s
  obtain ⟨token', text', offset'⟩ := t
  simp only at hs ht
  refine ⟨?_, ?_⟩
  · intro h
    cases h with
    | symbol _ _ eq => exact eq
    | name ks kt same =>
      obtain ⟨name, rfl⟩ : ∃ name, token = .var name := Token.kind_var_iff.mp ks
      obtain ⟨name', rfl⟩ : ∃ name, token' = .var name := Token.kind_var_iff.mp kt
      simp only at same ⊢
      rw [hs.name_eq, ht.name_eq, map_toUpper_eq_iff.mpr same]
    | number ks kt shape shape' eq eq' rounds rounds' =>
      obtain ⟨x, rfl⟩ : ∃ x, token = .number x := Token.kind_number_iff.mp ks
      obtain ⟨y, rfl⟩ : ∃ x, token' = .number x := Token.kind_number_iff.mp kt
      obtain ⟨n, wellFormed, chars, nearest⟩ := hs.numeral
      obtain ⟨m, wellFormed', chars', nearest'⟩ := ht.numeral
      obtain rfl := Numeral.chars_injective shape wellFormed (eq.trans chars.symm)
      obtain rfl := Numeral.chars_injective shape' wellFormed' (eq'.trans chars'.symm)
      simp only
      rw [nearest.unique rounds, nearest'.unique rounds']
  · rintro rfl
    cases token with
    | number x =>
      obtain ⟨n, shape, eq, rounds⟩ := hs.numeral
      obtain ⟨m, shape', eq', rounds'⟩ := ht.numeral
      exact .number rfl rfl shape shape' eq eq' rounds rounds'
    | var name =>
      have same := hs.name_eq.symm.trans ht.name_eq
      rw [← String.toList_inj, String.toList_ofList, String.toList_ofList] at same
      exact .name rfl rfl (map_toUpper_eq_iff.mp same)
    | operator op => exact .symbol (by simp [Span.kind, Token.kind]) (by simp [Span.kind, Token.kind]) rfl
    | leftParen => exact .symbol (by simp [Span.kind, Token.kind]) (by simp [Span.kind, Token.kind]) rfl
    | rightParen => exact .symbol (by simp [Span.kind, Token.kind]) (by simp [Span.kind, Token.kind]) rfl

theorem Span.forall₂_alike_iff {ss ts : List Span} (hs : ∀ s ∈ ss, s.token.Spelled s.text.toList)
    (ht : ∀ t ∈ ts, t.token.Spelled t.text.toList) :
    List.Forall₂ Span.Alike ss ts ↔ ss.map Span.token = ts.map Span.token := by
  induction ss generalizing ts with
  | nil => cases ts <;> simp
  | cons s ss ih =>
    cases ts with
    | nil => simp
    | cons t ts =>
      rw [List.forall₂_cons, alike_iff (hs s List.mem_cons_self) (ht t List.mem_cons_self),
        ih (fun u mem => hs u (List.mem_cons_of_mem s mem)) (fun u mem => ht u (List.mem_cons_of_mem t mem))]
      simp

/-! ## Reading the spans of a text -/

theorem Reader.gather_of_ended {c : Cursor} (h : c.next? = none) : (Reader.mk c false).gather.1 = .ok [] := by
  have ended : (Reader.mk c false).pull = none := by simp [pull, h]
  rw [gather]
  split
  · rfl
  · simp_all
  · simp_all

theorem Reader.gather_of_span {c d : Cursor} {s : Span} (h : c.next? = some (.ok s, d)) :
    (Reader.mk c false).gather.1 = (Reader.mk d false).gather.1.map (s :: ·) := by
  have pulled : (Reader.mk c false).pull = some (.ok s, ⟨d, false⟩) := by simp [pull, h, Except.isOk, Except.toBool]
  rw [gather]
  split
  · simp_all
  · simp_all
  · rename_i span reader eq
    rw [pulled] at eq
    obtain ⟨same, rfl⟩ := Prod.mk.inj (Option.some.inj eq)
    obtain rfl := Except.ok.inj same
    rfl

theorem Reader.gather_eq_ok {c : Cursor} {spans : List Span} (h : c.items = spans.map .ok) :
    (Reader.mk c false).gather.1 = .ok spans := by
  induction spans generalizing c with
  | nil => exact gather_of_ended (Cursor.next?_of_items_nil h)
  | cons s spans ih =>
    obtain ⟨d, next, more⟩ := Cursor.exists_of_items_cons h
    rw [gather_of_span next, ih more]
    rfl

/-- the spans of an accepted text: their tokens are those of the formula, and their texts spell them -/
theorem Formula.exists_tokenize {log : Log} {raw : String} {f : Formula} (h : (read log raw).1 = .ok f) :
    ∃ spans, tokenize raw = .ok spans ∧ spans.map Span.token = f.tokens ∧
      ∀ s ∈ spans, s.token.Spelled s.text.toList := by
  rw [show f = ⟨f.tokens⟩ from rfl, read_eq_ok_iff] at h
  obtain ⟨spans, items, -, tokens⟩ := h
  exact ⟨spans, Reader.gather_eq_ok items, tokens.symm, (Cursor.laid_of_items items).2⟩

/-! ## Equality -/

/-- accepted formulas are equal exactly if their tokens are: the common canonical text is read back as either -/
theorem Formula.beq_iff_tokens_eq {log : Log} {a b : String} {f g : Formula} (hf : (read log a).1 = .ok f)
    (hg : (read log b).1 = .ok g) : (f == g) = true ↔ f.tokens = g.tokens := by
  rw [beq_iff_canonical_eq]
  refine ⟨?_, ?_⟩
  · intro h
    have left := read_canonical_eq hf log
    have right := read_canonical_eq hg log
    rw [h, right] at left
    rw [Except.ok.inj left]
  · intro h
    rw [canonical, canonical, h]

/-! ## Sets of formulas -/

namespace Formula

def tokensOf? (raw : String) : Option (List Token) := (parse raw).toOption.map tokens

/-- a collection counts these token sequences: it has as many members, and of the accepted formulas it holds exactly
those with such tokens -/
structure Collection.Counts (c : Collection) (seen : Finset (List Token)) : Prop where
  size : c.size = seen.card
  holds : ∀ (raw : String) (f : Formula), parse raw = .ok f → (c.contains f = true ↔ f.tokens ∈ seen)

theorem Collection.counts_empty : Counts empty ∅ where
  size := Std.HashSet.size_empty
  holds _ _ _ := by simp [empty, contains]

theorem Collection.Counts.insert {c : Collection} {seen : Finset (List Token)} (h : c.Counts seen) {raw : String}
    {f : Formula} (accepted : parse raw = .ok f) : (c.insert f).Counts (Insert.insert f.tokens seen) where
  size := by
    rw [size_insert, h.size]
    by_cases known : f.tokens ∈ seen
    · rw [if_pos ((h.holds raw f accepted).mpr known), Finset.insert_eq_of_mem known]
    · rw [if_neg (mt (h.holds raw f accepted).mp known), Finset.card_insert_of_notMem known]
  holds other g accepted' := by
    have same : (f == g) = true ↔ f.tokens = g.tokens := beq_iff_tokens_eq accepted accepted'
    rw [contains_insert, Bool.or_eq_true, same, h.holds other g accepted', Finset.mem_insert, eq_comm]

theorem Collection.size_ofTexts (raws : List String) :
    (ofTexts raws).size = (raws.filterMap tokensOf?).toFinset.card := by
  -- the texts are inserted one by one, so what is counted already is left open
  have start := counts_empty
  rw [← Finset.empty_union (raws.filterMap tokensOf?).toFinset, ofTexts]
  generalize empty = c at start ⊢
  generalize (∅ : Finset (List Token)) = seen at start ⊢
  induction raws generalizing c seen with
  | nil => simpa using start.size
  | cons raw raws ih =>
    rw [List.foldl_cons]
    cases outcome : parse raw with
    | error fault => simpa [tokensOf?, outcome, Except.toOption] using ih c seen start
    | ok f => simpa [tokensOf?, outcome, Except.toOption] using ih _ _ (start.insert outcome)

/-- **Equality is equality of meaning.** Two accepted formulas are equal exactly if their source texts mean the same,
span by span. Equal formulas hash alike and have the same tokens and names, and a set of formulas has as many members as
there are different token sequences among the texts accepted. -/
theorem beq_iff_alike (log : Log) :
    (∀ (a b : String) (f g : Formula), (read log a).1 = .ok f → (read log b).1 = .ok g →
      (∃ ss ts, tokenize a = .ok ss ∧ tokenize b = .ok ts ∧ ((f == g) = true ↔ List.Forall₂ Span.Alike ss ts)) ∧
        ((f == g) = true → hash f = hash g ∧ f.tokens = g.tokens ∧ f.names.toList = g.names.toList)) ∧
      ∀ raws : List String,
        (Collection.ofTexts raws).size = (raws.filterMap fun raw => (parse raw).toOption.map tokens).toFinset.card := by
  refine ⟨fun a b f g hf hg => ?_, Collection.size_ofTexts⟩
  have same : (f == g) = true ↔ f.tokens = g.tokens := beq_iff_tokens_eq hf hg
  refine ⟨?_, ?_⟩
  · obtain ⟨ss, spansA, tokensA, spelledA⟩ := exists_tokenize hf
    obtain ⟨ts, spansB, tokensB, spelledB⟩ := exists_tokenize hg
    refine ⟨ss, ts, spansA, spansB, ?_⟩
    rw [same, Span.forall₂_alike_iff spelledA spelledB, tokensA, tokensB]
  · intro equal
    have tokens_eq := same.mp equal
    refine ⟨hash_eq equal, tokens_eq, ?_⟩
    rw [names, names, tokens_eq]

/-- small and capital letters, and a fraction of zero -/
theorem beq_iff_alike_sum :
    let f : Formula := ⟨[.var "X1", .operator .plus, .number ⟨false, 0x4000000000000000, by decide⟩]⟩
    (read (.blank .off) "x1 + 2.0").1 = .ok f ∧ (read (.blank .off) "X1+2").1 = .ok f ∧
      (∃ ss ts, tokenize "x1 + 2.0" = .ok ss ∧ tokenize "X1+2" = .ok ts ∧ List.Forall₂ Span.Alike ss ts) ∧
      (Collection.ofTexts ["x1 + 2.0", "x1+", "X1+2", "x1+3"]).size = 2 := by
  intro f
  have left : (read (.blank .off) "x1 + 2.0").1 = .ok f := read_eq_ok_of_tokens (by decide +kernel)
  have right : (read (.blank .off) "X1+2").1 = .ok f := read_eq_ok_of_tokens (by decide +kernel)
  obtain ⟨pairs, sizes⟩ := beq_iff_alike (.blank .off)
  obtain ⟨⟨ss, ts, spansA, spansB, same⟩, -⟩ := pairs _ _ f f left right
  refine ⟨left, right, ⟨ss, ts, spansA, spansB, same.mp (beq_iff_canonical_eq.mpr rfl)⟩, ?_⟩
  rw [sizes]
  decide +kernel

end Formula

end CellFormula
