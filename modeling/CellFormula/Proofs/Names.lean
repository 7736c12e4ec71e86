/-
The names of a formula are those of the variables in its source.

A variable is written as letters and digits, and its name has the letters in upper case. So a formula has the names of
just those spans of its source that are variables, each once. All names are ASCII, where the order of texts is that of
their bytes. And a name is again a way to write the variable: as a text of its own it is accepted, as the formula of
this one variable, and it is the canonical text.

- `Token.Spelled.not_isLower`: a name has no small letters.
- `bytes_lt_of_lt`: the order of ASCII texts is that of their bytes.
- `Formula.read_name`: a name read as a text.
- `Formula.exists_spans_names`: the names of an accepted text.
-/
import CellFormula.Proofs.Composition
import CellFormula.Proofs.Variable

namespace CellFormula

open Text

/-! ## The letters of a name -/

theorem Token.Spelled.not_isLower {name : String} {cs : List Char} (h : Token.Spelled (.var name) cs) :
    ∀ c ∈ name.toList, c.isLower = false := by
  rw [h.name_eq, String.toList_ofList]
  intro c mem
  obtain ⟨original, -, rfl⟩ := List.mem_map.mp mem
  exact Char.isLower_toUpper_eq_false original

/-! ## The order of names -/

def Ascii (cs : List Char) : Prop := ∀ c ∈ cs, c.toNat < 128

theorem ascii_of_isVariable {name : String} (h : isVariable name = true) : Ascii name.toList := by
  intro c mem
  rw [← List.takeWhile_append_dropWhile (p := Char.isAlpha) (l := name.toList)] at mem
  rcases List.mem_append.mp mem with letter | digit
  · have alpha := isAlpha_iff.mp (List.mem_takeWhile_imp letter)
    omega
  · have decimal := isDigit_iff.mp ((isVariable_iff.mp h).2.2 c digit)
    omega

theorem bytes_eq_map {text : String} (h : Ascii text.toList) :
    text.toUTF8.data.toList = text.toList.map Char.toUInt8 := by
  have bytes : text.toUTF8.data.toList = text.toList.flatMap String.utf8EncodeChar := by
    rw [String.toUTF8_eq_toByteArray, ← String.utf8Encode_toList, List.utf8Encode, List.data_toByteArray]
  rw [bytes, ← List.flatMap_pure_eq_map]
  refine List.flatMap_congr fun c mem => ?_
  have low : c.val ≤ 127 := UInt32.le_iff_toNat_le.mpr (Nat.le_of_lt_succ (h c mem))
  exact String.utf8EncodeChar_eq_singleton (Char.utf8Size_eq_one_iff.mpr low)

theorem toUInt8_lt {c d : Char} (hc : c.toNat < 128) (hd : d.toNat < 128) (h : c < d) : c.toUInt8 < d.toUInt8 := by
  have small {e : Char} (he : e.toNat < 128) : e.toUInt8.toNat = e.toNat := Nat.mod_eq_of_lt (Nat.lt_trans he (by decide))
  rw [UInt8.lt_iff_toNat_lt, small hc, small hd]
  exact UInt32.lt_iff_toNat_lt.mp h

theorem bytes_lt_of_lt {u v : String} (hu : Ascii u.toList) (hv : Ascii v.toList) (h : u < v) :
    u.toUTF8.data.toList < v.toUTF8.data.toList := by
  rw [bytes_eq_map hu, bytes_eq_map hv]
  have lex : List.Lex (· < ·) u.toList v.toList := (List.lt_iff_lex_lt _ _).mp h
  generalize u.toList = cs, v.toList = ds at hu hv lex
  induction lex with
  | nil => exact .nil
  | rel below => exact .rel (toUInt8_lt (hu _ List.mem_cons_self) (hv _ List.mem_cons_self) below)
  | cons _ ih =>
    exact .cons (ih (fun c mem => hu c (List.mem_cons_of_mem _ mem)) fun c mem => hv c (List.mem_cons_of_mem _ mem))

namespace Formula

/-! ## The names of a text -/

/-- the names of an accepted text are spelled by themselves -/
theorem spelled_of_mem_names {log : Log} {raw : String} {f : Formula} (h : (read log raw).1 = .ok f) {name : String}
    (mem : name ∈ f.names) : Token.Spelled (.var name) name.toList := by
  obtain ⟨spans, -, tokens, spelled⟩ := exists_tokenize h
  rw [mem_names_iff, ← tokens] at mem
  obtain ⟨s, mem_s, named⟩ := List.mem_map.mp mem
  exact (named ▸ spelled s mem_s).canonical

/-- a name that is spelled by itself is the text of the one variable -/
theorem read_name {name : String} (h : Token.Spelled (.var name) name.toList) (log : Log) :
    (read log name).1 = .ok ⟨[.var name]⟩ :=
  read_eq_ok_iff_laid.mpr ⟨h.laid, .var name .done⟩

/-- names are listed in the order of their bytes, each once -/
theorem pairwise_names {f : Formula} (ascii : ∀ name ∈ f.names, Ascii name.toList) :
    f.names.toList.Pairwise fun u v => u.toUTF8.data.toList < v.toUTF8.data.toList := by
  have ordered : f.names.toList.Pairwise (· < ·) := Std.TreeSet.ordered_toList.imp compare_lt_iff_lt.mp
  refine ordered.imp_of_mem fun mem_u mem_v below => ?_
  exact bytes_lt_of_lt (ascii _ (Std.TreeSet.mem_toList.mp mem_u)) (ascii _ (Std.TreeSet.mem_toList.mp mem_v)) below

/-- **The names of a formula are those of the variables in its source.** A name is one of an accepted text exactly if it
is the text of one of its spans that is a variable, in upper case. Names are listed in the order of their bytes, each
once. And every name is one of a variable without small letters; read as a text it is accepted, it is its own canonical
text, and it is the only name. -/
theorem exists_spans_names {log : Log} {raw : String} {f : Formula} (h : (read log raw).1 = .ok f) :
    ∃ spans, tokenize raw = .ok spans ∧
      (∀ name, name ∈ f.names ↔ ∃ s ∈ spans, s.kind = .var ∧ s.text.toUpper = name) ∧
      (f.names.toList.Pairwise fun u v => u.toUTF8.data.toList < v.toUTF8.data.toList) ∧
      ∀ name ∈ f.names, isVariable name = true ∧ (∀ c ∈ name.toList, c.isLower = false) ∧
        ∀ log', ∃ g, (read log' name).1 = .ok g ∧ g.canonical = name ∧ g.names.toList = [name] := by
  obtain ⟨spans, gathered, tokens, spelled⟩ := exists_tokenize h
  refine ⟨spans, gathered, ?_, ?_, ?_⟩
  · intro name
    rw [mem_names_iff, ← tokens, List.mem_map]
    exact exists_congr fun s => and_congr_right fun mem => Span.token_eq_var_iff (spelled s mem)
  · exact pairwise_names fun name mem => ascii_of_isVariable (spelled_of_mem_names h mem).isVariable
  · intro name mem
    have self := spelled_of_mem_names h mem
    refine ⟨self.isVariable, self.not_isLower, fun log' => ⟨_, read_name self log', ?_, rfl⟩⟩
    simp [canonical, Token.chars]

/-- two ways to write one name, and another that comes first -/
theorem exists_spans_names_twice :
    let f : Formula := ⟨[.var "B2", .operator .plus, .var "A10", .operator .times, .var "B2"]⟩
    let spans : List Span := [⟨.var "B2", "b2", 0⟩, ⟨.operator .plus, "+", 3⟩, ⟨.var "A10", "a10", 5⟩,
      ⟨.operator .times, "*", 8⟩, ⟨.var "B2", "B2", 9⟩]
    (read (.blank .off) "b2 + a10*B2").1 = .ok f ∧ tokenize "b2 + a10*B2" = .ok spans ∧
      (∀ name, name ∈ f.names ↔ ∃ s ∈ spans, s.kind = .var ∧ s.text.toUpper = name) ∧
      (f.names.toList.Pairwise fun u v => u.toUTF8.data.toList < v.toUTF8.data.toList) ∧ "B2" ∈ f.names ∧
      isVariable "B2" = true ∧ ∃ g, (read (.blank .trace) "B2").1 = .ok g ∧ g.names.toList = ["B2"] := by
  intro f spans
  have accepted : (read (.blank .off) "b2 + a10*B2").1 = .ok f := read_eq_ok_of_tokens (by decide +kernel)
  have gathered : tokenize "b2 + a10*B2" = .ok spans := by decide +kernel
  have member : "B2" ∈ f.names := mem_names_iff.mpr (by decide)
  obtain ⟨others, same, source, ordered, alone⟩ := exists_spans_names accepted
  obtain rfl := Except.ok.inj (gathered.symm.trans same)
  obtain ⟨variable_name, -, again⟩ := alone "B2" member
  obtain ⟨g, read_again, -, names_again⟩ := again (.blank .trace)
  exact ⟨accepted, gathered, source, ordered, member, variable_name, g, read_again, names_again⟩

end Formula

end CellFormula
