/-
Accepted formulas.

A formula is read from raw text: the text is cut into tokens, the tokens are checked for structure, and the outcome is
written to the log. Its canonical text is the spelling of its tokens without blanks, and the names of its variables come
in order. Formulas are equal when their canonical texts are, and hash accordingly.

- `beq_iff_canonical_eq`: equality is that of the canonical texts.
-/
import Std.Data.TreeSet
import CellFormula.Reader

namespace CellFormula

/-- a formula that has passed the structure check -/
structure Formula where
  tokens : List Token

namespace Formula

/-- the spelling of the tokens, with nothing between them -/
def canonical (f : Formula) : String := String.ofList (f.tokens.flatMap Token.chars)

/-- the names of the variables, each once, in order -/
def names (f : Formula) : Std.TreeSet String := Std.TreeSet.ofList (f.tokens.filterMap Token.name?)

instance : BEq Formula := ⟨fun f g => f.canonical == g.canonical⟩

instance : Hashable Formula := ⟨fun f => hash f.canonical⟩

theorem beq_iff_canonical_eq {f g : Formula} : (f == g) = true ↔ f.canonical = g.canonical := by
  simp [BEq.beq]

instance : EquivBEq Formula where
  rfl := beq_iff_canonical_eq.mpr rfl
  symm h := beq_iff_canonical_eq.mpr (beq_iff_canonical_eq.mp h).symm
  trans h k := beq_iff_canonical_eq.mpr ((beq_iff_canonical_eq.mp h).trans (beq_iff_canonical_eq.mp k))

instance : LawfulHashable Formula where
  hash_eq _ _ h := congrArg (fun text : String => hash text) (beq_iff_canonical_eq.mp h)

/-- the outcome of reading a text, as it is logged -/
def outcome (raw : String) : Except Fault Formula → Entry
  | .ok f => .accepted raw f.canonical f.names.size
  | .error fault => .rejected raw fault

def read (log : Log) (raw : String) : Except Fault Formula × Log :=
  let draft := ((Reader.start raw).check (.start log)).1
  let result := draft.finish.map Formula.mk
  (result, draft.log.add (outcome raw result))

def parse (raw : String) : Except Fault Formula := (read (.blank .off) raw).1

structure Comparison where
  equal : Bool
  hashes : Bool
  tokens : Bool
  names : Bool
deriving DecidableEq

/-- two formulas side by side; their tokens are compared by the values of the numbers -/
def compare (f g : Formula) : Comparison where
  equal := f == g
  hashes := hash f == hash g
  tokens := f.tokens.isEqv g.tokens Token.agrees
  names := f.names.toList == g.names.toList

end Formula

end CellFormula
