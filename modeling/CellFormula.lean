import CellFormula.Binary64
import CellFormula.Decimal
import CellFormula.Binary64.Rounding
import CellFormula.Binary64.Shortest
import CellFormula.Numeral
import CellFormula.Text
import CellFormula.Text.Quoted
import CellFormula.Token
import CellFormula.Fault
import CellFormula.Piece
import CellFormula.Cursor
import CellFormula.Log
import CellFormula.Draft
import CellFormula.Reader
import CellFormula.Formula
import CellFormula.Formula.Collection
import CellFormula.Datum
import CellFormula.Proofs.Binary64.Places
import CellFormula.Proofs.Binary64.Nearest
import CellFormula.Proofs.Binary64.CorrectRounding
import CellFormula.Proofs.Binary64.ReadBack
import CellFormula.Proofs.Binary64.FewestDigits
import CellFormula.Proofs.Text
import CellFormula.Proofs.Numeral
import CellFormula.Proofs.Structure
import CellFormula.Proofs.Check
import CellFormula.Proofs.Lexing
import CellFormula.Proofs.Sentence
import CellFormula.Proofs.Canonical
import CellFormula.Proofs.Equality
import CellFormula.Proofs.FirstFault
import CellFormula.Proofs.Feeding
import CellFormula.Proofs.Completion
import CellFormula.Proofs.LongestPiece
import CellFormula.Proofs.Spacing
import CellFormula.Proofs.Requests
import CellFormula.Proofs.Tiling
import CellFormula.Proofs.Locality
import CellFormula.Proofs.Continuation
import CellFormula.Proofs.Composition
import CellFormula.Proofs.NumeralValue
import CellFormula.Proofs.ShortestText
import CellFormula.Proofs.Repair
import CellFormula.Proofs.FaultPosition
import CellFormula.Proofs.Stream
import CellFormula.Proofs.LetterCase
import CellFormula.Proofs.Splitting
import CellFormula.Proofs.Substitution
import CellFormula.Proofs.Refusal
import CellFormula.Proofs.Invariant
import CellFormula.Proofs.LogTrail
import CellFormula.Proofs.Variable
import CellFormula.Proofs.Names
