import FormulaLexer.Main
import FormulaLexer.Decode.Offsets
import FormulaLexer.Files.Tree
import FormulaLexer.Grammar
import FormulaLexer.Interchange.Codec
import FormulaLexer.Source.Request
import FormulaLexer.Symbol.Set
import FormulaLexer.Trace
import FormulaLexer.Proofs.CursorMoves
import FormulaLexer.Proofs.Scanning
import FormulaLexer.Proofs.Region
import FormulaLexer.Proofs.Agreement
import FormulaLexer.Proofs.Safety
import FormulaLexer.Proofs.Tiling
import FormulaLexer.Proofs.Relocation
import FormulaLexer.Proofs.Concatenation
import FormulaLexer.Proofs.Reporting
import FormulaLexer.Proofs.Isolation
import FormulaLexer.Proofs.Layout
import FormulaLexer.Proofs.Quotation
import FormulaLexer.Proofs.Folding
import FormulaLexer.Proofs.LetterCase
import FormulaLexer.Proofs.Legibility
import FormulaLexer.Proofs.Listings
import FormulaLexer.Proofs.Symbols
import FormulaLexer.Proofs.DateLiterals
import FormulaLexer.Proofs.Operators
import FormulaLexer.Proofs.Spellings
import FormulaLexer.Proofs.Separators
import FormulaLexer.Proofs.Numerals
import FormulaLexer.Proofs.Growth
import FormulaLexer.Proofs.Padding
import FormulaLexer.Proofs.Boundaries
import FormulaLexer.Proofs.Decoding
import FormulaLexer.Proofs.ForwardMotion
