import FilterBox.Main
import FilterBox.Session
import FilterBox.Proofs.Grammar.Completeness
import FilterBox.Proofs.Grammar.Soundness
import FilterBox.Proofs.Grammar.Recognition
import FilterBox.Proofs.Lexeme.Numeral
import FilterBox.Proofs.Text.Quotation
import FilterBox.Proofs.Number.Written
import FilterBox.Proofs.Lexeme.Value
import FilterBox.Proofs.Lexeme.Structure
import FilterBox.Proofs.Printing.Readable
import FilterBox.Proofs.Token.Reading
import FilterBox.Proofs.Token.Scanned
import FilterBox.Proofs.Printing.Scalar
import FilterBox.Proofs.Filter.Unplaced
import FilterBox.Proofs.Filter.Walk
import FilterBox.Proofs.Printing.Atoms
import FilterBox.Proofs.Printing.Stretches
import FilterBox.Proofs.Printing.Leaf
import FilterBox.Proofs.Printing.Places
import FilterBox.Proofs.Printing.RoundTrip
import FilterBox.Proofs.Printing.Chips
import FilterBox.Proofs.Printing.Normalization
import FilterBox.Proofs.Removal.Exchange
import FilterBox.Proofs.Removal.Chips
import FilterBox.Proofs.Removal.Closing
import FilterBox.Proofs.Grammar.Viability
import FilterBox.Proofs.Lexeme.Colon
import FilterBox.Proofs.Lexeme.First
import FilterBox.Proofs.Text.Place
import FilterBox.Proofs.Token.Layout
import FilterBox.Proofs.Token.Accounting
import FilterBox.Proofs.Grammar.Stretches
import FilterBox.Proofs.Chip.Placement
import FilterBox.Proofs.Token.Spacing
import FilterBox.Proofs.Chip.Slice
import FilterBox.Proofs.Token.Comparison
import FilterBox.Proofs.Token.Embedding
import FilterBox.Proofs.Query.Composition
import FilterBox.Proofs.Grammar.Transition
import FilterBox.Proofs.Query.Patterns
import FilterBox.Proofs.Query.Exactness
import FilterBox.Proofs.Query.Cutting
import FilterBox.Proofs.Removal.FirstMatch
import FilterBox.Proofs.Removal.Matching
import FilterBox.Proofs.Removal.Neutrality
import FilterBox.Proofs.Removal.Independence
import FilterBox.Proofs.Value.Numbers
import FilterBox.Proofs.Value.Survival
import FilterBox.Proofs.Number.Quantity
import FilterBox.Proofs.Text.CodeUnits
import FilterBox.Proofs.Chip.Units
import FilterBox.Proofs.Text.Casing
import FilterBox.Proofs.Lexeme.Exchange
import FilterBox.Proofs.Token.Passage
import FilterBox.Proofs.Query.Growth
import FilterBox.Proofs.Token.Context
import FilterBox.Proofs.Token.Words
import FilterBox.Proofs.Token.Spelling
import FilterBox.Proofs.Token.Strings
import FilterBox.Proofs.Query.Casing
import FilterBox.Proofs.Query.Outcome
import FilterBox.Proofs.Lexeme.Casing
import FilterBox.Proofs.Grammar.Places
import FilterBox.Proofs.Token.Blanks
import FilterBox.Proofs.Query.Blanks
