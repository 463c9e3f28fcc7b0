import Relevance.Unicode.Case
import Relevance.Unicode.Printable
import Relevance.Unicode.Properties
import Relevance.Unicode.WordBreak
import Relevance.Text.Segment
import Relevance.Text.Utf8
import Relevance.Html.Strip
import Relevance.Analysis.Analyzer
import Relevance.Decimal.Layout
import Relevance.Decimal.Reading
import Relevance.Index
import Relevance.Query.Basic
import Relevance.Query.Matching
import Relevance.Query.Token
import Relevance.Ranking
import Relevance.Options
import Relevance.Service.Routing
import Relevance.Main
import Relevance.Proofs.Reading
import Relevance.Proofs.Evaluation
import Relevance.Proofs.VisibleText
import Relevance.Proofs.Agreement
import Relevance.Proofs.Lexing
import Relevance.Proofs.Spelling
import Relevance.Proofs.Nesting
import Relevance.Proofs.Composition
import Relevance.Proofs.Numbering
import Relevance.Proofs.PlainWords
import Relevance.Proofs.RoundTrip
import Relevance.Proofs.Phrases
import Relevance.Proofs.NormalForm
import Relevance.Proofs.PlainScan
import Relevance.Proofs.Pages
import Relevance.Proofs.Leaves
import Relevance.Proofs.Boosts
import Relevance.Proofs.Writing
import Relevance.Proofs.Decoding
import Relevance.Proofs.Elements
import Relevance.Proofs.Coordination
import Relevance.Proofs.Escaping
import Relevance.Proofs.Separation
import Relevance.Proofs.Negations
import Relevance.Proofs.Growth
import Relevance.Proofs.Lossless
import Relevance.Proofs.LetterCase
import Relevance.Proofs.Shrinking
