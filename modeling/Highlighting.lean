import Highlighting.Main
import Highlighting.Text.Quoted
import Highlighting.Proofs.Boundary
import Highlighting.Proofs.Scan
import Highlighting.Proofs.Division
import Highlighting.Proofs.Priority
import Highlighting.Proofs.Backtracking
import Highlighting.Proofs.MatchStart
import Highlighting.Proofs.Lowering
import Highlighting.Proofs.Totality
import Highlighting.Proofs.Reading
import Highlighting.Proofs.Language
import Highlighting.Proofs.Unrolled
import Highlighting.Proofs.Exhaustion
import Highlighting.Proofs.RegularSearch
import Highlighting.Proofs.Cover
import Highlighting.Proofs.Occurrence
import Highlighting.Proofs.AustralRules
import Highlighting.Proofs.Comment
import Highlighting.Proofs.Words
import Highlighting.Proofs.Preference
import Highlighting.Proofs.ProgramSearch
import Highlighting.Proofs.TypeName
import Highlighting.Proofs.Literal
import Highlighting.Proofs.Cost
import Highlighting.Proofs.Limits
import Highlighting.Proofs.Composition
import Highlighting.Proofs.Markup
import Highlighting.Proofs.Terminal
import Highlighting.Proofs.ByteOrder
import Highlighting.Proofs.History
import Highlighting.Proofs.Extensions
import Highlighting.Proofs.Arguments
import Highlighting.Proofs.Choice
import Highlighting.Proofs.Stages
import Highlighting.Proofs.Selection
import Highlighting.Proofs.Verbatim
import Highlighting.Proofs.Acceptance
import Highlighting.Proofs.Recoloring
import Highlighting.Proofs.Greedy
import Highlighting.Proofs.Budget
import Highlighting.Proofs.Cutoff
import Highlighting.Proofs.Description
import Highlighting.Proofs.Assignments
import Highlighting.Proofs.IgnoredLines
import Highlighting.Proofs.HomePaths
import Highlighting.Proofs.FileNames
import Highlighting.Proofs.Atomicity
import Highlighting.Proofs.Independence
import Highlighting.Proofs.Counting
import Highlighting.Proofs.Accounting
import Highlighting.Proofs.ColorTexts
