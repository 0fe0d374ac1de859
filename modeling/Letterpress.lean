import Letterpress.Archive.Basic
import Letterpress.Archive.Normalization
import Letterpress.Bracket.Alias
import Letterpress.Bracket.Path
import Letterpress.Bracket.Piece
import Letterpress.Bracket.Rewriting
import Letterpress.Calendar
import Letterpress.Conversion
import Letterpress.Fault
import Letterpress.FileName
import Letterpress.FilePath
import Letterpress.Json.Basic
import Letterpress.Json.Reading
import Letterpress.Log
import Letterpress.Markup.Character
import Letterpress.Markup.Document
import Letterpress.Markup.Event
import Letterpress.Markup.Node
import Letterpress.Markup.Tag
import Letterpress.Markup.Writing
import Letterpress.Number.Basic
import Letterpress.Number.Binary64
import Letterpress.Number.Decimal
import Letterpress.Number.Digits
import Letterpress.Number.Fixed
import Letterpress.Number.Rounding
import Letterpress.Number.Reading
import Letterpress.Number.Shortest
import Letterpress.Part.Collapsing
import Letterpress.Part.Element
import Letterpress.Part.Gathering
import Letterpress.Report.Chunk
import Letterpress.Report.Command
import Letterpress.Report.Generation
import Letterpress.Report.InsertedText
import Letterpress.Report.Item
import Letterpress.Report.Problem
import Letterpress.Report.Rendering
import Letterpress.Scope.Basic
import Letterpress.Script.Evaluation
import Letterpress.Script.Host
import Letterpress.Script.Machine
import Letterpress.Script.Member
import Letterpress.Script.Method
import Letterpress.Script.Parser
import Letterpress.Script.Problem
import Letterpress.Script.Program
import Letterpress.Script.Session
import Letterpress.Script.Token
import Letterpress.Settings
import Letterpress.Stamp.Descriptor
import Letterpress.Stamp.Placement
import Letterpress.Stamp.Preview
import Letterpress.Stamp.Problem
import Letterpress.Stamp.Request
import Letterpress.Stamp.Stamping
import Letterpress.Stamp.SealedFile
import Letterpress.Table
import Letterpress.Template.Catalog
import Letterpress.Template.Registry
import Letterpress.Template.Sample
import Letterpress.Text.Blank
import Letterpress.Text.Case
import Letterpress.Text.CaseMap
import Letterpress.Text.CharacterReference
import Letterpress.Text.CodeRanges
import Letterpress.Text.Hexadecimal
import Letterpress.Text.Keyword
import Letterpress.Text.Letter
import Letterpress.Text.Quoted
import Letterpress.Text.Shown
import Letterpress.Text.Table.Case
import Letterpress.Text.Table.Identifier
import Letterpress.Text.Table.Printable
import Letterpress.Text.Table.Reference
import Letterpress.Text.Table.Word
import Letterpress.Value.Basic
import Letterpress.Value.Coercion
import Letterpress.Value.Display
import Letterpress.Value.Equality
import Letterpress.Value.OfJson
import Letterpress.Value.Text
import Letterpress.Proofs.Script.Correspondence
import Letterpress.Proofs.Script.Journal
import Letterpress.Proofs.Scope.Helper
import Letterpress.Proofs.Script.HelperResilience
import Letterpress.Proofs.Text.Search
import Letterpress.Proofs.Report.Cutting
import Letterpress.Proofs.Report.Grammar
import Letterpress.Proofs.Report.Parsing
import Letterpress.Proofs.Report.Interspersed
import Letterpress.Proofs.Text.Letter
import Letterpress.Proofs.Bracket.Piece
import Letterpress.Proofs.Bracket.Alias
import Letterpress.Proofs.Text.Quoting
import Letterpress.Proofs.Bracket.Access
import Letterpress.Proofs.Bracket.Token
import Letterpress.Proofs.Bracket.LoopNesting
import Letterpress.Proofs.Text.Splitting
import Letterpress.Proofs.Markup.Reference
import Letterpress.Proofs.Markup.Tag
import Letterpress.Proofs.Markup.Event
import Letterpress.Proofs.Markup.Divergence
import Letterpress.Proofs.Markup.Frame
import Letterpress.Proofs.Markup.Document
import Letterpress.Proofs.Bracket.Carrying
import Letterpress.Proofs.Bracket.Edit
import Letterpress.Proofs.Bracket.Preservation
import Letterpress.Proofs.Bracket.Part
import Letterpress.Proofs.Stamp.Resolution
import Letterpress.Proofs.Stamp.Stamping
import Letterpress.Proofs.Report.InsertedText
import Letterpress.Proofs.Script.Printing
import Letterpress.Proofs.Script.Tokenizing
import Letterpress.Proofs.Script.Precedence
import Letterpress.Proofs.Script.RoundTrip
import Letterpress.Proofs.Markup.Heading
import Letterpress.Proofs.Markup.Outline
import Letterpress.Proofs.Markup.Passage
import Letterpress.Proofs.Markup.Soundness
import Letterpress.Proofs.Markup.Written
import Letterpress.Proofs.Part.Soundness
import Letterpress.Proofs.Report.Trace
import Letterpress.Proofs.Report.Insertion
import Letterpress.Proofs.Report.Standing
import Letterpress.Proofs.Report.WellFormed
import Letterpress.Proofs.Script.Isolation
import Letterpress.Proofs.Script.Lending
import Letterpress.Proofs.Bracket.Settling
import Letterpress.Proofs.Bracket.Exposure
import Letterpress.Proofs.Archive.Normalization
import Letterpress.Proofs.Bracket.Idempotence
import Letterpress.Proofs.Bracket.Spelling
import Letterpress.Proofs.Report.WrittenCommand
import Letterpress.Proofs.Part.Holding
import Letterpress.Proofs.Markup.Refilling
import Letterpress.Proofs.Bracket.ValueToken
import Letterpress.Proofs.Result
import Letterpress.Proofs.Script.MemberPath
import Letterpress.Proofs.Value.Growth
import Letterpress.Proofs.Script.Reading
import Letterpress.Proofs.Bracket.RootExpression
import Letterpress.Proofs.Report.Running
import Letterpress.Proofs.Bracket.ItemAccess
import Letterpress.Proofs.Scope.Shedding
import Letterpress.Proofs.Script.ReadOnly
import Letterpress.Proofs.Report.ReadOnly
import Letterpress.Proofs.Value.Text
import Letterpress.Proofs.Text.CharacterReference
import Letterpress.Proofs.Report.Failure
import Letterpress.Proofs.Bracket.Hygiene
import Letterpress.Proofs.Archive.Replacement
import Letterpress.Proofs.Part.Gathering
import Letterpress.Proofs.Value.Visibility
import Letterpress.Proofs.Script.Observation
import Letterpress.Proofs.Script.Privacy
import Letterpress.Proofs.Text.Keyword
import Letterpress.Proofs.Part.Structural
import Letterpress.Proofs.Report.BlockCommand
import Letterpress.Proofs.Part.Place
import Letterpress.Proofs.Part.CommandText
import Letterpress.Proofs.Part.CommandSequence
import Letterpress.Proofs.Script.ListSize
import Letterpress.Proofs.Report.Iteration
import Letterpress.Proofs.Bracket.Scan
import Letterpress.Proofs.Bracket.Joining
import Letterpress.Proofs.Script.Comparison
import Letterpress.Proofs.Script.MemberChange
import Letterpress.Proofs.Script.Confinement
import Letterpress.Proofs.Report.Rollback
import Letterpress.Proofs.Report.Outermost
import Letterpress.Proofs.Script.Refusal
import Letterpress.Proofs.Bracket.UnmatchedClose
import Letterpress.Proofs.Bracket.QuotedName
import Letterpress.Proofs.Report.DecodedCommand
import Letterpress.Proofs.Number.ExactValue
import Letterpress.Proofs.Number.Fixed
import Letterpress.Proofs.Script.Totality
import Letterpress.Proofs.Script.NumberOrder
import Letterpress.Proofs.Stamp.Convention
import Letterpress.Proofs.Number.Range
import Letterpress.Proofs.Value.OfJson
import Letterpress.Proofs.Stamp.Request
import Letterpress.Proofs.Script.Lexeme
import Letterpress.Proofs.Script.Lossless
import Letterpress.Proofs.Report.LegalText
import Letterpress.Proofs.Json.Reading
import Letterpress.Proofs.Table
import Letterpress.Proofs.Value.Document
import Letterpress.Proofs.Text.LowerCase
import Letterpress.Proofs.FileName
import Letterpress.Proofs.Conversion
import Letterpress.Proofs.Stamp.Preview
import Letterpress.Proofs.Template.Registry
