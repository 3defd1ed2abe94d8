import RecordCoding.Coding.KeySet
import RecordCoding.Coding.Sample
import RecordCoding.CommandLine.Directory
import RecordCoding.Main
import RecordCoding.Proofs.Generation.Result
import RecordCoding.Proofs.Generation.Assembled
import RecordCoding.Proofs.Generation.Verdict
import RecordCoding.Proofs.Generation.Alignment
import RecordCoding.Proofs.Coding.Collections
import RecordCoding.Proofs.Json.Document
import RecordCoding.Proofs.Traversal
import RecordCoding.Proofs.Json.Decimal
import RecordCoding.Proofs.Coding.Names
import RecordCoding.Proofs.Coding.CodecLaws
import RecordCoding.Proofs.Coding.FieldLaws
import RecordCoding.Proofs.Coding.Generated
import RecordCoding.Proofs.Coding.Fallbacks
import RecordCoding.Proofs.Coding.Normalization
import RecordCoding.Proofs.Binary64.Magnitude
import RecordCoding.Proofs.Json.Bounds
import RecordCoding.Proofs.Coding.Footprint
import RecordCoding.Proofs.Generation.KeyChoice
import RecordCoding.Proofs.Coding.SharedKeys
import RecordCoding.Proofs.Expansion.Spelling
import RecordCoding.Proofs.Expansion.Tokens
import RecordCoding.Proofs.Expansion.Artifacts
import RecordCoding.Proofs.Expansion.AllOrNothing
import RecordCoding.Proofs.Generation.HandWritten
import RecordCoding.Proofs.Commands.Notices
import RecordCoding.Proofs.Coding.ReaderAgreement
import RecordCoding.Proofs.Coding.TextRoundTrip
import RecordCoding.Proofs.CaseStyle.Capitals
import RecordCoding.Proofs.Coding.WriteSteps
import RecordCoding.Proofs.Coding.CompactedArrays
import RecordCoding.Proofs.Json.ByteOrder
import RecordCoding.Proofs.Json.IntegerText
import RecordCoding.Proofs.Coding.CompactedObjects
import RecordCoding.Proofs.Json.Numeral
import RecordCoding.Proofs.Json.ObjectText
import RecordCoding.Proofs.Coding.LosslessReading
import RecordCoding.Proofs.Generation.DirectiveOrder
import RecordCoding.Proofs.Generation.Escalation
import RecordCoding.Proofs.Coding.Nesting
import RecordCoding.Proofs.Source.Outlook
import RecordCoding.Proofs.Source.Carrying
import RecordCoding.Proofs.Source.Growth
import RecordCoding.Proofs.Source.GrowthOfExpressions
import RecordCoding.Proofs.Source.GrowthOfItems
import RecordCoding.Proofs.Source.AttributeItems
import RecordCoding.Proofs.Source.AttributeRuns
import RecordCoding.Proofs.Source.AttributeEffects
import RecordCoding.Proofs.Expansion.AttributeFold
import RecordCoding.Proofs.Source.FileParts
import RecordCoding.Proofs.Source.AttributeFlaws
import RecordCoding.Proofs.Commands.FileParts
import RecordCoding.Proofs.Source.Lexemes
import RecordCoding.Proofs.Source.Lexing
import RecordCoding.Proofs.Source.Taking
import RecordCoding.Proofs.Source.TypeTrees
import RecordCoding.Proofs.Source.LexingLiterals
import RecordCoding.Proofs.Source.ClosedText
import RecordCoding.Proofs.Source.TypeEdges
import RecordCoding.Proofs.Source.PathReading
import RecordCoding.Proofs.Source.BoundReading
import RecordCoding.Proofs.Source.TypeReading
import RecordCoding.Proofs.Source.FieldTypeText
import RecordCoding.Proofs.Source.TypeRendering
import RecordCoding.Proofs.Source.IdentifierTokens
import RecordCoding.Proofs.Source.SourceNames
import RecordCoding.Proofs.Commands.Underscores
import RecordCoding.Proofs.Reporting.Interleaving
import RecordCoding.Proofs.Generation.EmptyKeys
import RecordCoding.Proofs.Commands.BlankNames
import RecordCoding.Proofs.Source.SuffixedNames
import RecordCoding.Proofs.Expansion.Defects
import RecordCoding.Proofs.Commands.TableNames
import RecordCoding.Proofs.Lines
import RecordCoding.Proofs.Source.Refusals
import RecordCoding.Proofs.Source.RefusalsOfTypes
import RecordCoding.Proofs.Source.RefusalsOfExpressions
import RecordCoding.Proofs.Source.RefusalsOfItems
import RecordCoding.Proofs.Source.AttributeLines
import RecordCoding.Proofs.Generation.LineReports
import RecordCoding.Proofs.Commands.OneLine
