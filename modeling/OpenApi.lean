import OpenApi.Text.Letters
import OpenApi.Text.Casing
import OpenApi.Text.Diagnostic
import OpenApi.Text.Blank
import OpenApi.Text.Quoted
import OpenApi.Text.Natural
import OpenApi.Text.Replace
import OpenApi.Name
import OpenApi.Number.Notation
import OpenApi.Json.Writer
import OpenApi.Json.Reader
import OpenApi.Json.Pointer
import OpenApi.Schema.Decode
import OpenApi.Schema.Encode
import OpenApi.Spec
import OpenApi.Document
import OpenApi.Code.Lemmas
import OpenApi.Code.Field
import OpenApi.Format.Registry
import OpenApi.PathTemplate
import OpenApi.ContentType
import OpenApi.Config
import OpenApi.Compiler.TypeExpression
import OpenApi.Compiler.Conversion
import OpenApi.Compiler.ParameterType
import OpenApi.Compiler.Packing
import OpenApi.Compiler.Unpacking
import OpenApi.Code.Statement
import OpenApi.Code.DocComment
import OpenApi.Operation.Resolved
import OpenApi.Compiler.BodyValue
import OpenApi.Compiler.HandlerType
import OpenApi.Compiler.Endpoint
import OpenApi.Generate
import OpenApi.Document.Text
import OpenApi.Yaml.Cursor
import OpenApi.Yaml.Gap
import OpenApi.Yaml.Scalar
import OpenApi.Yaml.Token.Lexer
import OpenApi.Yaml.Node.Reader
import OpenApi.Yaml.Node.Json
import OpenApi.Main
import OpenApi.Proofs.Schema.Parts
import OpenApi.Proofs.Document.Depth
import OpenApi.Proofs.Conversion.Walk
import OpenApi.Proofs.Conversion.Outline
import OpenApi.Proofs.Conversion.Answers
import OpenApi.Proofs.Conversion.Need
import OpenApi.Proofs.Conversion.Recursion
import OpenApi.Proofs.Files.Calls
import OpenApi.Proofs.Code.Spans
import OpenApi.Proofs.Types.Formats
import OpenApi.Proofs.Conversion.Formats
import OpenApi.Proofs.Conversion.Required
import OpenApi.Proofs.Conversion.Null
import OpenApi.Proofs.Files.Statuses
import OpenApi.Proofs.Spec.Writing
import OpenApi.Proofs.Document.Components
import OpenApi.Proofs.Files.Arguments
import OpenApi.Proofs.Files.Balance
import OpenApi.Proofs.Document.Chains
import OpenApi.Proofs.Code.Comments
import OpenApi.Proofs.Files.Imports
import OpenApi.Proofs.Files.Exports
import OpenApi.Proofs.Files.LegalNames
import OpenApi.Proofs.Command.Validation
import OpenApi.Proofs.Document.Merged
import OpenApi.Proofs.Document.Sharing
import OpenApi.Proofs.Files.Warnings
import OpenApi.Proofs.Files.Bodies
import OpenApi.Proofs.Conversion.Idle
import OpenApi.Proofs.Conversion.Locals
import OpenApi.Proofs.Conversion.Branches
import OpenApi.Proofs.Conversion.Tags
import OpenApi.Proofs.Files.Parameters
import OpenApi.Proofs.Format.Occurrences
import OpenApi.Proofs.Parameter.Composition
import OpenApi.Proofs.Parameter.Entries
import OpenApi.Proofs.Number.Rounding
import OpenApi.Proofs.Number.Shortest
import OpenApi.Proofs.Number.Text
import OpenApi.Proofs.Schema.Bounds
import OpenApi.Proofs.Number.Documents
import OpenApi.Proofs.Schema.RoundedBounds
import OpenApi.Proofs.ContentType.Matching
import OpenApi.Proofs.Path.Parts
import OpenApi.Proofs.Format.Lexemes
import OpenApi.Proofs.Format.Identity
import OpenApi.Proofs.Code.Runs
import OpenApi.Proofs.Json.Paths
