import Highlight.Main
import Highlight.Trace
import Highlight.Proofs.Brackets
import Highlight.Proofs.Lexeme.Layout
import Highlight.Proofs.Lexeme.Literal
import Highlight.Proofs.Lexeme.Lookahead
import Highlight.Proofs.Lexeme.Cut
import Highlight.Proofs.Lexeme.Tiling
import Highlight.Proofs.Lexeme.Composition
import Highlight.Proofs.Lexeme.Spacing
import Highlight.Proofs.Statement.Transition
import Highlight.Proofs.Statement.WellFormed
import Highlight.Proofs.Statement.Memory
import Highlight.Proofs.Statement.Declared
import Highlight.Proofs.Classification.Coverage
import Highlight.Proofs.Classification.Retraction
import Highlight.Proofs.Classification.Nested
import Highlight.Proofs.Classification.Relocation
import Highlight.Proofs.Classification.Reading
import Highlight.Proofs.Classification.Failure
import Highlight.Proofs.Classification.Braces
import Highlight.Proofs.Classification.Cause
import Highlight.Proofs.Classification.ParameterLists
import Highlight.Proofs.Classification.Angles
import Highlight.Proofs.Classification.Regions
import Highlight.Proofs.Source.Tiling
import Highlight.Proofs.Source.Reformatting
import Highlight.Proofs.TypeDecl.Syntax
import Highlight.Proofs.TypeDecl.Layout
import Highlight.Proofs.TypeDecl.Roles
import Highlight.Proofs.Json.Reading
import Highlight.Proofs.Token.Data
import Highlight.Proofs.CommandLine.Files
import Highlight.Proofs.Classification.Scopes
import Highlight.Proofs.Classification.RecordWord
import Highlight.Proofs.Classification.DeclaredNames
import Highlight.Proofs.Classification.EnumMembers
import Highlight.Proofs.Classification.OpenBrackets
import Highlight.Proofs.Classification.TypeArguments
import Highlight.Proofs.Lexeme.Truncation
import Highlight.Proofs.Lexeme.LineBreaks
import Highlight.Proofs.Lexeme.Rewriting
import Highlight.Proofs.Lexeme.Lines
import Highlight.Proofs.Classification.Attributes
import Highlight.Proofs.Lexeme.Strings
import Highlight.Proofs.Lexeme.Interpolated
import Highlight.Proofs.Lexeme.Quoting
import Highlight.Proofs.Lexeme.Shapes
import Highlight.Proofs.Lexeme.Faults
import Highlight.Proofs.Listing
import Highlight.Proofs.Source.Literals
import Highlight.Proofs.Statement.Fields
import Highlight.Proofs.Statement.Representation
import Highlight.Proofs.Classification.Consistency
import Highlight.Proofs.Statement.Phases
import Highlight.Proofs.Classification.Phases
import Highlight.Proofs.Scanning.Safety
