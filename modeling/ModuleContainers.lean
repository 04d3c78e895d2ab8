import ModuleContainers.CommandLine
import ModuleContainers.Configuration
import ModuleContainers.Configuration.Reader
import ModuleContainers.Container.Arguments
import ModuleContainers.Container.Class
import ModuleContainers.Container.Javadoc
import ModuleContainers.Container.Registration
import ModuleContainers.Document.Binary64
import ModuleContainers.Document.Datum
import ModuleContainers.Document.Json
import ModuleContainers.Document.Json.Number
import ModuleContainers.Document.Json.Reader
import ModuleContainers.Document.Json.Writer
import ModuleContainers.Document.Reading
import ModuleContainers.Document.Toml.Number
import ModuleContainers.Document.Toml.Reader
import ModuleContainers.Document.Toml.Table
import ModuleContainers.Document.Toml.Text
import ModuleContainers.Document.Words
import ModuleContainers.Document.Yaml.Cursor
import ModuleContainers.Document.Yaml.Layout
import ModuleContainers.Document.Yaml.Node
import ModuleContainers.Document.Yaml.Reader
import ModuleContainers.Document.Yaml.Scalar
import ModuleContainers.Document.Yaml.ScalarText
import ModuleContainers.Document.Yaml.Token
import ModuleContainers.Failure
import ModuleContainers.Files.Access
import ModuleContainers.Files.Path
import ModuleContainers.Files.Tree
import ModuleContainers.Generation
import ModuleContainers.Java.ClassName
import ModuleContainers.Java.Comment
import ModuleContainers.Java.CompilationUnit
import ModuleContainers.Java.Fragment
import ModuleContainers.Java.Identifier
import ModuleContainers.Java.ImportTable
import ModuleContainers.Java.StringLiteral
import ModuleContainers.Loading
import ModuleContainers.Main
import ModuleContainers.Metadata.Constant
import ModuleContainers.Metadata.Module
import ModuleContainers.Metadata.Reader
import ModuleContainers.Metadata.Writer
import ModuleContainers.Program
import ModuleContainers.Proofs.Java.ClassName
import ModuleContainers.Proofs.Java.ImportTable
import ModuleContainers.Proofs.Java.Scope
import ModuleContainers.Proofs.Lexical.Token
import ModuleContainers.Proofs.Lexical.Transducer
import ModuleContainers.Proofs.Lexical.UnicodeEscape
import ModuleContainers.Proofs.Outcome
import ModuleContainers.Proofs.Validation
import ModuleContainers.Text.Alphabetic
import ModuleContainers.Text.Blank
import ModuleContainers.Text.Numeric
import ModuleContainers.Text.Printable
import ModuleContainers.Text.Ranges
import ModuleContainers.Text.Splitting
import ModuleContainers.Text.Uppercase
import ModuleContainers.Validation
import ModuleContainers.Proofs.Container.Completeness
import ModuleContainers.Proofs.Lexical.Quoting
import ModuleContainers.Proofs.Configuration
import ModuleContainers.Proofs.Container.Arguments
import ModuleContainers.Proofs.Java.Comment
import ModuleContainers.Proofs.Container.Registration
import ModuleContainers.Proofs.Container.Javadoc
import ModuleContainers.Proofs.Container.Class
import ModuleContainers.Proofs.Container.Phrases
import ModuleContainers.Proofs.Java.Literals
import ModuleContainers.Proofs.Container.FreeText
import ModuleContainers.Proofs.Container.Skeleton
import ModuleContainers.Proofs.Container.RegistrationOrder
import ModuleContainers.Proofs.Container.RegisterMethod
import ModuleContainers.Proofs.Container.Literals
import ModuleContainers.Proofs.Files.Path
import ModuleContainers.Proofs.Generation.FileMap
import ModuleContainers.Proofs.Generation.Batch
import ModuleContainers.Proofs.Document.Json
import ModuleContainers.Proofs.Document.Reading
import ModuleContainers.Proofs.Metadata.RoundTrip
import ModuleContainers.Proofs.Container.Sites
import ModuleContainers.Proofs.Container.AccessSites
import ModuleContainers.Proofs.Container.Accesses
import ModuleContainers.Proofs.Generation.Pass
import ModuleContainers.Proofs.Generation.Spelling
import ModuleContainers.Proofs.Lexical.Brackets
import ModuleContainers.Proofs.Text.Lines
import ModuleContainers.Proofs.Container.Nesting
import ModuleContainers.Proofs.Container.Structure
import ModuleContainers.Proofs.Java.Layout
import ModuleContainers.Proofs.Container.Layout
import ModuleContainers.Proofs.Entries
import ModuleContainers.Proofs.Files.Tree
import ModuleContainers.Proofs.Files.Route
import ModuleContainers.Proofs.Files.Walk
import ModuleContainers.Proofs.Files.FileSystem
import ModuleContainers.Proofs.Files.Access
import ModuleContainers.Proofs.Generation.Emitters
import ModuleContainers.Proofs.Program
import ModuleContainers.Proofs.Lexical.Translation
import ModuleContainers.Proofs.Java.StringLiteral
import ModuleContainers.Proofs.Container.CommentText
import ModuleContainers.Proofs.Java.CanonicalName
import ModuleContainers.Proofs.Java.FirstClaim
import ModuleContainers.Proofs.Java.Collision
import ModuleContainers.Proofs.Container.Entrance
import ModuleContainers.Proofs.Metadata.Rejection
import ModuleContainers.Proofs.Container.Outputs
import ModuleContainers.Proofs.Java.Locals
import ModuleContainers.Proofs.Container.Hygiene
import ModuleContainers.Proofs.Text.Category
import ModuleContainers.Proofs.Java.Identifier
import ModuleContainers.Proofs.Java.CommentLines
import ModuleContainers.Proofs.Java.Indentation
import ModuleContainers.Proofs.Container.Indentation
import ModuleContainers.Proofs.Configuration.Overrides
import ModuleContainers.Proofs.Files.Spelling
import ModuleContainers.Proofs.Files.AtomicWrite
