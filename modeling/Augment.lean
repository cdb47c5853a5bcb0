import Augment.Build
import Augment.Cli
import Augment.Cli.Args
import Augment.Config
import Augment.Constructor
import Augment.Diagnostic
import Augment.Expand.Error
import Augment.Expand.Notify
import Augment.Expand.Singleton
import Augment.Files.Path
import Augment.Files.Tree
import Augment.Fragment
import Augment.Fragment.Notify
import Augment.Fragment.Singleton
import Augment.Generator
import Augment.Group
import Augment.Main
import Augment.Marker
import Augment.Model
import Augment.Model.Table
import Augment.Naming
import Augment.Number.Binary64
import Augment.Options
import Augment.OutputDir
import Augment.Pattern
import Augment.Project
import Augment.Proofs.AttributeLists
import Augment.Proofs.CacheStats
import Augment.Proofs.Cancellation
import Augment.Proofs.FieldOwner
import Augment.Proofs.Fresh
import Augment.Proofs.Group
import Augment.Proofs.LoadSteps
import Augment.Proofs.Lookup
import Augment.Proofs.DirectoryEntries
import Augment.Proofs.EventFlag
import Augment.Proofs.OutputWrites
import Augment.Proofs.OutputDirectory
import Augment.Proofs.MemberNames
import Augment.Proofs.NotifyMembers
import Augment.Proofs.NodeTable
import Augment.Proofs.PatternCache
import Augment.Proofs.Resolution
import Augment.Proofs.Session
import Augment.Proofs.SourceFiles
import Augment.Proofs.SingletonRule
import Augment.Record
import Augment.Rust.Ident
import Augment.Rust.Lexer
import Augment.Rust.Syntax.Attribute
import Augment.Rust.Syntax.Block
import Augment.Rust.Syntax.Cursor
import Augment.Rust.Syntax.Expr
import Augment.Rust.Syntax.File
import Augment.Rust.Syntax.Generics
import Augment.Rust.Syntax.Grammar
import Augment.Rust.Syntax.Item
import Augment.Rust.Syntax.Lit
import Augment.Rust.Syntax.Path
import Augment.Rust.Syntax.Pattern
import Augment.Rust.Syntax.Tree
import Augment.Rust.Syntax.Type
import Augment.Rust.Template
import Augment.Rust.Token
import Augment.Source.Imports
import Augment.Source.Index
import Augment.Source.Load
import Augment.Source.Modules
import Augment.Text.Case
import Augment.Text.CharTable
import Augment.Text.Chars
import Augment.Text.Grapheme
import Augment.Text.Json
import Augment.Text.Property.CaseData
import Augment.Text.Property.DisplayData
import Augment.Text.Property.GraphemeData
import Augment.Text.Property.Identifier
import Augment.Text.Property.IdentifierData
import Augment.Text.Property.Letter
import Augment.Text.Property.LetterData
import Augment.Text.Quoted
import Augment.Text.Similarity
import Augment.Text.Words
import Augment.Toml.Datetime
import Augment.Toml.Decode
import Augment.Toml.Document
import Augment.Toml.Error
import Augment.Toml.Read
import Augment.Toml.Report
import Augment.Toml.Scalar
import Augment.Toml.Syntax
import Augment.Toml.Token
import Augment.Proofs.Idents.Cursor
import Augment.Proofs.Idents.Expressions
import Augment.Proofs.Idents.Items
import Augment.Proofs.Idents.Sources
import Augment.Proofs.Idents.Symbols
import Augment.Proofs.Idents.Config
import Augment.Proofs.Idents.Render
