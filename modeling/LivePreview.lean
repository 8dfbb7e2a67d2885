import LivePreview.Asset
import LivePreview.Base64
import LivePreview.Cache
import LivePreview.Cache.Calls
import LivePreview.Compile
import LivePreview.Component
import LivePreview.Component.Desugar
import LivePreview.Component.Patterns
import LivePreview.Config
import LivePreview.Config.Format
import LivePreview.Document
import LivePreview.Engine
import LivePreview.EntryPatch
import LivePreview.EntryPatch.Pattern
import LivePreview.EntryPatch.Reader
import LivePreview.FactoryImport
import LivePreview.FactoryImport.Pattern
import LivePreview.Failure
import LivePreview.FileSet
import LivePreview.FileSet.Folder
import LivePreview.FileSet.Ingest
import LivePreview.FileTree
import LivePreview.Fingerprint
import LivePreview.Guard
import LivePreview.Guard.Log
import LivePreview.Headless
import LivePreview.Host
import LivePreview.Json
import LivePreview.Json.Reader
import LivePreview.Message
import LivePreview.Message.Format
import LivePreview.ModuleGrammar
import LivePreview.ModuleReader
import LivePreview.NameMap
import LivePreview.Proofs.Asset
import LivePreview.Proofs.Cache
import LivePreview.Proofs.Compile.Circles
import LivePreview.Proofs.Compile.Depth
import LivePreview.Proofs.Compile.ImportGraph
import LivePreview.Proofs.Compile.Inlining
import LivePreview.Proofs.Compile.Labels
import LivePreview.Proofs.Compile.Misses
import LivePreview.Proofs.Compile.Plain
import LivePreview.Proofs.Compile.Records
import LivePreview.Proofs.Compile.Steps
import LivePreview.Proofs.Compile.Transfer
import LivePreview.Proofs.Compile.Transparency
import LivePreview.Proofs.Component.Blocks
import LivePreview.Proofs.Component.Desugar
import LivePreview.Proofs.Component.Escaping
import LivePreview.Proofs.Component.FileName
import LivePreview.Proofs.Component.Positions
import LivePreview.Proofs.Component.Template
import LivePreview.Proofs.Document
import LivePreview.Proofs.Engine
import LivePreview.Proofs.EntryPatch
import LivePreview.Proofs.EntryPatch.Lines
import LivePreview.Proofs.EntryPatch.Validity
import LivePreview.Proofs.FactoryImport
import LivePreview.Proofs.FactoryImport.Binding
import LivePreview.Proofs.FactoryImport.Lines
import LivePreview.Proofs.FileSet.Folder
import LivePreview.Proofs.FileSet.Framing
import LivePreview.Proofs.FileSet.Grammar
import LivePreview.Proofs.FileSet.RoundTrip
import LivePreview.Proofs.FileTree
import LivePreview.Proofs.Fingerprint
import LivePreview.Proofs.Fingerprint.Edits
import LivePreview.Proofs.Guard
import LivePreview.Proofs.Guard.Description
import LivePreview.Proofs.Json.Literals
import LivePreview.Proofs.Json.Reading
import LivePreview.Proofs.NameMap
import LivePreview.Proofs.Redirection
import LivePreview.Proofs.Redirection.Answers
import LivePreview.Proofs.Resolve
import LivePreview.Proofs.Resolve.Candidates
import LivePreview.Proofs.Resolve.Paths
import LivePreview.Proofs.RoundTrip
import LivePreview.Proofs.Script.Brackets
import LivePreview.Proofs.Script.Divisions
import LivePreview.Proofs.Script.Lines
import LivePreview.Proofs.Script.Quotes
import LivePreview.Proofs.Script.References
import LivePreview.Proofs.Session.Attempts
import LivePreview.Proofs.Session.Blanking
import LivePreview.Proofs.Session.Coherence
import LivePreview.Proofs.Session.Convergence
import LivePreview.Proofs.Session.Deadlines
import LivePreview.Proofs.Session.Debounce
import LivePreview.Proofs.Session.Deliveries
import LivePreview.Proofs.Session.Dispatches
import LivePreview.Proofs.Session.Edits
import LivePreview.Proofs.Session.LoopErrors
import LivePreview.Proofs.Session.Moves
import LivePreview.Proofs.Session.Performed
import LivePreview.Proofs.Session.Rate
import LivePreview.Proofs.Session.Recovery
import LivePreview.Proofs.Session.Refusals
import LivePreview.Proofs.Session.Stages
import LivePreview.Proofs.Text.Matches
import LivePreview.Proofs.Text.Pattern
import LivePreview.Proofs.Text.Places
import LivePreview.Proofs.Text.Search
import LivePreview.Proofs.Text.Utf16
import LivePreview.Proofs.Text.Utf8
import LivePreview.Proofs.Transformer
import LivePreview.Proofs.Transformer.Labels
import LivePreview.Proofs.Transformer.Rebuilds
import LivePreview.Redirection
import LivePreview.Reference
import LivePreview.Renderer
import LivePreview.Resolve
import LivePreview.Scheduler
import LivePreview.Script
import LivePreview.Script.Binary64
import LivePreview.Script.Cursor
import LivePreview.Script.Doc
import LivePreview.Script.Elision
import LivePreview.Script.Enumeration
import LivePreview.Script.Grammar
import LivePreview.Script.Grammar.Annotation
import LivePreview.Script.Grammar.Declaration
import LivePreview.Script.Grammar.Expression
import LivePreview.Script.Grammar.Function
import LivePreview.Script.Grammar.Markup
import LivePreview.Script.Grammar.Module
import LivePreview.Script.Grammar.Pattern
import LivePreview.Script.Grammar.Program
import LivePreview.Script.Grammar.Statement
import LivePreview.Script.Layout
import LivePreview.Script.Literal
import LivePreview.Script.Lowering
import LivePreview.Script.Markup
import LivePreview.Script.Markup.Entities
import LivePreview.Script.Markup.Factory
import LivePreview.Script.Names
import LivePreview.Script.Numeral
import LivePreview.Script.Operator
import LivePreview.Script.Output
import LivePreview.Script.Parse
import LivePreview.Script.Phrase
import LivePreview.Script.Place
import LivePreview.Script.References
import LivePreview.Script.Scan
import LivePreview.Script.Sources
import LivePreview.Script.TakenNames
import LivePreview.Script.Token
import LivePreview.Script.Tree
import LivePreview.Session
import LivePreview.Session.Attempts
import LivePreview.Session.Diary
import LivePreview.Session.Effects
import LivePreview.Session.Run
import LivePreview.SourceFile
import LivePreview.Starter
import LivePreview.Text.Blank
import LivePreview.Text.Fold
import LivePreview.Text.Identifier
import LivePreview.Text.Pattern
import LivePreview.Text.Search
import LivePreview.Text.Utf16
import LivePreview.Text.Word
import LivePreview.Transformer
import LivePreview.Worker
