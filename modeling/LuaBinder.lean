import LuaBinder.Code.Builder
import LuaBinder.Code.Comparison
import LuaBinder.Code.Table
import LuaBinder.Command.Help
import LuaBinder.Command.Request
import LuaBinder.Command.Run
import LuaBinder.Command.Switch
import LuaBinder.Decl.Argument
import LuaBinder.Decl.Class
import LuaBinder.Decl.DeclaredType
import LuaBinder.Decl.Error
import LuaBinder.Decl.Exchange
import LuaBinder.Decl.Function
import LuaBinder.Decl.Markup
import LuaBinder.Decl.Member
import LuaBinder.Decl.Sketch
import LuaBinder.Decl.Summary
import LuaBinder.Doxygen.Directory
import LuaBinder.Lua.Chooser
import LuaBinder.Lua.Conversion
import LuaBinder.Lua.Exclusion
import LuaBinder.Lua.Include
import LuaBinder.Lua.Library
import LuaBinder.Lua.Signature
import LuaBinder.Lua.SourceFile
import LuaBinder.Lua.SupportHeader
import LuaBinder.Lua.Wrapper
import LuaBinder.Main
import LuaBinder.Manifest.Basic
import LuaBinder.Manifest.Error
import LuaBinder.Proofs.Code.Control
import LuaBinder.Proofs.Code.Embedding
import LuaBinder.Proofs.Code.Headers
import LuaBinder.Proofs.Code.Locals
import LuaBinder.Proofs.Code.Nesting
import LuaBinder.Proofs.Code.Output
import LuaBinder.Proofs.Code.Rows
import LuaBinder.Proofs.Code.Scopes
import LuaBinder.Proofs.Code.Table
import LuaBinder.Proofs.Decl.Exchange
import LuaBinder.Proofs.Decl.Filtering
import LuaBinder.Proofs.Decl.Grouping
import LuaBinder.Proofs.Decl.InlineMarkup
import LuaBinder.Proofs.Decl.Members
import LuaBinder.Proofs.Doxygen.Aliases
import LuaBinder.Proofs.Doxygen.Loading
import LuaBinder.Proofs.Doxygen.Requirements
import LuaBinder.Proofs.Doxygen.Templates
import LuaBinder.Proofs.Except
import LuaBinder.Proofs.Lua.Acceptance
import LuaBinder.Proofs.Lua.Characters
import LuaBinder.Proofs.Lua.ClassNames
import LuaBinder.Proofs.Lua.Closure
import LuaBinder.Proofs.Lua.Comments
import LuaBinder.Proofs.Lua.Conditions
import LuaBinder.Proofs.Lua.Constants
import LuaBinder.Proofs.Lua.Coverage
import LuaBinder.Proofs.Lua.Definitions
import LuaBinder.Proofs.Lua.Exclusions
import LuaBinder.Proofs.Lua.FileDefinitions
import LuaBinder.Proofs.Lua.Fragments
import LuaBinder.Proofs.Lua.Generation
import LuaBinder.Proofs.Lua.Identifiers
import LuaBinder.Proofs.Lua.IncludePaths
import LuaBinder.Proofs.Lua.InlineMarkup
import LuaBinder.Proofs.Lua.Layout
import LuaBinder.Proofs.Lua.Lines
import LuaBinder.Proofs.Lua.Locals
import LuaBinder.Proofs.Lua.Metatables
import LuaBinder.Proofs.Lua.Nesting
import LuaBinder.Proofs.Lua.Omission
import LuaBinder.Proofs.Lua.OutputPaths
import LuaBinder.Proofs.Lua.Ownership
import LuaBinder.Proofs.Lua.Path
import LuaBinder.Proofs.Lua.Precedence
import LuaBinder.Proofs.Lua.Preview
import LuaBinder.Proofs.Lua.Qualifiers
import LuaBinder.Proofs.Lua.Registration
import LuaBinder.Proofs.Lua.Rendering
import LuaBinder.Proofs.Lua.Scalars
import LuaBinder.Proofs.Lua.Selection
import LuaBinder.Proofs.Lua.Signature
import LuaBinder.Proofs.Lua.Spelling
import LuaBinder.Proofs.Lua.Statements
import LuaBinder.Proofs.Lua.Tables
import LuaBinder.Proofs.Lua.Tags
import LuaBinder.Proofs.Lua.Targets
import LuaBinder.Proofs.Lua.Variables
import LuaBinder.Proofs.Lua.WrapperNames
import LuaBinder.Proofs.Manifest.Labels
import LuaBinder.Proofs.Manifest.Source
import LuaBinder.Proofs.Manifest.Strings
import LuaBinder.Proofs.Render.Resolution
import LuaBinder.Proofs.Report.Agreement
import LuaBinder.Proofs.Store.Growth
import LuaBinder.Proofs.Store.Keeping
import LuaBinder.Proofs.Store.Sequences
import LuaBinder.Proofs.Store.Writing
import LuaBinder.Proofs.Text.Characters
import LuaBinder.Proofs.Text.Decimal
import LuaBinder.Proofs.Text.Identifier
import LuaBinder.Proofs.Text.Lines
import LuaBinder.Proofs.Text.Occurrences
import LuaBinder.Proofs.Text.Paths
import LuaBinder.Proofs.Text.Places
import LuaBinder.Proofs.Text.Quoted
import LuaBinder.Proofs.Text.References
import LuaBinder.Proofs.Text.Segments
import LuaBinder.Proofs.Text.Verbatim
import LuaBinder.Proofs.Text.Words
import LuaBinder.Proofs.Toml.Reading
import LuaBinder.Render.Renderer
import LuaBinder.Render.Resolution
import LuaBinder.Report.Baking
import LuaBinder.Report.Listing
import LuaBinder.Report.Settings
import LuaBinder.Report.Sheet
import LuaBinder.Store.FileSystem
import LuaBinder.Store.Output
import LuaBinder.Store.Path
import LuaBinder.Text.Blank
import LuaBinder.Text.Entity
import LuaBinder.Text.Identifier
import LuaBinder.Text.Lines
import LuaBinder.Text.Quoted
import LuaBinder.Text.Search
import LuaBinder.Text.Segments
import LuaBinder.Text.Visibility
import LuaBinder.Toml.Document
import LuaBinder.Toml.Numeral
import LuaBinder.Toml.Scalar
import LuaBinder.Toml.Table
import LuaBinder.Toml.Text
import LuaBinder.Xml.Character
import LuaBinder.Xml.Document
import LuaBinder.Xml.Text
