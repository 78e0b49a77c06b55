import ClosureLint.CommandLine.Options
import ClosureLint.CommandLine.Run
import ClosureLint.CommandLine.Word
import ClosureLint.Core.Basic
import ClosureLint.Core.Lower
import ClosureLint.Core.Number
import ClosureLint.Core.Walk
import ClosureLint.Diagnostic
import ClosureLint.Files.Path
import ClosureLint.Files.Tree
import ClosureLint.Json
import ClosureLint.Lint.Eta
import ClosureLint.Lint.Level
import ClosureLint.Lint.Run
import ClosureLint.Main
import ClosureLint.Names
import ClosureLint.Proofs.Adjustments
import ClosureLint.Proofs.Annotations
import ClosureLint.Proofs.AppliedFix
import ClosureLint.Proofs.AssociatedPaths
import ClosureLint.Proofs.Candidates
import ClosureLint.Proofs.Checking.Accepting
import ClosureLint.Proofs.Checking.Accord
import ClosureLint.Proofs.Checking.Annotated
import ClosureLint.Proofs.Checking.Around
import ClosureLint.Proofs.Checking.Binding
import ClosureLint.Proofs.Checking.Bodies
import ClosureLint.Proofs.Checking.BodyByBody
import ClosureLint.Proofs.Checking.Chronicles
import ClosureLint.Proofs.Checking.Closures
import ClosureLint.Proofs.Checking.Coercing
import ClosureLint.Proofs.Checking.Declarations
import ClosureLint.Proofs.Checking.Elsewhere
import ClosureLint.Proofs.Checking.Exchange
import ClosureLint.Proofs.Checking.Expecting
import ClosureLint.Proofs.Checking.Extended
import ClosureLint.Proofs.Checking.Filing
import ClosureLint.Proofs.Checking.Foresight
import ClosureLint.Proofs.Checking.Growth
import ClosureLint.Proofs.Checking.Headers
import ClosureLint.Proofs.Checking.Inlays
import ClosureLint.Proofs.Checking.Meanings
import ClosureLint.Proofs.Checking.Methods
import ClosureLint.Proofs.Checking.Mirrors
import ClosureLint.Proofs.Checking.Moments
import ClosureLint.Proofs.Checking.PathCalls
import ClosureLint.Proofs.Checking.Paths
import ClosureLint.Proofs.Checking.Places
import ClosureLint.Proofs.Checking.Programs
import ClosureLint.Proofs.Checking.Reaching
import ClosureLint.Proofs.Checking.Rebinding
import ClosureLint.Proofs.Checking.Refitted
import ClosureLint.Proofs.Checking.Registering
import ClosureLint.Proofs.Checking.Regularity
import ClosureLint.Proofs.Checking.Relocated
import ClosureLint.Proofs.Checking.Reports
import ClosureLint.Proofs.Checking.Scoping
import ClosureLint.Proofs.Checking.Settled
import ClosureLint.Proofs.Checking.Steps
import ClosureLint.Proofs.Checking.Visits
import ClosureLint.Proofs.Checking.Vouching
import ClosureLint.Proofs.CompleteResults
import ClosureLint.Proofs.Core.Alike
import ClosureLint.Proofs.Core.AlikeBodies
import ClosureLint.Proofs.Core.AlikeWalks
import ClosureLint.Proofs.Core.Bare
import ClosureLint.Proofs.Core.Inlaid
import ClosureLint.Proofs.Core.Meaning
import ClosureLint.Proofs.Core.Paths
import ClosureLint.Proofs.Core.Preorder
import ClosureLint.Proofs.Core.Refitting
import ClosureLint.Proofs.Core.Relocated
import ClosureLint.Proofs.Core.Replace
import ClosureLint.Proofs.Core.SameWidth
import ClosureLint.Proofs.Core.Spans
import ClosureLint.Proofs.Core.Unnumbered
import ClosureLint.Proofs.Core.Walking
import ClosureLint.Proofs.Core.Written
import ClosureLint.Proofs.Coupling
import ClosureLint.Proofs.DerefChains
import ClosureLint.Proofs.DirectCalls
import ClosureLint.Proofs.DirectFix
import ClosureLint.Proofs.EtaLaw
import ClosureLint.Proofs.Extensions
import ClosureLint.Proofs.Extents
import ClosureLint.Proofs.FilesApart
import ClosureLint.Proofs.FindingsElsewhere
import ClosureLint.Proofs.FixedFindings
import ClosureLint.Proofs.FunctionSites
import ClosureLint.Proofs.Grammar.Basic
import ClosureLint.Proofs.Grammar.Callees
import ClosureLint.Proofs.Grammar.Complete.Exprs
import ClosureLint.Proofs.Grammar.Complete.Items
import ClosureLint.Proofs.Grammar.Complete.Types
import ClosureLint.Proofs.Grammar.Derivations
import ClosureLint.Proofs.Grammar.Faces
import ClosureLint.Proofs.Grammar.Holes
import ClosureLint.Proofs.Grammar.Invocations
import ClosureLint.Proofs.Grammar.ItemHoles
import ClosureLint.Proofs.Grammar.Layout
import ClosureLint.Proofs.Grammar.Literals
import ClosureLint.Proofs.Grammar.Names
import ClosureLint.Proofs.Grammar.Nodes
import ClosureLint.Proofs.Grammar.Paths
import ClosureLint.Proofs.Grammar.Prefixes.Basic
import ClosureLint.Proofs.Grammar.Prefixes.Exprs
import ClosureLint.Proofs.Grammar.Prefixes.Items
import ClosureLint.Proofs.Grammar.Prefixes.Types
import ClosureLint.Proofs.Grammar.Productions
import ClosureLint.Proofs.Grammar.Receivers
import ClosureLint.Proofs.Grammar.Sound.Exprs
import ClosureLint.Proofs.Grammar.Sound.Items
import ClosureLint.Proofs.Grammar.Sound.Types
import ClosureLint.Proofs.Grammar.Starts
import ClosureLint.Proofs.Identities
import ClosureLint.Proofs.ImplKeys
import ClosureLint.Proofs.Independence
import ClosureLint.Proofs.Levels
import ClosureLint.Proofs.Lexing
import ClosureLint.Proofs.LosslessLexing
import ClosureLint.Proofs.MacroCode
import ClosureLint.Proofs.MacroErasure
import ClosureLint.Proofs.Matchers
import ClosureLint.Proofs.MethodCalls
import ClosureLint.Proofs.MethodPaths
import ClosureLint.Proofs.MethodSearch
import ClosureLint.Proofs.NameLookup
import ClosureLint.Proofs.Outcome
import ClosureLint.Proofs.Overrides
import ClosureLint.Proofs.OwnText
import ClosureLint.Proofs.PathCalls
import ClosureLint.Proofs.Positions
import ClosureLint.Proofs.Reformatting
import ClosureLint.Proofs.Registry.Order
import ClosureLint.Proofs.Registry.Resolve
import ClosureLint.Proofs.Registry.Runs
import ClosureLint.Proofs.Registry.WellMade
import ClosureLint.Proofs.Registry.Wider
import ClosureLint.Proofs.Renaming
import ClosureLint.Proofs.Reporting
import ClosureLint.Proofs.ScopeBalance
import ClosureLint.Proofs.SelfInstances
import ClosureLint.Proofs.Splicing
import ClosureLint.Proofs.StringLiterals
import ClosureLint.Proofs.SyntaxErrors
import ClosureLint.Proofs.Totality
import ClosureLint.Proofs.Types.Distinct
import ClosureLint.Proofs.Types.Legible
import ClosureLint.Proofs.Types.Meant
import ClosureLint.Proofs.Types.Names
import ClosureLint.Proofs.Types.Parts
import ClosureLint.Proofs.Types.Regular
import ClosureLint.Proofs.Types.RoundTrip
import ClosureLint.Proofs.Types.Shape
import ClosureLint.Proofs.Types.WellFormed
import ClosureLint.Proofs.UnknownParts
import ClosureLint.Proofs.UnsafeCallees
import ClosureLint.Proofs.WrittenTypes
import ClosureLint.Registry.Basic
import ClosureLint.Registry.Resolve
import ClosureLint.Report
import ClosureLint.Source.Position
import ClosureLint.Source.Slice
import ClosureLint.Syntax.Basic
import ClosureLint.Syntax.Parse
import ClosureLint.Syntax.Reading.Basic
import ClosureLint.Syntax.Reading.Exprs
import ClosureLint.Syntax.Reading.Items
import ClosureLint.Syntax.Reading.Patterns
import ClosureLint.Syntax.Reading.Types
import ClosureLint.Text.Blank
import ClosureLint.Text.CharName
import ClosureLint.Text.CharName.Aliases
import ClosureLint.Text.CharName.AncientScripts
import ClosureLint.Text.CharName.EasternScripts
import ClosureLint.Text.CharName.Pictographs
import ClosureLint.Text.CharName.Row
import ClosureLint.Text.CharName.Rule
import ClosureLint.Text.CharName.Scripts
import ClosureLint.Text.CharName.Symbols
import ClosureLint.Text.Digit
import ClosureLint.Text.Escape
import ClosureLint.Text.Hex
import ClosureLint.Text.Printable
import ClosureLint.Text.Quoted
import ClosureLint.Text.Utf8
import ClosureLint.Token.Basic
import ClosureLint.Token.Lexer
import ClosureLint.Ty.Basic
import ClosureLint.Ty.Deref
import ClosureLint.Ty.Match
import ClosureLint.Ty.Subst
import ClosureLint.Ty.Text
import ClosureLint.Typing.Body
import ClosureLint.Typing.Problem
import ClosureLint.Typing.Program
import ClosureLint.Typing.Tables
import ClosureLint.Typing.TypeExpr
