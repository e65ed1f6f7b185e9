import EventRules.Main
import EventRules.Proofs.Expr.Spelling
import EventRules.Proofs.Parser.Run
import EventRules.Proofs.Decimal.Integer
import EventRules.Proofs.Parser.Place
import EventRules.Proofs.Parser.RoundTrip
import EventRules.Proofs.Cache.Answers
import EventRules.Proofs.Cache.Recency
import EventRules.Proofs.Engine.Operation
import EventRules.Proofs.Engine.Transparency
import EventRules.Proofs.Run
import EventRules.Proofs.Evaluation.Calls
import EventRules.Proofs.Evaluation.Shape
import EventRules.Proofs.Expr.Address
import EventRules.Proofs.Evaluation.Trace
import EventRules.Proofs.Evaluation.Order
import EventRules.Proofs.Evaluation.Locality
import EventRules.Proofs.Evaluation.Orderly
import EventRules.Proofs.Registry.Order
import EventRules.Proofs.Engine.Release
import EventRules.Proofs.Keyed
import EventRules.Proofs.Registry.Lifecycle
import EventRules.Proofs.Registry.Operations
import EventRules.Proofs.Engine.Lifecycle
import EventRules.Proofs.Registry.Release
import EventRules.Proofs.Engine.Invariant
import EventRules.Proofs.Evaluation.Operators
import EventRules.Proofs.Evaluation.Relation
import EventRules.Proofs.Function.Catalog
import EventRules.Proofs.Registry.Entries
import EventRules.Proofs.Engine.Validation
import EventRules.Proofs.Value.RoundTrip
import EventRules.Proofs.Json.Members
import EventRules.Proofs.Parser.Construction
import EventRules.Proofs.Parser.Literals
import EventRules.Proofs.Parser.Limit
import EventRules.Proofs.Parser.Depth
import EventRules.Proofs.Registry.Pure
import EventRules.Proofs.Evaluation.Resolver
import EventRules.Proofs.Expr.Occurrence
import EventRules.Proofs.Evaluation.Variables
import EventRules.Proofs.Engine.Meaning
import EventRules.Proofs.Transformation.Write
import EventRules.Proofs.Transformation.Append
import EventRules.Proofs.Parser.Grammar
import EventRules.Proofs.Parser.Soundness
import EventRules.Proofs.Decimal.Sign
import EventRules.Proofs.Token.Gap
import EventRules.Proofs.Token.Readers
import EventRules.Proofs.Token.Run
import EventRules.Proofs.Token.Progress
import EventRules.Proofs.Token.Context
import EventRules.Proofs.Token.LineBreak
import EventRules.Proofs.Token.Accessor
import EventRules.Proofs.Engine.Accessor
import EventRules.Proofs.Cache.Inclusion
import EventRules.Proofs.Text.CharClass
import EventRules.Proofs.Text.ByteOrder
import EventRules.Proofs.Text.Canonical
import EventRules.Proofs.Registry.Ledger
import EventRules.Proofs.Registry.Table
import EventRules.Proofs.Token.Path
import EventRules.Proofs.Triage.Independence
import EventRules.Proofs.Transformation.Groups
import EventRules.Proofs.Parser.Nesting
import EventRules.Proofs.Transformation.Effect
import EventRules.Proofs.Parser.Steps
import EventRules.Proofs.Parser.Lookahead
import EventRules.Proofs.Parser.Local
import EventRules.Proofs.Parser.Earliest
import EventRules.Proofs.Token.Opening
import EventRules.Proofs.Parser.Parentheses
import EventRules.Proofs.Registry.Builtins
import EventRules.Proofs.Evaluation.Arithmetic
import EventRules.Proofs.Value.Order
import EventRules.Proofs.Cache.Balance
import EventRules.Proofs.Expr.Replacement
import EventRules.Proofs.Evaluation.Congruence
import EventRules.Proofs.Evaluation.Log
import EventRules.Proofs.Evaluation.Interchange
import EventRules.Proofs.Token.Quoted
import EventRules.Proofs.Evaluation.Path
import EventRules.Proofs.Token.Integer
import EventRules.Proofs.Parser.Integer
import EventRules.Proofs.Regex.Matching
import EventRules.Proofs.Regex.Reading
import EventRules.Proofs.Regex.Bracket
import EventRules.Proofs.Regex.Grouping
import EventRules.Proofs.Regex.WellFormed
import EventRules.Proofs.Function.WholeText
import EventRules.Proofs.Text.Search
import EventRules.Proofs.Decimal.Numeral
import EventRules.Proofs.Function.Joining
import EventRules.Proofs.Function.Extreme
import EventRules.Proofs.Value.Rearrangement
import EventRules.Proofs.Network.Block
import EventRules.Proofs.Function.Subnet
import EventRules.Proofs.Transformation.Forms
import EventRules.Proofs.Enrichment.Store
import EventRules.Proofs.Function.Lookup
import EventRules.Proofs.Text.LetterCase
import EventRules.Proofs.Token.LetterCase
import EventRules.Proofs.Token.Recasing
import EventRules.Proofs.Parser.Lockstep
import EventRules.Proofs.Parser.KeywordCase
