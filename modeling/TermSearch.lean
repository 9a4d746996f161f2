import TermSearch.Definition.Basic
import TermSearch.Definition.Compiler
import TermSearch.Definition.Matcher
import TermSearch.Definition.Rule
import TermSearch.Definition.Surface
import TermSearch.Definition.Visit
import TermSearch.Document.Collection
import TermSearch.Document.Compare
import TermSearch.Document.Filter
import TermSearch.Document.Path
import TermSearch.Document.Selector
import TermSearch.Document.Store
import TermSearch.Json.Basic
import TermSearch.Json.Reader
import TermSearch.Json.Record
import TermSearch.Json.Text
import TermSearch.KeyMap
import TermSearch.Number.Binary64
import TermSearch.Number.Decimal
import TermSearch.Number.Shortest
import TermSearch.PatternEngine
import TermSearch.Proofs.KeyMap
import TermSearch.Proofs.Definition.Stages
import TermSearch.Proofs.Document.Comparison
import TermSearch.Proofs.Document.Meaning
import TermSearch.Query.Basic
import TermSearch.Query.Clause
import TermSearch.Query.Error
import TermSearch.Query.Scope
import TermSearch.Query.Transcript
import TermSearch.Regex.Basic
import TermSearch.Regex.Bracket
import TermSearch.Regex.BreakProperty
import TermSearch.Regex.CharSet
import TermSearch.Regex.Escape
import TermSearch.Regex.Reader
import TermSearch.Search.Exchange
import TermSearch.Search.Lexeme
import TermSearch.Search.Operator
import TermSearch.Search.Slot
import TermSearch.Search.Term
import TermSearch.Search.Tree
import TermSearch.Sql.Config
import TermSearch.Sql.Expressions
import TermSearch.Sql.Identifier
import TermSearch.Sql.Placeholder
import TermSearch.Sql.Query
import TermSearch.Sql.Statement
import TermSearch.Text.Blank
import TermSearch.Text.Split
import TermSearch.Toml.Reader
import TermSearch.Toml.Table
import TermSearch.Unicode.Age
import TermSearch.Unicode.CaseFold
import TermSearch.Unicode.Category
import TermSearch.Unicode.CodeSet
import TermSearch.Unicode.Property
import TermSearch.Unicode.Script
import TermSearch.Wildcard
import TermSearch.Proofs.Definition.SurfaceStages
import TermSearch.Proofs.Definition.TreeMeaning
import TermSearch.Proofs.Definition.TwoSearches
import TermSearch.Proofs.Document.SearchMeaning
import TermSearch.Proofs.Definition.Invariant
import TermSearch.Proofs.Document.BaseScope
import TermSearch.Proofs.Query.Reachable
import TermSearch.Proofs.Sql.Outline
import TermSearch.Proofs.Sql.Markers
import TermSearch.Proofs.Sql.Reading
import TermSearch.Proofs.Sql.Precedence
import TermSearch.Proofs.Sql.Values
import TermSearch.Proofs.Search.Tiling
import TermSearch.Proofs.Search.Runs
import TermSearch.Proofs.Search.QuotedRoundtrip
import TermSearch.Proofs.Search.SourceText
import TermSearch.Proofs.Search.Binding
import TermSearch.Proofs.Definition.Answering
import TermSearch.Proofs.Definition.Course
import TermSearch.Proofs.Definition.AliasTable
import TermSearch.Proofs.Query.Setting
import TermSearch.Proofs.Definition.RuleRun
import TermSearch.Proofs.Definition.LastSetting
import TermSearch.Proofs.Definition.Lineage
import TermSearch.Proofs.Definition.Inheritance
import TermSearch.Proofs.Definition.Pipeline
import TermSearch.Proofs.Sql.Comparison
import TermSearch.Proofs.Definition.SearchFormula
import TermSearch.Proofs.Document.Reading
import TermSearch.Proofs.Sql.Conditions
import TermSearch.Proofs.Definition.TwoBackends
import TermSearch.Proofs.Definition.ConfiguredFields
import TermSearch.Proofs.PatternEngine
import TermSearch.Proofs.Regex.Lawful
import TermSearch.Proofs.Document.Answer
import TermSearch.Proofs.Document.Inverse
import TermSearch.Proofs.Document.Negation
import TermSearch.Proofs.Document.Refusal
import TermSearch.Proofs.Wildcard.Prefix
import TermSearch.Proofs.Sql.Like
import TermSearch.Proofs.Regex.Places
import TermSearch.Proofs.Unicode.CaseFold
import TermSearch.Proofs.Wildcard.Translations
import TermSearch.Proofs.Document.Conjunction
import TermSearch.Proofs.Document.Membership
import TermSearch.Proofs.Document.Grammar
import TermSearch.Proofs.Query.Failure
import TermSearch.Proofs.Query.Combination
import TermSearch.Proofs.Query.Lists
import TermSearch.Proofs.Query.Regrouping
import TermSearch.Proofs.Sorting
import TermSearch.Proofs.Document.Order
import TermSearch.Proofs.Document.Finding
import TermSearch.Proofs.Definition.IdleTerms
import TermSearch.Proofs.Query.Frame
import TermSearch.Proofs.Sql.Narrowing
import TermSearch.Proofs.Definition.Untouched
import TermSearch.Proofs.Document.Projection
import TermSearch.Proofs.Sql.NameTokens
import TermSearch.Proofs.Sql.Numbering
import TermSearch.Proofs.Document.Descent
import TermSearch.Proofs.Definition.Nesting
