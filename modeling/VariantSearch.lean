import VariantSearch.Attempt
import VariantSearch.Binary64
import VariantSearch.Binary64.Extended
import VariantSearch.Binary64.Shortest
import VariantSearch.Catalog
import VariantSearch.CommandLine
import VariantSearch.CommandLine.Arguments
import VariantSearch.Config
import VariantSearch.Config.Environment
import VariantSearch.Config.Tree
import VariantSearch.Corpus
import VariantSearch.Engine
import VariantSearch.Engine.Either
import VariantSearch.Engine.Memory
import VariantSearch.Engine.Remote
import VariantSearch.Expansion
import VariantSearch.Facet
import VariantSearch.Facet.Filter
import VariantSearch.Failure
import VariantSearch.Json.Basic
import VariantSearch.Json.Number
import VariantSearch.Json.Parser
import VariantSearch.Json.Printer
import VariantSearch.Json.Syntax
import VariantSearch.Main
import VariantSearch.Metrics
import VariantSearch.Ranking
import VariantSearch.Registry
import VariantSearch.Request
import VariantSearch.Router
import VariantSearch.Router.Pattern
import VariantSearch.Service
import VariantSearch.Settings
import VariantSearch.Settings.Document
import VariantSearch.Startup
import VariantSearch.Text.Alphabetic
import VariantSearch.Text.Blank
import VariantSearch.Text.CaseFold
import VariantSearch.Text.Cased
import VariantSearch.Text.Integer
import VariantSearch.Text.LowerCase
import VariantSearch.Text.Marked
import VariantSearch.Text.Numeric
import VariantSearch.Text.Printable
import VariantSearch.Text.Quoted
import VariantSearch.Text.Ranges
import VariantSearch.Text.Search
import VariantSearch.Text.Split
import VariantSearch.Text.Utf8
import VariantSearch.Text.WordChar
import VariantSearch.TextMap
import VariantSearch.TextSet
import VariantSearch.Toml.Document
import VariantSearch.Toml.Lexeme
import VariantSearch.Toml.Scalar
import VariantSearch.Variant
import VariantSearch.Variant.Check
import VariantSearch.Web.Exchange
import VariantSearch.Web.Form
import VariantSearch.Web.Percent
import VariantSearch.Web.Status
import VariantSearch.Web.Target
import VariantSearch.Web.Url
import VariantSearch.Word
import VariantSearch.Proofs.Keeping
import VariantSearch.Proofs.Operations
import VariantSearch.Proofs.TextMap
import VariantSearch.Proofs.MemoryCalls
import VariantSearch.Proofs.StoredSettings
import VariantSearch.Proofs.ByteOrder
import VariantSearch.Proofs.History
import VariantSearch.Proofs.Isolation
import VariantSearch.Proofs.RequestChecks
import VariantSearch.Proofs.SearchPage
import VariantSearch.Proofs.FilterReading
import VariantSearch.Proofs.RemoteCalls
import VariantSearch.Proofs.AcceptedSettings
import VariantSearch.Proofs.Paging
import VariantSearch.Proofs.KeyedDocuments
import VariantSearch.Proofs.IndexKeys
import VariantSearch.Proofs.Seeding
import VariantSearch.Proofs.ChainRuns
import VariantSearch.Proofs.ExpandedRequests
import VariantSearch.Proofs.JsonText
import VariantSearch.Proofs.SettingsDocument
import VariantSearch.Proofs.VariantPage
import VariantSearch.Proofs.SearchReplies
import VariantSearch.Proofs.IndexAddress
import VariantSearch.Proofs.Accounting
import VariantSearch.Proofs.TwinRoutes
import VariantSearch.Proofs.RefusedBatches
import VariantSearch.Proofs.StoredDocuments
import VariantSearch.Proofs.ServiceStart
import VariantSearch.Proofs.ClientSearch
import VariantSearch.Proofs.BrokenConditions
import VariantSearch.Proofs.PushCalls
import VariantSearch.Proofs.PushRounds
import VariantSearch.Proofs.CaseForms
import VariantSearch.Proofs.OwnTriggers
import VariantSearch.Proofs.RankingTexts
import VariantSearch.Proofs.EmbeddedTriggers
import VariantSearch.Proofs.SiblingPaths
import VariantSearch.Proofs.TaskReplies
import VariantSearch.Proofs.TaskPolls
import VariantSearch.Proofs.IndexCreation
import VariantSearch.Proofs.Trimming
import VariantSearch.Proofs.FacetGrammar
import VariantSearch.Proofs.FacetLists
import VariantSearch.Proofs.SortParameter
import VariantSearch.Proofs.AlikeDocuments
import VariantSearch.Proofs.PermutedDocuments
import VariantSearch.Proofs.Reregistration
import VariantSearch.Proofs.SearchLog
import VariantSearch.Proofs.RequestConditions
import VariantSearch.Proofs.AsciiCase
import VariantSearch.Proofs.MatchModes
import VariantSearch.Proofs.SynonymUnion
import VariantSearch.Proofs.DocumentIdentity
import VariantSearch.Proofs.Comparison
