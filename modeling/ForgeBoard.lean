import ForgeBoard.Calendar.Date
import ForgeBoard.Calendar.TimeSpan
import ForgeBoard.Calendar.Timestamp
import ForgeBoard.Client.Error
import ForgeBoard.Client.GitHub
import ForgeBoard.Client.GitLab
import ForgeBoard.Client.Program
import ForgeBoard.Client.RetryPolicy
import ForgeBoard.Client.Shared
import ForgeBoard.Client.TtlCache
import ForgeBoard.Dashboard.Config
import ForgeBoard.Dashboard.Report
import ForgeBoard.Data.Binary64
import ForgeBoard.Data.Decode
import ForgeBoard.Data.Json
import ForgeBoard.Data.JsonText
import ForgeBoard.Data.Toml
import ForgeBoard.Data.Toml.Number
import ForgeBoard.Data.Toml.Quoted
import ForgeBoard.Data.Toml.Table
import ForgeBoard.Filter.Expr
import ForgeBoard.Filter.Legacy
import ForgeBoard.Filter.Lexer
import ForgeBoard.Filter.Normal
import ForgeBoard.Filter.Parser
import ForgeBoard.Filter.Printer
import ForgeBoard.Filter.Routing
import ForgeBoard.Filter.Token
import ForgeBoard.Forge.Instance
import ForgeBoard.Forge.Kind
import ForgeBoard.Forge.Pattern
import ForgeBoard.Http.Domain
import ForgeBoard.Http.Domain.Direction
import ForgeBoard.Http.Domain.Joiner
import ForgeBoard.Http.Domain.Table
import ForgeBoard.Http.Host
import ForgeBoard.Http.Message
import ForgeBoard.Http.RetryAfter
import ForgeBoard.Http.Url
import ForgeBoard.Main
import ForgeBoard.Query.FilterText
import ForgeBoard.Query.Listing
import ForgeBoard.Query.Operand
import ForgeBoard.Query.Search
import ForgeBoard.Text.Composition
import ForgeBoard.Text.Composition.Table
import ForgeBoard.Text.Digits
import ForgeBoard.Text.Letter
import ForgeBoard.Text.Lowercase
import ForgeBoard.Text.Mark
import ForgeBoard.Text.Parts
import ForgeBoard.Text.Punycode
import ForgeBoard.Text.Quoted
import ForgeBoard.Text.Tables
import ForgeBoard.Tracer
import ForgeBoard.WorkItem.Basic
import ForgeBoard.WorkItem.Record
import ForgeBoard.Proofs.Calendar.Written
import ForgeBoard.Proofs.Calendar.Days
import ForgeBoard.Proofs.Calendar.Instants
import ForgeBoard.Proofs.Filter.Grammar
import ForgeBoard.Proofs.Filter.Scan
import ForgeBoard.Proofs.Filter.Parse.Complete
import ForgeBoard.Proofs.Filter.Lexemes
import ForgeBoard.Proofs.Filter.RoundTrip
import ForgeBoard.Proofs.Filter.Routing
import ForgeBoard.Proofs.Query.Search.Reading
import ForgeBoard.Proofs.Query.Search.Beside
import ForgeBoard.Proofs.Text.Quoted
import ForgeBoard.Proofs.Query.Search.Meaning
import ForgeBoard.Proofs.Filter.Legacy
import ForgeBoard.Proofs.Filter.Normal
import ForgeBoard.Proofs.Query.Operand
import ForgeBoard.Proofs.Query.FilterText
import ForgeBoard.Proofs.Query.Search.Terms
import ForgeBoard.Proofs.Query.Search.Spliced
import ForgeBoard.Proofs.Query.Search.Supported
import ForgeBoard.Proofs.Query.Search.Accepted
import ForgeBoard.Proofs.Query.Search.Phrase
import ForgeBoard.Proofs.Query.Search.Sought
import ForgeBoard.Proofs.Query.Listing.Params
import ForgeBoard.Proofs.Query.Listing.Demand
import ForgeBoard.Proofs.Query.Listing.Kept
import ForgeBoard.Proofs.Query.Listing.Refused
import ForgeBoard.Proofs.Query.Listing.Accepted
import ForgeBoard.Proofs.Forge.Selection
import ForgeBoard.Proofs.Forge.Order
import ForgeBoard.Proofs.Filter.Alternatives
import ForgeBoard.Proofs.Filter.Admission
import ForgeBoard.Proofs.Client.Ends
import ForgeBoard.Proofs.Client.Prepared
import ForgeBoard.Proofs.Dashboard.Routed
import ForgeBoard.Proofs.Filter.Stages
import ForgeBoard.Proofs.Client.TtlCache.Entries
import ForgeBoard.Proofs.Client.TtlCache.Log
import ForgeBoard.Proofs.Client.Identity.Known
import ForgeBoard.Proofs.Client.Identity.Session
import ForgeBoard.Proofs.Client.Runs
import ForgeBoard.Proofs.Filter.Unnamed
import ForgeBoard.Proofs.Query.Login
import ForgeBoard.Proofs.Client.Refusal
import ForgeBoard.Proofs.Client.Fetch
import ForgeBoard.Proofs.Client.Retry
import ForgeBoard.Proofs.Filter.StageOrder
import ForgeBoard.Proofs.Query.Regroup
import ForgeBoard.Proofs.Query.SameQuery
import ForgeBoard.Proofs.Filter.Rewritten
import ForgeBoard.Proofs.Filter.Placeholders
import ForgeBoard.Proofs.Query.NormalForm
import ForgeBoard.Proofs.Query.Listing.NamedUsers
import ForgeBoard.Proofs.Query.RelativeDay
import ForgeBoard.Proofs.Filter.Alone
import ForgeBoard.Proofs.Filter.Partition
import ForgeBoard.Proofs.Filter.Lists
import ForgeBoard.Proofs.Filter.FieldNames
import ForgeBoard.Proofs.Filter.Munch
import ForgeBoard.Proofs.Filter.Spacing
import ForgeBoard.Proofs.Query.Blame
import ForgeBoard.Proofs.Text.Lowercase
import ForgeBoard.Proofs.Client.Cells
import ForgeBoard.Proofs.Client.Contract
import ForgeBoard.Proofs.Client.Footprint
import ForgeBoard.Proofs.Client.Honest
import ForgeBoard.Proofs.Client.Origin
import ForgeBoard.Proofs.Client.Plans
import ForgeBoard.Proofs.Client.Pool
import ForgeBoard.Proofs.Client.ScopedKey
import ForgeBoard.Proofs.Text.Words
import ForgeBoard.Proofs.Client.TypeTerm
import ForgeBoard.Proofs.Client.Users
import ForgeBoard.Proofs.Client.Writes
import ForgeBoard.Proofs.Dashboard.Independent
import ForgeBoard.Proofs.Filter.Parse.Complaints
import ForgeBoard.Proofs.Filter.Located
import ForgeBoard.Proofs.Client.Backoff
import ForgeBoard.Proofs.Dashboard.Instances
import ForgeBoard.Proofs.Client.Identity.Usable
import ForgeBoard.Proofs.WorkItem.ProjectPath
import ForgeBoard.Proofs.Filter.Qualifier
import ForgeBoard.Proofs.Text.Percent
import ForgeBoard.Proofs.Client.ItemEndpoint
import ForgeBoard.Proofs.Client.Reads
import ForgeBoard.Proofs.Client.LookUps.Course
import ForgeBoard.Proofs.Client.LookUps.Names
import ForgeBoard.Proofs.Client.LookUps.Session
