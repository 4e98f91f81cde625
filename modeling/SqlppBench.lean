import SqlppBench.Command.Arguments
import SqlppBench.Command.Basic
import SqlppBench.Command.Help
import SqlppBench.Command.Run
import SqlppBench.Command.Switch
import SqlppBench.Config.Basic
import SqlppBench.Config.File
import SqlppBench.Config.Json
import SqlppBench.Config.Member
import SqlppBench.Config.Properties
import SqlppBench.Config.Validation
import SqlppBench.Config.Yaml
import SqlppBench.Connector.Basic
import SqlppBench.Connector.Catalog
import SqlppBench.Connector.ResultCursor
import SqlppBench.Connector.ServiceMessage
import SqlppBench.Decimal.Shortest
import SqlppBench.Dialogue
import SqlppBench.Endpoint
import SqlppBench.Environment.Dotenv
import SqlppBench.Environment.Placeholder
import SqlppBench.Error
import SqlppBench.Executor
import SqlppBench.FeedWriter
import SqlppBench.Files
import SqlppBench.Http.Answer
import SqlppBench.Http.Reason
import SqlppBench.Http.Request
import SqlppBench.Http.Wire
import SqlppBench.Json.Decode
import SqlppBench.Json.Error
import SqlppBench.Json.Print
import SqlppBench.Json.Read
import SqlppBench.Json.Token
import SqlppBench.Json.Value
import SqlppBench.Load
import SqlppBench.Main
import SqlppBench.Mismatch
import SqlppBench.Number
import SqlppBench.Operation
import SqlppBench.Record
import SqlppBench.Schema
import SqlppBench.Sqlpp.Literal
import SqlppBench.Sqlpp.Statement
import SqlppBench.Status
import SqlppBench.Summary
import SqlppBench.Text.Alphanumeric
import SqlppBench.Text.Blank
import SqlppBench.Text.Hex
import SqlppBench.Text.Numeral
import SqlppBench.Text.Printable
import SqlppBench.Text.Quoted
import SqlppBench.Text.Ranges
import SqlppBench.Text.Utf8
import SqlppBench.Url.Basic
import SqlppBench.Url.Host
import SqlppBench.Url.Idna
import SqlppBench.Url.Percent
import SqlppBench.World
import SqlppBench.Yaml.Cursor
import SqlppBench.Yaml.Layout
import SqlppBench.Yaml.Load
import SqlppBench.Yaml.Node
import SqlppBench.Yaml.Plain
import SqlppBench.Yaml.Print
import SqlppBench.Yaml.Property
import SqlppBench.Yaml.Scalar
import SqlppBench.Yaml.Token
import SqlppBench.Yaml.Value
import SqlppBench.Proofs.Session
import SqlppBench.Proofs.Transcript
import SqlppBench.Proofs.Connector.Exchange
import SqlppBench.Proofs.Connector.Discipline
import SqlppBench.Proofs.Executor.Session
import SqlppBench.Proofs.Executor.Delivery
import SqlppBench.Proofs.Text.Hex
import SqlppBench.Proofs.Text.Numeral
import SqlppBench.Proofs.Sqlpp.Reading
import SqlppBench.Proofs.Sqlpp.Keys
import SqlppBench.Proofs.Http.Lines
import SqlppBench.Proofs.Json.ReadBack
import SqlppBench.Proofs.Connector.Framing
import SqlppBench.Proofs.Record
import SqlppBench.Proofs.Executor.RoundTrip
import SqlppBench.Proofs.Schema
import SqlppBench.Proofs.Sqlpp.Constructors
import SqlppBench.Proofs.Executor.Course
import SqlppBench.Proofs.Executor.Readiness
import SqlppBench.Proofs.Executor.CutOff
import SqlppBench.Proofs.Executor.Outcomes
import SqlppBench.Proofs.Executor.Transcripts
import SqlppBench.Proofs.Command.Writes
import SqlppBench.Proofs.Summary
import SqlppBench.Proofs.Load.Shares
import SqlppBench.Proofs.Executor.Gathering
import SqlppBench.Proofs.Load.Clients
import SqlppBench.Proofs.Load.Accounts
import SqlppBench.Proofs.Executor.Feeding
import SqlppBench.Proofs.Sqlpp.Projections
import SqlppBench.Proofs.Sqlpp.Store
import SqlppBench.Proofs.Executor.Updating
import SqlppBench.Proofs.Connector.Descriptions
import SqlppBench.Proofs.Connector.Catalog
import SqlppBench.Proofs.Executor.Discovery
import SqlppBench.Proofs.Executor.Failures
import SqlppBench.Proofs.Command.Overrides
import SqlppBench.Proofs.Connector.Visibility
import SqlppBench.Proofs.Executor.Lookups
import SqlppBench.Proofs.Json.Tokens
import SqlppBench.Proofs.Json.Grammar
import SqlppBench.Proofs.Json.Skipping
import SqlppBench.Proofs.Members
import SqlppBench.Proofs.RecordLines
import SqlppBench.Proofs.Json.Paths
import SqlppBench.Proofs.Text.Pieces
import SqlppBench.Proofs.Connector.Messages
import SqlppBench.Proofs.Connector.Refusals
import SqlppBench.Proofs.Merging
import SqlppBench.Proofs.Config.Drafts
import SqlppBench.Proofs.Config.Styles
import SqlppBench.Proofs.Environment.Placeholders
import SqlppBench.Proofs.Peers
import SqlppBench.Proofs.Executor.StatementLog
import SqlppBench.Proofs.Json.Written
import SqlppBench.Proofs.Json.Records
import SqlppBench.Proofs.Config.Objects
import SqlppBench.Proofs.JsonForms
import SqlppBench.Proofs.Url.Hosts
import SqlppBench.Proofs.Url.Authority
import SqlppBench.Proofs.Endpoint
import SqlppBench.Proofs.Config.Names
import SqlppBench.Proofs.Sqlpp.Tokens
import SqlppBench.Proofs.Config.Requirements
import SqlppBench.Proofs.Executor.Schemas
