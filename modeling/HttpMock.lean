import HttpMock.Assertions
import HttpMock.Bytes
import HttpMock.Cli.Command
import HttpMock.Cli.Flags
import HttpMock.Cli.Run
import HttpMock.Collection
import HttpMock.Decimal.Shortest
import HttpMock.Decimal.Text
import HttpMock.Diff.Sequence
import HttpMock.Diff.Unified
import HttpMock.Error
import HttpMock.Expectation.Basic
import HttpMock.Expectation.Config
import HttpMock.Expr.Check
import HttpMock.Expr.Eval
import HttpMock.Expr.Lex
import HttpMock.Expr.Parse
import HttpMock.Expr.Syntax
import HttpMock.Expr.Types
import HttpMock.Files.Glob
import HttpMock.Files.Tree
import HttpMock.Fixture.Build
import HttpMock.Fixture.Document
import HttpMock.Fixture.FromJson
import HttpMock.Fixture.FromYaml
import HttpMock.Fixture.Load
import HttpMock.Fixture.Parse
import HttpMock.Fixture.Shape
import HttpMock.Json.Diff
import HttpMock.Json.Path
import HttpMock.Json.Read
import HttpMock.Json.Value
import HttpMock.Json.Write
import HttpMock.Log.Level
import HttpMock.Log.Record
import HttpMock.Log.TestWriter
import HttpMock.Main
import HttpMock.Match.Matcher
import HttpMock.Match.Outcome
import HttpMock.Match.Report
import HttpMock.Predicate
import HttpMock.Proofs.CallOrder
import HttpMock.Proofs.Failures
import HttpMock.Proofs.FixtureBuild
import HttpMock.Proofs.FormBody
import HttpMock.Proofs.FormPattern
import HttpMock.Proofs.Handling
import HttpMock.Proofs.Lookup
import HttpMock.Proofs.LowerCase
import HttpMock.Proofs.MatcherOrder
import HttpMock.Proofs.NormalizeJson
import HttpMock.Proofs.JsonMatch
import HttpMock.Proofs.PartMatch
import HttpMock.Proofs.QueryRoundTrip
import HttpMock.Proofs.Queue
import HttpMock.Proofs.Replay
import HttpMock.Proofs.RequestLine
import HttpMock.Proofs.Resolution
import HttpMock.Proofs.ResponseBuild
import HttpMock.Proofs.Run
import HttpMock.Proofs.SelfMatch
import HttpMock.Proofs.StreamBody
import HttpMock.Proofs.TestLog
import HttpMock.Proofs.Truncation
import HttpMock.Proofs.UriTemplate
import HttpMock.Regex.Match
import HttpMock.Regex.Syntax
import HttpMock.Request.Basic
import HttpMock.Request.MediaType
import HttpMock.Request.Multipart
import HttpMock.Request.Normalize
import HttpMock.Request.Query
import HttpMock.Request.Render
import HttpMock.Request.Sniff
import HttpMock.Response.Builder
import HttpMock.Response.Queue
import HttpMock.Response.Status
import HttpMock.Session
import HttpMock.Table
import HttpMock.Text.Base64
import HttpMock.Text.Blank
import HttpMock.Text.Case
import HttpMock.Text.Percent
import HttpMock.Text.Printf
import HttpMock.Text.Quoted
import HttpMock.Text.Truncate
import HttpMock.Transport.Client
import HttpMock.Transport.Compact
import HttpMock.Transport.Url
import HttpMock.Xml.Canonical
import HttpMock.Xml.Token
import HttpMock.Yaml.Compose
import HttpMock.Yaml.Node
import HttpMock.Yaml.Scan
import HttpMock.Yaml.Token
import HttpMock.Proofs.NumberText
import HttpMock.Proofs.JsonText
