import ProxyCheck.CommandLine.Flag
import ProxyCheck.CommandLine.Message
import ProxyCheck.CommandLine.Parser
import ProxyCheck.Domain.Ascii
import ProxyCheck.Domain.Label
import ProxyCheck.Domain.Mapping
import ProxyCheck.Domain.MappingTable
import ProxyCheck.Domain.Punycode
import ProxyCheck.Duration
import ProxyCheck.Endpoint
import ProxyCheck.Http.Client
import ProxyCheck.Http.Fields
import ProxyCheck.Http.Receiver
import ProxyCheck.Http.RequestHead
import ProxyCheck.Http.Route
import ProxyCheck.Http.Uri
import ProxyCheck.Journal.Append
import ProxyCheck.Journal.Archive
import ProxyCheck.Journal.Directory
import ProxyCheck.Journal.Entry
import ProxyCheck.Journal.Folder
import ProxyCheck.Journal.Gzip
import ProxyCheck.Journal.Logger
import ProxyCheck.Journal.Note
import ProxyCheck.Json.Basic
import ProxyCheck.Json.Reader
import ProxyCheck.Json.Record
import ProxyCheck.Json.Scanner
import ProxyCheck.Json.Writer
import ProxyCheck.Main
import ProxyCheck.NameMap
import ProxyCheck.Number.Binary64
import ProxyCheck.Number.Shortest
import ProxyCheck.Probe.DetailJson
import ProxyCheck.Probe.Error
import ProxyCheck.Probe.Outcome
import ProxyCheck.Probe.Report
import ProxyCheck.Probe.Request
import ProxyCheck.Probe.Run
import ProxyCheck.Program
import ProxyCheck.Proofs.Endpoint
import ProxyCheck.Proofs.Journal.Append
import ProxyCheck.Proofs.Journal.ArchiveName
import ProxyCheck.Proofs.Journal.Calls
import ProxyCheck.Proofs.Journal.Directory
import ProxyCheck.Proofs.Journal.Entry
import ProxyCheck.Proofs.Journal.Growth
import ProxyCheck.Proofs.Journal.History
import ProxyCheck.Proofs.Journal.Interrupted
import ProxyCheck.Proofs.Journal.Lines
import ProxyCheck.Proofs.Journal.Prune
import ProxyCheck.Proofs.Journal.Rotation
import ProxyCheck.Proofs.Json.Members
import ProxyCheck.Proofs.Json.OneLine
import ProxyCheck.Proofs.Json.Record
import ProxyCheck.Proofs.Json.Scalar
import ProxyCheck.Proofs.Masking
import ProxyCheck.Proofs.NameMap
import ProxyCheck.Proofs.Probe.Independence
import ProxyCheck.Proofs.Probe.Request
import ProxyCheck.Proofs.Probe.RequestText
import ProxyCheck.Proofs.Probe.Secrecy
import ProxyCheck.Proofs.Probe.Story
import ProxyCheck.Proofs.Probe.Summary
import ProxyCheck.Proofs.Probe.TargetSecrecy
import ProxyCheck.Proofs.Redaction.NormalForm
import ProxyCheck.Proofs.Redaction.Pattern
import ProxyCheck.Proofs.Text.Digits
import ProxyCheck.Proofs.Text.Utf8
import ProxyCheck.Proofs.Text.Visible
import ProxyCheck.Proofs.Url.Authority
import ProxyCheck.Proofs.Url.Host
import ProxyCheck.Proofs.Url.Ipv4
import ProxyCheck.Proofs.Url.Ipv6
import ProxyCheck.Proofs.Url.Password
import ProxyCheck.Proofs.Url.Path
import ProxyCheck.Proofs.Url.Percent
import ProxyCheck.Proofs.Url.RoundTrip
import ProxyCheck.Redaction
import ProxyCheck.Text.Base64
import ProxyCheck.Text.Blank
import ProxyCheck.Text.Hex
import ProxyCheck.Text.Plain
import ProxyCheck.Text.Similarity
import ProxyCheck.Text.Utf8
import ProxyCheck.Unicode.BidiClassTable
import ProxyCheck.Unicode.CombiningClassTable
import ProxyCheck.Unicode.DecompositionTable
import ProxyCheck.Unicode.JoiningTypeTable
import ProxyCheck.Unicode.MarkTable
import ProxyCheck.Unicode.Normalization
import ProxyCheck.Unicode.Property
import ProxyCheck.Unicode.Span
import ProxyCheck.Url.Basic
import ProxyCheck.Url.Error
import ProxyCheck.Url.Host
import ProxyCheck.Url.Ipv4
import ProxyCheck.Url.Ipv6
import ProxyCheck.Url.Parser
import ProxyCheck.Url.Percent
import ProxyCheck.Proofs.Journal.Effect
import ProxyCheck.Proofs.Journal.Interleaving
import ProxyCheck.Proofs.Probe.TargetLog
import ProxyCheck.Proofs.Redaction.Keyword
import ProxyCheck.Proofs.Masking.Address
import ProxyCheck.Proofs.Masking.Password
import ProxyCheck.Proofs.Url.Place
import ProxyCheck.Proofs.Http.Agreement
import ProxyCheck.Proofs.Probe.DetailJson
import ProxyCheck.Proofs.Probe.Body
import ProxyCheck.Proofs.Masking.Refusal
import ProxyCheck.Proofs.Credentials
import ProxyCheck.Proofs.Journal.Surplus
import ProxyCheck.Proofs.Journal.Newest
import ProxyCheck.Proofs.Journal.Hindrance
import ProxyCheck.Proofs.Masking.Agreement
import ProxyCheck.Proofs.Redirection
import ProxyCheck.Proofs.Journal.NameSearch
import ProxyCheck.Proofs.Http.Fields
