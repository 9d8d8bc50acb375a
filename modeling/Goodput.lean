import Goodput.Cli.Client
import Goodput.Cli.Scan
import Goodput.Cli.Server
import Goodput.Cli.Value
import Goodput.Client.Error
import Goodput.Client.PartitionRequest
import Goodput.Client.Report
import Goodput.Client.SplitRun
import Goodput.Conn
import Goodput.Endpoint
import Goodput.Event
import Goodput.FileTree
import Goodput.Http.ApiError
import Goodput.Http.App
import Goodput.Http.Body
import Goodput.Http.Connection
import Goodput.Http.Download
import Goodput.Http.Field
import Goodput.Http.Framing
import Goodput.Http.Percent
import Goodput.Http.Request
import Goodput.Http.RequestHead
import Goodput.Http.Response
import Goodput.Http.SplitPlan
import Goodput.Http.Target
import Goodput.Http.Upgrade
import Goodput.Http.Upload
import Goodput.Json.Basic
import Goodput.Json.Pretty
import Goodput.Json.Read
import Goodput.Json.Render
import Goodput.Launch.Client
import Goodput.Launch.Dotenv
import Goodput.Launch.Server
import Goodput.Launch.Surroundings
import Goodput.LogRecord
import Goodput.Loopback
import Goodput.Main
import Goodput.Meter
import Goodput.Ndt7.Measurement
import Goodput.Ndt7.Session
import Goodput.Ndt7.Sizer
import Goodput.Ndt7.Visit
import Goodput.Net.Address
import Goodput.Number.Binary64
import Goodput.Number.Rounding
import Goodput.Payload
import Goodput.Server.Lease
import Goodput.Server.Lifecycle
import Goodput.Server.Settings
import Goodput.Size
import Goodput.Span
import Goodput.Split.ByteRange
import Goodput.Split.Partition
import Goodput.Split.Policy
import Goodput.Split.RangeHeader
import Goodput.Split.StreamCount
import Goodput.Stream.Basic
import Goodput.Stream.Metered
import Goodput.Stream.Script
import Goodput.Text.Blank
import Goodput.Text.ByteText
import Goodput.Text.Decimal
import Goodput.Text.Printable
import Goodput.Text.Quoted
import Goodput.Text.Utf8
import Goodput.Tls.Base64
import Goodput.Tls.Handshake
import Goodput.Tls.Material
import Goodput.Tls.Pem
import Goodput.Tls.ServerName
import Goodput.Transfer.Basic
import Goodput.Transfer.Outcome
import Goodput.Proofs.Meter
import Goodput.Proofs.Upload
import Goodput.Proofs.Partition
import Goodput.Proofs.Policy
import Goodput.Proofs.Decimal
import Goodput.Proofs.DownloadSession
import Goodput.Proofs.Text
import Goodput.Proofs.RangeHeader
import Goodput.Proofs.Download
import Goodput.Proofs.SplitTransfer
import Goodput.Proofs.PartitionCover
import Goodput.Proofs.RangeRoundTrip
import Goodput.Proofs.DownloadAnswer
import Goodput.Proofs.ServerRun
import Goodput.Proofs.LedgerEntries
import Goodput.Proofs.TransferReports
import Goodput.Proofs.MeteredStream
import Goodput.Proofs.SplitReport
import Goodput.Proofs.JsonRoundTrip
import Goodput.Proofs.MeasurementRoundTrip
import Goodput.Proofs.FewestStreams
import Goodput.Proofs.RangeWords
import Goodput.Proofs.RangeGrammar
import Goodput.Proofs.ScannedValues
import Goodput.Proofs.StreamCountText
import Goodput.Proofs.Http2Settings
import Goodput.Proofs.PublishedPlan
import Goodput.Proofs.SizeText
import Goodput.Proofs.FloodSchedule
import Goodput.Proofs.UploadSession
import Goodput.Proofs.DownloadSamples
import Goodput.Proofs.PayloadReads
import Goodput.Proofs.SizerBounds
import Goodput.Proofs.SubprotocolOffers
