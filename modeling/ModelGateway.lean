import ModelGateway.Event.Basic
import ModelGateway.Event.Metrics
import ModelGateway.Event.Publisher
import ModelGateway.Failure
import ModelGateway.Files.Serve
import ModelGateway.Files.Tree
import ModelGateway.Gateway.Basic
import ModelGateway.Gateway.Client
import ModelGateway.Gateway.Route
import ModelGateway.Gateway.Server
import ModelGateway.Generation.Catalog
import ModelGateway.Generation.Config
import ModelGateway.Generation.Decode
import ModelGateway.Generation.Generator
import ModelGateway.Generation.Key
import ModelGateway.Generation.Mismatch
import ModelGateway.Generation.Normalize
import ModelGateway.Generation.Outcome
import ModelGateway.Generation.Payload
import ModelGateway.Generation.Response
import ModelGateway.Generation.Shape
import ModelGateway.Http.ContentType
import ModelGateway.Http.Date
import ModelGateway.Http.Form
import ModelGateway.Http.MediaType
import ModelGateway.Http.Message
import ModelGateway.Http.Multipart
import ModelGateway.Http.Path
import ModelGateway.Http.QuotedPrintable
import ModelGateway.Http.Range
import ModelGateway.Http.Target
import ModelGateway.Image.Bmp
import ModelGateway.Image.Checksum
import ModelGateway.Image.Decode
import ModelGateway.Image.Fault
import ModelGateway.Image.Gif
import ModelGateway.Image.Inflate
import ModelGateway.Image.Jpeg.Block
import ModelGateway.Image.Jpeg.Code
import ModelGateway.Image.Jpeg.Decode
import ModelGateway.Image.Jpeg.Frame
import ModelGateway.Image.Jpeg.Scan
import ModelGateway.Image.Jpeg.Stream
import ModelGateway.Image.Lzw
import ModelGateway.Image.Picture
import ModelGateway.Image.Png
import ModelGateway.Image.PngWriter
import ModelGateway.Image.Tiff
import ModelGateway.Image.Webp.Chance
import ModelGateway.Image.Webp.Lossless
import ModelGateway.Image.Webp.Lossy
import ModelGateway.Image.Webp.Size
import ModelGateway.Image.Zlib
import ModelGateway.Json.Basic
import ModelGateway.Json.Display
import ModelGateway.Json.Reader
import ModelGateway.Json.Writer
import ModelGateway.Locale.Messages
import ModelGateway.Locale.Registry
import ModelGateway.Locale.Tag
import ModelGateway.Log
import ModelGateway.Number.Binary
import ModelGateway.Number.Layout
import ModelGateway.Number.Numeral
import ModelGateway.Number.Shortest
import ModelGateway.Prompt.Request
import ModelGateway.Proofs.Acceptance
import ModelGateway.Proofs.Accounting
import ModelGateway.Proofs.AnalysisRoute
import ModelGateway.Proofs.AppShell
import ModelGateway.Proofs.Catalog
import ModelGateway.Proofs.Census
import ModelGateway.Proofs.Checked
import ModelGateway.Proofs.Confusion
import ModelGateway.Proofs.Correlation
import ModelGateway.Proofs.Correspondence
import ModelGateway.Proofs.Course
import ModelGateway.Proofs.Decoding
import ModelGateway.Proofs.Delivery
import ModelGateway.Proofs.Entrywise
import ModelGateway.Proofs.Fidelity
import ModelGateway.Proofs.FirstCandidate
import ModelGateway.Proofs.Grammar
import ModelGateway.Proofs.Handling
import ModelGateway.Proofs.Independence
import ModelGateway.Proofs.Interchange
import ModelGateway.Proofs.Keyless
import ModelGateway.Proofs.KnownFields
import ModelGateway.Proofs.Leader
import ModelGateway.Proofs.Limit
import ModelGateway.Proofs.Literal
import ModelGateway.Proofs.Number
import ModelGateway.Proofs.Passage
import ModelGateway.Proofs.PngFile
import ModelGateway.Proofs.PngPicture
import ModelGateway.Proofs.PngReader
import ModelGateway.Proofs.PngRows
import ModelGateway.Proofs.Position
import ModelGateway.Proofs.PromptFields
import ModelGateway.Proofs.PromptRoute
import ModelGateway.Proofs.Publication
import ModelGateway.Proofs.Reading
import ModelGateway.Proofs.Refusal
import ModelGateway.Proofs.Remarks
import ModelGateway.Proofs.Reordering
import ModelGateway.Proofs.Respelling
import ModelGateway.Proofs.Scope
import ModelGateway.Proofs.SingleCall
import ModelGateway.Proofs.Spelling
import ModelGateway.Proofs.Stored
import ModelGateway.Proofs.Submission
import ModelGateway.Proofs.Tally
import ModelGateway.Proofs.Trailing
import ModelGateway.Proofs.Unicode
import ModelGateway.Proofs.Unordered
import ModelGateway.Proofs.Uploads
import ModelGateway.Proofs.Verbatim
import ModelGateway.Proofs.WholePictures
import ModelGateway.Service.Access
import ModelGateway.Service.Analysis
import ModelGateway.Service.Prompting
import ModelGateway.Service.Step
import ModelGateway.Settings.Basic
import ModelGateway.Settings.Definitions
import ModelGateway.Text.Blank
import ModelGateway.Text.Bytes
import ModelGateway.Text.Printable
import ModelGateway.Text.Quoted
import ModelGateway.Text.Utf8
import ModelGateway.Time.Calendar
import ModelGateway.Time.Duration
import ModelGateway.Time.Instant
