import RemoteDisplay.Bytes
import RemoteDisplay.Canvas
import RemoteDisplay.Cli.Arguments
import RemoteDisplay.Cli.Setting
import RemoteDisplay.Cli.Viewing
import RemoteDisplay.Command
import RemoteDisplay.Command.Reader
import RemoteDisplay.Deflate.Bits
import RemoteDisplay.Deflate.Code
import RemoteDisplay.Deflate.Inflate
import RemoteDisplay.Deflate.Zlib
import RemoteDisplay.Frame.Picture
import RemoteDisplay.Frame.Rect
import RemoteDisplay.Frame.Wire
import RemoteDisplay.Geometry
import RemoteDisplay.Input.Capture
import RemoteDisplay.Input.Event
import RemoteDisplay.Input.Line
import RemoteDisplay.Input.Lines
import RemoteDisplay.Json.Basic
import RemoteDisplay.Json.Reader
import RemoteDisplay.Json.Record
import RemoteDisplay.Json.Token
import RemoteDisplay.Json.Values
import RemoteDisplay.Json.Writer
import RemoteDisplay.Link.Basic
import RemoteDisplay.Link.Network
import RemoteDisplay.Link.Rehearsal
import RemoteDisplay.Main
import RemoteDisplay.Number.Decimal
import RemoteDisplay.Number.Real
import RemoteDisplay.Png.Chunk
import RemoteDisplay.Png.Decode
import RemoteDisplay.Png.Encode
import RemoteDisplay.Png.Header
import RemoteDisplay.Png.Pass
import RemoteDisplay.Png.Preamble
import RemoteDisplay.Png.Sample
import RemoteDisplay.Png.Scanline
import RemoteDisplay.Proofs.Binary.Arithmetic
import RemoteDisplay.Proofs.Binary.Nearest
import RemoteDisplay.Proofs.Binary.Packing
import RemoteDisplay.Proofs.Binary.Rounding
import RemoteDisplay.Proofs.Binary.Sign
import RemoteDisplay.Proofs.Binary.Value
import RemoteDisplay.Proofs.Command.Grammar
import RemoteDisplay.Proofs.Command.RoundTrip
import RemoteDisplay.Proofs.Double.Decimal
import RemoteDisplay.Proofs.Double.Value
import RemoteDisplay.Proofs.Frame.Codec
import RemoteDisplay.Proofs.Geometry.Exact
import RemoteDisplay.Proofs.Geometry.Monotone
import RemoteDisplay.Proofs.Input.Cutting
import RemoteDisplay.Proofs.Input.Following
import RemoteDisplay.Proofs.Input.Forwarding
import RemoteDisplay.Proofs.Input.Grammar
import RemoteDisplay.Proofs.Input.Holding
import RemoteDisplay.Proofs.Json.Layout
import RemoteDisplay.Proofs.Json.Records
import RemoteDisplay.Proofs.Json.Rereading
import RemoteDisplay.Proofs.Json.RoundTrip
import RemoteDisplay.Proofs.Json.Scanning
import RemoteDisplay.Proofs.Link.Conservation
import RemoteDisplay.Proofs.Link.Delivery
import RemoteDisplay.Proofs.Link.History
import RemoteDisplay.Proofs.Link.Lifecycle
import RemoteDisplay.Proofs.Link.Painting
import RemoteDisplay.Proofs.Link.Race
import RemoteDisplay.Proofs.Lists
import RemoteDisplay.Proofs.Number.Literal
import RemoteDisplay.Proofs.Number.Spelling
import RemoteDisplay.Proofs.Raster.Blending
import RemoteDisplay.Proofs.Raster.Clipping
import RemoteDisplay.Proofs.Raster.Compositing
import RemoteDisplay.Proofs.Raster.Covering
import RemoteDisplay.Proofs.Raster.Faults
import RemoteDisplay.Proofs.Raster.Keeping
import RemoteDisplay.Proofs.Raster.Layers
import RemoteDisplay.Proofs.Raster.Locality
import RemoteDisplay.Proofs.Raster.Outward
import RemoteDisplay.Proofs.Raster.Sampling
import RemoteDisplay.Proofs.Raster.Sequence
import RemoteDisplay.Proofs.Raster.Span
import RemoteDisplay.Proofs.Session.Operations
import RemoteDisplay.Proofs.Single.Value
import RemoteDisplay.Proofs.Stage.Attaching
import RemoteDisplay.Proofs.Stage.Counting
import RemoteDisplay.Proofs.Stage.Gating
import RemoteDisplay.Proofs.Stage.History
import RemoteDisplay.Proofs.Stage.Reachable
import RemoteDisplay.Proofs.Stage.Reopening
import RemoteDisplay.Proofs.Stage.Sides
import RemoteDisplay.Proofs.Text.Letters
import RemoteDisplay.Proofs.Text.Tokens
import RemoteDisplay.Proofs.Text.Utf8
import RemoteDisplay.Raster.Checked
import RemoteDisplay.Raster.Draw
import RemoteDisplay.Raster.Image
import RemoteDisplay.Raster.Pixel
import RemoteDisplay.Raster.Resample
import RemoteDisplay.Raster.Span
import RemoteDisplay.Session.Config
import RemoteDisplay.Session.Snapshot
import RemoteDisplay.Session.Stage
import RemoteDisplay.Session.State
import RemoteDisplay.SessionId
import RemoteDisplay.Text.Blank
import RemoteDisplay.Text.Combining
import RemoteDisplay.Text.Hex
import RemoteDisplay.Text.Quoted
import RemoteDisplay.Text.Ranges
import RemoteDisplay.Text.Unprintable
