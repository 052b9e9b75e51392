import Glitch.Chain
import Glitch.Cli.Console
import Glitch.Cli.Grammar
import Glitch.Cli.Help
import Glitch.Cli.LogFilter
import Glitch.Cli.Parse
import Glitch.Cli.Program
import Glitch.Cli.Run
import Glitch.Cli.Similar
import Glitch.Cli.Stack
import Glitch.Codec.Deflate
import Glitch.Codec.Deflate.Fast
import Glitch.Codec.Deflate.Inflate
import Glitch.Codec.Frame
import Glitch.Codec.Image
import Glitch.Codec.Jpeg.Color
import Glitch.Codec.Jpeg.Dct
import Glitch.Codec.Jpeg.Decode
import Glitch.Codec.Jpeg.Encode
import Glitch.Codec.Jpeg.Entropy
import Glitch.Codec.Jpeg.Inverse
import Glitch.Codec.Jpeg.Lossless
import Glitch.Codec.Jpeg.Segments
import Glitch.Codec.Jpeg.Stream
import Glitch.Codec.Jpeg.Tables
import Glitch.Codec.Png.Chunk
import Glitch.Codec.Png.Decode
import Glitch.Codec.Png.Encode
import Glitch.Codec.Png.Filter
import Glitch.Codec.Png.Info
import Glitch.Codec.Png.Pixels
import Glitch.Composite.Blend
import Glitch.Composite.Layer
import Glitch.Config.Basic
import Glitch.Config.File
import Glitch.Data.Path
import Glitch.Data.Text
import Glitch.Data.Timestamp
import Glitch.Disk
import Glitch.Effect.Basic
import Glitch.Effect.Container
import Glitch.Effect.Kernel.ChannelShift
import Glitch.Effect.Kernel.Color
import Glitch.Effect.Kernel.Echo
import Glitch.Effect.Kernel.Noise
import Glitch.Effect.Kernel.Vhs
import Glitch.Effect.Param
import Glitch.Effect.Registry
import Glitch.Effect.Spec
import Glitch.Error
import Glitch.Export.Job
import Glitch.Export.Manager
import Glitch.Export.Worker
import Glitch.Float.Binary
import Glitch.Float.Decimal
import Glitch.Form.Chain
import Glitch.Form.Config
import Glitch.Form.Effect
import Glitch.Form.Export
import Glitch.Frame.Basic
import Glitch.Frame.Mask
import Glitch.Json.Decode
import Glitch.Json.Read
import Glitch.Json.Value
import Glitch.Log
import Glitch.Main
import Glitch.Media.Backend
import Glitch.Media.Pattern
import Glitch.Random.ChaCha
import Glitch.Random.Uniform
import Glitch.Ring.Header
import Glitch.Ring.Host
import Glitch.Ring.Store
import Glitch.Seed.Sha256
import Glitch.Service.Basic
import Glitch.Service.Cli
import Glitch.Service.Codec
import Glitch.Service.Config
import Glitch.Service.Dispatch
import Glitch.Service.Effects
import Glitch.Service.Export
import Glitch.Service.Forms
import Glitch.Service.Frames
import Glitch.Service.Ring
import Glitch.Service.Video
import Glitch.Toml.Document
import Glitch.Toml.Lexeme
import Glitch.Toml.Print
import Glitch.Toml.Value
import Glitch.Video.Probe
import Glitch.Video.ToolJson
import Glitch.Video.Tools
import Glitch.Video.Transcoder
import Glitch.Proofs.RingLayout
import Glitch.Proofs.RingWrites
import Glitch.Proofs.ExportManager
import Glitch.Proofs.ExportTrace
import Glitch.Proofs.ChainLaws
import Glitch.Proofs.ChainValidation
import Glitch.Proofs.ExportFailures
import Glitch.Proofs.BinarySign
import Glitch.Proofs.ContainerMix
import Glitch.Proofs.ExportCancel
import Glitch.Proofs.EchoTrail
import Glitch.Proofs.SeedKeys
import Glitch.Proofs.HeaderBytes
import Glitch.Proofs.EncodeFit
import Glitch.Proofs.EffectShape
import Glitch.Proofs.ChannelRoll
import Glitch.Proofs.ParamCleaning
import Glitch.Proofs.DecoderStream
import Glitch.Proofs.EncoderGeometry
import Glitch.Proofs.SlotReads
import Glitch.Proofs.ValidSettings
