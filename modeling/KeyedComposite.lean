import KeyedComposite.Numeric.Word
import KeyedComposite.Numeric.Binary64
import KeyedComposite.Numeric.Shortest
import KeyedComposite.Numeric.Fixed
import KeyedComposite.Numeric.FloatRead
import KeyedComposite.Numeric.RatioRead
import KeyedComposite.Text.RangeTable
import KeyedComposite.Text.Printable
import KeyedComposite.Text.LowerCase
import KeyedComposite.Text.Blank
import KeyedComposite.Text.Quoted
import KeyedComposite.Text.Uuid
import KeyedComposite.Failure
import KeyedComposite.Time.Seconds
import KeyedComposite.Time.FrameFormat
import KeyedComposite.Markup.Element
import KeyedComposite.Project.Interval
import KeyedComposite.Composite.Document
import KeyedComposite.Composite.Registry
import KeyedComposite.Composite.Check
import KeyedComposite.Composite.Encode
import KeyedComposite.Composite.Ids
import KeyedComposite.Composite.Build
import KeyedComposite.Numeric.NumberError
import KeyedComposite.Keying.Color
import KeyedComposite.Keying.Modes
import KeyedComposite.Keying.Params
import KeyedComposite.Text.Utf8
import KeyedComposite.Text.NormalTable
import KeyedComposite.Text.Normal
import KeyedComposite.Text.Ipv6
import KeyedComposite.Text.Url
import KeyedComposite.Markup.NameChar
import KeyedComposite.Markup.Token
import KeyedComposite.Markup.Node
import KeyedComposite.Markup.Parse
import KeyedComposite.Project.Format
import KeyedComposite.Project.Source
import KeyedComposite.Project.Extract
import KeyedComposite.Host.Path
import KeyedComposite.Host.Programs
import KeyedComposite.Host.Tools
import KeyedComposite.Texture.Generator
import KeyedComposite.Render.Melt
import KeyedComposite.Time.Span
import KeyedComposite.Time.Instant
import KeyedComposite.Log.Level
import KeyedComposite.Log.Attr
import KeyedComposite.Log.Console
import KeyedComposite.Log.JsonLine
import KeyedComposite.Log.Handler
import KeyedComposite.Host.Volume
import KeyedComposite.Toml.Document
import KeyedComposite.Toml.Read
import KeyedComposite.Toml.Number
import KeyedComposite.Toml.Seen
import KeyedComposite.Toml.DateTime
import KeyedComposite.Settings.Basic
import KeyedComposite.Settings.Schema
import KeyedComposite.Settings.Check
import KeyedComposite.Settings.Decode
import KeyedComposite.Settings.Load
import KeyedComposite.Text.Width
import KeyedComposite.Text.BoxTable
import KeyedComposite.Numeric.Grouped
import KeyedComposite.Toml.Write
import KeyedComposite.Settings.Show
import KeyedComposite.Settings.Sample
import KeyedComposite.Settings.Override
import KeyedComposite.Conversion.Run
import KeyedComposite.Log.File
import KeyedComposite.Cli.Flag
import KeyedComposite.Cli.Command
import KeyedComposite.Cli.Tool
import KeyedComposite.Cli.ShellScript
import KeyedComposite.Cli.Completion
import KeyedComposite.Cli.Session
import KeyedComposite.Main
import KeyedComposite.Proofs.Decimal
import KeyedComposite.Proofs.IdNames
import KeyedComposite.Proofs.Except
import KeyedComposite.Proofs.Check
import KeyedComposite.Proofs.Word
import KeyedComposite.Proofs.Repack
import KeyedComposite.Proofs.Assemble
import KeyedComposite.Proofs.Build
import KeyedComposite.Proofs.Lengths
import KeyedComposite.Proofs.Extraction
import KeyedComposite.Proofs.SourceOrder
import KeyedComposite.Proofs.EndToEnd
import KeyedComposite.Proofs.WriteOrder
import KeyedComposite.Proofs.RunStages
import KeyedComposite.Proofs.TextureAttempts
import KeyedComposite.Proofs.LockPath
import KeyedComposite.Proofs.Files
import KeyedComposite.Proofs.Aborts
import KeyedComposite.Proofs.FrameCount
import KeyedComposite.Proofs.FrameSums
import KeyedComposite.Proofs.Clock
import KeyedComposite.Proofs.DecimalText
import KeyedComposite.Proofs.TimeText
import KeyedComposite.Proofs.Declarations
import KeyedComposite.Proofs.Acceptance
import KeyedComposite.Proofs.FormatRead
import KeyedComposite.Proofs.Normalize
import KeyedComposite.Proofs.KeyColor
import KeyedComposite.Proofs.ConsoleKeys
import KeyedComposite.Proofs.ModeText
import KeyedComposite.Proofs.TreeWalk
