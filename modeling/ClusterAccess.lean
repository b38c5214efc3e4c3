import ClusterAccess.Builder
import ClusterAccess.Check.Basic
import ClusterAccess.Check.Integer
import ClusterAccess.Check.Shape
import ClusterAccess.ClientKey
import ClusterAccess.CommandLine.Arguments
import ClusterAccess.CommandLine.Files
import ClusterAccess.CommandLine.Run
import ClusterAccess.CommandLine.Usage
import ClusterAccess.Config.Basic
import ClusterAccess.Config.Display
import ClusterAccess.Config.Field
import ClusterAccess.Config.Same
import ClusterAccess.Config.Shape
import ClusterAccess.Config.Vocabulary
import ClusterAccess.Discovery
import ClusterAccess.Error
import ClusterAccess.FileSystem.Basic
import ClusterAccess.FileSystem.Directory
import ClusterAccess.FileSystem.FileTree
import ClusterAccess.Json.Form
import ClusterAccess.Json.Print
import ClusterAccess.Kubeconfig.Document
import ClusterAccess.Kubeconfig.Parse
import ClusterAccess.Kubeconfig.Shape
import ClusterAccess.Log
import ClusterAccess.Main
import ClusterAccess.MasterUrl
import ClusterAccess.Merge
import ClusterAccess.NormalForm
import ClusterAccess.Number.Double
import ClusterAccess.Number.Numeral
import ClusterAccess.Options.Name
import ClusterAccess.Options.Overlay
import ClusterAccess.Options.Probe
import ClusterAccess.Path
import ClusterAccess.Refresh
import ClusterAccess.Resolve
import ClusterAccess.ServiceAccount
import ClusterAccess.Text.Base64
import ClusterAccess.Text.Blank
import ClusterAccess.Text.ControlSequence
import ClusterAccess.Text.Digit
import ClusterAccess.Text.Lines
import ClusterAccess.Text.LowerCase
import ClusterAccess.Text.LowerCaseTable
import ClusterAccess.Text.PrintableTable
import ClusterAccess.Text.Quoted
import ClusterAccess.Text.Similar
import ClusterAccess.Text.Split
import ClusterAccess.Text.Surrogate
import ClusterAccess.Text.UpperCase
import ClusterAccess.Text.UpperCaseTable
import ClusterAccess.Text.Utf8
import ClusterAccess.Tls.Availability
import ClusterAccess.Tls.Certificate
import ClusterAccess.Tls.Der
import ClusterAccess.Tls.Pem
import ClusterAccess.Traced
import ClusterAccess.Value.Basic
import ClusterAccess.Value.Calendar
import ClusterAccess.Value.Entries
import ClusterAccess.Value.Text
import ClusterAccess.Yaml.Cursor
import ClusterAccess.Yaml.Load
import ClusterAccess.Yaml.Node
import ClusterAccess.Yaml.Print
import ClusterAccess.Yaml.Scalar
import ClusterAccess.Yaml.Scan
import ClusterAccess.Yaml.Style
import ClusterAccess.Yaml.Tag
import ClusterAccess.Yaml.Token
import ClusterAccess.Proofs.Outcome
import ClusterAccess.Proofs.Stage
import ClusterAccess.Proofs.Explicit
import ClusterAccess.Proofs.Discovered
import ClusterAccess.Proofs.Precedence
import ClusterAccess.Proofs.Upkeep
import ClusterAccess.Proofs.Rebuild
import ClusterAccess.Proofs.LostSource
import ClusterAccess.Proofs.InferredScheme
import ClusterAccess.Proofs.Parsing
import ClusterAccess.Proofs.Provenance
import ClusterAccess.Proofs.Concatenation
import ClusterAccess.Proofs.Unselected
import ClusterAccess.Proofs.OptionReads
import ClusterAccess.Proofs.ShutOut
import ClusterAccess.Proofs.ChosenContext
import ClusterAccess.Proofs.NamedFile
import ClusterAccess.Proofs.SteadyRefresh
import ClusterAccess.Proofs.ContextList
import ClusterAccess.Proofs.Hermetic
import ClusterAccess.Proofs.Session
import ClusterAccess.Proofs.UnreadableFile
import ClusterAccess.Proofs.Exported
import ClusterAccess.Proofs.Quiet
import ClusterAccess.Proofs.StageLog
import ClusterAccess.Proofs.SameShown
import ClusterAccess.Proofs.Redaction
import ClusterAccess.Proofs.RefusedCall
import ClusterAccess.Proofs.DecimalText
import ClusterAccess.Proofs.RefusedOption
import ClusterAccess.Proofs.ForeignBundle
import ClusterAccess.Proofs.AccountRoute
import ClusterAccess.Proofs.ExplicitUrl
import ClusterAccess.Proofs.CheckFailure
import ClusterAccess.Proofs.FoundFile
import ClusterAccess.Proofs.TokenChoice
import ClusterAccess.Proofs.BearerToken
import ClusterAccess.Proofs.FieldOverlay
import ClusterAccess.Proofs.DeclaredPath
import ClusterAccess.Proofs.Route
import ClusterAccess.Proofs.SocksProxy
import ClusterAccess.Proofs.AccountSource
import ClusterAccess.Proofs.BlankEntry
import ClusterAccess.Proofs.DocumentPart
import ClusterAccess.Proofs.LenientReading
import ClusterAccess.Proofs.Showable
import ClusterAccess.Proofs.CommandRequest
import ClusterAccess.Proofs.ContextListing
import ClusterAccess.Proofs.CommaList
import ClusterAccess.Proofs.KeyHeader
import ClusterAccess.Proofs.KeyMaterial
import ClusterAccess.Proofs.StoredValue
import ClusterAccess.Proofs.SetAgain
