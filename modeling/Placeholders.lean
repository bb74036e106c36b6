import Placeholders.Argument.Coercion
import Placeholders.CommandLine.Option
import Placeholders.CommandLine.Parse
import Placeholders.CommandLine.Usage
import Placeholders.EngineOptions.OfJson
import Placeholders.Function.Library
import Placeholders.Function.Registry
import Placeholders.Host.Basic
import Placeholders.Host.World
import Placeholders.Inspect
import Placeholders.Main
import Placeholders.Number.Places
import Placeholders.Params.Basic
import Placeholders.Params.OfJson
import Placeholders.Params.OfYaml
import Placeholders.Pattern.Expression
import Placeholders.Pattern.Segment
import Placeholders.Program.Failure
import Placeholders.Program.Inputs
import Placeholders.Program.Run
import Placeholders.Render
import Placeholders.Settings
import Placeholders.Text.Base64
import Placeholders.Text.Casing
import Placeholders.Text.Quoted
import Placeholders.Proofs.Dispatch
import Placeholders.Proofs.Rendering
import Placeholders.Proofs.Tolerance
import Placeholders.Proofs.Segmentation
import Placeholders.Proofs.Tokens
import Placeholders.Proofs.Bodies
import Placeholders.Proofs.Respelling
import Placeholders.Proofs.Forecast
import Placeholders.Proofs.Arguments
import Placeholders.Proofs.Calls
import Placeholders.Proofs.Providers
import Placeholders.Proofs.Builtins
import Placeholders.Proofs.WellTyped
import Placeholders.Proofs.OutputLimit
import Placeholders.Proofs.Quoting
import Placeholders.Proofs.Composition
import Placeholders.Proofs.Phases
import Placeholders.Proofs.Pipelines
import Placeholders.Proofs.FailedStages
import Placeholders.Proofs.Histories
import Placeholders.Proofs.Extensions
import Placeholders.Proofs.Visibility
import Placeholders.Proofs.Leftovers
import Placeholders.Proofs.UnknownProviders
import Placeholders.Proofs.Files
import Placeholders.Proofs.RenderCommand
import Placeholders.Proofs.Layouts
import Placeholders.Proofs.Unpartnered
import Placeholders.Proofs.Joining
import Placeholders.Proofs.Bars
import Placeholders.Proofs.Precedence
import Placeholders.Proofs.Overrides
import Placeholders.Proofs.IntegerTokens
import Placeholders.Proofs.Nearest
import Placeholders.Proofs.Decimals
import Placeholders.Proofs.ReadingBack
import Placeholders.Proofs.BinaryIntegers
import Placeholders.Proofs.RoundedParameters
import Placeholders.Proofs.Rerounding
import Placeholders.Proofs.Padding
import Placeholders.Proofs.Repetition
import Placeholders.Proofs.Utf8
import Placeholders.Proofs.Base64
import Placeholders.Proofs.Listings
