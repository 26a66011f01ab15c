import SpanLifecycle.Continuation
import SpanLifecycle.Decimal.Nearest
import SpanLifecycle.Fault
import SpanLifecycle.Http.Address
import SpanLifecycle.Http.Endpoint
import SpanLifecycle.Http.Message
import SpanLifecycle.Http.Redispatch
import SpanLifecycle.Http.Refusal
import SpanLifecycle.Http.Router
import SpanLifecycle.Http.Scope
import SpanLifecycle.Http.Traced
import SpanLifecycle.Log.Call
import SpanLifecycle.Log.Record
import SpanLifecycle.Log.Session
import SpanLifecycle.Log.Setup
import SpanLifecycle.Main
import SpanLifecycle.Mapping
import SpanLifecycle.Pass
import SpanLifecycle.Program
import SpanLifecycle.Proofs.Act
import SpanLifecycle.Proofs.Alike
import SpanLifecycle.Proofs.AlikePasses
import SpanLifecycle.Proofs.AlreadyFinalized
import SpanLifecycle.Proofs.Anonymous
import SpanLifecycle.Proofs.Asynchronous
import SpanLifecycle.Proofs.Attributes
import SpanLifecycle.Proofs.CloseRequest
import SpanLifecycle.Proofs.Closing
import SpanLifecycle.Proofs.Continuation
import SpanLifecycle.Proofs.Current
import SpanLifecycle.Proofs.Deferral
import SpanLifecycle.Proofs.Dispatch
import SpanLifecycle.Proofs.Ending
import SpanLifecycle.Proofs.ErrorPage
import SpanLifecycle.Proofs.ErrorPath
import SpanLifecycle.Proofs.Evolves
import SpanLifecycle.Proofs.EvolvesPasses
import SpanLifecycle.Proofs.EvolvesServices
import SpanLifecycle.Proofs.Fields
import SpanLifecycle.Proofs.Forward
import SpanLifecycle.Proofs.Frame
import SpanLifecycle.Proofs.FrozenTags
import SpanLifecycle.Proofs.Growth
import SpanLifecycle.Proofs.HandledRequest
import SpanLifecycle.Proofs.Handover
import SpanLifecycle.Proofs.History
import SpanLifecycle.Proofs.Layers
import SpanLifecycle.Proofs.Ledger
import SpanLifecycle.Proofs.Literal
import SpanLifecycle.Proofs.Local
import SpanLifecycle.Proofs.LocalSteps
import SpanLifecycle.Proofs.LogLines
import SpanLifecycle.Proofs.Mirroring
import SpanLifecycle.Proofs.OneReport
import SpanLifecycle.Proofs.Opening
import SpanLifecycle.Proofs.Order
import SpanLifecycle.Proofs.Orderly
import SpanLifecycle.Proofs.Parentage
import SpanLifecycle.Proofs.Pass
import SpanLifecycle.Proofs.Passes
import SpanLifecycle.Proofs.Prepared
import SpanLifecycle.Proofs.Recency
import SpanLifecycle.Proofs.Records
import SpanLifecycle.Proofs.Redispatch
import SpanLifecycle.Proofs.Retains
import SpanLifecycle.Proofs.Run
import SpanLifecycle.Proofs.SelfReported
import SpanLifecycle.Proofs.Serving
import SpanLifecycle.Proofs.Settlement
import SpanLifecycle.Proofs.Standing
import SpanLifecycle.Proofs.StatusTags
import SpanLifecycle.Proofs.Steady
import SpanLifecycle.Proofs.Step
import SpanLifecycle.Proofs.Taking
import SpanLifecycle.Proofs.TraceParent
import SpanLifecycle.Proofs.Tracer
import SpanLifecycle.Proofs.Transparency
import SpanLifecycle.Proofs.Undisturbed
import SpanLifecycle.Proofs.Unshared
import SpanLifecycle.Proofs.Visit
import SpanLifecycle.Request.Attribute
import SpanLifecycle.Request.Bookkeeping
import SpanLifecycle.Route.Draft
import SpanLifecycle.Route.Pattern
import SpanLifecycle.Route.Table
import SpanLifecycle.Service.Basic
import SpanLifecycle.Service.Console
import SpanLifecycle.Service.Launch
import SpanLifecycle.Service.Page
import SpanLifecycle.Service.Session
import SpanLifecycle.Settings.Basic
import SpanLifecycle.Settings.CommandLine
import SpanLifecycle.Settings.Environment
import SpanLifecycle.Settings.Keywords
import SpanLifecycle.Settings.Read
import SpanLifecycle.Settings.Session
import SpanLifecycle.Settings.Sources
import SpanLifecycle.Settings.Telemetry
import SpanLifecycle.Settings.WholeNumber
import SpanLifecycle.Span.Attributes
import SpanLifecycle.Span.Basic
import SpanLifecycle.Text.CaseRun
import SpanLifecycle.Text.Hex
import SpanLifecycle.Text.Latin1
import SpanLifecycle.Text.Lowercase
import SpanLifecycle.Text.Quoted
import SpanLifecycle.Text.Template
import SpanLifecycle.Text.Unprinted
import SpanLifecycle.Text.Uppercase
import SpanLifecycle.Text.WordEnd
import SpanLifecycle.Text.Written
import SpanLifecycle.TraceContext.Parent
import SpanLifecycle.TraceContext.State
import SpanLifecycle.Tracer
import SpanLifecycle.Value
import SpanLifecycle.Verdict
import SpanLifecycle.World
