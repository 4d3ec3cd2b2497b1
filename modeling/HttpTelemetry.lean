import HttpTelemetry.Backend
import HttpTelemetry.Body.Frame
import HttpTelemetry.Body.Length
import HttpTelemetry.Body.Counted
import HttpTelemetry.Config
import HttpTelemetry.Decimal.Binary
import HttpTelemetry.Decimal.Grisu
import HttpTelemetry.Decimal.Notation
import HttpTelemetry.Decimal.Shortest
import HttpTelemetry.Error
import HttpTelemetry.Http.Header
import HttpTelemetry.Http.Message
import HttpTelemetry.Http.Method
import HttpTelemetry.Http.Uri
import HttpTelemetry.Labels
import HttpTelemetry.Middleware.Layer
import HttpTelemetry.Middleware.Construction
import HttpTelemetry.Middleware.Script
import HttpTelemetry.Middleware.Session
import HttpTelemetry.Otel.Export
import HttpTelemetry.Otel.Meter
import HttpTelemetry.Pattern.Error
import HttpTelemetry.Pattern.Hir
import HttpTelemetry.Pattern.Match
import HttpTelemetry.Pattern.Parse
import HttpTelemetry.Pattern.Property
import HttpTelemetry.Pattern.Regex
import HttpTelemetry.Pattern.Size
import HttpTelemetry.Pattern.Syntax
import HttpTelemetry.Pattern.Translate
import HttpTelemetry.Prometheus.Registry
import HttpTelemetry.Prometheus.Text
import HttpTelemetry.Resolver
import HttpTelemetry.Route.Table
import HttpTelemetry.Route.Template
import HttpTelemetry.Text.Json
import HttpTelemetry.Text.Quoted
import HttpTelemetry.Unicode.Age
import HttpTelemetry.Unicode.Aliases
import HttpTelemetry.Unicode.CaseFold
import HttpTelemetry.Unicode.Category
import HttpTelemetry.Unicode.Character
import HttpTelemetry.Unicode.Property.Casing
import HttpTelemetry.Unicode.Property.Identifier
import HttpTelemetry.Unicode.Property.Symbol
import HttpTelemetry.Unicode.RangeSet
import HttpTelemetry.Unicode.Script
import HttpTelemetry.Unicode.ScriptExtensions
import HttpTelemetry.Unicode.Segmentation
import HttpTelemetry.Unicode.WhiteSpace
import HttpTelemetry.Unicode.Word
import HttpTelemetry.Proofs.BodyCounting
import HttpTelemetry.Proofs.SessionEffects
import HttpTelemetry.Proofs.SessionCalls
import HttpTelemetry.Proofs.ActiveGauge
import HttpTelemetry.Proofs.RequestRecording
import HttpTelemetry.Proofs.ResponseSize
import HttpTelemetry.Proofs.PatternReading
import HttpTelemetry.Proofs.AnchoredMatching
import HttpTelemetry.Proofs.TemplateMatching
import HttpTelemetry.Proofs.RouteLookup
import HttpTelemetry.Proofs.SeriesRegistration
import HttpTelemetry.Proofs.Draining
import HttpTelemetry.Proofs.FloatOrder
import HttpTelemetry.Proofs.BucketValidation
import HttpTelemetry.Proofs.TemplateNormalization
import HttpTelemetry.Proofs.RegistryStore
import HttpTelemetry.Proofs.BackendAgreement
import HttpTelemetry.Proofs.CallShapes
