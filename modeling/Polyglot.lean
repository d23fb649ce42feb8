import Polyglot.CommandLine.Session
import Polyglot.Config.Builder
import Polyglot.Config.Json
import Polyglot.Conversion.Converter
import Polyglot.Execution.Dispatcher
import Polyglot.Main
import Polyglot.Proofs.Config.Additions
import Polyglot.Proofs.Config.RoundTrip
import Polyglot.Proofs.Config.Validation
import Polyglot.Proofs.Config.Violations
import Polyglot.Proofs.Conversion.Accumulation
import Polyglot.Proofs.Conversion.Brackets
import Polyglot.Proofs.Conversion.Catalogue
import Polyglot.Proofs.Conversion.Cleaning
import Polyglot.Proofs.Conversion.Fences
import Polyglot.Proofs.Conversion.Listing
import Polyglot.Proofs.Conversion.Printing
import Polyglot.Proofs.Conversion.Selectors
import Polyglot.Proofs.Conversion.Stability
import Polyglot.Proofs.Conversion.TaggedFences
import Polyglot.Proofs.Conversion.Unwrapping
import Polyglot.Proofs.EventStream.Batch
import Polyglot.Proofs.EventStream.Chunking
import Polyglot.Proofs.EventStream.Ending
import Polyglot.Proofs.EventStream.Framing
import Polyglot.Proofs.EventStream.Noise
import Polyglot.Proofs.Execution.Artifact
import Polyglot.Proofs.Execution.Course
import Polyglot.Proofs.Execution.Dispatch
import Polyglot.Proofs.Execution.FirstFailure
import Polyglot.Proofs.Execution.JavaClass
import Polyglot.Proofs.Json.Acceptance
import Polyglot.Proofs.Json.Decimal
import Polyglot.Proofs.Json.Escapes
import Polyglot.Proofs.Json.Fitting
import Polyglot.Proofs.Json.Grammar
import Polyglot.Proofs.Json.Numeral
import Polyglot.Proofs.Json.Record
import Polyglot.Proofs.Json.Reordering
import Polyglot.Proofs.Json.RoundTrip
import Polyglot.Proofs.Language.Agreement
import Polyglot.Proofs.Language.Catalogue
import Polyglot.Proofs.Language.Detection
import Polyglot.Proofs.Language.Evidence
import Polyglot.Proofs.Language.LetterCase
import Polyglot.Proofs.Language.OrderIndependence
import Polyglot.Proofs.Language.Ranking
import Polyglot.Proofs.Language.Registry
import Polyglot.Proofs.Language.Spelling
import Polyglot.Proofs.Language.Superset
import Polyglot.Proofs.Language.Validity
import Polyglot.Proofs.Pattern.Positions
import Polyglot.Proofs.Pattern.Spans
import Polyglot.Proofs.Pattern.Transfer
import Polyglot.Proofs.Provider.Delivery
import Polyglot.Proofs.Provider.Deltas
import Polyglot.Proofs.Provider.Foreign
import Polyglot.Proofs.Provider.Reordering
import Polyglot.Proofs.Provider.Requests
import Polyglot.Proofs.Provider.Shape
import Polyglot.Proofs.Text.ByteOrder
import Polyglot.Proofs.Text.Lines
import Polyglot.Proofs.Text.Lowercase
import Polyglot.Proofs.Text.Utf8
import Polyglot.Sandbox.Workshop
