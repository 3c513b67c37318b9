import MapStyle.Main
import MapStyle.Proofs.Binary64
import MapStyle.Proofs.Compute.Awaiting
import MapStyle.Proofs.Compute.Batch
import MapStyle.Proofs.Compute.Calls
import MapStyle.Proofs.Compute.Confluence
import MapStyle.Proofs.Compute.Disturbance
import MapStyle.Proofs.Compute.Flight
import MapStyle.Proofs.Compute.Generation
import MapStyle.Proofs.Compute.InStep
import MapStyle.Proofs.Compute.Interference
import MapStyle.Proofs.Compute.Overlap
import MapStyle.Proofs.Compute.Session
import MapStyle.Proofs.Compute.Shape
import MapStyle.Proofs.Decimal.Reading
import MapStyle.Proofs.Decimal.Rounding
import MapStyle.Proofs.Decimal.Value
import MapStyle.Proofs.Embedded
import MapStyle.Proofs.Expr.Alignment
import MapStyle.Proofs.Expr.Completeness
import MapStyle.Proofs.Expr.Dotted
import MapStyle.Proofs.Expr.Equality
import MapStyle.Proofs.Expr.Grammar
import MapStyle.Proofs.Expr.Narrowing
import MapStyle.Proofs.Expr.Nesting
import MapStyle.Proofs.Expr.Precedence
import MapStyle.Proofs.Expr.Progress
import MapStyle.Proofs.Expr.Reading
import MapStyle.Proofs.Expr.References
import MapStyle.Proofs.Expr.Replacement
import MapStyle.Proofs.Expr.Substitution
import MapStyle.Proofs.Expr.Tolerance
import MapStyle.Proofs.Expr.WholeNumber
import MapStyle.Proofs.Expr.Written
import MapStyle.Proofs.Feature
import MapStyle.Proofs.Json.Compact
import MapStyle.Proofs.Json.Equality
import MapStyle.Proofs.Json.Record
import MapStyle.Proofs.Json.Tabled
import MapStyle.Proofs.Layer
import MapStyle.Proofs.Listing
import MapStyle.Proofs.Merging
import MapStyle.Proofs.Override
import MapStyle.Proofs.Path.Selection
import MapStyle.Proofs.Path.Spelling
import MapStyle.Proofs.Placeholder.Bodies
import MapStyle.Proofs.Placeholder.Narrow
import MapStyle.Proofs.Placeholder.Reference
import MapStyle.Proofs.Placeholder.Spots
import MapStyle.Proofs.Recent
import MapStyle.Proofs.Resolution
import MapStyle.Proofs.Store
import MapStyle.Proofs.Store.Demand
import MapStyle.Proofs.Store.Isolation
import MapStyle.Proofs.Store.Replay
import MapStyle.Proofs.Style
import MapStyle.Proofs.Styling.Apart
import MapStyle.Proofs.Styling.Collision
import MapStyle.Proofs.Styling.Fieldwise
import MapStyle.Proofs.Styling.Independent
import MapStyle.Proofs.Styling.Key
import MapStyle.Proofs.Styling.Lifting
import MapStyle.Proofs.Styling.Literal
import MapStyle.Proofs.Styling.Recency
import MapStyle.Proofs.Styling.Sound
import MapStyle.Proofs.Styling.Task
import MapStyle.Proofs.Styling.Transparent
import MapStyle.Proofs.Table
import MapStyle.Proofs.Text.Reader
