import WorkflowCanvas.Canvas.Basic
import WorkflowCanvas.Canvas.Codec
import WorkflowCanvas.Canvas.OfSketch
import WorkflowCanvas.CommandLine.Arguments
import WorkflowCanvas.CommandLine.Execute
import WorkflowCanvas.CommandLine.Host
import WorkflowCanvas.CommandLine.Manual
import WorkflowCanvas.CommandLine.Request
import WorkflowCanvas.Condition
import WorkflowCanvas.Conversion
import WorkflowCanvas.Decimal.Binary
import WorkflowCanvas.Decimal.Layout
import WorkflowCanvas.Decimal.Reading
import WorkflowCanvas.Decimal.Shortest
import WorkflowCanvas.Engine.Basic
import WorkflowCanvas.Engine.Event
import WorkflowCanvas.Engine.Instance
import WorkflowCanvas.Engine.Roster
import WorkflowCanvas.Engine.Run
import WorkflowCanvas.Engine.State
import WorkflowCanvas.Failure
import WorkflowCanvas.Geometry
import WorkflowCanvas.Json.Basic
import WorkflowCanvas.Json.Document
import WorkflowCanvas.Json.Merge
import WorkflowCanvas.Json.Number
import WorkflowCanvas.Json.Printer
import WorkflowCanvas.Json.Reader
import WorkflowCanvas.Json.Record
import WorkflowCanvas.Lending.Customer
import WorkflowCanvas.Lending.Eligibility
import WorkflowCanvas.Lending.Operations
import WorkflowCanvas.Main
import WorkflowCanvas.Operation.Basic
import WorkflowCanvas.Operation.Dispatch
import WorkflowCanvas.Operation.Handler
import WorkflowCanvas.Operation.Locator
import WorkflowCanvas.Operation.Registry
import WorkflowCanvas.Settings.Basic
import WorkflowCanvas.Settings.Overlay
import WorkflowCanvas.Sketch.Basic
import WorkflowCanvas.Sketch.Codec
import WorkflowCanvas.Sketch.Draft
import WorkflowCanvas.Sketch.Review
import WorkflowCanvas.Table
import WorkflowCanvas.Text.Blank
import WorkflowCanvas.Text.LetterCase
import WorkflowCanvas.Text.Split
import WorkflowCanvas.Workflow.Basic
import WorkflowCanvas.Workflow.Codec
import WorkflowCanvas.Workflow.Extensions
import WorkflowCanvas.Workflow.Markup
import WorkflowCanvas.Workflow.OfCanvas
import WorkflowCanvas.Workspace
import WorkflowCanvas.Proofs.Engine.Advance
import WorkflowCanvas.Proofs.Engine.Identifier
import WorkflowCanvas.Proofs.Engine.Call
import WorkflowCanvas.Proofs.Engine.Numbering
import WorkflowCanvas.Proofs.Engine.Roster
import WorkflowCanvas.Proofs.Engine.Arrangement
import WorkflowCanvas.Proofs.Engine.Lifecycle
import WorkflowCanvas.Proofs.Engine.Refusal
import WorkflowCanvas.Proofs.Engine.Mark
import WorkflowCanvas.Proofs.Engine.Course
import WorkflowCanvas.Proofs.Engine.Tokens
import WorkflowCanvas.Proofs.Engine.Join
import WorkflowCanvas.Proofs.Table
import WorkflowCanvas.Proofs.Workflow.Closed
import WorkflowCanvas.Proofs.Operation.Dispatch
import WorkflowCanvas.Proofs.Engine.Concern
import WorkflowCanvas.Proofs.Engine.Carry
import WorkflowCanvas.Proofs.Engine.Story
import WorkflowCanvas.Proofs.Engine.Variables
import WorkflowCanvas.Proofs.Engine.Within
import WorkflowCanvas.Proofs.Engine.Sketches
import WorkflowCanvas.Proofs.Engine.Renaming
import WorkflowCanvas.Proofs.Engine.Quiet
import WorkflowCanvas.Proofs.Engine.Isolation
import WorkflowCanvas.Proofs.Listing
import WorkflowCanvas.Proofs.Canvas.ShapeId
import WorkflowCanvas.Proofs.Sketch.Accepted
import WorkflowCanvas.Proofs.Sketch.Kept
import WorkflowCanvas.Proofs.Canvas.Properties
import WorkflowCanvas.Proofs.Canvas.Wiring
import WorkflowCanvas.Proofs.Workflow.Structure
import WorkflowCanvas.Proofs.Workflow.Names
import WorkflowCanvas.Proofs.Sketch.Review
import WorkflowCanvas.Proofs.Sketch.Alarms
import WorkflowCanvas.Proofs.Workflow.Escape
import WorkflowCanvas.Proofs.Workflow.MarkupTree
import WorkflowCanvas.Proofs.Workflow.MarkupElements
import WorkflowCanvas.Proofs.Workflow.MarkupReading
import WorkflowCanvas.Proofs.Workflow.Starts
import WorkflowCanvas.Proofs.Workflow.Extensions
import WorkflowCanvas.Proofs.Workflow.Operations
import WorkflowCanvas.Proofs.Operation.Installation
import WorkflowCanvas.Proofs.Engine.Account
import WorkflowCanvas.Proofs.Engine.Deed
import WorkflowCanvas.Proofs.Engine.Limit
import WorkflowCanvas.Proofs.Engine.Cutoff
import WorkflowCanvas.Proofs.Engine.Reach
import WorkflowCanvas.Proofs.Engine.Starts
import WorkflowCanvas.Proofs.Workflow.Xml
import WorkflowCanvas.Proofs.Workflow.MarkupGrammar
import WorkflowCanvas.Proofs.Workflow.MarkupCharacters
import WorkflowCanvas.Proofs.Lending.Frame
import WorkflowCanvas.Proofs.Workflow.Metadata
import WorkflowCanvas.Proofs.Json.Reordering
import WorkflowCanvas.Proofs.Json.ReadBack
import WorkflowCanvas.Proofs.Json.Lexemes
import WorkflowCanvas.Proofs.Json.CompactText
import WorkflowCanvas.Proofs.Json.Merge
import WorkflowCanvas.Proofs.Geometry
import WorkflowCanvas.Proofs.Canvas.Codec
import WorkflowCanvas.Proofs.Workflow.Codec
import WorkflowCanvas.Proofs.Sketch.Codec
import WorkflowCanvas.Proofs.Text
import WorkflowCanvas.Proofs.Operation.Registration
import WorkflowCanvas.Proofs.Operation.Rejection
import WorkflowCanvas.Proofs.Settings.Overlay
import WorkflowCanvas.Proofs.Settings.Accepted
import WorkflowCanvas.Proofs.Workflow.Selection
import WorkflowCanvas.Proofs.Canvas.Layers
import WorkflowCanvas.Proofs.Canvas.Bounds
import WorkflowCanvas.Proofs.Canvas.Roles
import WorkflowCanvas.Proofs.Canvas.Mappings
import WorkflowCanvas.Proofs.Lending.Details
import WorkflowCanvas.Proofs.Workflow.Enrichment
import WorkflowCanvas.Proofs.Decimal.Exact
import WorkflowCanvas.Proofs.Decimal.Rounding
import WorkflowCanvas.Proofs.Decimal.Sums
import WorkflowCanvas.Proofs.Lending.Eligibility
import WorkflowCanvas.Proofs.Lending.MadeUp
import WorkflowCanvas.Proofs.Condition
import WorkflowCanvas.Proofs.Workflow.Requirement
import WorkflowCanvas.Proofs.Sketch.Drafting
