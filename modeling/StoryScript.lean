import StoryScript.Console
import StoryScript.Diagnostic
import StoryScript.Files.Access
import StoryScript.Files.Fault
import StoryScript.Files.Tree
import StoryScript.Host
import StoryScript.Journal
import StoryScript.Line
import StoryScript.Log
import StoryScript.Log.Filter
import StoryScript.Main
import StoryScript.Number.Binary64
import StoryScript.Number.Reading
import StoryScript.Number.Shortest
import StoryScript.Number.Writing
import StoryScript.Pattern
import StoryScript.Pattern.Bracket
import StoryScript.Pattern.CharSet
import StoryScript.Pattern.Cursor
import StoryScript.Pattern.Escape
import StoryScript.Pattern.Flaw
import StoryScript.Pattern.Form
import StoryScript.Pattern.Matching
import StoryScript.Pattern.Meaning
import StoryScript.Pattern.Property
import StoryScript.Pattern.Reading
import StoryScript.Playthrough
import StoryScript.Presentation
import StoryScript.Project
import StoryScript.Proofs.Diagnostic.Overflow
import StoryScript.Proofs.Diagnostic.Taking
import StoryScript.Proofs.Host.History
import StoryScript.Proofs.Host.Request
import StoryScript.Proofs.Number.Display
import StoryScript.Proofs.Number.Encoding
import StoryScript.Proofs.Number.Numeral
import StoryScript.Proofs.Number.Positional
import StoryScript.Proofs.Number.Rounding
import StoryScript.Proofs.Number.Shortest
import StoryScript.Proofs.Playthrough.Agreement
import StoryScript.Proofs.Playthrough.Bodies
import StoryScript.Proofs.Playthrough.Bound
import StoryScript.Proofs.Playthrough.Consistency
import StoryScript.Proofs.Playthrough.Cutting
import StoryScript.Proofs.Playthrough.Depth
import StoryScript.Proofs.Playthrough.Nesting
import StoryScript.Proofs.Playthrough.Operation
import StoryScript.Proofs.Playthrough.Outline
import StoryScript.Proofs.Playthrough.QuotedText
import StoryScript.Proofs.Playthrough.Restart
import StoryScript.Proofs.Playthrough.Simulation
import StoryScript.Proofs.Playthrough.StepLength
import StoryScript.Proofs.Playthrough.Unlocking
import StoryScript.Proofs.Presentation.Exchange
import StoryScript.Proofs.Presentation.FirstOption
import StoryScript.Proofs.Presentation.Unlocking
import StoryScript.Proofs.Project.Complaints
import StoryScript.Proofs.Project.Merging
import StoryScript.Proofs.Script.Aside
import StoryScript.Proofs.Script.Attributes
import StoryScript.Proofs.Script.Commands
import StoryScript.Proofs.Script.Forms
import StoryScript.Proofs.Script.Layout
import StoryScript.Proofs.Script.LongSpeech
import StoryScript.Proofs.Script.Manuscript
import StoryScript.Proofs.Script.OpenDialogue
import StoryScript.Proofs.Script.Origin
import StoryScript.Proofs.Script.Payload
import StoryScript.Proofs.Script.Renumbering
import StoryScript.Proofs.Script.Scanning
import StoryScript.Proofs.Script.Sequence
import StoryScript.Proofs.Script.Statement
import StoryScript.Proofs.Script.Targets
import StoryScript.Proofs.Script.Turn
import StoryScript.Proofs.Script.Yield
import StoryScript.Proofs.Settings.FilledOnce
import StoryScript.Proofs.Story.Complete
import StoryScript.Proofs.Story.Grouping
import StoryScript.Proofs.Story.Headers
import StoryScript.Proofs.Story.Items
import StoryScript.Proofs.Story.Parts
import StoryScript.Proofs.Story.Placement
import StoryScript.Proofs.Story.Segments
import StoryScript.Proofs.Story.Shape
import StoryScript.Proofs.Terminal.Answers
import StoryScript.Proofs.Terminal.Ending
import StoryScript.Proofs.Terminal.Lines
import StoryScript.Proofs.Terminal.Reader
import StoryScript.Proofs.Text.Pairs
import StoryScript.Proofs.Text.Sides
import StoryScript.Proofs.Text.Trimming
import StoryScript.Proofs.Trace.Ending
import StoryScript.Proofs.Value.Order
import StoryScript.Proofs.World.Agreement
import StoryScript.Proofs.World.Assigning
import StoryScript.Proofs.World.Coherence
import StoryScript.Proofs.World.Comparison
import StoryScript.Proofs.World.Compound
import StoryScript.Proofs.World.Judging
import StoryScript.Proofs.World.Naming
import StoryScript.Proofs.World.Placeholders
import StoryScript.Proofs.World.Quotation
import StoryScript.Proofs.World.Readings
import StoryScript.Scan
import StoryScript.Script
import StoryScript.Settings
import StoryScript.Settings.Default
import StoryScript.Settings.Reading
import StoryScript.Settings.Store
import StoryScript.Story
import StoryScript.Story.Cluster
import StoryScript.Story.Reading
import StoryScript.Table
import StoryScript.Table.Lookup
import StoryScript.Terminal
import StoryScript.Text.Blank
import StoryScript.Text.Category
import StoryScript.Text.Category.Letter
import StoryScript.Text.Category.Mark
import StoryScript.Text.Category.Number
import StoryScript.Text.Category.Other
import StoryScript.Text.Category.Punctuation
import StoryScript.Text.Category.Rows
import StoryScript.Text.Category.Symbol
import StoryScript.Text.Folding
import StoryScript.Text.Quoted
import StoryScript.Text.Split
import StoryScript.Text.Unprintable
import StoryScript.Text.Word
import StoryScript.Text.WritingSystem
import StoryScript.Token
import StoryScript.Toml
import StoryScript.Toml.Document
import StoryScript.Toml.Draft
import StoryScript.Toml.Quoted
import StoryScript.Toml.Scalar
import StoryScript.Trace
import StoryScript.Value
import StoryScript.World
import StoryScript.World.Assignment
import StoryScript.World.Condition
import StoryScript.World.Dump
import StoryScript.World.Reference
