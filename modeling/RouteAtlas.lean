import RouteAtlas.Main
import RouteAtlas.Script.Fault
import RouteAtlas.Proofs.Routes.Bindings
import RouteAtlas.Proofs.Routes.Resolve
import RouteAtlas.Proofs.Text.Order
import RouteAtlas.Proofs.Routes.Listing
import RouteAtlas.Proofs.Routes.Rearrangement
import RouteAtlas.Proofs.Job.Validate
import RouteAtlas.Proofs.Workflow.Run
import RouteAtlas.Proofs.Workflow.Selection
import RouteAtlas.Proofs.Script.Scan
import RouteAtlas.Proofs.Script.Literal
import RouteAtlas.Proofs.Script.Declaration
import RouteAtlas.Proofs.Script.Grammar
import RouteAtlas.Proofs.Script.Automaton
import RouteAtlas.Proofs.Script.Pile
import RouteAtlas.Proofs.Script.Tokens
import RouteAtlas.Proofs.Script.Written
import RouteAtlas.Proofs.Script.Layout
import RouteAtlas.Proofs.Script.Spelled
import RouteAtlas.Proofs.Script.Placed
import RouteAtlas.Proofs.Script.Generated
import RouteAtlas.Proofs.Routes.Declared
import RouteAtlas.Proofs.Routes.RoundTrip
import RouteAtlas.Proofs.Text.Scalar
import RouteAtlas.Proofs.Json.Printer
import RouteAtlas.Proofs.Json.RoundTrip
import RouteAtlas.Proofs.Workflow.Message
import RouteAtlas.Proofs.Command.Dotenv
import RouteAtlas.Proofs.Command.Answer
import RouteAtlas.Proofs.Command.Refusal
import RouteAtlas.Proofs.Command.Source
import RouteAtlas.Proofs.Files.Probe
import RouteAtlas.Proofs.Workflow.Locate
import RouteAtlas.Proofs.Text.LineEnds
import RouteAtlas.Proofs.Files.Contents
import RouteAtlas.Proofs.Workflow.Digest
import RouteAtlas.Proofs.Routes.Wrapping
import RouteAtlas.Proofs.Script.Insertion
import RouteAtlas.Proofs.Script.Outline
import RouteAtlas.Proofs.Script.Agreement
import RouteAtlas.Proofs.Routes.Comments
import RouteAtlas.Proofs.Script.Build
import RouteAtlas.Proofs.Routes.Irrelevance
import RouteAtlas.Proofs.Routes.Stop
import RouteAtlas.Proofs.Workflow.WorkingDirectory
import RouteAtlas.Proofs.Files.Lawful
import RouteAtlas.Proofs.Workflow.NamedTree
import RouteAtlas.Proofs.Command.Printed
import RouteAtlas.Proofs.Files.Discover
import RouteAtlas.Proofs.Files.Search
import RouteAtlas.Proofs.Script.Spelling
import RouteAtlas.Proofs.Text.Blank
import RouteAtlas.Proofs.Command.Assignment
import RouteAtlas.Proofs.Command.Loading
import RouteAtlas.Proofs.Routes.ByteOrder
import RouteAtlas.Proofs.Path.Tidy
import RouteAtlas.Proofs.Path.Display
import RouteAtlas.Proofs.Files.Locate
