import TapScript.Main
import TapScript.Simulation.Device
import TapScript.Proofs.Run.Attribution
import TapScript.Proofs.Run.Bracketing
import TapScript.Proofs.Run.Preparation
import TapScript.Proofs.Run.Splicing
import TapScript.Proofs.Run.Nesting
import TapScript.Proofs.Run.Foresight
import TapScript.Proofs.Library.Assurance
import TapScript.Proofs.Library.Loading
import TapScript.Proofs.Library.Containment
import TapScript.Proofs.Script.Writing
import TapScript.Proofs.Run.Literals
import TapScript.Proofs.Files.Contents
import TapScript.Proofs.Json.Reading
import TapScript.Proofs.Run.Results
import TapScript.Proofs.Browser.Log
import TapScript.Proofs.Browser.Release
import TapScript.Proofs.Browser.PageLog
import TapScript.Proofs.Browser.Course
import TapScript.Proofs.Browser.Lifetimes
import TapScript.Proofs.Driver.Polling
import TapScript.Proofs.Driver.Gestures
import TapScript.Proofs.Config.Precedence
import TapScript.Proofs.Config.Roundtrip
import TapScript.Proofs.Run.Answering
import TapScript.Proofs.Script.Locality
import TapScript.Proofs.Lookup.Composition
import TapScript.Proofs.Lookup.Freezing
import TapScript.Proofs.Library.Listing
import TapScript.Proofs.Library.Completeness
import TapScript.Proofs.Library.Failures
import TapScript.Proofs.Check.Equality
import TapScript.Proofs.Check.Opposites
import TapScript.Proofs.Check.Reports
import TapScript.Proofs.Driver.Selecting
import TapScript.Proofs.Driver.Refusals
import TapScript.Proofs.Run.Locating
import TapScript.Proofs.Number.Range
import TapScript.Proofs.Driver.Dragging
import TapScript.Proofs.Run.OutputDir
import TapScript.Proofs.Config.Searching
import TapScript.Proofs.CommandLine.Libraries
import TapScript.Proofs.CommandLine.Literal
import TapScript.Proofs.Config.Pathwise
import TapScript.Proofs.Run.Guarding
