import ScopeMachine.Benchmark.Report
import ScopeMachine.Cli.Command
import ScopeMachine.Codegen.BinaryCodec
import ScopeMachine.Codegen.Reading
import ScopeMachine.Codegen.SampleError
import ScopeMachine.Main
import ScopeMachine.Script
import ScopeMachine.SpanCursor
import ScopeMachine.Wire.Named
import ScopeMachine.Proofs.Cells
import ScopeMachine.Proofs.Records
import ScopeMachine.Proofs.Disassembly
import ScopeMachine.Proofs.Execution
import ScopeMachine.Proofs.OperationSemantics
import ScopeMachine.Proofs.OperationRefinement
import ScopeMachine.Proofs.LiveBytes
import ScopeMachine.Proofs.WordMachine
import ScopeMachine.Proofs.WordRefinement
import ScopeMachine.Proofs.Layouts
import ScopeMachine.Proofs.FormatLayouts
import ScopeMachine.Proofs.RoundTrip
import ScopeMachine.Proofs.Truncation
import ScopeMachine.Proofs.Container
import ScopeMachine.Proofs.Reload
import ScopeMachine.Proofs.CallGraph
import ScopeMachine.Proofs.Lockstep
import ScopeMachine.Proofs.DataIndependence
import ScopeMachine.Proofs.Capacity
import ScopeMachine.Proofs.Frame
import ScopeMachine.Proofs.ByteStack
import ScopeMachine.Proofs.Slots
import ScopeMachine.Proofs.Inlining
import ScopeMachine.Proofs.Footprint
import ScopeMachine.Proofs.GregorianCalendar
import ScopeMachine.Proofs.TimestampOrder
import ScopeMachine.Proofs.CursorReads
import ScopeMachine.Proofs.FailedInstructions
import ScopeMachine.Proofs.Sinks
import ScopeMachine.Proofs.ListingText
import ScopeMachine.Proofs.Installation
import ScopeMachine.Proofs.TableHistory
import ScopeMachine.Proofs.RegisterHistory
import ScopeMachine.Proofs.TextReading
import ScopeMachine.Proofs.VariantTags
import ScopeMachine.Proofs.MessageGrammar
import ScopeMachine.Proofs.RunOptions
import ScopeMachine.Proofs.MessageRendering
import ScopeMachine.Proofs.CursorArithmetic
