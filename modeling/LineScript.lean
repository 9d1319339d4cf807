import LineScript.Main
import LineScript.Session
import LineScript.Proofs.Block.Syntax
import LineScript.Proofs.Jump
import LineScript.Proofs.Action
import LineScript.Proofs.Effect
import LineScript.Proofs.Text.Upper
import LineScript.Proofs.Instruction
import LineScript.Proofs.Transition
import LineScript.Proofs.Termination
import LineScript.Proofs.Failure
import LineScript.Proofs.Block.Listing
import LineScript.Proofs.Block.Semantics
import LineScript.Proofs.Block.Seat
import LineScript.Proofs.Block.Line
import LineScript.Proofs.Block.Plain
import LineScript.Proofs.Block.Run
import LineScript.Proofs.Stack
import LineScript.Proofs.Protocol
import LineScript.Proofs.Settling
import LineScript.Proofs.Guise.Action
import LineScript.Proofs.Guise.Instruction
import LineScript.Proofs.View.Action
import LineScript.Proofs.View.Instruction
import LineScript.Proofs.View.Step
import LineScript.Proofs.View.Program
import LineScript.Proofs.Limits
import LineScript.Proofs.Insertion.Script
import LineScript.Proofs.Insertion.Run
import LineScript.Proofs.Modes
import LineScript.Proofs.Scoping
import LineScript.Proofs.Names
import LineScript.Proofs.Containment
import LineScript.Proofs.Remark
import LineScript.Proofs.Telling
import LineScript.Proofs.Tame
import LineScript.Proofs.Diagnosis
import LineScript.Proofs.Events
import LineScript.Proofs.ExitStatus
import LineScript.Proofs.Argument.Scan
import LineScript.Proofs.Argument.Count
import LineScript.Proofs.Argument.Written
import LineScript.Proofs.Argument.Name
import LineScript.Proofs.Argument.Capacity
import LineScript.Proofs.Argument.Escape
import LineScript.Proofs.Header
import LineScript.Proofs.Operands
import LineScript.Proofs.Passes.Turn
import LineScript.Proofs.Passes.History
import LineScript.Proofs.Passes.Count
import LineScript.Proofs.Passes.Exit
import LineScript.Proofs.Passes.Rereading
import LineScript.Proofs.Duality.Alike
import LineScript.Proofs.Duality.Mirror
import LineScript.Proofs.Duality.Step
import LineScript.Proofs.Duality.Fork
import LineScript.Proofs.Duality.Condition
import LineScript.Proofs.Duality.Choice
import LineScript.Proofs.Duality.Run
import LineScript.Proofs.Footprint
import LineScript.Proofs.Resolution
import LineScript.Proofs.Declaration
import LineScript.Proofs.Returned
import LineScript.Proofs.Forward
import LineScript.Proofs.Dispatch
import LineScript.Proofs.Container
import LineScript.Proofs.Caller
import LineScript.Proofs.Destination
import LineScript.Proofs.Memory.History
import LineScript.Proofs.Memory.Access
import LineScript.Proofs.Memory.Run
import LineScript.Proofs.Number.Digits
import LineScript.Proofs.Number.Rounding
import LineScript.Proofs.Number.Decimal
import LineScript.Proofs.Number.Arithmetic
import LineScript.Proofs.Number.Numeral
import LineScript.Proofs.Number.Positional
import LineScript.Proofs.Number.Format
import LineScript.Proofs.Operation.Inputs
import LineScript.Proofs.Operation.Arithmetic
import LineScript.Proofs.Operation.Comparison
import LineScript.Proofs.Operation.Canonical
import LineScript.Proofs.Number.Places
import LineScript.Proofs.Number.Bits
import LineScript.Proofs.Color
import LineScript.Proofs.Complaint
import LineScript.Proofs.Operation.Rounding
import LineScript.Proofs.Operation.Binary
import LineScript.Proofs.Operation.Color
import LineScript.Proofs.Canvas.Pixels
import LineScript.Proofs.Canvas.Instruction
import LineScript.Proofs.Canvas.Run
import LineScript.Proofs.Canvas.Line
import LineScript.Proofs.Canvas.Outline
import LineScript.Proofs.Canvas.Image
import LineScript.Proofs.CallingOrder
import LineScript.Proofs.Text.Blank
import LineScript.Proofs.Text.Words
import LineScript.Proofs.Operation.Trim
