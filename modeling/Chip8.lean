import Chip8.Color.Text
import Chip8.Display.Command
import Chip8.Display.Picture
import Chip8.Machine.Operation
import Chip8.Machine.Run
import Chip8.Machine.Setup
import Chip8.Main
import Chip8.Memory.Command
import Chip8.Program
import Chip8.Runner.Folder
import Chip8.Proofs.Blocks
import Chip8.Proofs.Color.Digit
import Chip8.Proofs.Color.Grammar
import Chip8.Proofs.Display.Layout
import Chip8.Proofs.Display.Views
import Chip8.Proofs.Instruction.Disassembly
import Chip8.Proofs.Instruction.Encoding
import Chip8.Proofs.Instruction.Inverse
import Chip8.Proofs.Instruction.Masking
import Chip8.Proofs.Instruction.Pattern
import Chip8.Proofs.Machine.Fetch
import Chip8.Proofs.Machine.Course
import Chip8.Proofs.Machine.Failure
import Chip8.Proofs.Machine.FullDump
import Chip8.Proofs.Machine.Idle
import Chip8.Proofs.Machine.Message
import Chip8.Proofs.Machine.Range
import Chip8.Proofs.Machine.Report
import Chip8.Proofs.Machine.Settings
import Chip8.Proofs.Machine.Start
import Chip8.Proofs.Machine.Table
import Chip8.Proofs.Memory.Bytewise
import Chip8.Proofs.Memory.Coverage
import Chip8.Proofs.Memory.Dump
import Chip8.Proofs.Memory.History
import Chip8.Proofs.Program.Interpreter
import Chip8.Proofs.Raw.Basic
import Chip8.Proofs.Raw.Color
import Chip8.Proofs.Raw.Erasure
import Chip8.Proofs.Raw.Failure
import Chip8.Proofs.Raw.Safety
import Chip8.Proofs.Run.Extent
import Chip8.Proofs.Run.Rank
import Chip8.Proofs.Run.Flow
import Chip8.Proofs.Run.Termination
import Chip8.Proofs.Run.Calls
import Chip8.Proofs.Run.History
import Chip8.Proofs.Run.Active
import Chip8.Proofs.Run.Locality
import Chip8.Proofs.Run.Failing
import Chip8.Proofs.Run.Host
import Chip8.Proofs.Run.Latest
import Chip8.Proofs.Run.Pixels
import Chip8.Proofs.Run.Blank
import Chip8.Proofs.Run.Log
import Chip8.Proofs.Run.Tracing
import Chip8.Proofs.Runner.Progress
import Chip8.Proofs.Runner.Budget
import Chip8.Proofs.Runner.Cycles
import Chip8.Proofs.Runner.Files
import Chip8.Proofs.Runner.Frame
import Chip8.Proofs.Runner.Outcomes
import Chip8.Proofs.Runner.Verbosity
import Chip8.Proofs.Text.Parts
