import Chip8.CommandLine.Outcome
import Chip8.Debugger.Completion
import Chip8.Host.Recorded
import Chip8.Host.Scripted
import Chip8.Main
import Chip8.Proofs.Blocks
import Chip8.Proofs.Bounds
import Chip8.Proofs.Buzzer
import Chip8.Proofs.Cadence
import Chip8.Proofs.Clearing
import Chip8.Proofs.Completing
import Chip8.Proofs.Countdown
import Chip8.Proofs.Dialects
import Chip8.Proofs.Disassembly
import Chip8.Proofs.Drawing
import Chip8.Proofs.Expressions
import Chip8.Proofs.Faults
import Chip8.Proofs.FlagArithmetic
import Chip8.Proofs.Halting
import Chip8.Proofs.HeldKeys
import Chip8.Proofs.Inspection
import Chip8.Proofs.KeyEvents
import Chip8.Proofs.KeyWait
import Chip8.Proofs.Overflow
import Chip8.Proofs.Paging
import Chip8.Proofs.Pause
import Chip8.Proofs.Picture
import Chip8.Proofs.RandomBytes
import Chip8.Proofs.Rates
import Chip8.Proofs.Recording
import Chip8.Proofs.RegisterNames
import Chip8.Proofs.Resuming
import Chip8.Proofs.Sessions
import Chip8.Proofs.Standstill
import Chip8.Proofs.Subroutines
import Chip8.Proofs.TickOrder
import Chip8.Proofs.Ticks
import Chip8.Text.Style
