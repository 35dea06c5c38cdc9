import Arcade.Core.Run
import Arcade.Cpm
import Arcade.FileSystem.Tree
import Arcade.Main
import Arcade.SampleSet
import Arcade.Session
import Arcade.Proofs.Board.Shifter
import Arcade.Proofs.Board.Sound
import Arcade.Proofs.CommandLine.RoundTrip
import Arcade.Proofs.Core.Arithmetic
import Arcade.Proofs.Core.Decimal
import Arcade.Proofs.Core.FlagUse
import Arcade.Proofs.Core.Flow
import Arcade.Proofs.Core.Footprint
import Arcade.Proofs.Core.Handler
import Arcade.Proofs.Core.LifeCycle
import Arcade.Proofs.Core.LongArithmetic
import Arcade.Proofs.Core.Movement
import Arcade.Proofs.Core.Policy
import Arcade.Proofs.Core.Rotation
import Arcade.Proofs.Core.Stack
import Arcade.Proofs.Core.Tables
import Arcade.Proofs.Core.Trace
import Arcade.Proofs.Cpu.Disassembly
import Arcade.Proofs.Machine.Counter
import Arcade.Proofs.Machine.Inputs
import Arcade.Proofs.Machine.Journal
import Arcade.Proofs.Machine.Phase
import Arcade.Proofs.Machine.Reset
import Arcade.Proofs.Machine.Run
import Arcade.Proofs.Machine.SecondPart
import Arcade.Proofs.Machine.Standstill
import Arcade.Proofs.Machine.Twin
import Arcade.Proofs.Memory.Residues
import Arcade.Proofs.RomSet
import Arcade.Proofs.Schedule
import Arcade.Proofs.Screen
import Arcade.Proofs.Session.Keys
import Arcade.Proofs.Session.Play
