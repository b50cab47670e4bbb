import Ebpf.Text.Digits
import Ebpf.Text.Utf8
import Ebpf.Text.Visible
import Ebpf.Text.Quoted
import Ebpf.Word
import Ebpf.Proofs.WordLayout
import Ebpf.Chunks
import Ebpf.HexDump
import Ebpf.Opcode
import Ebpf.Register
import Ebpf.Instruction
import Ebpf.Statement
import Ebpf.Disassembly
import Ebpf.Program
import Ebpf.Program.Listing
import Ebpf.Program.Load
import Ebpf.Elf.Fault
import Ebpf.Elf.Format
import Ebpf.Elf.Header
import Ebpf.Elf.Sections
import Ebpf.Elf.Image
import Ebpf.Machine
import Ebpf.CommandLine.Arguments
import Ebpf.CommandLine.Failure
import Ebpf.CommandLine.Command
import Ebpf.Main
import Ebpf.Proofs.Packing
import Ebpf.Proofs.OpcodeLayout
import Ebpf.Proofs.Program.Pairing
import Ebpf.Proofs.Program.Blocks
import Ebpf.Proofs.Program.Numbering
import Ebpf.Proofs.Program.Grammar
import Ebpf.Proofs.HexDump
import Ebpf.Proofs.Program.Encodings
import Ebpf.Proofs.Program.DumpFaults
import Ebpf.Proofs.Program.Listing
import Ebpf.Proofs.Program.Views
import Ebpf.Proofs.Text.Decimal
import Ebpf.Proofs.Program.IndexColumn
import Ebpf.Proofs.Text.Reader
import Ebpf.Proofs.Statement.Reading
import Ebpf.Proofs.Disassembly.Verdict
import Ebpf.Proofs.Disassembly.MemoryText
import Ebpf.Proofs.Disassembly.JumpText
import Ebpf.Proofs.Disassembly.WideImmediate
import Ebpf.Proofs.Machine.Execute
import Ebpf.Proofs.Machine.Invariant
import Ebpf.Proofs.Machine.Run
import Ebpf.Proofs.Machine.Printed
import Ebpf.Proofs.CommandLine.Execute
import Ebpf.Proofs.Machine.SideBySide
import Ebpf.Proofs.Machine.LowHalves
import Ebpf.Proofs.Machine.Composition
import Ebpf.Proofs.Machine.Arithmetic
import Ebpf.Proofs.Machine.Faults
import Ebpf.Proofs.Text.Utf8
import Ebpf.Proofs.Elf.Fields
import Ebpf.Proofs.Elf.Image
import Ebpf.Proofs.Elf.Lookup
