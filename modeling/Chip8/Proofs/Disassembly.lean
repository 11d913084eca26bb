import Chip8.CommandLine.Outcome
import Chip8.Proofs.AssemblyText
import Chip8.Proofs.Dialogue
import Chip8.Proofs.History
import Chip8.Proofs.Loading

/-! # The disassembly shows what the machine reads

A listing is made from the bytes of a program, two at a time, and a last single byte is completed
with a zero. The machine reads words from memory, where a load has put the program over zeros. The
main statement, `disassembly_agrees_with_machine`, says that both see the same word and the same
instruction on every line, and that the program and the debugger show it in the same way.
-/

namespace Chip8

namespace Listing

open Instruction

/-- The characters that listings are written with, the marks of the debugger among them. -/
def isPlain (c : Char) : Bool :=
  Operand.isChar c || c == ' ' || c == ',' || c == '.' || c == '>'

private theorem unbroken_of_plain {text : List Char} (plain : text.all isPlain = true) :
    Text.Unbroken text := by
  intro c member
  have isPlain := List.all_eq_true.mp plain c member
  constructor
  · rintro rfl
    contradiction
  · rintro rfl
    contradiction

private theorem plain_of_isChar {text : List Char} (all : text.all Operand.isChar = true) :
    text.all isPlain = true := by
  rw [List.all_eq_true] at all ⊢
  intro c member
  simp [isPlain, all c member]

private theorem plain_joined (operands : List Operand) :
    (Operand.joined operands).all isPlain = true := by
  induction operands with
  | nil => rfl
  | cons operand rest ih =>
    have head := plain_of_isChar operand.all_text
    cases rest with
    | nil => exact head
    | cons second rest =>
      rw [Operand.joined, List.all_append, head, List.all_cons, List.all_cons, ih]
      · rfl
      · exact List.cons_ne_nil second rest

private theorem plain_instruction (instruction : Instruction) :
    instruction.text.toList.all isPlain = true := by
  have column (mnemonic : Mnemonic) : mnemonic.column.toList.all isPlain = true := by
    cases mnemonic <;> decide
  rw [toList_text, List.all_append, column, plain_joined]
  rfl

private theorem plain_body (line : Line) : line.body.toList.all isPlain = true := by
  unfold Line.body
  split
  · next instruction _ => exact plain_instruction instruction
  · have digits := plain_of_isChar (Operand.all_digits 4 line.word.toNat)
    rw [toList_data]
    simp only [List.all_cons, digits]
    decide

/-- A line of a listing is one line. -/
theorem unbroken_text (line : Line) : Text.Unbroken line.text.toList := by
  have address := plain_of_isChar (Operand.all_hexLiteral 3 line.address.toNat)
  have word := plain_of_isChar (Operand.all_digits 4 line.word.toNat)
  have blanks : "  ".toList.all isPlain = true := by decide
  apply unbroken_of_plain
  simp only [Line.text, toString, Text.addressText, Text.hex, String.toList_append,
    String.toList_ofList, List.all_append, address, word, plain_body line, blanks]
  decide

end Listing

namespace Machine

/-- That a line shows what the machine reads at its address: the word there, and the instruction it
stands for, if it stands for one. -/
structure Shows (machine : Machine) (line : Listing.Line) : Prop where
  word : machine.memory.readWord line.address = .ok line.word
  instruction : ∀ instruction, line.instruction = some instruction ↔
    machine.instructionAt line.address = .ok instruction
  data : line.instruction = none ↔
    machine.instructionAt line.address = .error (.unknownOpcode line.word line.address)

private theorem instructionAt_of_readWord {machine : Machine} {address : Address} {word : Word}
    (read : machine.memory.readWord address = .ok word) :
    machine.instructionAt address =
      match Instruction.decode? word with
      | some instruction => .ok instruction
      | none => .error (.unknownOpcode word address) := by
  cases decoded : Instruction.decode? word <;> simp only [instructionAt, read, decoded]

private theorem shows_ofWord {machine : Machine} {address : Address} {word : Word}
    (read : machine.memory.readWord address = .ok word) : machine.Shows (.ofWord address word) := by
  have fetched := instructionAt_of_readWord read
  refine ⟨read, fun instruction => ?_, ?_⟩
  · rw [Listing.Line.ofWord, fetched]
    cases Instruction.decode? word <;> simp
  · rw [Listing.Line.ofWord, fetched]
    cases Instruction.decode? word <;> simp

/-- A line that is shown is decoded. -/
theorem Shows.eq_ofWord {machine : Machine} {line : Listing.Line} (shown : machine.Shows line) :
    line = .ofWord line.address line.word := by
  have fetched := instructionAt_of_readWord shown.word
  suffices decoded : line.instruction = Instruction.decode? line.word by
    rw [Listing.Line.ofWord, ← decoded]
  cases decoded : Instruction.decode? line.word with
  | some instruction =>
    rw [decoded] at fetched
    exact (shown.instruction instruction).mpr fetched
  | none =>
    rw [decoded] at fetched
    exact shown.data.mpr fetched

end Machine

/-- The words of a program stand in memory behind its start, the last one completed with a zero. -/
theorem Memory.readWord_program {program : List UInt8} {address : Address} {index : Nat}
    (fits : program.length ≤ maxProgramSize) (inside : 2 * index < program.length)
    (place : address.toNat = programStart + 2 * index) :
    (holding program).readWord address = .ok (Listing.wordAt program index) := by
  -- The glyphs lie below the program, and behind it there are only the zeros of the reset.
  have image (offset : Nat) : image program (programStart + offset) = program[offset]?.getD 0 := by
    simp only [programStart, Memory.image]
    rw [if_neg (by omega), if_neg (by omega), if_pos (by omega), Nat.add_sub_cancel_left]
  simp only [maxProgramSize] at fits
  rw [readWord_holding program (by simp only [place, programStart, memorySize]; omega), place,
    Nat.add_assoc, image, image]
  rfl

/-- Every line of the listing of a program shows what the machine reads. -/
theorem Machine.shows_of_holding {machine : Machine} {program : List UInt8} {index : Nat}
    {line : Listing.Line} (memory : machine.memory = .holding program)
    (fits : program.length ≤ maxProgramSize)
    (listed : (Listing.ofProgram program 0x200)[index]? = some line) :
    line.address.toNat = 0x200 + 2 * index ∧ machine.Shows line := by
  rw [Listing.getElem?_ofProgram] at listed
  split at listed
  · next inside =>
    cases listed
    have place := Listing.toNat_of_lt_capacity (Nat.lt_of_lt_of_le inside (Nat.min_le_right ..))
    refine ⟨place, shows_ofWord ?_⟩
    rw [memory]
    exact Memory.readWord_program fits (by omega) place
  · contradiction

namespace Debugger

namespace Session

private theorem unbroken_gutter (session : Session) (address : Address) :
    Text.Unbroken (session.gutter address).toList := by
  apply Listing.unbroken_of_plain
  unfold gutter
  cases session.breakpoints.contains address <;>
    cases session.machine.registers.pc == address <;> decide

/-- A line that the machine shows is what the debugger tells about its address. -/
theorem line_lineAt {session : Session} {line : Listing.Line}
    (shown : session.machine.Shows line) :
    (session.lineAt line.address).line = s!"INFO {session.gutter line.address} {line.text}" := by
  have told : session.lineAt line.address =
      .info (session.gutter line.address ++ " " ++ line.text) := by
    simp only [lineAt, shown.word, ← shown.eq_ofWord]
    rfl
  have unbroken :
      Text.Unbroken (session.gutter line.address ++ " " ++ line.text).toList := by
    rw [String.toList_append, String.toList_append]
    refine List.forall_mem_append.mpr ⟨List.forall_mem_append.mpr ⟨?_, ?_⟩, ?_⟩
    · exact session.unbroken_gutter line.address
    · exact Listing.unbroken_of_plain (by decide)
    · exact Listing.unbroken_text line
  rw [told, Event.line, Event.info, Text.firstLine_of_unbroken unbroken]
  simp [toString, Level.text, String.append_assoc]

private theorem memory_timerCycles (console : Console Terminal) (count : Nat) :
    (console.timerCycles count).machine.memory = console.machine.memory := by
  induction count generalizing console with
  | zero => rfl
  | succ count ih =>
    have kept : console.tickTimers.machine.memory = console.machine.memory :=
      Console.whenRunning_keeps (·.machine.memory)
        (console.machine.rests_tickTimers console.host).memory
    exact (ih console.tickTimers).trans kept

/-- Memory is only written by instructions. -/
theorem memory_of_consoleAfter? {session : Session} {budget : Nat} {command : Command}
    {console : Console Terminal} (executes : command.executes = false)
    (after : session.consoleAfter? budget command = some console) :
    console.machine.memory = session.machine.memory := by
  cases command with
  | step | «continue» => contradiction
  | set name value =>
    cases after
    refine Console.whenRunning_keeps (·.machine.memory) ?_
    simp only [Console.withRegister]
    split <;> rfl
  | key key pressed =>
    cases after
    refine Console.whenRunning_keeps (·.machine.memory) ?_
    simp only [Console.withKey]
    split <;> rfl
  | timers cycles =>
    cases after
    exact Console.whenRunning_keeps (·.machine.memory)
      (memory_timerCycles session.console cycles)
  | exit | registers | memory | list | «break» | unbreak | screen | info =>
    cases after
    rfl

end Session

/-- Memory stays as it is until an instruction is executed. -/
theorem Dialogue.memory_eq {budget : Nat} {session final : Session} {commands : List Command}
    (dialogue : Dialogue budget session commands final)
    (noneExecutes : ∀ command ∈ commands, command.executes = false) :
    final.machine.memory = session.machine.memory := by
  induction dialogue with
  | nil => rfl
  | @cons session final line command reply commands asked goesOn executed tail ih =>
    have later := ih fun other member => noneExecutes other (by simp [member])
    have after := Session.consoleAfter?_of_executed executed
    have kept := Session.memory_of_consoleAfter? (noneExecutes command (by simp)) after
    exact later.trans kept

/-- A request for a listing tells the line of each address in turn. -/
theorem Session.exists_listing {session : Session} {text : String} {count : Nat}
    (asked : session.commandOf text = .ok (.list count)) (budget : Nat) :
    ∃ reply : Reply, session.answer budget text = .reply reply ∧
      ∀ (place : Nat) address, (Listing.addresses session.listStart count)[place]? = some address →
        reply.outputs[place]? = some (.event (session.lineAt address)) := by
  refine ⟨_, answer_of_asked asked Command.noConfusion, fun place address listed => ?_⟩
  simp only [say, listEvents, List.map_map, List.getElem?_map]
  change ((Listing.addresses session.listStart count)[place]?).map _ = _
  rw [listed]
  rfl

end Debugger

namespace CommandLine

private theorem printed_disassemble {surroundings : Surroundings} {path : String}
    {program : List UInt8} (read : surroundings.read path = .ok program) (origin : Address) :
    (perform surroundings (.disassemble path origin)).printed =
      (Listing.ofProgram program origin).map (·.text) := by
  have unbroken : ∀ text ∈ (Listing.ofProgram program origin).map (·.text),
      Text.Unbroken text.toList := by
    intro text member
    obtain ⟨line, -, rfl⟩ := List.mem_map.mp member
    exact Listing.unbroken_text line
  rw [perform, withProgram, read]
  change Text.lines (String.join [String.join (List.map (· ++ "\n") _)]) = _
  rw [String.join_cons, String.join_nil, String.append_empty]
  exact Text.lines_join unbroken

end CommandLine

open Debugger CommandLine

/-- After a load of any program that fits, whatever has happened to the console before, every line
of the disassembly shows the word and the instruction that the machine reads at its address. The
line that the program prints is then the one that the debugger lists for the address, behind its
marks, as long as no instruction has been executed. -/
theorem disassembly_agrees_with_machine {η : Type*} [Host η] (host : η) (random : RandomSource)
    (past : List (Episode η)) (program : List UInt8) (dialect : Dialect) :
    let loaded := ((Console.new host random).live past).load program dialect
    let listing := Listing.ofProgram program 0x200
    (loaded.fault? = none ↔ program.length ≤ maxProgramSize) ∧
    (loaded.fault? = none →
      listing.length = (program.length + 1) / 2 ∧
      ∀ index line, listing[index]? = some line →
        line.address.toNat = 0x200 + 2 * index ∧
        loaded.machine.Shows line ∧
        (∀ surroundings path, surroundings.read path = .ok program →
          (perform surroundings (.disassemble path 0x200)).printed[index]? = some line.text) ∧
        ∀ budget session commands final, session.machine = loaded.machine →
          Dialogue budget session commands final →
          (∀ command ∈ commands, command.executes = false) →
          ∀ text count, final.commandOf text = .ok (.list count) →
            ∃ reply : Reply, final.answer budget text = .reply reply ∧
              ∀ place : Nat,
                (Listing.addresses final.listStart count)[place]? = some line.address →
                ∃ event, reply.outputs[place]? = some (.event event) ∧
                  event.line = s!"INFO {final.gutter line.address} {line.text}") := by
  intro loaded listing
  have machine : loaded.machine = .fresh program dialect _ := Console.machine_load _ program dialect
  have fits : loaded.fault? = none ↔ program.length ≤ maxProgramSize := by
    rw [Console.fault?, machine, Machine.fresh]
    split <;> simp_all
  refine ⟨fits, fun loads => ⟨?_, fun index line listed => ?_⟩⟩
  · have small : program.length ≤ 3584 := fits.mp loads
    rw [Listing.length_ofProgram, Listing.capacity]
    change min _ ((65535 - 512) / 2 + 1) = _
    omega
  · have memory : loaded.machine.memory = .holding program := by
      rw [machine, Machine.fresh, placed, if_pos (fits.mp loads)]
    obtain ⟨place, shown⟩ := Machine.shows_of_holding memory (fits.mp loads) listed
    refine ⟨place, shown, fun surroundings path read => ?_, ?_⟩
    · rw [printed_disassemble read, List.getElem?_map, listed]
      rfl
    · intro budget session commands final same dialogue noneExecutes text count asked
      have kept : final.machine.memory = .holding program := by
        rw [dialogue.memory_eq noneExecutes, same, memory]
      obtain ⟨-, stillShown⟩ := Machine.shows_of_holding kept (fits.mp loads) listed
      obtain ⟨reply, replied, told⟩ := Session.exists_listing asked budget
      refine ⟨reply, replied, fun position reached => ?_⟩
      exact ⟨_, told position line.address reached, Session.line_lineAt stillShown⟩

end Chip8
