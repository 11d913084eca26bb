import Chip8.Proofs.Calls
import Chip8.Screen.Terminal

/-! # Drawing a sprite is one exclusive or

A sprite is plotted pixel by pixel, and each plot may change the screen that the next one asks
about. No two pixels of a sprite fall on one point, though, even around an edge, so the points form
a mask: `draw_is_xor` says that the host is asked once for each point of it, and that on a terminal
the frame is flipped exactly there and the collision is one with the frame before. A sprite that
leaves memory is not drawn at all and is left out here.
-/

namespace Chip8

universe u

variable {η : Type u}

namespace Sprite

/-- A pixel comes before another if it is in an earlier row, or further left in the same. Pixels are
named by row and column. -/
def RowMajor (first second : Nat × Nat) : Prop :=
  first.1 < second.1 ∨ first.1 = second.1 ∧ first.2 < second.2

private theorem RowMajor.ne {first second : Nat × Nat} (before : RowMajor first second) :
    first ≠ second := by
  rintro rfl
  simp [RowMajor] at before

/-- The pixels of a sprite, row by row from the given number on. -/
def pixelsFrom (row : Nat) : List UInt8 → List (Nat × Nat)
  | [] => []
  | bits :: rest => (columns bits).map (row, ·) ++ pixelsFrom (row + 1) rest

private theorem mem_columns {bits : UInt8} {column : Nat} :
    column ∈ columns bits ↔ column < 8 ∧ bits.toBitVec.getLsbD (7 - column) = true := by
  simp only [columns, List.mem_filter, List.mem_range, BitVec.getMsbD_eq_getLsbD]
  grind

private theorem mem_pixelsFrom {start row column : Nat} {sprite : List UInt8} :
    (row, column) ∈ pixelsFrom start sprite ↔
      start ≤ row ∧ ∃ bits, sprite[row - start]? = some bits ∧ column ∈ columns bits := by
  induction sprite generalizing start with
  | nil => simp [pixelsFrom]
  | cons bits rest ih =>
    simp only [pixelsFrom, List.mem_append, List.mem_map, Prod.mk.injEq, ih]
    constructor
    · rintro (⟨other, member, rfl, rfl⟩ | ⟨below, found⟩)
      · exact ⟨Nat.le_refl _, bits, by rw [Nat.sub_self, List.getElem?_cons_zero], member⟩
      · rw [show row - start = row - (start + 1) + 1 by omega, List.getElem?_cons_succ]
        exact ⟨by omega, found⟩
    · rintro ⟨below, found⟩
      by_cases here : row = start
      · subst here
        rw [Nat.sub_self, List.getElem?_cons_zero] at found
        obtain ⟨_, same, member⟩ := found
        cases same
        exact .inl ⟨column, member, rfl, rfl⟩
      · rw [show row - start = row - (start + 1) + 1 by omega, List.getElem?_cons_succ] at found
        exact .inr ⟨by omega, found⟩

/-- The columns of a row go from left to right, and the rows from the top. -/
theorem pixelsFrom_pairwise (start : Nat) (sprite : List UInt8) :
    (pixelsFrom start sprite).Pairwise RowMajor := by
  induction sprite generalizing start with
  | nil => exact .nil
  | cons bits rest ih =>
    refine List.pairwise_append.mpr ⟨?_, ih (start + 1), ?_⟩
    · have sorted : (columns bits).Pairwise (· < ·) := List.pairwise_lt_range.filter _
      exact sorted.map _ fun left right before => .inr ⟨rfl, before⟩
    · rintro first member ⟨row, column⟩ later
      obtain ⟨_, -, rfl⟩ := List.mem_map.mp member
      obtain ⟨below, -⟩ := mem_pixelsFrom.mp later
      exact .inl below

/-- What is plotted are the pixels, each where it falls on the display. -/
theorem points_eq (wrap : Bool) (x y start : Nat) (sprite : List UInt8) :
    points wrap x (y + start) sprite =
      (pixelsFrom start sprite).filterMap fun pixel => place? wrap (x + pixel.2) (y + pixel.1) := by
  induction sprite generalizing start with
  | nil => rfl
  | cons bits rest ih =>
    rw [points, pixelsFrom, List.filterMap_append, List.filterMap_map, Nat.add_assoc, ih]
    rfl

/-- Two pixels that are close to each other do not fall on one point, not even around an edge. -/
theorem place?_injective {wrap : Bool} {x y : Nat} {first second point : Nat × Nat}
    (rows : first.1 < displayHeight ∧ second.1 < displayHeight)
    (columns : first.2 < displayWidth ∧ second.2 < displayWidth)
    (left : place? wrap (x + first.2) (y + first.1) = some point)
    (right : place? wrap (x + second.2) (y + second.1) = some point) : first = second := by
  obtain ⟨row, column⟩ := first
  obtain ⟨row', column'⟩ := second
  simp only [displayHeight, displayWidth] at rows columns
  simp only [place?, displayHeight, displayWidth] at left right
  cases wrap with
  | true =>
    cases left
    simp only [if_true, Option.some.injEq, Prod.mk.injEq] at right
    rw [Prod.mk.injEq]
    omega
  | false =>
    simp only [Bool.false_eq_true, if_false, Option.ite_none_right_eq_some, Option.some.injEq]
      at left right
    obtain ⟨-, rfl⟩ := left
    obtain ⟨-, same⟩ := right
    simp only [Prod.mk.injEq] at same ⊢
    omega

end Sprite

namespace Machine

/-- Whether the sprite at the index has a pixel: the leftmost is the top bit of its row's byte. -/
def spritePixel (machine : Machine) (row column : Nat) : Bool :=
  (machine.memory.get? (machine.registers.i.toNat + row)).any fun byte =>
    byte.toBitVec.getLsbD (7 - column)

/-- Where a pixel falls when the sprite is drawn at two registers, if it falls on the display. -/
def landing? (machine : Machine) (x y : VIndex) (row column : Nat) : Option (Nat × Nat) :=
  let across := (machine.registers.get x).toNat + column
  let down := (machine.registers.get y).toNat + row
  if machine.dialect.wrapSprites then some (across % displayWidth, down % displayHeight)
  else if across < displayWidth ∧ down < displayHeight then some (across, down)
  else none

/-- Whether a point is one on which some pixel of the sprite falls. -/
def mask (machine : Machine) (x y : VIndex) (rows : RowCount) (point : Nat × Nat) : Bool :=
  (List.range rows.val).any fun row => (List.range 8).any fun column =>
    machine.spritePixel row column && machine.landing? x y row column == some point

/-- Some points are those of the mask, each once, and come in the order of the pixels. -/
structure Covers (machine : Machine) (x y : VIndex) (rows : RowCount)
    (points : List (Nat × Nat)) : Prop where
  ordered : ∃ pixels : List (Nat × Nat), pixels.Pairwise Sprite.RowMajor ∧
    (∀ row column, (row, column) ∈ pixels ↔ row < rows.val ∧ column < 8 ∧
      machine.spritePixel row column = true ∧ (machine.landing? x y row column).isSome = true) ∧
    points.map some = pixels.map fun pixel => machine.landing? x y pixel.1 pixel.2
  once : points.Nodup
  exact : ∀ point, point ∈ points ↔ machine.mask x y rows point = true
  onDisplay : ∀ point ∈ points, point.1 < displayWidth ∧ point.2 < displayHeight

variable {machine : Machine} {x y : VIndex} {rows : RowCount} {sprite : List UInt8}

private theorem mem_pixels_of_read
    (read : machine.memory.readRange machine.registers.i.toNat rows.val = .ok sprite)
    {row column : Nat} :
    (row, column) ∈ Sprite.pixelsFrom 0 sprite ↔
      row < rows.val ∧ column < 8 ∧ machine.spritePixel row column = true := by
  obtain ⟨bytes, same, length, bits⟩ :=
    machine.memory.exists_readRange (Memory.within_of_readRange read)
  rw [read] at same
  cases same
  simp only [Sprite.mem_pixelsFrom, Sprite.mem_columns, Nat.zero_le, true_and, Nat.sub_zero]
  constructor
  · rintro ⟨byte, found, inRow, set⟩
    have inside : row < rows.val := length ▸ (List.getElem?_eq_some_iff.mp found).1
    rw [bits row inside] at found
    exact ⟨inside, inRow, by simp only [spritePixel, found, Option.any_some, set]⟩
  · rintro ⟨inside, inRow, pixel⟩
    rw [bits row inside]
    simp only [spritePixel, Option.any_eq_true] at pixel
    obtain ⟨byte, found, set⟩ := pixel
    exact ⟨byte, found, inRow, set⟩

private theorem spritePoints_eq (machine : Machine) (x y : VIndex) (sprite : List UInt8) :
    machine.spritePoints x y sprite =
      (Sprite.pixelsFrom 0 sprite).filterMap fun pixel => machine.landing? x y pixel.1 pixel.2 :=
  Sprite.points_eq _ _ _ 0 sprite

/-- The points that are plotted are those of the mask. -/
theorem spritePoints_covers
    (read : machine.memory.readRange machine.registers.i.toNat rows.val = .ok sprite) :
    machine.Covers x y rows (machine.spritePoints x y sprite) where
  ordered := by
    refine ⟨(Sprite.pixelsFrom 0 sprite).filter fun pixel =>
      (machine.landing? x y pixel.1 pixel.2).isSome, ?_, ?_, ?_⟩
    · exact (Sprite.pixelsFrom_pairwise 0 sprite).filter _
    · intro row column
      rw [List.mem_filter, mem_pixels_of_read read, and_assoc, and_assoc]
    · rw [spritePoints_eq, List.map_filterMap_some_eq_filter_map_isSome, List.filter_map]
      rfl
  once := by
    rw [spritePoints_eq]
    refine List.pairwise_filterMap.mpr ((Sprite.pixelsFrom_pairwise 0 sprite).imp_of_mem ?_)
    rintro ⟨row, column⟩ ⟨row', column'⟩ member member' before point left _ right rfl
    obtain ⟨inside, inRow, -⟩ := (mem_pixels_of_read read).mp member
    obtain ⟨inside', inRow', -⟩ := (mem_pixels_of_read read).mp member'
    have few := rows.isLt
    refine before.ne (Sprite.place?_injective ?_ ?_ left right)
    · simp only [displayHeight]
      omega
    · simp only [displayWidth]
      omega
  exact := by
    intro point
    rw [spritePoints_eq, List.mem_filterMap]
    simp only [mask, List.any_eq_true, List.mem_range, Bool.and_eq_true, beq_iff_eq]
    constructor
    · rintro ⟨⟨row, column⟩, member, landed⟩
      obtain ⟨inside, inRow, pixel⟩ := (mem_pixels_of_read read).mp member
      exact ⟨row, inside, column, inRow, pixel, landed⟩
    · rintro ⟨row, inside, column, inRow, pixel, landed⟩
      exact ⟨(row, column), (mem_pixels_of_read read).mpr ⟨inside, inRow, pixel⟩, landed⟩
  onDisplay _ member := Sprite.mem_points member

end Machine

/-- Different points of the display are flipped as one, and what they hit was lit before. -/
theorem Terminal.plot_eq {points : List (Nat × Nat)} (once : points.Nodup)
    (onDisplay : ∀ point ∈ points, point.1 < displayWidth ∧ point.2 < displayHeight)
    (terminal : Terminal) :
    (Sprite.plot terminal points).1 =
        points.any (fun point => terminal.frame.isLit point.1 point.2) ∧
      ∃ frame, (Sprite.plot terminal points).2 = { terminal with frame } ∧
        ∀ column line, frame.isLit column line =
          (terminal.frame.isLit column line ^^ points.contains (column, line)) := by
  induction points generalizing terminal with
  | nil => exact ⟨rfl, terminal.frame, rfl, fun column line => (Bool.xor_false _).symm⟩
  | cons point rest ih =>
    obtain ⟨fresh, once⟩ := List.nodup_cons.mp once
    obtain ⟨inside, onDisplay⟩ := List.forall_mem_cons.mp onDisplay
    obtain ⟨hit, frame, after, flipped⟩ := ih once onDisplay
      { terminal with frame := terminal.frame.toggle point.1 point.2 }
    refine ⟨?_, frame, after, ?_⟩
    · have later : rest.any (fun other =>
            (terminal.frame.toggle point.1 point.2).isLit other.1 other.2) =
          rest.any (fun other => terminal.frame.isLit other.1 other.2) := by
        rw [Bool.eq_iff_iff, List.any_eq_true, List.any_eq_true]
        refine exists_congr fun other => and_congr_right fun member => ?_
        rw [Frame.isLit_toggle, if_neg]
        rintro ⟨column, line, -⟩
        exact fresh (Prod.ext column line ▸ member)
      simp only [Sprite.plot, Host.drawPixel, List.any_cons, hit, later]
    · intro column line
      rw [flipped, Frame.isLit_toggle, List.contains_cons]
      by_cases here : (column, line) = point
      · subst here
        have absent : rest.contains (column, line) = false := by
          rw [← Bool.not_eq_true, List.contains_iff_mem]
          exact fresh
        rw [if_pos ⟨rfl, rfl, inside⟩, absent, beq_self_eq_true, Bool.xor_false, Bool.true_or,
          Bool.xor_true]
      · rw [if_neg fun held => here (Prod.ext held.1 held.2.1), beq_eq_false_iff_ne.mpr here,
          Bool.false_or]

namespace Machine

variable {machine : Machine} {x y : VIndex} {rows : RowCount}

/-- A sprite in memory sets the flag register and nothing else of the machine. -/
theorem execute_draw [Host η]
    (within : machine.registers.i.toNat + rows.val ≤ memorySize) (host : η) :
    ∃ points, machine.Covers x y rows points ∧
      machine.execute host (.draw x y rows) =
        ⟨machine.withRegisters (machine.registers.setFlag (Sprite.plot host points).1),
          Host.screen (Sprite.plot host points).2 .updating, .ok .next⟩ := by
  obtain ⟨sprite, read, -⟩ := machine.memory.exists_readRange within
  exact ⟨_, spritePoints_covers read, drawSprite_of_read read rfl⟩

/-- On a terminal the mask of a sprite is flipped as one. -/
theorem execute_draw_terminal (within : machine.registers.i.toNat + rows.val ≤ memorySize)
    (terminal : Terminal) :
    ∃ hit frame,
      machine.execute terminal (.draw x y rows) =
        ⟨machine.withRegisters (machine.registers.setFlag hit),
          { terminal with frame, frames := terminal.frames + 1 }, .ok .next⟩ ∧
      (hit = true ↔ ∃ point, machine.mask x y rows point = true ∧
        terminal.frame.isLit point.1 point.2 = true) ∧
      ∀ column line, frame.isLit column line =
        (terminal.frame.isLit column line ^^ machine.mask x y rows (column, line)) := by
  obtain ⟨points, covers, drawn⟩ := execute_draw (x := x) (y := y) within terminal
  obtain ⟨hit, frame, after, flipped⟩ := terminal.plot_eq covers.once covers.onDisplay
  refine ⟨_, frame, by rw [drawn, after]; rfl, ?_, ?_⟩
  · rw [hit, List.any_eq_true]
    exact exists_congr fun point => and_congr_left' (covers.exact point)
  · intro column line
    rw [flipped]
    congr 1
    rw [Bool.eq_iff_iff, List.contains_iff_mem, covers.exact]

/-- Whether an instruction draws a sprite that has a point in its mask. -/
def draws (machine : Machine) (point : Nat × Nat) : Instruction → Bool
  | .draw x y rows => machine.mask x y rows point
  | _ => false

/-- An instruction that is not refused does nothing to a terminal but draw its sprite. -/
theorem execute_terminal {terminal : Terminal} {instruction : Instruction} {flow : Flow}
    (done : (machine.execute terminal instruction).outcome = .ok flow) :
    ∃ frame frames, (machine.execute terminal instruction).host =
        { terminal with frame, frames } ∧
      ∀ column line, frame.isLit column line =
        (terminal.frame.isLit column line ^^ machine.draws (column, line) instruction) := by
  by_cases draw : ∃ x y rows, instruction = .draw x y rows
  · obtain ⟨x, y, rows, rfl⟩ := draw
    have within : machine.registers.i.toNat + rows.val ≤ memorySize := by
      refine Nat.le_of_not_lt fun beyond => ?_
      rw [execute_of_refuses (.outside rfl beyond)] at done
      contradiction
    obtain ⟨hit, frame, drawn, -, flipped⟩ :=
      execute_draw_terminal (x := x) (y := y) within terminal
    exact ⟨frame, terminal.frames + 1, congrArg Effect.host drawn, flipped⟩
  · have other (x y : VIndex) (rows : RowCount) : instruction ≠ .draw x y rows :=
      fun same => draw ⟨x, y, rows, same⟩
    have kept := congrArg Effect.host (machine.execute_of_not_draw other terminal terminal)
    refine ⟨terminal.frame, terminal.frames, kept, fun column line => ?_⟩
    cases instruction with
    | draw x y rows => exact absurd rfl (other x y rows)
    | _ => exact (Bool.xor_false _).symm

/-- Drawing plots each point of the mask once, in the order of the pixels, and sets the flag
register if one of them was lit. On a terminal the mask is flipped as one. -/
theorem draw_is_xor (within : machine.registers.i.toNat + rows.val ≤ memorySize) :
    (∀ {η : Type u} [Host η] (host : Recorded η), ∃ points answers,
      machine.Covers x y rows points ∧ answers.length = points.length ∧
      (machine.execute host (.draw x y rows)).machine =
        machine.withRegisters (machine.registers.setFlag (answers.contains true)) ∧
      (machine.execute host (.draw x y rows)).outcome = .ok .next ∧
      (machine.execute host (.draw x y rows)).host.calls.toList =
        host.calls.toList ++ Sprite.calls points answers) ∧
    (∀ terminal : Terminal, ∃ hit frame,
      machine.execute terminal (.draw x y rows) =
        ⟨machine.withRegisters (machine.registers.setFlag hit),
          { terminal with frame, frames := terminal.frames + 1 }, .ok .next⟩ ∧
      (hit = true ↔ ∃ point, machine.mask x y rows point = true ∧
        terminal.frame.isLit point.1 point.2 = true) ∧
      ∀ column line, frame.isLit column line =
        (terminal.frame.isLit column line ^^ machine.mask x y rows (column, line))) ∧
    ∀ {η : Type u} [Host η] (host : η), machine.mode = .running →
      machine.instructionAt machine.registers.pc = .ok (.draw x y rows) →
      machine.step host =
        ({ machine with
            registers := { (machine.execute host (.draw x y rows)).machine.registers with
              pc := machine.registers.pc + 2 }
            cycles := machine.cycles + 1 },
          (machine.execute host (.draw x y rows)).host) := by
  refine ⟨?_, ?_, ?_⟩
  · intro η _ host
    obtain ⟨points, covers, drawn⟩ := execute_draw (x := x) (y := y) within host
    obtain ⟨answers, length, hit, calls⟩ := Sprite.plot_calls host points
    rw [drawn, hit]
    refine ⟨points, answers, covers, length, rfl, rfl, ?_⟩
    simp only [Host.screen, Recorded.toList_calls_note, calls, Sprite.calls, List.append_assoc]
  · exact execute_draw_terminal within
  · intro η _ host active fetched
    obtain ⟨points, -, drawn⟩ := execute_draw (x := x) (y := y) within host
    have stepped : machine.step host =
        ((machine.execute host (.draw x y rows)).machine.follow machine.registers.pc .next,
          (machine.execute host (.draw x y rows)).host) := by
      simp only [step, attempt, active, fetched, drawn]
    rw [stepped, drawn]
    rfl

/-- A machine whose memory repeats one byte, of which a draw instruction and its sprite consist. -/
def striped : Machine where
  registers := .initial
  memory := ⟨Vector.replicate memorySize 0xDD⟩
  timers := {}
  keypad := .released
  status := { running := true }
  dialect := {}
  mode := .running
  cycles := 0
  fault := none
  random := .zeros

theorem draw_is_xor_striped :
    striped.registers.i.toNat + (13 : RowCount).val ≤ memorySize ∧
      (striped.step ({} : Terminal)).2.frame.isLit 1 12 = true ∧
      (striped.step ({} : Terminal)).2.frame.isLit 2 12 = false := by
  have within : striped.registers.i.toNat + (13 : RowCount).val ≤ memorySize := by decide
  have read : striped.memory.readWord striped.registers.pc = .ok 0xDDDD := by
    simp only [Memory.readWord, Memory.read, Memory.get?, striped, Vector.getElem?_replicate]
    rfl
  have decoded : Instruction.decode? 0xDDDD = some (.draw 13 13 13) := by decide
  have fetched : striped.instructionAt striped.registers.pc = .ok (.draw 13 13 13) := by
    simp only [instructionAt, read, decoded]
  have in_mask : striped.mask 13 13 13 (1, 12) = true := by decide +kernel
  have off_mask : striped.mask 13 13 13 (2, 12) = false := by decide +kernel
  obtain ⟨-, onTerminal, stepped⟩ := draw_is_xor (x := 13) (y := 13) within
  obtain ⟨hit, frame, drawn, -, flipped⟩ := onTerminal {}
  rw [stepped _ rfl fetched, drawn]
  refine ⟨within, ?_, ?_⟩
  · rw [flipped, in_mask, Frame.isLit_blank]
    rfl
  · rw [flipped, off_mask, Frame.isLit_blank]
    rfl

end Machine

end Chip8
