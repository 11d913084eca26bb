import Chip8.Screen.Terminal
import Chip8.Text.Lines
import Mathlib.Algebra.BigOperators.Group.Finset.Sigma
import Mathlib.Algebra.BigOperators.Ring.Finset
import Mathlib.Data.List.DropRight

/-! # The picture on a terminal

A terminal flips points and clears its frame, and counts how often it was told to present. So a
point is lit if it was flipped an odd number of times since the last clear, and what a flip answers
is that parity. The pixels, the count of the lit ones and the text of a frame all go over the same
rectangle, line by line: `pixels_eq` and `lines_eq` write them out over the points, and the text
shows each of them, so no two frames have the same.
-/

namespace Chip8

namespace Frame

variable {frame other : Frame} {x y : Nat}

private theorem isLit_of_inside (frame : Frame) (right : x < displayWidth)
    (below : y < displayHeight) : frame.isLit x y = frame.rows[y][x] := by
  simp only [isLit, Vector.getElem?_eq_getElem below, Option.bind_some,
    Vector.getElem?_eq_getElem right, Option.getD_some]

/-- A frame is known by its points. -/
theorem ext_isLit (same : ∀ x < displayWidth, ∀ y < displayHeight,
    frame.isLit x y = other.isLit x y) : frame = other := by
  obtain ⟨rows⟩ := frame
  obtain ⟨rows'⟩ := other
  refine congrArg Frame.mk (Vector.ext fun y below => Vector.ext fun x right => ?_)
  have point := same x right y below
  rwa [isLit_of_inside _ right below, isLit_of_inside _ right below] at point

/-- The rows of a frame as lists, from the points in them. -/
theorem rows_eq (frame : Frame) :
    frame.rows.toList.map Vector.toList =
      (List.range displayHeight).map fun y =>
        (List.range displayWidth).map fun x => frame.isLit x y := by
  apply List.ext_getElem
  · simp only [List.length_map, Vector.length_toList, List.length_range]
  · intro y here _
    have below : y < displayHeight := by simpa using here
    rw [List.getElem_map, List.getElem_map, List.getElem_range, Vector.getElem_toList]
    apply List.ext_getElem
    · simp only [List.length_map, Vector.length_toList, List.length_range]
    · intro x there _
      have right : x < displayWidth := by simpa using there
      rw [List.getElem_map, List.getElem_range, Vector.getElem_toList,
        isLit_of_inside frame right below]

theorem pixels_eq (frame : Frame) :
    frame.pixels = (List.range displayHeight).flatMap fun y =>
      (List.range displayWidth).map fun x => frame.isLit x y := by
  rw [pixels, List.flatMap_def, rows_eq, ← List.flatMap_def]

def mark (pixel : Bool) : Char := if pixel then '#' else '.'

private theorem mark_injective : Function.Injective mark := by
  intro first second same
  cases first <;> cases second <;> first | rfl | contradiction

theorem lines_eq (frame : Frame) :
    frame.lines = (List.range displayHeight).map fun y =>
      String.ofList ((List.range displayWidth).map fun x => mark (frame.isLit x y)) := by
  have rows := congrArg (List.map fun row : List Bool => String.ofList (row.map mark)) frame.rows_eq
  simp only [List.map_map, Function.comp_def] at rows
  exact rows

/-- The number of lit pixels is that of the lit points on the display. -/
theorem lit_eq_card (frame : Frame) :
    frame.lit = ((Finset.range displayWidth ×ˢ Finset.range displayHeight).filter fun point =>
      frame.isLit point.1 point.2 = true).card := by
  have line (y : Nat) : ((List.range displayWidth).map fun x => frame.isLit x y).count true =
      ((Finset.range displayWidth).filter fun x => frame.isLit x y = true).card := by
    rw [List.count, List.countP_map, List.countP_eq_length_filter]
    change _ = ((List.range displayWidth).filter fun x => decide (frame.isLit x y = true)).length
    refine congrArg List.length (List.filter_congr fun x _ => ?_)
    cases lit : frame.isLit x y <;> simp [lit]
  calc frame.lit
    _ = ((List.range displayHeight).map fun y =>
          ((List.range displayWidth).map fun x => frame.isLit x y).count true).sum := by
        rw [lit, pixels_eq, List.count_flatMap]
        rfl
    _ = ∑ y ∈ Finset.range displayHeight,
          ((Finset.range displayWidth).filter fun x => frame.isLit x y = true).card := by
        simp only [line]
        rfl
    _ = _ := by
        simp only [Finset.card_filter]
        rw [Finset.sum_product_right]

private theorem length_lines (frame : Frame) : frame.lines.length = displayHeight := by
  rw [lines_eq, List.length_map, List.length_range]

/-- A line of the text shows the points of its row, from left to right. -/
theorem getElem?_lines (frame : Frame) (below : y < displayHeight) :
    ∃ line, frame.lines[y]? = some line ∧ line.length = displayWidth ∧
      ∀ x < displayWidth, line.toList[x]? = some (mark (frame.isLit x y)) := by
  rw [lines_eq, List.getElem?_map, List.getElem?_range below]
  refine ⟨_, rfl, ?_, fun x right => ?_⟩
  · rw [String.length_ofList, List.length_map, List.length_range]
  · rw [String.toList_ofList, List.getElem?_map, List.getElem?_range right]
    rfl

/-- The lines are what the text is cut into. -/
theorem lines_text (frame : Frame) : Text.lines frame.text = frame.lines := by
  apply Text.lines_join
  intro line member c inLine
  rw [lines_eq] at member
  obtain ⟨y, -, rfl⟩ := List.mem_map.mp member
  rw [String.toList_ofList] at inLine
  obtain ⟨x, -, rfl⟩ := List.mem_map.mp inLine
  cases frame.isLit x y <;> decide

private theorem text_injective : Function.Injective text := by
  intro frame other same
  have lines : frame.lines = other.lines := by
    rw [← lines_text, same, lines_text]
  rw [lines_eq, lines_eq] at lines
  apply ext_isLit
  intro x right y below
  have row := List.map_inj_left.mp lines y (List.mem_range.mpr below)
  have points := List.map_inj_left.mp (String.ofList_injective row) x (List.mem_range.mpr right)
  exact mark_injective points

end Frame

namespace Terminal

/-- What can be asked of the screen of a terminal. -/
inductive Action where
  | toggle (x y : Nat)
  | clear
  | signal (sent : Signal)
deriving DecidableEq, Repr

namespace Action

def clears : Action → Bool
  | .toggle .. => false
  | .clear => true
  | .signal sent => sent.clear

def updates : Action → Bool
  | .signal sent => sent.update
  | _ => false

end Action

def act (terminal : Terminal) : Action → Terminal
  | .toggle x y => (Host.drawPixel terminal x y).2
  | .clear => { terminal with frame := .blank }
  | .signal sent => Host.screen terminal sent

def actAll (terminal : Terminal) (actions : List Action) : Terminal := actions.foldl act terminal

private theorem actAll_concat (terminal : Terminal) (past : List Action) (action : Action) :
    terminal.actAll (past ++ [action]) = (terminal.actAll past).act action := List.foldl_concat ..

/-- The actions behind the last clear. -/
def sinceClear (actions : List Action) : List Action :=
  actions.rtakeWhile fun action => !action.clears

/-- How often a point was toggled since the last clear. -/
def toggles (actions : List Action) (x y : Nat) : Nat := (sinceClear actions).count (.toggle x y)

private theorem toggles_concat (past : List Action) (action : Action) (x y : Nat) :
    toggles (past ++ [action]) x y =
      if action.clears then 0
      else toggles past x y + if action = .toggle x y then 1 else 0 := by
  unfold toggles sinceClear
  rw [List.rtakeWhile_concat]
  cases action.clears with
  | true => rfl
  | false => simp [List.count_append, List.count_singleton]

/-- An action flips the point that it names, if that is on the display, or clears all. -/
theorem isLit_act (terminal : Terminal) (action : Action) (x y : Nat) :
    (terminal.act action).frame.isLit x y =
      if action.clears then false
      else if action = .toggle x y ∧ x < displayWidth ∧ y < displayHeight then
        !terminal.frame.isLit x y
      else terminal.frame.isLit x y := by
  cases action with
  | toggle column line =>
    change (terminal.frame.toggle column line).isLit x y = if false = true then _ else _
    rw [if_neg Bool.false_ne_true, Frame.isLit_toggle]
    refine if_congr ?_ rfl rfl
    rw [Action.toggle.injEq]
    constructor
    · rintro ⟨rfl, rfl, inside⟩
      exact ⟨⟨rfl, rfl⟩, inside⟩
    · rintro ⟨⟨rfl, rfl⟩, inside⟩
      exact ⟨rfl, rfl, inside⟩
  | clear => exact Frame.isLit_blank x y
  | signal sent =>
    change (if sent.clear then Frame.blank else terminal.frame).isLit x y =
      if sent.clear then false else terminal.frame.isLit x y
    split
    · exact Frame.isLit_blank x y
    · rfl

/-- From a blank frame on, a point is lit if it was toggled an odd number of times. -/
theorem isLit_actAll {terminal : Terminal} (blank : terminal.frame = .blank)
    (actions : List Action) (x y : Nat) :
    (terminal.actAll actions).frame.isLit x y = true ↔
      x < displayWidth ∧ y < displayHeight ∧ Odd (toggles actions x y) := by
  induction actions using List.reverseRecOn with
  | nil =>
    change terminal.frame.isLit x y = true ↔ _
    rw [blank, Frame.isLit_blank]
    exact iff_of_false Bool.false_ne_true fun lit => Nat.not_odd_zero lit.2.2
  | append_singleton past action ih =>
    rw [actAll_concat, isLit_act, toggles_concat]
    cases action.clears with
    | true => exact iff_of_false Bool.false_ne_true fun lit => Nat.not_odd_zero lit.2.2
    | false =>
      simp only [Bool.false_eq_true, if_false]
      by_cases named : action = .toggle x y
      · rw [if_pos named, Nat.odd_add_one]
        by_cases inside : x < displayWidth ∧ y < displayHeight
        · rw [if_pos ⟨named, inside⟩, Bool.not_eq_true', ← Bool.not_eq_true, ih]
          tauto
        · rw [if_neg fun held => inside held.2, ih]
          tauto
      · rw [if_neg fun held => named held.1, if_neg named, Nat.add_zero, ih]

private theorem frames_act (terminal : Terminal) (action : Action) :
    (terminal.act action).frames =
      terminal.frames + if action.updates then 1 else 0 := by
  cases action with
  | toggle column line => rfl
  | clear => rfl
  | signal sent =>
    change (if sent.update then terminal.frames + 1 else terminal.frames) =
      terminal.frames + if sent.update then 1 else 0
    split <;> rfl

private theorem frames_actAll (terminal : Terminal) (actions : List Action) :
    (terminal.actAll actions).frames = terminal.frames + actions.countP Action.updates := by
  induction actions using List.reverseRecOn with
  | nil => rfl
  | append_singleton past action ih =>
    rw [actAll_concat, frames_act, ih, List.countP_append, List.countP_singleton, Nat.add_assoc]

/-- Off the display a toggle finds nothing lit and leaves the terminal as it is. -/
theorem drawPixel_of_outside (terminal : Terminal) {x y : Nat}
    (outside : ¬(x < displayWidth ∧ y < displayHeight)) :
    Host.drawPixel terminal x y = (false, terminal) := by
  have dark := terminal.frame.isLit_of_outside outside
  have same : terminal.frame.toggle x y = terminal.frame := dif_neg outside
  change (terminal.frame.isLit x y, { terminal with frame := terminal.frame.toggle x y }) = _
  rw [dark, same]

/-- From a new terminal on, a point is lit just if it is on the display and was toggled an odd
number of times since the last clear. A toggle answers what the point was before, and does nothing
off the display. As many frames were presented as there were signals for it. The lit pixels of a
frame are its lit points, and its text has a line for each row and a character for each point in it,
so that frames with the same text are the same. -/
theorem picture_eq_toggles (keys : List UInt8) (actions : List Action) :
    let terminal := (holding keys).actAll actions
    (∀ x y, terminal.frame.isLit x y = true ↔
      x < displayWidth ∧ y < displayHeight ∧ Odd (toggles actions x y)) ∧
    (∀ past x y future, actions = past ++ .toggle x y :: future →
      let before := (holding keys).actAll past
      (Host.drawPixel before x y).1 = before.frame.isLit x y ∧
        (¬(x < displayWidth ∧ y < displayHeight) →
          Host.drawPixel before x y = (false, before))) ∧
    terminal.frames = actions.countP Action.updates ∧
    (∀ frame : Frame,
      frame.lit = ((Finset.range displayWidth ×ˢ Finset.range displayHeight).filter fun point =>
        frame.isLit point.1 point.2 = true).card ∧
      frame.text = String.join (frame.lines.map (· ++ "\n")) ∧
      Text.lines frame.text = frame.lines ∧ frame.lines.length = displayHeight ∧
      ∀ y < displayHeight, ∃ line, frame.lines[y]? = some line ∧ line.length = displayWidth ∧
        ∀ x < displayWidth, line.toList[x]? = some (if frame.isLit x y then '#' else '.')) ∧
    ∀ frame other : Frame, frame.text = other.text → frame = other := by
  intro terminal
  refine ⟨isLit_actAll rfl actions, ?_, ?_, ?_, fun frame other same => Frame.text_injective same⟩
  · intro past x y future _ before
    exact ⟨rfl, before.drawPixel_of_outside⟩
  · have counted := (holding keys).frames_actAll actions
    exact counted.trans (Nat.zero_add _)
  · intro frame
    refine ⟨frame.lit_eq_card, rfl, frame.lines_text, frame.length_lines, ?_⟩
    intro y below
    exact frame.getElem?_lines below

end Terminal

end Chip8
