/-! # Lines

The first line of a text, and a text cut into its lines. A line ends before a line feed, and a
carriage return in front of the line feed belongs to the ending. A last line without an ending
counts, an empty one does not. The main statement says that lines which are joined, each with a line
feed behind it, are cut apart again.
-/

namespace Chip8.Text

/-- Cut at line feeds, after the characters of the current line. -/
def cutLines (line : List Char) : List Char → List (List Char)
  | [] => if line.isEmpty then [] else [line]
  | '\n' :: rest => line :: cutLines [] rest
  | ['\r'] => [line ++ ['\r']]
  | '\r' :: '\n' :: rest => line :: cutLines [] rest
  | c :: rest => cutLines (line ++ [c]) rest

def lines (text : String) : List String := (cutLines [] text.toList).map String.ofList

/-- The first line of a text, which is empty if the text is. -/
def firstLine (text : String) : String := (lines text).headD ""

/-- Whether no line ends among some characters. -/
def Unbroken (text : List Char) : Prop := ∀ c ∈ text, c ≠ '\n' ∧ c ≠ '\r'

private theorem cutLines_append {text : List Char} (unbroken : Unbroken text)
    (line rest : List Char) : cutLines line (text ++ rest) = cutLines (line ++ text) rest := by
  induction text generalizing line with
  | nil => simp
  | cons c text ih =>
    obtain ⟨notFeed, notReturn⟩ := unbroken c List.mem_cons_self
    have step : cutLines line (c :: (text ++ rest)) = cutLines (line ++ [c]) (text ++ rest) := by
      rw [cutLines] <;> simp_all
    rw [List.cons_append, step, ih fun other member => unbroken other (by simp [member])]
    simp

/-- Lines that hold no line ending are found again in a text. -/
theorem lines_join {shown : List String} (unbroken : ∀ line ∈ shown, Unbroken line.toList) :
    lines (String.join (shown.map (· ++ "\n"))) = shown := by
  induction shown with
  | nil => rfl
  | cons line rest ih =>
    have later := ih fun other member => unbroken other (by simp [member])
    have feed (text : List Char) :
        cutLines line.toList ("\n".toList ++ text) = line.toList :: cutLines [] text := rfl
    rw [List.map_cons, String.join_cons, lines, String.toList_append, String.toList_append,
      List.append_assoc, cutLines_append (unbroken line List.mem_cons_self), List.nil_append, feed,
      List.map_cons, String.ofList_toList]
    exact congrArg (line :: ·) later

theorem firstLine_of_unbroken {text : String} (unbroken : Unbroken text.toList) :
    firstLine text = text := by
  have whole := cutLines_append unbroken [] []
  rw [List.append_nil, List.nil_append] at whole
  rw [firstLine, lines, whole, cutLines]
  by_cases empty : text = ""
  · simp [empty]
  · simp [empty]

end Chip8.Text
