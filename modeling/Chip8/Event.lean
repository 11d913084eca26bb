import Chip8.Text.Lines

/-! # Events

What the program tells its user while it works: a level, a message and named values, on one line.
Only the first line of the message and of each value is told. Beside events there are prompts, which
do not end their line, and texts that are shown as they are.
-/

namespace Chip8

/-- How much an event matters. -/
inductive Level where
  | info
  | warn
  | error
deriving DecidableEq, Repr

def Level.text : Level → String
  | .info => "INFO"
  | .warn => "WARN"
  | .error => "ERROR"

/-- Something worth telling. -/
structure Event where
  level : Level
  message : String
  fields : List (String × String) := []
deriving DecidableEq, Repr

namespace Event

def info (message : String) (fields : List (String × String) := []) : Event :=
  ⟨.info, message, fields⟩

def warn (message : String) (fields : List (String × String) := []) : Event :=
  ⟨.warn, message, fields⟩

/-- A warning that only passes on the message of an error. -/
def failure (message : String) : Event := .warn "" [("error", message)]

def line (event : Event) : String :=
  let fields := event.fields.map fun (name, value) => s!" | {name}={Text.firstLine value}"
  event.level.text ++ " " ++ Text.firstLine event.message ++ String.join fields

end Event

/-- A piece of what the user sees. -/
inductive Output where
  | event (event : Event)
  | prompt (text : String)
  | text (text : String)
deriving DecidableEq, Repr

namespace Output

/-- An event line, or a text without a line of its own. -/
def shown : Output → String
  | .event told => told.line ++ "\n"
  | .prompt shown => shown
  | .text shown => shown

def lines (outputs : List Output) : List String := Text.lines (String.join (outputs.map shown))

/-- Whether a piece goes to the standard output and not to the log. -/
def isPrinted : Output → Bool
  | .event _ => false
  | .prompt _ => true
  | .text _ => true

end Output

end Chip8
