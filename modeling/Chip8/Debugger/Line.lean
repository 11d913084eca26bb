import Chip8.Text.Cluster
import Chip8.Text.Words

/-! # Reading lines

An input comes in pieces, each up to and with a line feed. A line loses its ending, and backspaces
in it take effect. While a quote is open, the line goes on with the next piece, behind the ending
that was taken off. A line with an open quote at the end of the input is not a line.
-/

namespace Chip8.Debugger

/-- Cut a text behind each line feed, after the characters of the current piece. -/
def piecesFrom (piece : List Char) : List Char → List (List Char)
  | [] => if piece.isEmpty then [] else [piece]
  | '\n' :: rest => (piece ++ ['\n']) :: piecesFrom [] rest
  | c :: rest => piecesFrom (piece ++ [c]) rest

def pieces (input : String) : List (List Char) := piecesFrom [] input.toList

/-- A text without its ending, and the ending: a line feed, perhaps behind a carriage return. -/
def splitEnding (text : List Char) : List Char × List Char :=
  match text.reverse with
  | '\n' :: '\r' :: body => (body.reverse, ['\r', '\n'])
  | '\n' :: body => (body.reverse, ['\n'])
  | _ => (text, [])

/-- What a piece makes of the line that is being read. -/
inductive Reading where
  | finished (line : String)
  | unfinished (text : List Char)
deriving DecidableEq, Repr

def Reading.ofPiece (text piece : List Char) : Reading :=
  let (body, ending) := splitEnding (text ++ piece)
  let line := Text.applyBackspaces body
  if (Text.splitWords? (String.ofList line)).isSome then .finished (String.ofList line)
  else .unfinished (line ++ ending)

/-- The lines that pieces make, behind what has been read of the first one. -/
def readLines (text : List Char) : List (List Char) → List String
  | [] => []
  | piece :: rest =>
    match Reading.ofPiece text piece with
    | .finished line => line :: readLines [] rest
    | .unfinished text => readLines text rest

def linesOf (input : String) : List String := readLines [] (pieces input)

end Chip8.Debugger
