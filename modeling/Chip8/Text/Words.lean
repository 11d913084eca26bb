/-! # Splitting a line into words

Words are separated by spaces, tabs and line feeds. Single quotes take everything literally. Between
double quotes a backslash escapes only a dollar sign, a grave accent, a double quote, a backslash or
a line feed, and stands for itself before anything else. Elsewhere a backslash escapes any
character; an escaped line feed vanishes. A number sign that starts a word starts a comment up to
the end of the line. A text whose quotes do not close has no words.
-/

namespace Chip8.Text.Words

inductive Place where
  | between
  | comment
  | inWord
  | singleQuoted
  | doubleQuoted
deriving DecidableEq, Repr

def isSeparator (c : Char) : Bool := c == ' ' || c == '\t' || c == '\n'

/-- Whether a backslash between double quotes escapes a character. -/
def isEscapable (c : Char) : Bool := c == '$' || c == '\x60' || c == '"' || c == '\\'

/-- The words of a text, read from a place inside it, after the characters of the current word. -/
def read (place : Place) (word : List Char) : List Char → Option (List (List Char))
  | [] =>
    match place with
    | .between | .comment => some []
    | .inWord => some [word]
    | .singleQuoted | .doubleQuoted => none
  | [c] =>
    match place with
    | .between =>
      if c == '\'' || c == '"' then none
      else if isSeparator c || c == '#' then some []
      else some [word ++ [c]]
    | .comment => some []
    | .inWord =>
      if c == '\'' || c == '"' then none
      else if isSeparator c then some [word]
      else some [word ++ [c]]
    | .singleQuoted => if c == '\'' then some [word] else none
    | .doubleQuoted => if c == '"' then some [word] else none
  | c :: next :: rest =>
    match place with
    | .between =>
      if c == '\'' then read .singleQuoted word (next :: rest)
      else if c == '"' then read .doubleQuoted word (next :: rest)
      else if c == '\\' then
        if next == '\n' then read .between word rest else read .inWord (word ++ [next]) rest
      else if isSeparator c then read .between word (next :: rest)
      else if c == '#' then read .comment word (next :: rest)
      else read .inWord (word ++ [c]) (next :: rest)
    | .comment => read (if c == '\n' then .between else .comment) word (next :: rest)
    | .inWord =>
      if c == '\'' then read .singleQuoted word (next :: rest)
      else if c == '"' then read .doubleQuoted word (next :: rest)
      else if c == '\\' then
        if next == '\n' then read .inWord word rest else read .inWord (word ++ [next]) rest
      else if isSeparator c then (read .between [] (next :: rest)).map (word :: ·)
      else read .inWord (word ++ [c]) (next :: rest)
    | .singleQuoted =>
      if c == '\'' then read .inWord word (next :: rest)
      else read .singleQuoted (word ++ [c]) (next :: rest)
    | .doubleQuoted =>
      if c == '"' then read .inWord word (next :: rest)
      else if c == '\\' then
        if next == '\n' then read .doubleQuoted word rest
        else if isEscapable next then read .doubleQuoted (word ++ [next]) rest
        else read .doubleQuoted (word ++ [c, next]) rest
      else read .doubleQuoted (word ++ [c]) (next :: rest)

end Words

/-- The words of a text, unless a quote is left open. -/
def splitWords? (text : String) : Option (List String) :=
  (Words.read .between [] text.toList).map fun words => words.map String.ofList

end Chip8.Text
