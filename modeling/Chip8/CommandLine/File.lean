/-! # Files

Why a file cannot be read, and the way of a path through a directory that holds nothing but files,
given with their contents. A path is refused for its own sake before it is followed, and then at its
first step that leads nowhere.
-/

namespace Chip8.CommandLine

inductive FileProblem where
  | notFound
  | notADirectory
  | isADirectory
  | nameTooLong
  | nulByte
  | other (reason : String)
deriving DecidableEq, Repr

/-- The phrase for each reason, with the number that the operating system gives it. -/
def FileProblem.message : FileProblem → String
  | .notFound => "No such file or directory (os error 2)"
  | .notADirectory => "Not a directory (os error 20)"
  | .isADirectory => "Is a directory (os error 21)"
  | .nameTooLong => "File name too long (os error 36)"
  | .nulByte => "file name contained an unexpected NUL byte"
  | .other reason => reason

/-- The files of a directory by name. -/
abbrev Directory := List (String × List UInt8)

/-- Where a path has led so far. Every system has a root with a directory for devices and one for
temporary files. Of other directories nothing is known. -/
inductive Place where
  | home
  | root
  | devices
  | temporary
  | elsewhere
deriving DecidableEq, Repr

/-- The directory above a place. The root is above itself. -/
def Place.parent : Place → Place
  | .root | .devices | .temporary => .root
  | .home | .elsewhere => .elsewhere

/-- What a name stands for. -/
inductive Entry where
  | place (place : Place)
  | file (contents : List UInt8)
deriving DecidableEq, Repr

/-- What a name stands for at a place, the directory being the home. The null device is empty. -/
def Directory.entry? (directory : Directory) (name : String) : Place → Option Entry
  | .home => (directory.lookup name).map .file
  | .root => if name == "dev" then some (.place .devices)
      else if name == "tmp" then some (.place .temporary) else none
  | .devices => if name == "null" then some (.file []) else none
  | .temporary | .elsewhere => none

/-- The longest name and the longest path, in bytes. -/
def maxNameSize : Nat := 255

@[inherit_doc maxNameSize]
def maxPathSize : Nat := 4095

/-- The contents of the file that the steps of a path lead to from a place. -/
def Directory.follow (directory : Directory) (place : Place) :
    List String → Except FileProblem (List UInt8)
  | [] => .error .isADirectory
  | step :: rest =>
    if step.isEmpty || step == "." then directory.follow place rest
    else if step == ".." then directory.follow place.parent rest
    else if maxNameSize < step.utf8ByteSize then .error .nameTooLong
    else
      match directory.entry? step place with
      | none => .error .notFound
      | some (.place deeper) => directory.follow deeper rest
      | some (.file contents) => if rest.isEmpty then .ok contents else .error .notADirectory

/-- The contents of the file that a path names, seen from the directory. -/
def Directory.read (directory : Directory) (path : String) : Except FileProblem (List UInt8) :=
  if path.toList.contains '\x00' then .error .nulByte
  else if path.isEmpty then .error .notFound
  else if maxPathSize < path.utf8ByteSize then .error .nameTooLong
  else
    let start := if path.toList.head? = some '/' then .root else .home
    directory.follow start ((path.toList.splitOn '/').map String.ofList)

end Chip8.CommandLine
