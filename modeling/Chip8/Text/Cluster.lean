import Chip8.Text.Cluster.Role
import Chip8.Text.Offset

/-! # What a reader takes for one character

A text cut into its extended grapheme clusters: a carriage return with its line feed, a letter with
its accents, a Korean syllable, a group of consonants, a flag, pictures that are joined into one.
Controls stand alone. A backspace takes the cluster before it away.
-/

namespace Chip8.Text

/-- Whether a character goes on with the cluster of the one before it whatever else that holds. -/
def ClusterRole.attaches : ClusterRole → ClusterRole → Bool
  | .control, _ | _, .control => false
  | _, .extending | _, .joining | _, .spacing => true
  | .opening, _ => true
  | .leadingJamo, .leadingJamo | .leadingJamo, .vowelJamo | .leadingJamo, .openSyllable
  | .leadingJamo, .closedSyllable => true
  | .vowelJamo, .vowelJamo | .vowelJamo, .trailingJamo => true
  | .openSyllable, .vowelJamo | .openSyllable, .trailingJamo => true
  | .closedSyllable, .trailingJamo | .trailingJamo, .trailingJamo => true
  | _, _ => false

/-- Whether a mark can stand between the consonants of a group. The non-joiner cannot. -/
def isConjunctMark (c : Char) : Bool :=
  c != '\u200c' && (ClusterRole.of c == .extending || ClusterRole.of c == .joining)

/-- Whether a cluster, given from its end, is a consonant with marks one of which links. -/
def endsLinked (cluster : List Char) : Bool :=
  let marks := cluster.takeWhile isConjunctMark
  marks.any isLinking && (cluster.drop marks.length).head?.any (ClusterRole.of · == .consonant)

/-- Whether a cluster, given from its end, is a picture with marks and a joiner at the end. -/
def endsJoined : List Char → Bool
  | [] => false
  | last :: before =>
    ClusterRole.of last == .joining &&
      (before.dropWhile (ClusterRole.of · == .extending)).head?.any (ClusterRole.of · == .picture)

/-- Whether a cluster, given from its end, ends in half a flag. -/
def endsHalved (cluster : List Char) : Bool :=
  (cluster.takeWhile (ClusterRole.of · == .regional)).length % 2 == 1

/-- Whether a character goes on with a cluster, which is given from its end. -/
def joins (c : Char) (cluster : List Char) : Bool :=
  match cluster.head? with
  | none => false
  | some last =>
    (last == '\r' && c == '\n') || (ClusterRole.of last).attaches (ClusterRole.of c) ||
      match ClusterRole.of c with
      | .consonant => endsLinked cluster
      | .picture => endsJoined cluster
      | .regional => endsHalved cluster
      | _ => false

/-- Cut a text into clusters, behind a cluster that is given from its end. -/
def clustersFrom (cluster : List Char) : List Char → List (List Char)
  | [] => if cluster.isEmpty then [] else [cluster.reverse]
  | c :: rest =>
    if cluster.isEmpty || joins c cluster then clustersFrom (c :: cluster) rest
    else cluster.reverse :: clustersFrom [c] rest

def clusters (text : List Char) : List (List Char) := clustersFrom [] text

structure Typed where
  /-- The text that is left, from its end. -/
  text : List Char := []
  /-- The lengths of the clusters that backspaces would take, the last one first. A length is kept
  in one byte, so that a backspace behind a very long cluster takes too little. -/
  lengths : List UInt8 := []
deriving DecidableEq, Repr

namespace Typed

def push (typed : Typed) (cluster : List Char) : Typed where
  text := cluster.reverse ++ typed.text
  lengths := UInt8.ofNat (String.ofList cluster).utf8ByteSize :: typed.lengths

/-- Type a backspace. One with nothing in front of it does nothing. -/
def erase (typed : Typed) : Typed :=
  match typed.lengths with
  | [] => typed
  | length :: lengths => { text := dropBytes typed.text length.toNat, lengths }

/-- Type a cluster that may be a backspace. -/
def press (typed : Typed) (cluster : List Char) : Typed :=
  if cluster = ['\x08'] then typed.erase else typed.push cluster

end Typed

def applyBackspaces (text : List Char) : List Char :=
  ((clusters text).foldl Typed.press {}).text.reverse

end Chip8.Text
