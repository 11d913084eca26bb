import Chip8.Text.Words
import Mathlib.Data.List.Induction

/-! # Words read one character at a time

The reader of words looks at up to two characters at once. Here it is a machine that takes one after
the other, and notes a backslash until it knows the character behind it; `words?_standing` says that
the machine reads the same words. So what the reader makes of a text depends on where it stands
behind the front of it, and a bare word behind such a front is read as it is written.
-/

namespace Chip8.Text.Words

/-- Where the reader stands: the words that it has finished, the characters of the current one, and
whether it has just read a backslash that escapes. -/
structure Standing where
  done : List (List Char) := []
  place : Place := .between
  word : List Char := []
  escaping : Bool := false
deriving DecidableEq, Repr

namespace Standing

def next (standing : Standing) (c : Char) : Standing :=
  match standing.escaping, standing.place with
  | true, .doubleQuoted =>
    let added := if c == '\n' then [] else if isEscapable c then [c] else ['\\', c]
    { standing with word := standing.word ++ added, escaping := false }
  | true, _ =>
    if c == '\n' then { standing with escaping := false }
    else { standing with place := .inWord, word := standing.word ++ [c], escaping := false }
  | false, .between =>
    if c == '\'' then { standing with place := .singleQuoted }
    else if c == '"' then { standing with place := .doubleQuoted }
    else if c == '\\' then { standing with escaping := true }
    else if isSeparator c then standing
    else if c == '#' then { standing with place := .comment }
    else { standing with place := .inWord, word := standing.word ++ [c] }
  | false, .comment => { standing with place := if c == '\n' then .between else .comment }
  | false, .inWord =>
    if c == '\'' then { standing with place := .singleQuoted }
    else if c == '"' then { standing with place := .doubleQuoted }
    else if c == '\\' then { standing with escaping := true }
    else if isSeparator c then
      { done := standing.done ++ [standing.word], place := .between, word := [] }
    else { standing with word := standing.word ++ [c] }
  | false, .singleQuoted =>
    if c == '\'' then { standing with place := .inWord }
    else { standing with word := standing.word ++ [c] }
  | false, .doubleQuoted =>
    if c == '"' then { standing with place := .inWord }
    else if c == '\\' then { standing with escaping := true }
    else { standing with word := standing.word ++ [c] }

/-- The words of a text that ends here, unless a quote is open. A backslash at the end stands for
itself. -/
def words? (standing : Standing) : Option (List (List Char)) :=
  match standing.escaping, standing.place with
  | _, .singleQuoted | _, .doubleQuoted => none
  | true, _ => some (standing.done ++ [standing.word ++ ['\\']])
  | false, .inWord => some (standing.done ++ [standing.word])
  | false, _ => some standing.done

def behind (text : List Char) : Standing := text.foldl next {}

end Standing

private theorem words?_foldl (place : Place) (word text : List Char) (done : List (List Char)) :
    (text.foldl Standing.next { done, place, word }).words? =
      (read place word text).map (done ++ ·) := by
  fun_induction read place word text generalizing done
  -- the end of the text
  case case1 | case2 | case3 | case4 | case5 => simp [Standing.words?]
  -- its last character
  case case6 | case7 | case8 | case9 | case10 | case11 | case12 | case13 | case14 | case15 |
      case16 =>
    rw [List.foldl_cons, List.foldl_nil]
    grind [Standing.next, Standing.words?, isSeparator]
  -- a backslash and the character that it escapes, or does not
  case case19 | case20 | case27 | case28 | case34 | case35 =>
    rw [List.foldl_cons]
    simp only [Standing.next, *, if_true, if_false, Bool.false_eq_true]
    rw [List.foldl_cons]
    simp only [Standing.next, *, if_true, if_false, Bool.false_eq_true, List.append_nil]
  case case36 backslash _ _ ih =>
    obtain rfl := eq_of_beq backslash
    rw [← ih, List.foldl_cons, List.foldl_cons]
    simp only [Standing.next, *, if_true, if_false, Bool.false_eq_true]
  -- the end of a word
  case case29 ih =>
    rw [List.foldl_cons]
    simp only [Standing.next, *, if_true, if_false, Bool.false_eq_true, Option.map_map]
    simp only [Function.comp_def, List.append_assoc, List.singleton_append]
  all_goals
    rw [List.foldl_cons]
    simp only [Standing.next, *, if_true, if_false, Bool.false_eq_true]

/-- The machine reads the words of a text. -/
theorem words?_behind (text : List Char) :
    (Standing.behind text).words?.map (List.map String.ofList) =
      splitWords? (String.ofList text) := by
  rw [splitWords?, String.toList_ofList, Standing.behind, words?_foldl]
  simp

namespace Standing

variable {standing : Standing} {text : List Char} {c : Char}

private theorem behind_append (front text : List Char) :
    behind (front ++ text) = text.foldl next (behind front) := List.foldl_append

end Standing

/-- Whether a character means itself outside quotes, and does not end a word. -/
def isBare (c : Char) : Bool :=
  !(c == '\'' || c == '"' || c == '\\' || c == '#' || isSeparator c)

namespace Standing

/-- The reader is behind the end of a word, or in front of all. -/
def between (done : List (List Char)) : Standing := { done }

/-- The reader is in a word, or right behind it. -/
def inWord (done : List (List Char)) (word : List Char) : Standing :=
  { done, place := .inWord, word }

variable {done : List (List Char)} {word text : List Char} {c : Char}

private theorem next_between (bare : isBare c = true) :
    (between done).next c = inWord done [c] := by
  grind [isBare, next, between, inWord]

private theorem next_inWord (bare : isBare c = true) :
    (inWord done word).next c = inWord done (word ++ [c]) := by
  grind [isBare, next, inWord]

private theorem next_between_of_separator (separates : isSeparator c = true) :
    (between done).next c = between done := by
  grind [isSeparator, next, between]

private theorem next_inWord_of_separator (separates : isSeparator c = true) :
    (inWord done word).next c = between (done ++ [word]) := by
  grind [isSeparator, next, between, inWord]

private theorem foldl_next_inWord (bare : ∀ c ∈ text, isBare c = true) :
    text.foldl next (inWord done word) = inWord done (word ++ text) := by
  induction text generalizing word with
  | nil => rw [List.foldl_nil, List.append_nil]
  | cons c rest ih =>
    rw [List.foldl_cons, next_inWord (bare c List.mem_cons_self),
      ih fun other member => bare other (List.mem_cons_of_mem c member), List.append_assoc,
      List.singleton_append]

/-- A bare word behind the end of another is a word of its own. -/
theorem behind_append_bare {front : List Char} (begins : behind front = between done)
    (bare : ∀ c ∈ word, isBare c = true) (nonempty : word ≠ []) :
    behind (front ++ word) = inWord done word := by
  cases word with
  | nil => exact absurd rfl nonempty
  | cons c rest =>
    rw [behind_append, begins, List.foldl_cons, next_between (bare c List.mem_cons_self),
      foldl_next_inWord fun other member => bare other (List.mem_cons_of_mem c member)]
    rfl

end Standing

/-- The words of a text that ends in a bare word. -/
theorem splitWords?_append_bare {front word : List Char} {done : List (List Char)}
    (begins : Standing.behind front = .between done) (bare : ∀ c ∈ word, isBare c = true)
    (nonempty : word ≠ []) :
    splitWords? (String.ofList (front ++ word)) =
      some (done.map String.ofList ++ [String.ofList word]) := by
  rw [← words?_behind, Standing.behind_append_bare begins bare nonempty, Standing.inWord,
    Standing.words?, Option.map_some, List.map_append, List.map_singleton]

namespace Standing

def kept (standing : Standing) : List Char :=
  standing.done.flatten ++ standing.word ++ if standing.escaping then ['\\'] else []

/-- The reader keeps a character or leaves it out, and brings in no other. -/
theorem kept_next (standing : Standing) (c : Char) :
    (standing.next c).kept.Sublist (standing.kept ++ [c]) := by
  obtain ⟨done, place, word, escaping⟩ := standing
  cases escaping <;> cases place <;> simp only [next, kept] <;> (repeat' split) <;> simp_all

private theorem kept_behind (text : List Char) : (behind text).kept.Sublist text := by
  induction text using List.reverseRecOn with
  | nil => exact List.Sublist.slnil
  | append_singleton front c ih =>
    rw [behind_append, List.foldl_cons, List.foldl_nil]
    exact (kept_next _ c).trans (ih.append_right [c])

/-- The words of a text are made of characters that the reader has kept. -/
theorem flatten_words? {standing : Standing} {words : List (List Char)}
    (ended : standing.words? = some words) : words.flatten.Sublist standing.kept := by
  unfold words? at ended
  split at ended
  · contradiction
  · contradiction
  · next escapes _ _ =>
    cases ended
    simp [kept, escapes]
  · cases ended
    simp [kept]
  · cases ended
    simp [kept]

/-- A text of bare characters and separators ends in a bare word, which may be empty, behind the end
of another. -/
theorem exists_bare_word {text : List Char}
    (simple : ∀ c ∈ text, isBare c = true ∨ isSeparator c = true) :
    ∃ front done word, text = front ++ word ∧ behind front = between done ∧
      (∀ c ∈ word, isBare c = true) ∧ ∀ c ∈ front.getLast?, isSeparator c = true := by
  induction text using List.reverseRecOn with
  | nil => exact ⟨[], [], [], rfl, rfl, nofun, nofun⟩
  | append_singleton text c ih =>
    obtain ⟨front, done, word, rfl, begins, bare, ends⟩ :=
      ih fun other member => simple other (List.mem_append_left [c] member)
    rcases simple c (List.mem_append_right _ (List.mem_singleton_self c)) with more | separates
    · refine ⟨front, done, word ++ [c], List.append_assoc .., begins, fun other member => ?_, ends⟩
      obtain inside | rfl := List.mem_append.mp member |>.imp_right List.mem_singleton.mp
      · exact bare other inside
      · exact more
    · have last : ∀ other ∈ (front ++ word ++ [c]).getLast?, isSeparator other = true := by
        simpa using separates
      by_cases empty : word = []
      · have left : behind (front ++ word ++ [c]) = between done := by
          rw [empty, List.append_nil, behind_append, begins]
          exact next_between_of_separator separates
        exact ⟨_, done, [], (List.append_nil _).symm, left, nofun, last⟩
      · have left : behind (front ++ word ++ [c]) = between (done ++ [word]) := by
          rw [behind_append, behind_append_bare begins bare empty]
          exact next_inWord_of_separator separates
        exact ⟨_, _, [], (List.append_nil _).symm, left, nofun, last⟩

end Standing

/-- A word has no characters but those of its text, in the same order. -/
theorem sublist_of_splitWords? {text : List Char} {words : List String} {word : String}
    (split : splitWords? (String.ofList text) = some words) (member : word ∈ words) :
    word.toList.Sublist text := by
  rw [← words?_behind] at split
  obtain ⟨read, ended, rfl⟩ := Option.map_eq_some_iff.mp split
  obtain ⟨chars, inside, rfl⟩ := List.mem_map.mp member
  rw [String.toList_ofList]
  exact ((List.sublist_flatten_of_mem inside).trans (Standing.flatten_words? ended)).trans
    (Standing.kept_behind text)

end Chip8.Text.Words
