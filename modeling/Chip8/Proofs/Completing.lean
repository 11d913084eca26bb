import Chip8.Proofs.Offers

/-! # What a completion replaces

A completion replaces as many bytes in front of the cursor as the word there has, quotes and escapes
not counted. That is the word itself if it is written bare, in a place where a word can begin:
`completion_replaces_bare_word` says that it becomes any of the candidates then, and nothing else
changes. Otherwise other text can be replaced, which need not even begin between two characters:
`completion_behind_line_feed` shows both.
-/

namespace Chip8.Debugger

open Arguments (isBeginning)
open Text.Words (Standing isBare isSeparator)

/-- The line and the place of the cursor in it after a candidate has replaced the text that is to be
completed. -/
def Completion.accept? (completion : Completion) (line : String) (position : Nat)
    (candidate : String) : Option (String × Nat) := do
  let (front, rest) ← Text.splitAtByte? position line.toList
  let (kept, _) ← Text.splitAtByte? completion.start front
  return (String.ofList (kept ++ candidate.toList ++ rest),
    completion.start + candidate.utf8ByteSize)

/-- The word at the cursor is written as it is, behind the words in front of it. -/
def WrittenBare (front : List Char) (cursor : Cursor) : Prop :=
  ∃ kept, front = kept ++ cursor.word.toList ∧
    Standing.behind kept = .between (cursor.before.map String.toList)

section Cursor

variable {line : String} {position : Nat} {cursor : Cursor} {front rest : List Char}

private theorem utf8ByteSize_le_of_sublist {part text : List Char} (sublist : part.Sublist text) :
    (String.ofList part).utf8ByteSize ≤ (String.ofList text).utf8ByteSize := by
  induction sublist with
  | slnil => exact Nat.le_refl _
  | cons c _ ih =>
    rw [String.ofList_cons, String.utf8ByteSize_append]
    exact Nat.le_add_left_of_le ih
  | cons_cons c _ ih =>
    rw [String.ofList_cons, String.ofList_cons, String.utf8ByteSize_append,
      String.utf8ByteSize_append]
    exact Nat.add_le_add_left ih _

/-- How the words in front of a cursor are found. -/
theorem cursor?_eq (split : Text.splitAtByte? position line.toList = some (front, rest)) :
    cursor? line position = (Text.splitWords? (String.ofList front)).map fun words =>
      if endsWithSpacing front then some ⟨words, ""⟩
      else words.getLast?.map fun word => ⟨words.dropLast, word⟩ := by
  rw [cursor?, split]
  simp only [Option.bind_eq_bind, Option.bind_some]
  cases Text.splitWords? (String.ofList front) with
  | none => rfl
  | some words =>
    simp only [Option.bind_some, Option.map_some]
    split <;> rfl

/-- The word at a cursor has at most as many bytes as the text in front of it. -/
theorem utf8ByteSize_word_le (found : cursor? line position = some (some cursor)) :
    cursor.word.utf8ByteSize ≤ position := by
  cases split : Text.splitAtByte? position line.toList with
  | none => simp [cursor?, split] at found
  | some parts =>
    obtain ⟨front, rest⟩ := parts
    rw [cursor?_eq split] at found
    obtain ⟨words, read, last⟩ := Option.map_eq_some_iff.mp found
    split at last
    · cases last
      exact Nat.zero_le _
    · obtain ⟨word, end_, rfl⟩ := Option.map_eq_some_iff.mp last
      have sublist := Text.Words.sublist_of_splitWords? read (List.mem_of_getLast? end_)
      have size := utf8ByteSize_le_of_sublist sublist
      rwa [String.ofList_toList, (Text.splitAtByte?_eq_some_iff.mp split).2] at size

private theorem endsWithSpacing_append_bare (front : List Char) {word : List Char}
    (nonempty : word ≠ [])
    (bare : ∀ c ∈ word, isBare c = true) : endsWithSpacing (front ++ word) = false := by
  rw [endsWithSpacing, List.getLast?_append_of_ne_nil front nonempty,
    List.getLast?_eq_some_getLast nonempty,
    Option.any_some]
  have last := bare _ (List.getLast_mem nonempty)
  grind [isBare, isSeparator, isSpacing]

/-- Behind a bare word the cursor is at that word. -/
theorem cursor?_append_bare {kept : List Char} {before : List (List Char)} {word : String}
    (begins : Standing.behind kept = .between before) (bare : IsBareWord word) (rest : List Char) :
    cursor? (String.ofList (kept ++ word.toList ++ rest))
        ((String.ofList kept).utf8ByteSize + word.utf8ByteSize) =
      some (some ⟨before.map String.ofList, word⟩) := by
  obtain ⟨nonempty, all⟩ := bare
  have chars := List.all_eq_true.mp all
  have split : Text.splitAtByte? ((String.ofList kept).utf8ByteSize + word.utf8ByteSize)
      (String.ofList (kept ++ word.toList ++ rest)).toList = some (kept ++ word.toList, rest) := by
    rw [Text.splitAtByte?_eq_some_iff, String.toList_ofList, String.ofList_append,
      String.utf8ByteSize_append, String.ofList_toList]
    exact ⟨rfl, rfl⟩
  have full : word.toList ≠ [] := fun none => nonempty (String.toList_eq_nil_iff.mp none)
  have solid := endsWithSpacing_append_bare kept full chars
  rw [cursor?_eq split, Text.Words.splitWords?_append_bare begins chars full, solid]
  simp [String.ofList_toList]

/-- A word at the end of a text without quotes, backslashes and number signs is written bare, unless
a line feed ends the text. -/
theorem writtenBare_of_simple (split : Text.splitAtByte? position line.toList = some (front, rest))
    (found : cursor? line position = some (some cursor))
    (simple : ∀ c ∈ front, isBare c = true ∨ isSeparator c = true)
    (ended : front.getLast? ≠ some '\n') : WrittenBare front cursor := by
  obtain ⟨kept, done, word, rfl, begins, bare, ends⟩ := Text.Words.Standing.exists_bare_word simple
  rw [cursor?_eq split] at found
  by_cases empty : word = []
  · subst empty
    have read : Text.splitWords? (String.ofList (kept ++ [])) = some (done.map String.ofList) := by
      rw [List.append_nil, ← Text.Words.words?_behind, begins]
      rfl
    rw [read, List.append_nil] at found
    rw [List.append_nil] at ended
    cases last : kept.getLast? with
    | none =>
      obtain rfl := List.getLast?_eq_none_iff.mp last
      cases begins
      simp [endsWithSpacing] at found
    | some c =>
      have separates := ends c last
      have spacing : isSpacing c = true := by
        have other : c ≠ '\n' := fun same => ended (same ▸ last)
        grind [isSeparator, isSpacing]
      have spaced : endsWithSpacing kept = true := by
        rw [endsWithSpacing, last, Option.any_some, spacing]
      simp only [spaced, if_true, Option.map_some, Option.some.injEq] at found
      subst found
      exact ⟨kept, rfl, by simp [begins]⟩
  · rw [Text.Words.splitWords?_append_bare begins bare empty,
      endsWithSpacing_append_bare kept empty bare] at found
    simp at found
    subst found
    exact ⟨kept, by simp, by simp [begins]⟩

end Cursor

section Completion

variable {breakpoints : List Address} {line : String} {position : Nat}

/-- Where there are candidates, there is a word at the cursor, which they are candidates for. -/
theorem exists_cursor_of_candidates
    (nonempty : (complete breakpoints line position).candidates ≠ []) :
    ∃ cursor front rest, Text.splitAtByte? position line.toList = some (front, rest) ∧
      cursor? line position = some (some cursor) ∧
        complete breakpoints line position =
          ⟨position - cursor.word.utf8ByteSize, cursor.candidates breakpoints⟩ := by
  cases split : Text.splitAtByte? position line.toList with
  | none => simp [complete, cursor?, split] at nonempty
  | some parts =>
    unfold complete at nonempty ⊢
    cases found : cursor? line position with
    | none => simp [found] at nonempty
    | some inner =>
      cases inner with
      | none => simp [found] at nonempty
      | some cursor => exact ⟨cursor, parts.1, parts.2, rfl, rfl, rfl⟩

/-- Two texts of as many bytes that a text begins with are the same, apart from the case of
letters. -/
theorem map_toLower_eq_of_isBeginning {word old text : String}
    (size : old.utf8ByteSize = word.utf8ByteSize) (first : isBeginning word text = true)
    (second : isBeginning old text = true) :
    old.toList.map Char.toLower = word.toList.map Char.toLower := by
  obtain ⟨front, _, split, same⟩ := isBeginning_iff.mp first
  obtain ⟨other, _, split', same'⟩ := isBeginning_iff.mp second
  rw [size, split] at split'
  cases split'
  exact same'.symm.trans same

private theorem isBeginning_congr {word old : String}
    (same : old.toList.map Char.toLower = word.toList.map Char.toLower) (text : String) :
    isBeginning old text = isBeginning word text := by
  rw [isBeginning, isBeginning, same]

/-- What is replaced begins between two characters, and is a beginning of all candidates, exactly if
the text in front of the cursor ends in the word itself, apart from the case of letters. -/
theorem replaces_beginning_iff {cursor : Cursor} {front rest : List Char} {start : Nat}
    (split : Text.splitAtByte? position line.toList = some (front, rest))
    (begins : start + cursor.word.utf8ByteSize = position)
    (nonempty : cursor.candidates breakpoints ≠ []) :
    (∃ kept old, Text.splitAtByte? start line.toList = some (kept, old ++ rest) ∧
        ∀ candidate ∈ cursor.candidates breakpoints,
          isBeginning (String.ofList old) candidate = true) ↔
      cursor.word.toList.map Char.toLower <:+ front.map Char.toLower := by
  obtain ⟨whole, size⟩ := Text.splitAtByte?_eq_some_iff.mp split
  constructor
  · rintro ⟨kept, old, cut, all⟩
    obtain ⟨same, place⟩ := Text.splitAtByte?_eq_some_iff.mp cut
    have parts : front = kept ++ old := by
      rw [whole, ← List.append_assoc] at same
      exact List.append_cancel_right same
    have bytes : (String.ofList old).utf8ByteSize = cursor.word.utf8ByteSize := by
      rw [parts, String.ofList_append, String.utf8ByteSize_append] at size
      omega
    obtain ⟨candidate, member⟩ := List.exists_mem_of_ne_nil _ nonempty
    have first := (Arguments.Command.mem_candidates_iff.mp member).2
    have lower := map_toLower_eq_of_isBeginning bytes first (all candidate member)
    rw [String.toList_ofList] at lower
    rw [parts, List.map_append, lower]
    exact List.suffix_append ..
  · rintro ⟨before, same⟩
    obtain ⟨kept, old, rfl, -, lower⟩ := List.map_eq_append_iff.mp same.symm
    have bytes : (String.ofList old).utf8ByteSize = cursor.word.utf8ByteSize := by
      rw [← utf8ByteSize_map_toLower, lower, utf8ByteSize_map_toLower, String.ofList_toList]
    rw [String.ofList_append, String.utf8ByteSize_append] at size
    refine ⟨kept, old, Text.splitAtByte?_eq_some_iff.mpr ⟨?_, by omega⟩, fun candidate member => ?_⟩
    · rw [whole, List.append_assoc]
    · rw [← @String.toList_ofList old] at lower
      rw [isBeginning_congr lower]
      exact (Arguments.Command.mem_candidates_iff.mp member).2

/-- A bare word becomes a candidate, and the rest of the line stays. -/
theorem accept?_of_writtenBare {cursor : Cursor} {front rest : List Char} {start : Nat}
    (split : Text.splitAtByte? position line.toList = some (front, rest))
    (begins : start + cursor.word.utf8ByteSize = position) {kept : List Char}
    (written : front = kept ++ cursor.word.toList)
    (behind : Standing.behind kept = .between (cursor.before.map String.toList))
    {candidate : String} (member : candidate ∈ cursor.candidates breakpoints) :
    let left := String.ofList (kept ++ candidate.toList ++ rest)
    let place := start + candidate.utf8ByteSize
    Completion.accept? ⟨start, cursor.candidates breakpoints⟩ line position candidate =
        some (left, place) ∧
      cursor? left place = some (some ⟨cursor.before, candidate⟩) := by
  intro left place
  have size := (Text.splitAtByte?_eq_some_iff.mp split).2
  have here : (String.ofList kept).utf8ByteSize = start := by
    rw [written, String.ofList_append, String.utf8ByteSize_append, String.ofList_toList] at size
    omega
  have cut := Text.splitAtByte?_eq_some_iff.mpr ⟨written, here⟩
  have bare := isBareWord_of_mem_offersBehind (Arguments.Command.mem_candidates_iff.mp member).1
  have names : (cursor.before.map String.toList).map String.ofList = cursor.before := by
    simp [Function.comp_def]
  have again := cursor?_append_bare behind bare rest
  rw [here, names] at again
  refine ⟨?_, again⟩
  simp only [Completion.accept?, split, cut, Option.bind_eq_bind, Option.bind_some]
  rfl

end Completion

/-- Where there are candidates for the word at the cursor, as many bytes are replaced as that word
has. They are a beginning of the candidates just if the line up to the cursor ends in the word
itself, apart from the case of letters. A word that is written bare becomes the candidate that is
chosen for it, behind the same words, and the line stays the same before and after it. All words of
a line without quotes, backslashes and number signs are written so, unless the cursor is right
behind a line feed. -/
theorem completion_replaces_bare_word (breakpoints : List Address) (line : String)
    (position : Nat) (nonempty : (complete breakpoints line position).candidates ≠ []) :
    let completion := complete breakpoints line position
    ∃ cursor front rest, Text.splitAtByte? position line.toList = some (front, rest) ∧
      cursor? line position = some (some cursor) ∧
      completion = ⟨position - cursor.word.utf8ByteSize, cursor.candidates breakpoints⟩ ∧
      completion.start + cursor.word.utf8ByteSize = position ∧
      ((∃ kept old, Text.splitAtByte? completion.start line.toList = some (kept, old ++ rest) ∧
          ∀ candidate ∈ completion.candidates,
            isBeginning (String.ofList old) candidate = true) ↔
        cursor.word.toList.map Char.toLower <:+ front.map Char.toLower) ∧
      (WrittenBare front cursor → ∃ kept, line.toList = kept ++ cursor.word.toList ++ rest ∧
        ∀ candidate ∈ completion.candidates,
          let left := String.ofList (kept ++ candidate.toList ++ rest)
          let place := completion.start + candidate.utf8ByteSize
          completion.accept? line position candidate = some (left, place) ∧
            cursor? left place = some (some ⟨cursor.before, candidate⟩)) ∧
      ((∀ c ∈ front, isBare c = true ∨ isSeparator c = true) → front.getLast? ≠ some '\n' →
        WrittenBare front cursor) := by
  intro completion
  obtain ⟨cursor, front, rest, split, found, completed⟩ := exists_cursor_of_candidates nonempty
  have start : completion.start = position - cursor.word.utf8ByteSize :=
    congrArg Completion.start completed
  have candidates : completion.candidates = cursor.candidates breakpoints :=
    congrArg Completion.candidates completed
  have begins : completion.start + cursor.word.utf8ByteSize = position := by
    rw [start]
    exact Nat.sub_add_cancel (utf8ByteSize_word_le found)
  refine ⟨cursor, front, rest, split, found, completed, begins, ?_, ?_,
    writtenBare_of_simple split found⟩
  · rw [candidates]
    exact replaces_beginning_iff split begins (candidates ▸ nonempty)
  · rintro ⟨kept, written, behind⟩
    refine ⟨kept, ?_, fun candidate member => ?_⟩
    · rw [(Text.splitAtByte?_eq_some_iff.mp split).1, written]
    · rw [candidates] at member
      have accepted := accept?_of_writtenBare split begins written behind member
      rwa [← candidates] at accepted

/-- A quoted command is left alone when its argument is completed. -/
theorem completion_replaces_bare_word_quoted :
    let line := "'unbreak' 0X2 now"
    let completion := complete [0x2a4, 0x200] line 13
    completion.candidates = ["0x200", "0x2a4"] ∧
      completion.accept? line 13 "0x2a4" = some ("'unbreak' 0x2a4 now", 15) ∧
      cursor? "'unbreak' 0x2a4 now" 15 = some (some ⟨["unbreak"], "0x2a4"⟩) := by
  intro line completion
  have place : cursor? line 13 = some (some ⟨["unbreak"], "0X2"⟩) := by decide +kernel
  have candidates : Cursor.candidates ⟨["unbreak"], "0X2"⟩ [0x2a4, 0x200] = ["0x200", "0x2a4"] :=
    Arguments.Command.candidates_eq (by decide +kernel) (by decide +kernel)
  have completed : complete [0x2a4, 0x200] line 13 = ⟨10, ["0x200", "0x2a4"]⟩ := by
    simp only [complete, place, candidates]
    rfl
  have parts : Text.splitAtByte? 13 line.toList = some ("'unbreak' 0X2".toList, " now".toList) := by
    decide +kernel
  have whole : line.toList = "'unbreak' ".toList ++ "0X2".toList ++ " now".toList := by
    decide +kernel
  obtain ⟨cursor, front, rest, split, found, -, -, -, bare, -⟩ :=
    completion_replaces_bare_word [0x2a4, 0x200] line 13 (by rw [completed]; decide)
  cases place.symm.trans found
  cases parts.symm.trans split
  obtain ⟨kept, written, each⟩ := bare ⟨"'unbreak' ".toList, by decide +kernel, by decide +kernel⟩
  have same := List.append_cancel_right (List.append_cancel_right (whole.symm.trans written))
  rw [← same, completed] at each
  obtain ⟨accepted, after⟩ := each "0x2a4" (by decide)
  have text : String.ofList ("'unbreak' ".toList ++ "0x2a4".toList ++ " now".toList) =
      "'unbreak' 0x2a4 now" := by decide +kernel
  rw [text] at accepted after
  exact ⟨congrArg Completion.candidates completed,
    (congrArg (·.accept? line 13 "0x2a4") completed).trans accepted, after⟩

/-- The text that is replaced need not be the word, nor begin between two characters. -/
theorem completion_behind_line_feed :
    complete [] "key\n" 4 = ⟨1, ["key"]⟩ ∧
      Text.splitAtByte? 1 "key\n".toList = some (['k'], "ey\n".toList) ∧
      isBeginning "ey\n" "key" = false ∧
      (complete [] "key\n" 4).accept? "key\n" 4 "key" = some ("kkey", 4) ∧
      complete [] "s #é" 5 = ⟨4, ["screen", "set", "step"]⟩ ∧
      Text.splitAtByte? 4 "s #é".toList = none := by
  have behind : cursor? "key\n" 4 = some (some ⟨[], "key"⟩) := by decide +kernel
  have inside : cursor? "s #é" 5 = some (some ⟨[], "s"⟩) := by decide +kernel
  have key : Cursor.candidates ⟨[], "key"⟩ [] = ["key"] :=
    Arguments.Command.candidates_eq (by decide +kernel) (by decide +kernel)
  have several : Cursor.candidates ⟨[], "s"⟩ [] = ["screen", "set", "step"] :=
    Arguments.Command.candidates_eq (by decide +kernel) (by decide +kernel)
  simp only [complete, behind, inside, key, several]
  decide +kernel

end Chip8.Debugger
