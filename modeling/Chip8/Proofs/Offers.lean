import Chip8.Debugger.Completion
import Chip8.Proofs.AssemblyText
import Chip8.Proofs.Breakpoints
import Chip8.Proofs.Candidates
import Chip8.Proofs.Expressions
import Chip8.Proofs.WordReading
import Mathlib.Data.List.Dedup

/-! # What is offered to complete a word

The words in front of the cursor lead down the tree of commands, and what is offered depends on
where they lead and on how many are left for arguments. The word at the cursor only narrows the
offers down. `offers_are_usable` says so, and that each offer is of use: an argument takes the words
that are offered for it, and a breakpoint that is offered can be removed by that text. It also says
what is hinted at behind a line.
-/

namespace Chip8.Debugger

open Arguments (Positional isBeginning)

/-- A text that can be typed as a word. -/
def IsBareWord (text : String) : Prop := text ≠ "" ∧ text.toList.all Text.Words.isBare = true

instance (text : String) : Decidable (IsBareWord text) := inferInstanceAs (Decidable (_ ∧ _))

private theorem isBare_of_isChar {c : Char} (char : Instruction.Operand.isChar c = true) :
    Text.Words.isBare c = true := by
  by_contra special
  simp only [Text.Words.isBare, Text.Words.isSeparator, Bool.not_eq_true, Bool.not_eq_false',
    Bool.or_eq_true, beq_iff_eq] at special
  obtain (((rfl | rfl) | rfl) | rfl) | (rfl | rfl) | rfl := special <;> contradiction

private theorem isBareWord_addressText (address : Address) :
    IsBareWord (Text.addressText address.toNat) := by
  have chars := Instruction.Operand.all_hexLiteral 3 address.toNat
  refine ⟨fun empty => ?_, List.all_eq_true.mpr fun c member =>
    isBare_of_isChar (List.all_eq_true.mp chars c member)⟩
  have written := Instruction.Operand.toList_hexLiteral 3 address.toNat
  rw [← Text.addressText, empty] at written
  contradiction

/-- The text of an address is read as that address. -/
theorem ofText_addressText (address : Address) :
    AddressExpr.ofText (Text.addressText address.toNat) = .ok (.direct address) := by
  have value := Text.digitsValue_digits (by decide) (by decide : 16 ≤ 16) 3 address.toNat
  have digits : ∀ c ∈ Text.digits 16 3 address.toNat, Text.isHexDigit c = true := by
    intro c member
    obtain ⟨digit, small, rfl⟩ := Text.exists_digitChar_of_mem_digits (by decide) member
    exact (Text.recognizes_isHexDigit _).mpr ⟨digit, small, .inl rfl⟩
  have nonempty : Text.digits 16 3 address.toNat ≠ [] := by
    have length := Text.length_digits 16 3 address.toNat
    intro none
    rw [none, List.length_nil] at length
    omega
  have written := (Text.digitString_iff Text.recognizes_isHexDigit (by decide)).mpr
    ⟨nonempty, digits, value⟩
  refine (ofText_eq_ok_iff _ _).mpr ⟨[], _, [], ?_, nofun, .direct (.literal (.inl ⟨rfl, .inl rfl⟩)
    written), nofun⟩
  rw [Text.addressText, Instruction.Operand.toList_hexLiteral]
  simp

namespace Grammar

/-- The arguments that the commands of the debugger take. -/
inductive Argument : Positional Item → Prop where
  | count (read : String → Except String Nat) : Argument (count read)
  | register (isRequired : Bool) : Argument (register isRequired)
  | value : Argument value
  | address {listed : List String}
      (each : ∀ text ∈ listed, IsBareWord text ∧ ∃ address, AddressExpr.ofText text = .ok address) :
      Argument (address listed)
  | key : Argument key
  | action : Argument action

private theorem Argument.eq_register {positional : Positional Item} (argument : Argument positional)
    (called : positional.name = "register") :
    ∃ isRequired, positional = Grammar.register isRequired := by
  cases argument with
  | register isRequired => exact ⟨isRequired, rfl⟩
  | count | value | address | key | action =>
    simp [Grammar.count, Grammar.value, Grammar.address, Grammar.key, Grammar.action] at called

private theorem Argument.eq_key {positional : Positional Item} (argument : Argument positional)
    (called : positional.name = "key") : positional = Grammar.key := by
  cases argument with
  | key => rfl
  | count | value | address | register | action =>
    simp [Grammar.count, Grammar.value, Grammar.address, Grammar.register, Grammar.action] at called

/-- Every register has a name that can be typed, and is known by it. -/
theorem ofText?_text (name : RegisterName) :
    IsBareWord name.text ∧ RegisterName.ofText? name.text = some name := by
  cases name with
  | v x =>
    revert x
    decide +kernel
  | i | pc | sp => decide +kernel

private theorem keyOfText?_names :
    ∀ key < 16, IsBareWord (Text.hex 1 key) ∧
      Keypad.keyOfText? (Text.hex 1 key) = some (UInt8.ofNat key) := by
  decide +kernel

/-- Every register is offered by its name, and nothing else where one is awaited. -/
theorem mem_listed_register {isRequired : Bool} {text : String} :
    text ∈ (register isRequired).reader.listed ↔
      ∃ name : RegisterName, text = name.text ∧ RegisterName.ofText? text = some name := by
  simp only [register, List.mem_map]
  constructor
  · rintro ⟨name, -, rfl⟩
    exact ⟨name, rfl, (ofText?_text name).2⟩
  · rintro ⟨name, rfl, -⟩
    refine ⟨name, ?_, rfl⟩
    cases name with
    | v x => exact List.mem_append_left _ (List.mem_map_of_mem (List.mem_finRange x))
    | i | pc | sp => decide

/-- Every key is offered by its name, and nothing else where one is awaited. -/
theorem mem_listed_key {text : String} :
    text ∈ key.reader.listed ↔
      ∃ key < 16, text = Text.hex 1 key ∧ Keypad.keyOfText? text = some (UInt8.ofNat key) := by
  simp only [key, Keypad.names, List.mem_map, List.mem_range]
  constructor
  · rintro ⟨number, small, rfl⟩
    exact ⟨number, small, rfl, (keyOfText?_names number small).2⟩
  · rintro ⟨number, small, rfl, -⟩
    exact ⟨number, small, rfl⟩

/-- An argument takes each word that is listed for it, and it can be typed. -/
theorem Argument.takes {positional : Positional Item} (argument : Argument positional)
    {text : String} (member : text ∈ positional.reader.listed) :
    IsBareWord text ∧ ∃ item, positional.reader.read text = .ok item := by
  cases argument with
  | count | value => contradiction
  | register isRequired =>
    obtain ⟨name, -, rfl⟩ := List.mem_map.mp member
    obtain ⟨bare, known⟩ := ofText?_text name
    exact ⟨bare, .register name, by simp only [Grammar.register, known]⟩
  | @address listed each =>
    obtain ⟨bare, value, read⟩ := each text member
    exact ⟨bare, .address value, by simp only [Grammar.address, read]⟩
  | key =>
    obtain ⟨number, inside, rfl⟩ := List.mem_map.mp member
    obtain ⟨bare, known⟩ := keyOfText?_names number (List.mem_range.mp inside)
    exact ⟨bare, .key (UInt8.ofNat number), by simp only [Grammar.key, known]⟩
  | action =>
    obtain rfl | rfl : text = "press" ∨ text = "release" := by
      simpa [Grammar.action, Arguments.Reader.oneOf] using member
    · exact ⟨by decide +kernel, .action true, rfl⟩
    · exact ⟨by decide +kernel, .action false, rfl⟩

/-- What holds of each command: it has subcommands or arguments but not both, the names of its
subcommands can be typed, and its arguments are known ones. -/
structure Regular (command : Arguments.Command Item) : Prop where
  apart : command.choices = [] ∨ command.positionals = []
  names : ∀ choice ∈ command.choices, IsBareWord choice.name
  arguments : ∀ positional ∈ command.positionals, Argument positional

private theorem every_regular_of_leaf {command : Arguments.Command Item}
    (leaf : command.subcommands = [])
    (arguments : ∀ positional ∈ command.positionals, Argument positional) :
    command.Every Regular := by
  have none : command.choices = [] := by rw [Arguments.Command.choices, leaf]; rfl
  refine .leaf ⟨.inl none, fun choice member => ?_, arguments⟩ leaf
  rw [none] at member
  contradiction

private theorem every_regular_info : info.Every Regular := by
  have named : ∀ name ∈ info.choices.map (·.name), IsBareWord name := by decide +kernel
  refine .of ⟨.inr rfl, fun choice member => named _ (List.mem_map_of_mem member), nofun⟩
    fun topic member => ?_
  simp only [info, List.mem_cons, List.not_mem_nil, or_false] at member
  obtain rfl | rfl | rfl | rfl | rfl | rfl := member <;> exact every_regular_of_leaf rfl nofun

/-- All commands of the debugger are regular, whatever breakpoints there are. -/
theorem every_regular (breakpoints : List Address) : (grammar breakpoints).Every Regular := by
  have named : ∀ name ∈ (grammar []).choices.map (·.name), IsBareWord name := by decide +kernel
  have bases : ∀ text ∈ ["pc", "i"],
      IsBareWord text ∧ ∃ address, AddressExpr.ofText text = .ok address := by
    simp only [List.forall_mem_cons]
    exact ⟨⟨by decide +kernel, .relative .pc 0, rfl⟩, ⟨by decide +kernel, .relative .i 0, rfl⟩,
      nofun⟩
  have places : ∀ text ∈ breakpoints.map fun address => Text.addressText address.toNat,
      IsBareWord text ∧ ∃ address, AddressExpr.ofText text = .ok address := by
    intro text member
    obtain ⟨address, -, rfl⟩ := List.mem_map.mp member
    exact ⟨isBareWord_addressText address, .direct address, ofText_addressText address⟩
  have single {first : Positional Item} (argument : Argument first) :
      ∀ positional ∈ [first], Argument positional := by
    simp only [List.forall_mem_cons]
    exact ⟨argument, nofun⟩
  have pair {first second : Positional Item} (one : Argument first) (other : Argument second) :
      ∀ positional ∈ [first, second], Argument positional := by
    simp only [List.forall_mem_cons]
    exact ⟨one, other, nofun⟩
  have same : (grammar breakpoints).choices.map (·.name) = (grammar []).choices.map (·.name) := rfl
  refine .of ⟨.inr rfl, fun choice member => named _ (same ▸ List.mem_map_of_mem member), nofun⟩ ?_
  simp only [grammar, List.forall_mem_cons]
  refine ⟨every_regular_of_leaf rfl (single (.count _)), every_regular_of_leaf rfl nofun,
    every_regular_of_leaf rfl (single (.register false)),
    every_regular_of_leaf rfl (pair (.register true) .value),
    every_regular_of_leaf rfl (pair (.address bases) (.count _)),
    every_regular_of_leaf rfl (single (.count _)),
    every_regular_of_leaf rfl (single (.address bases)),
    every_regular_of_leaf rfl (single (.address places)), every_regular_of_leaf rfl nofun,
    every_regular_of_leaf rfl (pair .key .action), every_regular_of_leaf rfl (single (.count _)),
    every_regular_of_leaf rfl nofun, every_regular_info, nofun⟩

end Grammar

section Use

variable {breakpoints : List Address} {words : List String} {positional : Positional Item}
  {text : String}

/-- Whatever is offered can be typed. -/
theorem isBareWord_of_mem_offersBehind
    (member : text ∈ (grammar breakpoints).offersBehind words) : IsBareWord text := by
  obtain ⟨-, names, arguments⟩ := (Grammar.every_regular breakpoints).walk words
  rw [Arguments.Command.offersBehind_eq, Arguments.Command.offers, List.mem_append] at member
  rcases member with name | listed
  · split at name
    · obtain ⟨choice, chosen, rfl⟩ := List.mem_map.mp name
      exact names choice chosen
    · contradiction
  · split at listed
    · next positional found =>
      exact ((arguments positional (List.mem_of_getElem? found)).takes listed).1
    · contradiction

private theorem argument_of_awaited
    (awaited : (grammar breakpoints).awaited? words = some positional) :
    Grammar.Argument positional :=
  ((Grammar.every_regular breakpoints).walk words).arguments positional
    (List.mem_of_getElem? awaited)

/-- Where an argument is awaited, what is offered is what is listed for it. -/
theorem mem_candidates_of_awaited
    (awaited : (grammar breakpoints).awaited? words = some positional) :
    text ∈ Cursor.candidates ⟨words, ""⟩ breakpoints ↔ text ∈ positional.reader.listed := by
  have apart := (Grammar.every_regular breakpoints).imp fun regular => regular.apart
  rw [Cursor.candidates, Arguments.Command.mem_candidates_iff,
    Arguments.Command.offersBehind_of_awaited apart awaited]
  exact and_iff_left (Arguments.isBeginning_empty text)

/-- The command that a text makes behind `unbreak`. -/
theorem ofWords_unbreak {address : AddressExpr} (plain : Arguments.Shape.ofWord text = .plain)
    (read : AddressExpr.ofText text = .ok address) :
    Command.ofWords ["unbreak", text] = .ok (.unbreak address) := by
  let command := Grammar.verb "unbreak" .unbreak "Remove a breakpoint" [Grammar.address []]
  have called : (grammar []).subcommand? "unbreak" = some command := rfl
  have taken : (Grammar.address []).reader.read text = .ok (.address address) := by
    simp only [Grammar.address, read]
  have inner := Arguments.Command.readFrom_single command rfl rfl rfl rfl plain taken
  rw [Command.ofWords, Arguments.Command.read_subcommand rfl rfl called (by decide) inner]
  rfl

private theorem commandOf_unbreak (session : Session) (address : Address) :
    session.commandOf ("unbreak " ++ Text.addressText address.toNat) =
      .ok (.unbreak (.direct address)) := by
  obtain ⟨nonempty, bare⟩ := isBareWord_addressText address
  have begins : Text.Words.Standing.behind "unbreak ".toList = .between ["unbreak".toList] := by
    decide +kernel
  have words := Text.Words.splitWords?_append_bare begins (List.all_eq_true.mp bare) fun none =>
    nonempty (String.toList_eq_nil_iff.mp none)
  rw [String.ofList_append, String.ofList_toList, String.ofList_toList] at words
  have plain : Arguments.Shape.ofWord (Text.addressText address.toNat) = .plain := by
    rw [Arguments.Shape.ofWord, Text.addressText, Instruction.Operand.toList_hexLiteral]
    simp
  have understood := ofWords_unbreak plain (ofText_addressText address)
  have full : ("unbreak " ++ Text.addressText address.toNat).isEmpty = false := by
    simp
  rw [Session.commandOf, full, if_neg Bool.false_ne_true, words]
  simp only [List.map_cons, List.map_nil, String.ofList_toList, List.singleton_append, understood]
  rfl

/-- To remove a breakpoint by its text removes that breakpoint. -/
theorem answer_unbreak {session : Session} (running : session.console.isRunning = true)
    (budget : Nat) (address : Address) :
    ∃ reply,
      session.answer budget ("unbreak " ++ Text.addressText address.toNat) = .reply reply ∧
        reply.session.breakpoints = session.breakpoints.erase address := by
  have asked := commandOf_unbreak session address
  let noted := { session with last := some (.unbreak (.direct address)) }
  have active : noted.console.isRunning = true := running
  obtain ⟨reply, replied⟩ : ∃ reply,
      session.answer budget ("unbreak " ++ Text.addressText address.toNat) = .reply reply := by
    rw [Session.answer_of_asked asked Command.noConfusion, Session.execute?,
      Session.unlessHalted_of_running active]
    exact ⟨_, rfl⟩
  refine ⟨reply, replied, ?_⟩
  rw [Session.breakpoints_answer replied, Session.mark?, asked]
  simp only [Except.toOption, Option.bind_some, Session.markOf?, running, if_true]
  rfl

end Use

section Hints

/-- The letters of either case take the same room. -/
theorem utf8Size_toLower (c : Char) : c.toLower.utf8Size = c.utf8Size := by
  have small {c : Char} (low : c.val.toNat ≤ 127) : c.utf8Size = 1 :=
    if_pos (UInt32.le_iff_toNat_le.mpr low)
  unfold Char.toLower
  split
  · next upper =>
    have above : c.val.toNat ≤ 90 := UInt32.le_iff_toNat_le.mp upper.2
    have shifted : (c.val + ('a'.val - 'A'.val)).toNat ≤ 127 := by
      rw [UInt32.toNat_add]
      have shift : ('a'.val - 'A'.val).toNat = 32 := by decide
      omega
    rw [small shifted, small (Nat.le_trans above (by decide))]
  · rfl

theorem utf8ByteSize_map_toLower (text : List Char) :
    (String.ofList (text.map Char.toLower)).utf8ByteSize = (String.ofList text).utf8ByteSize := by
  induction text with
  | nil => rfl
  | cons c rest ih =>
    rw [List.map_cons, String.ofList_cons, String.ofList_cons, String.utf8ByteSize_append,
      String.utf8ByteSize_append, ih, String.utf8ByteSize_singleton, String.utf8ByteSize_singleton,
      utf8Size_toLower]

/-- A text begins with a word exactly if it has a front of as many bytes that is the same apart from
the case of letters. -/
theorem isBeginning_iff {word text : String} :
    isBeginning word text = true ↔
      ∃ front rest, Text.splitAtByte? word.utf8ByteSize text.toList = some (front, rest) ∧
        front.map Char.toLower = word.toList.map Char.toLower := by
  rw [isBeginning, List.isPrefixOf_iff_prefix]
  constructor
  · rintro ⟨rest, same⟩
    obtain ⟨front, back, split, left, -⟩ := List.map_eq_append_iff.mp same.symm
    refine ⟨front, back, Text.splitAtByte?_eq_some_iff.mpr ⟨split, ?_⟩, left⟩
    rw [← utf8ByteSize_map_toLower, left, utf8ByteSize_map_toLower, String.ofList_toList]
  · rintro ⟨front, rest, split, same⟩
    rw [(Text.splitAtByte?_eq_some_iff.mp split).1, List.map_append, same]
    exact List.prefix_append ..

/-- What is hinted at behind a line is what is missing of the only candidate. -/
theorem hint?_eq_some_iff {breakpoints : List Address} {line missing : String} :
    hint? breakpoints line line.utf8ByteSize = some missing ↔
      ∃ cursor front only, cursor? line line.utf8ByteSize = some (some cursor) ∧
        cursor.candidates breakpoints = [only] ∧ only.toList = front ++ missing.toList ∧
          (String.ofList front).utf8ByteSize = cursor.word.utf8ByteSize := by
  rw [hint?, if_neg (Nat.lt_irrefl _)]
  constructor
  · intro hinted
    split at hinted
    · next cursor found =>
      split at hinted
      · next only single =>
        obtain ⟨⟨front, rest⟩, split, rfl⟩ := Option.map_eq_some_iff.mp hinted
        obtain ⟨same, size⟩ := Text.splitAtByte?_eq_some_iff.mp split
        exact ⟨cursor, front, only, found, single, by rwa [String.toList_ofList], size⟩
      · contradiction
    · contradiction
  · rintro ⟨cursor, front, only, found, single, same, size⟩
    have split := Text.splitAtByte?_eq_some_iff.mpr ⟨same, size⟩
    simp only [found, single, split, Option.map_some, String.ofList_toList]

/-- There is a hint if there is just one candidate. -/
theorem exists_hint?_iff {breakpoints : List Address} {line : String} :
    (∃ missing, hint? breakpoints line line.utf8ByteSize = some missing) ↔
      ∃ only, (complete breakpoints line line.utf8ByteSize).candidates = [only] := by
  simp only [hint?_eq_some_iff]
  constructor
  · rintro ⟨missing, cursor, front, only, found, single, -⟩
    exact ⟨only, by simp only [complete, found, single]⟩
  · rintro ⟨only, single⟩
    unfold complete at single
    split at single
    · contradiction
    · contradiction
    · next cursor found =>
      have begins : isBeginning cursor.word only = true :=
        (Arguments.Command.mem_candidates_iff.mp (single ▸ List.mem_singleton_self only)).2
      obtain ⟨front, rest, split, -⟩ := isBeginning_iff.mp begins
      obtain ⟨same, size⟩ := Text.splitAtByte?_eq_some_iff.mp split
      exact ⟨String.ofList rest, cursor, front, only, found, single,
        by rwa [String.toList_ofList], size⟩

end Hints

private theorem addressText_injective {left right : Address}
    (same : Text.addressText left.toNat = Text.addressText right.toNat) : left = right := by
  have read := ofText_addressText left
  rw [same, ofText_addressText] at read
  cases read
  rfl

/-- What is offered where a breakpoint is to be removed are their texts, each once. -/
theorem perm_candidates_unbreak (breakpoints : List Address) :
    (Cursor.candidates ⟨["unbreak"], ""⟩ breakpoints).Perm
      (breakpoints.dedup.map fun address => Text.addressText address.toNat) := by
  have awaited : (grammar breakpoints).awaited? ["unbreak"] =
      some (Grammar.address (breakpoints.map fun address => Text.addressText address.toNat)) := rfl
  have once : (Cursor.candidates ⟨["unbreak"], ""⟩ breakpoints).Nodup :=
    (Arguments.Command.pairwise_candidates ..).nodup
  have texts := breakpoints.nodup_dedup.map fun _ _ => addressText_injective
  refine (List.perm_ext_iff_of_nodup once texts).mpr fun text => ?_
  rw [mem_candidates_of_awaited awaited]
  simp only [Grammar.address, List.mem_map, List.mem_dedup]

/-- The word at the cursor narrows down what is offered behind the words in front of it, and does
nothing else. The candidates are in order, and each is listed once. Where a breakpoint is to be
removed, the text of each is offered once, and removes it. Where another argument is awaited, the
words that are listed for it are offered, all of which it takes: the names of the registers, and
those of the keys. Behind a line with just one candidate, what is missing of it is hinted at. -/
theorem offers_are_usable (breakpoints : List Address) (words : List String) (word : String) :
    let offered := Cursor.candidates ⟨words, ""⟩ breakpoints
    let candidates := Cursor.candidates ⟨words, word⟩ breakpoints
    candidates = offered.filter (isBeginning word) ∧ candidates.Pairwise (· < ·) ∧
      (∀ more, Cursor.candidates ⟨words, word ++ more⟩ breakpoints =
        candidates.filter (isBeginning (word ++ more))) ∧
      (∀ line position, cursor? line position = some (some ⟨words, word⟩) →
        complete breakpoints line position = ⟨position - word.utf8ByteSize, candidates⟩) ∧
      (Cursor.candidates ⟨["unbreak"], ""⟩ breakpoints).Perm
        (breakpoints.dedup.map fun address => Text.addressText address.toNat) ∧
      (∀ address : Address,
        AddressExpr.ofText (Text.addressText address.toNat) = .ok (.direct address) ∧
        ∀ session : Session, session.console.isRunning = true → ∀ budget, ∃ reply,
          session.answer budget ("unbreak " ++ Text.addressText address.toNat) = .reply reply ∧
            reply.session.breakpoints = session.breakpoints.erase address) ∧
      (∀ positional, (grammar breakpoints).awaited? words = some positional →
        (∀ text, text ∈ offered ↔ text ∈ positional.reader.listed) ∧
        (∀ text ∈ offered, ∃ item, positional.reader.read text = .ok item) ∧
        (positional.name = "register" → ∀ text, text ∈ offered ↔
          ∃ name : RegisterName, text = name.text ∧ RegisterName.ofText? text = some name) ∧
        (positional.name = "key" → ∀ text, text ∈ offered ↔
          ∃ key < 16, text = Text.hex 1 key ∧
            Keypad.keyOfText? text = some (UInt8.ofNat key))) ∧
      ((grammar breakpoints).awaited? ["registers"] = some (Grammar.register false) ∧
        (grammar breakpoints).awaited? ["set"] = some (Grammar.register true) ∧
        (grammar breakpoints).awaited? ["key"] = some Grammar.key) ∧
      ∀ line, let position := line.utf8ByteSize
        ((∃ missing, hint? breakpoints line position = some missing) ↔
          ∃ only, (complete breakpoints line position).candidates = [only]) ∧
        ∀ missing, hint? breakpoints line position = some missing →
          ∃ cursor front only, cursor? line position = some (some cursor) ∧
            cursor.candidates breakpoints = [only] ∧ only.toList = front ++ missing.toList ∧
              (String.ofList front).utf8ByteSize = cursor.word.utf8ByteSize := by
  intro offered candidates
  refine ⟨?_, Arguments.Command.pairwise_candidates .., Arguments.Command.candidates_append _ _ _,
    fun line position found => ?_, perm_candidates_unbreak breakpoints,
    fun address => ⟨ofText_addressText address, ?_⟩, fun positional awaited => ?_, ⟨rfl, rfl, rfl⟩,
    fun line => ⟨exists_hint?_iff, fun missing => hint?_eq_some_iff.mp⟩⟩
  · have narrowed := Arguments.Command.candidates_append (grammar breakpoints) words "" word
    rwa [String.empty_append] at narrowed
  · rw [complete, found]
  · exact fun session running budget => answer_unbreak running budget address
  · have argument := argument_of_awaited awaited
    have listed (text : String) : text ∈ offered ↔ text ∈ positional.reader.listed :=
      mem_candidates_of_awaited awaited
    refine ⟨listed, fun text member => (argument.takes ((listed text).mp member)).2,
      fun called text => (listed text).trans ?_, fun called text => (listed text).trans ?_⟩
    · obtain ⟨isRequired, rfl⟩ := argument.eq_register called
      exact Grammar.mem_listed_register
    · rw [argument.eq_key called]
      exact Grammar.mem_listed_key

end Chip8.Debugger
