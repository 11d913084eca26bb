import Chip8.Debugger.Expression
import Chip8.Proofs.Numerals
import Mathlib.Data.List.TakeWhile

/-! # The numbers and addresses that the debugger accepts

A grammar of numbers and of addresses, against the functions that read them. Reading is greedy and
falls back silently: a literal that cannot be read is tried as a decimal number, and an offset that
cannot be read is left out. The main statement, `reads_exactly_the_grammar`, says that nothing slips
in or out that way, since what is left of such a text is never blank.
-/

namespace Chip8.Debugger

def Spacing (text : List Char) : Prop := ∀ c ∈ text, c = ' ' ∨ c = '\t'

/-- The characters behind a zero that announce digits of another base. -/
def Marks (base : Nat) (marker : Char) : Prop :=
  base = 16 ∧ (marker = 'x' ∨ marker = 'X') ∨ base = 2 ∧ (marker = 'b' ∨ marker = 'B')

/-- The written form of a number that fits a word. -/
inductive Numeral : List Char → Word → Prop where
  | decimal {digits : List Char} {number : Word}
      (written : Text.DigitString 10 digits number.toNat) : Numeral digits number
  | literal {base : Nat} {marker : Char} {digits : List Char} {number : Word}
      (marks : Marks base marker) (written : Text.DigitString base digits number.toNat) :
      Numeral ('0' :: marker :: digits) number

def Base.name : Base → List Char
  | .pc => ['p', 'c']
  | .i => ['i']

/-- The name of a base in any case. -/
def Base.Named (base : Base) (text : List Char) : Prop := text.map Char.toLower = base.name

/-- The written form of an address. -/
inductive Expression : List Char → AddressExpr → Prop where
  | direct {text : List Char} {number : Word} (numeral : Numeral text number) :
      Expression text (.direct number)
  | base {name : List Char} {base : Base} (named : base.Named name) :
      Expression name (.relative base 0)
  | above {name before after text : List Char} {base : Base} {number : Word}
      (named : base.Named name) (front : Spacing before) (back : Spacing after)
      (numeral : Numeral text number) :
      Expression (name ++ before ++ '+' :: after ++ text) (.relative base number.toNat)
  | below {name before after text : List Char} {base : Base} {number : Word}
      (named : base.Named name) (front : Spacing before) (back : Spacing after)
      (numeral : Numeral text number) :
      Expression (name ++ before ++ '-' :: after ++ text) (.relative base (-number.toNat))

/-- A text that is written in some way, apart from the spacing around it. -/
def Surrounded (Written : List Char → Prop) (text : String) : Prop :=
  ∃ front body back, text.toList = front ++ body ++ back ∧
    Spacing front ∧ Written body ∧ Spacing back

section Spacing

variable {text rest : List Char}

private theorem isSpacing_eq_true_iff {c : Char} : isSpacing c = true ↔ c = ' ' ∨ c = '\t' := by
  simp [isSpacing]

private theorem skipSpacing_eq_nil_iff : skipSpacing text = [] ↔ Spacing text := by
  simp [skipSpacing, Spacing, isSpacing]

private theorem skipSpacing_append (blank : Spacing text) (rest : List Char) :
    skipSpacing (text ++ rest) = skipSpacing rest :=
  List.dropWhile_append_of_pos fun c member => isSpacing_eq_true_iff.mpr (blank c member)

private theorem skipSpacing_cons {c : Char} (solid : isSpacing c = false) :
    skipSpacing (c :: rest) = c :: rest :=
  List.dropWhile_cons_of_neg (by simp [solid])

/-- What is skipped is spacing. -/
theorem exists_eq_append_skipSpacing (text : List Char) :
    ∃ blank, text = blank ++ skipSpacing text ∧ Spacing blank := by
  refine ⟨text.takeWhile isSpacing, List.takeWhile_append_dropWhile.symm, ?_⟩
  intro c member
  exact isSpacing_eq_true_iff.mp (List.mem_takeWhile_imp member)

end Spacing

section Digits

variable {base : Nat} {isDigit : Char → Bool}

private theorem span_digits {digits rest : List Char} (all : ∀ c ∈ digits, isDigit c = true)
    (boundary : ∀ c ∈ rest.head?, isDigit c = false) :
    (digits ++ rest).takeWhile isDigit = digits ∧ (digits ++ rest).dropWhile isDigit = rest := by
  rw [List.takeWhile_append_of_pos all, List.dropWhile_append_of_pos all]
  cases rest with
  | nil => simp
  | cons c rest =>
    have foreign : ¬ isDigit c = true := by simp [boundary c rfl]
    rw [List.takeWhile_cons_of_neg foreign, List.dropWhile_cons_of_neg foreign]
    simp

/-- Digits are read as far as they go, if they make a number that fits. -/
theorem readDigits_eq_ok_iff (recognizes : Text.Recognizes base isDigit) (atMost : base ≤ 16)
    {text rest : List Char} {number : Word} :
    readDigits base isDigit text = .ok (number, rest) ↔
      ∃ digits, text = digits ++ rest ∧ Text.DigitString base digits number.toNat ∧
        ∀ c ∈ rest.head?, isDigit c = false := by
  constructor
  · intro read
    simp only [readDigits, List.isEmpty_iff] at read
    split at read
    · contradiction
    · next nonempty =>
      split at read
      · next fits =>
        cases read
        refine ⟨_, List.takeWhile_append_dropWhile.symm, ?_, fun c first => ?_⟩
        · rw [UInt16.toNat_ofNat', Nat.mod_eq_of_lt fits, Text.digitString_iff recognizes atMost]
          exact ⟨nonempty, fun c => List.mem_takeWhile_imp, rfl⟩
        · have boundary := List.head?_dropWhile_not isDigit text
          rw [Option.mem_def.mp first] at boundary
          exact boundary
      · contradiction
  · rintro ⟨digits, rfl, written, boundary⟩
    obtain ⟨nonempty, all, value⟩ := (Text.digitString_iff recognizes atMost).mp written
    obtain ⟨taken, dropped⟩ := span_digits all boundary
    simp only [readDigits, taken, dropped, value, List.isEmpty_iff, nonempty, if_false]
    rw [if_pos number.toNat_lt, UInt16.ofNat_toNat]

end Digits

section Numbers

/-- A literal behind its marker, read in the marker's base. -/
theorem exists_readMarked?_eq {base : Nat} {marker : Char} (marks : Marks base marker) :
    ∃ isDigit, Text.Recognizes base isDigit ∧ base ≤ 16 ∧ ∀ rest,
      readMarked? ('0' :: marker :: rest) = (readDigits base isDigit rest).toOption := by
  obtain ⟨rfl, rfl | rfl⟩ | ⟨rfl, rfl | rfl⟩ := marks
  · exact ⟨_, Text.recognizes_isHexDigit, by decide, fun _ => rfl⟩
  · exact ⟨_, Text.recognizes_isHexDigit, by decide, fun _ => rfl⟩
  · exact ⟨_, Text.recognizes_isBinaryDigit, by decide, fun _ => rfl⟩
  · exact ⟨_, Text.recognizes_isBinaryDigit, by decide, fun _ => rfl⟩

private theorem marks_of_readMarked?_eq_some {text rest : List Char} {number : Word}
    (read : readMarked? text = some (number, rest)) :
    ∃ base marker behind, text = '0' :: marker :: behind ∧ Marks base marker := by
  unfold readMarked? at read
  split at read
  · next marker behind =>
    split at read
    · next hex => exact ⟨16, marker, behind, rfl, .inl ⟨rfl, by simpa using hex⟩⟩
    · split at read
      · next binary => exact ⟨2, marker, behind, rfl, .inr ⟨rfl, by simpa using binary⟩⟩
      · contradiction
  · contradiction

private theorem toOption_eq_some_iff {ε α : Type} {result : Except ε α} {value : α} :
    result.toOption = some value ↔ result = .ok value := by
  cases result <;> simp [Except.toOption]

private theorem exists_of_readNumber {text rest : List Char} {number : Word}
    (read : readNumber text = .ok (number, rest)) :
    ∃ body, text = body ++ rest ∧ Numeral body number := by
  unfold readNumber at read
  cases marked : readMarked? text with
  | some result =>
    rw [marked] at read
    cases read
    obtain ⟨base, marker, behind, rfl, marks⟩ := marks_of_readMarked?_eq_some marked
    obtain ⟨isDigit, recognizes, atMost, readMarked⟩ := exists_readMarked?_eq marks
    rw [readMarked, toOption_eq_some_iff, readDigits_eq_ok_iff recognizes atMost] at marked
    obtain ⟨digits, rfl, written, -⟩ := marked
    exact ⟨'0' :: marker :: digits, rfl, .literal marks written⟩
  | none =>
    rw [marked] at read
    obtain ⟨digits, split, written, -⟩ :=
      (readDigits_eq_ok_iff Text.recognizes_isDigit (by decide)).mp read
    exact ⟨digits, split, .decimal written⟩

private theorem notDigit_notSpacing_of_marks {base : Nat} {marker : Char}
    (marks : Marks base marker) : marker.isDigit = false ∧ isSpacing marker = false := by
  obtain ⟨-, rfl | rfl⟩ | ⟨-, rfl | rfl⟩ := marks <;> decide

/-- No digit of any base is blank. -/
theorem isDigit_eq_false_of_spacing {base : Nat} {isDigit : Char → Bool} {rest : List Char}
    (recognizes : Text.Recognizes base isDigit) (atMost : base ≤ 16) (blank : Spacing rest) :
    ∀ c ∈ rest.head?, isDigit c = false := by
  have table : ∀ digit < 16, isSpacing (Nat.digitChar digit) = false ∧
      isSpacing (Text.upperHexDigit digit) = false := by decide
  intro c first
  rw [← Bool.not_eq_true, recognizes c]
  rintro ⟨digit, small, written⟩
  have spacing := isSpacing_eq_true_iff.mpr (blank c (List.mem_of_mem_head? first))
  have foreign := table digit (Nat.lt_of_lt_of_le small atMost)
  obtain rfl | rfl := written <;> simp_all

private theorem readNumber_append {body rest : List Char} {number : Word}
    (numeral : Numeral body number)
    (blank : Spacing rest) : readNumber (body ++ rest) = .ok (number, rest) := by
  cases numeral with
  | decimal written =>
    -- Neither the digits nor the spacing behind them holds a marker.
    have unmarked : readMarked? (body ++ rest) = none := by
      obtain ⟨-, all, -⟩ := (Text.digitString_iff Text.recognizes_isDigit (by decide)).mp written
      rw [Option.eq_none_iff_forall_not_mem]
      rintro ⟨value, behind⟩ read
      obtain ⟨base, marker, after, split, marks⟩ := marks_of_readMarked?_eq_some read
      have member : marker ∈ body ++ rest := by simp [split]
      obtain ⟨notDigit, notSpacing⟩ := notDigit_notSpacing_of_marks marks
      obtain digit | spacing := List.mem_append.mp member
      · simp [all marker digit] at notDigit
      · simp [isSpacing_eq_true_iff.mpr (blank marker spacing)] at notSpacing
    rw [readNumber, unmarked]
    exact (readDigits_eq_ok_iff Text.recognizes_isDigit (by decide)).mpr
      ⟨body, rfl, written, isDigit_eq_false_of_spacing Text.recognizes_isDigit (by decide) blank⟩
  | @literal base marker digits _ marks written =>
    obtain ⟨isDigit, recognizes, atMost, readMarked⟩ := exists_readMarked?_eq marks
    have read : readDigits base isDigit (digits ++ rest) = .ok (number, rest) :=
      (readDigits_eq_ok_iff recognizes atMost).mpr
        ⟨digits, rfl, written, isDigit_eq_false_of_spacing recognizes atMost blank⟩
    rw [readNumber, List.cons_append, List.cons_append, readMarked, read]
    rfl

/-- A number begins with a digit, and so not with spacing. -/
theorem exists_first_of_numeral {body : List Char} {number : Word}
    (numeral : Numeral body number) :
    ∃ first behind, body = first :: behind ∧ isSpacing first = false := by
  cases numeral with
  | decimal written =>
    obtain ⟨nonempty, all, -⟩ :=
      (Text.digitString_iff Text.recognizes_isDigit (by decide)).mp written
    obtain ⟨first, behind, rfl⟩ := List.exists_cons_of_ne_nil nonempty
    have digit := all first List.mem_cons_self
    refine ⟨first, behind, rfl, ?_⟩
    rw [← Bool.not_eq_true, isSpacing_eq_true_iff]
    rintro (rfl | rfl) <;> contradiction
  | @literal base marker digits => exact ⟨'0', marker :: digits, rfl, rfl⟩

end Numbers

section Addresses

private theorem readNumber_of_notDigit {first : Char} (notDigit : first.isDigit = false)
    (rest : List Char) : readNumber (first :: rest) = .error .digit := by
  have unmarked : readMarked? (first :: rest) = none := by
    rw [Option.eq_none_iff_forall_not_mem]
    rintro ⟨value, behind⟩ read
    obtain ⟨base, marker, after, split, -⟩ := marks_of_readMarked?_eq_some read
    obtain ⟨rfl, -⟩ := List.cons.inj split
    contradiction
  have stops : (first :: rest).takeWhile Char.isDigit = [] :=
    List.takeWhile_cons_of_neg (by simp [notDigit])
  simp [readNumber, unmarked, readDigits, stops]

private theorem exists_of_readBase? {text rest : List Char} {base : Base}
    (read : readBase? text = some (base, rest)) :
    ∃ name, text = name ++ rest ∧ base.Named name := by
  unfold readBase? at read
  split at read
  · contradiction
  · next first behind =>
    split at read
    · next second _ p =>
      split at read
      · next c =>
        cases read
        exact ⟨[first, second], rfl, by simpa [Base.Named, Base.name, p] using c⟩
      · contradiction
    · next i =>
      cases read
      exact ⟨[first], rfl, by simp [Base.Named, Base.name, i]⟩
    · contradiction

private theorem readBase?_append {name : List Char} {base : Base} (named : base.Named name)
    (rest : List Char) : readBase? (name ++ rest) = some (base, rest) := by
  cases base with
  | pc =>
    obtain ⟨first, second, rfl, p, c⟩ :
        ∃ first second, name = [first, second] ∧ first.toLower = 'p' ∧ second.toLower = 'c' := by
      simpa [Base.Named, Base.name, List.map_eq_cons_iff, and_assoc] using named
    simp [readBase?, p, c]
  | i =>
    obtain ⟨first, rfl, i⟩ : ∃ first, name = [first] ∧ first.toLower = 'i' := by
      simpa [Base.Named, Base.name, List.map_eq_cons_iff, and_assoc] using named
    simp [readBase?, i]

/-- A name begins with a letter. -/
theorem exists_letter_of_named {name : List Char} {base : Base} (named : base.Named name) :
    ∃ first behind, name = first :: behind ∧ first.isDigit = false ∧
      isSpacing first = false := by
  obtain ⟨first, behind, rfl, lower⟩ : ∃ first behind, name = first :: behind ∧
      (first.toLower = 'p' ∨ first.toLower = 'i') := by
    cases name with
    | nil => cases base <;> cases named
    | cons first behind =>
      refine ⟨first, behind, rfl, ?_⟩
      cases base with
      | pc => exact .inl (List.cons.inj named).1
      | i => exact .inr (List.cons.inj named).1
  refine ⟨first, behind, rfl, ?_, ?_⟩
  · have table : ∀ digit < 10, ∀ c, c = Nat.digitChar digit ∨ c = Text.upperHexDigit digit →
        c.toLower ≠ 'p' ∧ c.toLower ≠ 'i' := by
      simp only [forall_eq_or_imp, forall_eq]
      decide
    rw [← Bool.not_eq_true, Text.recognizes_isDigit first]
    rintro ⟨digit, small, written⟩
    obtain ⟨notP, notI⟩ := table digit small first written
    exact lower.elim notP notI
  · rw [← Bool.not_eq_true, isSpacing_eq_true_iff]
    rintro (rfl | rfl) <;> revert lower <;> decide

/-- A name is no number. -/
theorem readNumber_of_named {name : List Char} {base : Base} (named : base.Named name)
    (rest : List Char) : readNumber (name ++ rest) = .error .digit := by
  obtain ⟨first, behind, rfl, notDigit, -⟩ := exists_letter_of_named named
  exact readNumber_of_notDigit notDigit _

/-- A text whose first character is no spacing is not shortened. -/
theorem skipSpacing_numeral {text : List Char} {number : Word} (numeral : Numeral text number)
    (rest : List Char) : skipSpacing (text ++ rest) = text ++ rest := by
  obtain ⟨first, behind, rfl, solid⟩ := exists_first_of_numeral numeral
  exact skipSpacing_cons solid

private theorem exists_of_readOffset? {text rest : List Char} {offset : Int}
    (read : readOffset? text = some (offset, rest)) :
    ∃ before sign after numeral number, text = before ++ sign :: after ++ numeral ++ rest ∧
      Spacing before ∧ Spacing after ∧ Numeral numeral number ∧
      (sign = '+' ∧ offset = number.toNat ∨ sign = '-' ∧ offset = -number.toNat) := by
  obtain ⟨before, split, front⟩ := exists_eq_append_skipSpacing text
  unfold readOffset? at read
  split at read
  · next sign behind signed =>
    obtain ⟨after, splitAfter, back⟩ := exists_eq_append_skipSpacing behind
    split at read
    · next isSign =>
      split at read
      · next size left readSize =>
        obtain ⟨numeral, splitNumeral, written⟩ := exists_of_readNumber readSize
        cases read
        refine ⟨before, sign, after, numeral, size, ?_, front, back, written, ?_⟩
        · rw [split, signed, splitAfter, splitNumeral]
          simp
        · obtain rfl | rfl : sign = '+' ∨ sign = '-' := by simpa using isSign
          · exact .inl ⟨rfl, rfl⟩
          · exact .inr ⟨rfl, rfl⟩
      · contradiction
    · contradiction
  · contradiction

private theorem readOffset?_append {before after text rest : List Char} {number : Word}
    {sign : Char} (front : Spacing before) (back : Spacing after) (numeral : Numeral text number)
    (isSign : sign = '+' ∨ sign = '-') (blank : Spacing rest) :
    readOffset? (before ++ sign :: after ++ text ++ rest) =
      some (if sign = '-' then -(number.toNat : Int) else number.toNat, rest) := by
  have solid : isSpacing sign = false := by obtain rfl | rfl := isSign <;> rfl
  have toSign : skipSpacing (before ++ sign :: after ++ text ++ rest) =
      sign :: (after ++ (text ++ rest)) := by
    simp only [List.append_assoc, List.cons_append]
    rw [skipSpacing_append front, skipSpacing_cons solid]
  have toNumber : skipSpacing (after ++ (text ++ rest)) = text ++ rest := by
    rw [skipSpacing_append back, skipSpacing_numeral numeral]
  rw [readOffset?, toSign]
  simp only [toNumber, readNumber_append numeral blank]
  obtain rfl | rfl := isSign <;> rfl

private theorem readOffset?_of_spacing {rest : List Char} (blank : Spacing rest) :
    readOffset? rest = none := by
  rw [readOffset?, skipSpacing_eq_nil_iff.mpr blank]

private theorem exists_of_readAddress {text rest : List Char} {address : AddressExpr}
    (read : readAddress text = .ok (address, rest)) :
    ∃ body, text = body ++ rest ∧ Expression body address := by
  unfold readAddress at read
  split at read
  · next number behind readNumber =>
    cases read
    obtain ⟨body, split, numeral⟩ := exists_of_readNumber readNumber
    exact ⟨body, split, .direct numeral⟩
  · split at read
    · contradiction
    · next base behind readBase =>
      obtain ⟨name, split, named⟩ := exists_of_readBase? readBase
      split at read
      · next offset left readOffset =>
        cases read
        obtain ⟨before, sign, after, numeral, number, rfl, front, back, written,
          ⟨rfl, rfl⟩ | ⟨rfl, rfl⟩⟩ := exists_of_readOffset? readOffset
        · exact ⟨_, by simp [split], .above named front back written⟩
        · exact ⟨_, by simp [split], .below named front back written⟩
      · cases read
        exact ⟨name, split, .base named⟩

private theorem readAddress_append {body rest : List Char} {address : AddressExpr}
    (expression : Expression body address) (blank : Spacing rest) :
    readAddress (body ++ rest) = .ok (address, rest) := by
  have offset {name behind : List Char} {base : Base} {offset : Int} (named : base.Named name)
      (read : readOffset? behind = some (offset, rest)) :
      readAddress (name ++ behind) = .ok (.relative base offset, rest) := by
    simp only [readAddress, readNumber_of_named named, readBase?_append named, read]
  cases expression with
  | direct numeral => rw [readAddress, readNumber_append numeral blank]
  | base named =>
    simp only [readAddress, readNumber_of_named named, readBase?_append named,
      readOffset?_of_spacing blank]
  | above named front back numeral =>
    have read := readOffset?_append front back numeral (.inl rfl) blank
    simp only [List.append_assoc, List.cons_append] at read ⊢
    exact offset named read
  | below named front back numeral =>
    have read := readOffset?_append front back numeral (.inr rfl) blank
    simp only [List.append_assoc, List.cons_append] at read ⊢
    exact offset named read

/-- An address begins with a digit or a letter, and so not with spacing. -/
theorem exists_first_of_expression {body : List Char} {address : AddressExpr}
    (expression : Expression body address) :
    ∃ first behind, body = first :: behind ∧ isSpacing first = false := by
  cases expression with
  | direct numeral => exact exists_first_of_numeral numeral
  | base named | above named | below named =>
    obtain ⟨first, behind, rfl, -, solid⟩ := exists_letter_of_named named
    exact ⟨first, _, rfl, solid⟩

end Addresses

section Whole

/-- A text is accepted as a whole exactly if it is written as the grammar says. A reader may stop
early, but what it leaves must be blank, and in front of blanks it reads all it can. -/
theorem readWhole_eq_ok_iff {α : Type}
    {read : List Char → Except (List Attempt) (α × List Char)} (Written : List Char → α → Prop)
    (sound : ∀ {text value rest}, read text = .ok (value, rest) →
      ∃ body, text = body ++ rest ∧ Written body value)
    (complete : ∀ {body value rest}, Written body value → Spacing rest →
      read (body ++ rest) = .ok (value, rest))
    (solid : ∀ {body value}, Written body value →
      ∃ first behind, body = first :: behind ∧ isSpacing first = false)
    (text : String) (value : α) :
    readWhole read text = .ok value ↔ Surrounded (Written · value) text := by
  constructor
  · intro accepted
    obtain ⟨front, split, blankFront⟩ := exists_eq_append_skipSpacing text.toList
    simp only [readWhole] at accepted
    split at accepted
    · contradiction
    · next result rest readBody =>
      obtain ⟨body, splitBody, written⟩ := sound readBody
      split at accepted
      · next blank =>
        cases accepted
        refine ⟨front, body, rest, ?_, blankFront, written, ?_⟩
        · rw [split, splitBody, List.append_assoc]
        · exact skipSpacing_eq_nil_iff.mp (List.isEmpty_iff.mp blank)
      · contradiction
  · rintro ⟨front, body, back, split, blankFront, written, blankBack⟩
    have start : skipSpacing text.toList = body ++ back := by
      obtain ⟨first, behind, rfl, notBlank⟩ := solid written
      rw [split, List.append_assoc, skipSpacing_append blankFront]
      exact skipSpacing_cons notBlank
    simp only [readWhole, start, complete written blankBack,
      skipSpacing_eq_nil_iff.mpr blankBack]
    rfl

private theorem numberOfText_eq_ok_iff (text : String) (number : Word) :
    numberOfText text = .ok number ↔ Surrounded (Numeral · number) text := by
  refine readWhole_eq_ok_iff Numeral (fun {text value rest} read => ?_)
    (fun numeral blank => ?_) exists_first_of_numeral text number
  · cases result : readNumber text with
    | ok pair =>
      rw [result] at read
      cases read
      exact exists_of_readNumber result
    | error attempt =>
      rw [result] at read
      contradiction
  · rw [readNumber_append numeral blank]
    rfl

theorem ofText_eq_ok_iff (text : String) (address : AddressExpr) :
    AddressExpr.ofText text = .ok address ↔ Surrounded (Expression · address) text :=
  readWhole_eq_ok_iff Expression exists_of_readAddress readAddress_append
    exists_first_of_expression text address

end Whole

section Literals

/-- A literal without digits, or with digits that make too large a number. -/
def Unfit (base : Nat) (digits : List Char) : Prop :=
  digits = [] ∨ ∃ value, Text.DigitString base digits value ∧ 65535 < value

private theorem readMarked?_of_unfit {base : Nat} {marker : Char} {digits rest : List Char}
    (marks : Marks base marker) (unfit : Unfit base digits) (blank : Spacing rest) :
    readMarked? ('0' :: marker :: (digits ++ rest)) = none := by
  obtain ⟨isDigit, recognizes, atMost, readMarked⟩ := exists_readMarked?_eq marks
  have boundary := isDigit_eq_false_of_spacing recognizes atMost blank
  rw [readMarked]
  obtain rfl | ⟨value, written, large⟩ := unfit
  · have taken : ([] ++ rest).takeWhile isDigit = [] := (span_digits (by simp) boundary).1
    simp only [readDigits, taken]
    rfl
  · obtain ⟨nonempty, all, counted⟩ := (Text.digitString_iff recognizes atMost).mp written
    obtain ⟨taken, -⟩ := span_digits all boundary
    have beyond : ¬ value < UInt16.size := Nat.not_lt.mpr large
    simp only [readDigits, taken, counted, List.isEmpty_iff, nonempty, beyond, if_false]
    rfl

/-- Such a literal is retried as a decimal number, and then its marker is in the way. -/
theorem readNumber_of_unfit {base : Nat} {marker : Char} {digits rest : List Char}
    (marks : Marks base marker) (unfit : Unfit base digits) (blank : Spacing rest) :
    readNumber ('0' :: marker :: (digits ++ rest)) = .ok (0, marker :: (digits ++ rest)) := by
  rw [readNumber, readMarked?_of_unfit marks unfit blank]
  refine (readDigits_eq_ok_iff Text.recognizes_isDigit (by decide)).mpr
    ⟨['0'], rfl, .one ⟨by decide, .inl rfl⟩, ?_⟩
  rintro _ ⟨⟩
  exact (notDigit_notSpacing_of_marks marks).1

private theorem refused_of_unfit {base : Nat} {marker : Char} {front digits back : List Char}
    {text : String} (split : text.toList = front ++ '0' :: marker :: (digits ++ back))
    (marks : Marks base marker) (unfit : Unfit base digits)
    (blankFront : Spacing front) (blankBack : Spacing back) :
    numberOfText text = .error ⟨text.toList, marker :: (digits ++ back), [.ending]⟩ ∧
      AddressExpr.ofText text = .error ⟨text.toList, marker :: (digits ++ back), [.ending]⟩ := by
  have read := readNumber_of_unfit marks unfit blankBack
  have start : skipSpacing text.toList = '0' :: marker :: (digits ++ back) := by
    rw [split, skipSpacing_append blankFront]
    exact skipSpacing_cons rfl
  have left : skipSpacing (marker :: (digits ++ back)) = marker :: (digits ++ back) :=
    skipSpacing_cons (notDigit_notSpacing_of_marks marks).2
  constructor
  · simp only [numberOfText, readWhole, start, read, Except.mapError, left]
    rfl
  · simp only [AddressExpr.ofText, readWhole, start, readAddress, read, left]
    rfl

end Literals

section Evaluation

variable {registers : Registers} {base : Base} {offset : Int}

private theorem evaluate_eq_ok_iff {place : Address} :
    AddressExpr.evaluate registers (.relative base offset) = .ok place ↔
      (place.toNat : Int) = (AddressExpr.baseValue registers base).toNat + offset := by
  have bound := place.toNat_lt
  simp only [AddressExpr.evaluate, UInt16.size]
  split
  · next inside =>
    rw [Except.ok.injEq, ← UInt16.toNat_inj, UInt16.toNat_ofNat']
    omega
  · next outside =>
    simp only [reduceCtorEq, false_iff]
    omega

private theorem evaluate_eq_error_iff {problem : AddressExpr.OutOfRange} :
    AddressExpr.evaluate registers (.relative base offset) = .error problem ↔
      let sum : Int := (AddressExpr.baseValue registers base).toNat + offset
      problem.place = sum ∧ ¬ (0 ≤ sum ∧ sum ≤ 65535) := by
  obtain ⟨place⟩ := problem
  simp only [AddressExpr.evaluate, UInt16.size]
  split
  · next inside =>
    simp only [reduceCtorEq, false_iff]
    omega
  · next outside =>
    rw [Except.error.injEq, AddressExpr.OutOfRange.mk.injEq]
    omega

private theorem offset_of_expression {text : List Char}
    (expression : Expression text (.relative base offset)) : -65535 ≤ offset ∧ offset ≤ 65535 := by
  cases expression with
  | base named => omega
  | @above _ _ _ _ _ number =>
    have bound := number.toNat_lt
    omega
  | @below _ _ _ _ _ number =>
    have bound := number.toNat_lt
    omega

end Evaluation

/-- Numbers and addresses are accepted exactly as the grammar writes them, with the value that they
have there, and every other text is refused; a literal without digits or with too many of them is
refused at its marker. A relative address names the sum of its register and its offset exactly if
that is an address, and the sum of one that was read has fewer than thirty-two bits. -/
theorem reads_exactly_the_grammar :
    (∀ text number, numberOfText text = .ok number ↔ Surrounded (Numeral · number) text) ∧
    (∀ text address,
      AddressExpr.ofText text = .ok address ↔ Surrounded (Expression · address) text) ∧
    (∀ text, (∃ problem, numberOfText text = .error problem) ↔
      ∀ number, ¬ Surrounded (Numeral · number) text) ∧
    (∀ text, (∃ problem, AddressExpr.ofText text = .error problem) ↔
      ∀ address, ¬ Surrounded (Expression · address) text) ∧
    (∀ (text : String) front base marker digits back,
      text.toList = front ++ '0' :: marker :: (digits ++ back) → Spacing front → Spacing back →
      Marks base marker → Unfit base digits →
      numberOfText text = .error ⟨text.toList, marker :: (digits ++ back), [.ending]⟩ ∧
      AddressExpr.ofText text = .error ⟨text.toList, marker :: (digits ++ back), [.ending]⟩) ∧
    ∀ (machine : Machine) base offset,
      let sum : Int := (AddressExpr.baseValue machine.registers base).toNat + offset
      (∀ place, AddressExpr.evaluate machine.registers (.relative base offset) = .ok place ↔
        (place.toNat : Int) = sum) ∧
      (∀ problem, AddressExpr.evaluate machine.registers (.relative base offset) =
        .error problem ↔ problem.place = sum ∧ ¬ (0 ≤ sum ∧ sum ≤ 65535)) ∧
      ∀ text, AddressExpr.ofText text = .ok (.relative base offset) →
        -2147483648 ≤ sum ∧ sum ≤ 2147483647 := by
  have refused {α : Type} (result : Except Unreadable α) :
      (∃ problem, result = .error problem) ↔ ∀ value, result ≠ .ok value := by
    cases result <;> simp
  refine ⟨numberOfText_eq_ok_iff, ofText_eq_ok_iff, ?_, ?_, ?_, ?_⟩
  · intro text
    simp only [refused, ne_eq, numberOfText_eq_ok_iff]
  · intro text
    simp only [refused, ne_eq, ofText_eq_ok_iff]
  · intro text front base marker digits back split blankFront blankBack marks unfit
    exact refused_of_unfit split marks unfit blankFront blankBack
  · intro machine base offset sum
    refine ⟨fun place => evaluate_eq_ok_iff, fun problem => evaluate_eq_error_iff,
      fun text accepted => ?_⟩
    obtain ⟨_, body, _, _, _, expression, _⟩ := (ofText_eq_ok_iff text _).mp accepted
    have small := offset_of_expression expression
    have bound := (AddressExpr.baseValue machine.registers base).toNat_lt
    omega

/-- An offset that cannot be read is left out, and then its sign is in the way. -/
example : AddressExpr.ofText "PC - 0x10 " = .ok (.relative .pc (-16)) ∧
    AddressExpr.ofText "pc - " = .error ⟨"pc - ".toList, "- ".toList, [.ending]⟩ := by
  decide

end Chip8.Debugger
