import Chip8.Proofs.Numerals
import Chip8.Registers

/-! # Which texts name a register

Reading a name takes the text in lower case, letters of all scripts included, and reads the rest
behind a `v` as a number that may have a sign and zeros in front. The main statement is that none of
this lets in another name: a text names a register exactly if it is the shown name of that register
apart from the case of plain letters, `names_exactly_shown_texts`.
-/

namespace Chip8

namespace Text

section LowerCase

variable {before after text : List Char} {c d : Char}

/-- The small letters of a run are characters. Only one of them can be plain, the k of the sign for
kelvins. -/
structure CapitalRun.Regular (run : CapitalRun) : Prop where
  valid : run.small + (run.last - run.first) < 0xD800 ∨
    0xDFFF < run.small ∧ run.small + (run.last - run.first) < 0x110000
  beyond : 0x80 ≤ run.small ∨ run.first = run.last ∧ run.small = 'k'.toNat

instance (run : CapitalRun) : Decidable run.Regular :=
  decidable_of_iff (_ ∧ _) ⟨fun both => ⟨both.1, both.2⟩, fun regular => ⟨regular.1, regular.2⟩⟩

private theorem regular_of_mem {run : CapitalRun} (member : run ∈ capitalRuns) : run.Regular := by
  have table : ∀ run ∈ capitalRuns, run.Regular := by decide +kernel
  exact table run member

/-- What a run makes of a character is no plain character, apart from the k. -/
theorem CapitalRun.Regular.small {run : CapitalRun} (regular : run.Regular) {point small : Nat}
    (found : run.small? point = some small) :
    0x80 ≤ (Char.ofNat small).toNat ∨ Char.ofNat small = 'k' := by
  obtain ⟨valid, beyond⟩ := regular
  simp only [CapitalRun.small?, Option.ite_none_right_eq_some, Option.some.injEq] at found
  obtain ⟨⟨above, below, -⟩, rfl⟩ := found
  have isChar : (run.small + (point - run.first)).isValidChar := by
    unfold Nat.isValidChar
    omega
  obtain beyond | ⟨single, kelvin⟩ := beyond
  · left
    have code : (Char.ofNat (run.small + (point - run.first))).toNat =
        run.small + (point - run.first) := by
      have same : Char.ofNat (run.small + (point - run.first)) = .ofNatAux _ isChar :=
        dif_pos isChar
      rw [same]
      rfl
    omega
  · right
    have first : point - run.first = 0 := by omega
    rw [first, kelvin]
    rfl

/-- No character beyond the plain ones turns into plain ones, but for the sign for kelvins. The
capital I with a dot leaves its dot behind the i. -/
theorem smallForm_of_beyond (beyond : 0x80 ≤ c.toNat) :
    smallForm before c after = ['i', '\u0307'] ∨
      ∃ d, smallForm before c after = [d] ∧ (0x80 ≤ d.toNat ∨ d = 'k') := by
  rw [smallForm, if_neg (Nat.not_lt.mpr beyond)]
  split
  · -- Both small forms of the sigma are Greek.
    refine .inr ⟨_, rfl, .inl ?_⟩
    split <;> decide
  · split
    · exact .inl rfl
    · refine .inr ?_
      cases found : capitalRuns.findSome? (·.small? c.toNat) with
      | none => exact ⟨c, rfl, .inl beyond⟩
      | some point =>
        obtain ⟨run, member, small⟩ := List.exists_of_findSome?_eq_some found
        exact ⟨_, rfl, (regular_of_mem member).small small⟩

private theorem toLower_of_beyond (beyond : 0x80 ≤ c.toNat) : c.toLower = c := by
  refine dif_neg fun upper => ?_
  have below : c.toNat ≤ 'Z'.toNat := UInt32.le_iff_toNat_le.mp upper.2
  exact absurd (Nat.le_trans beyond below) (by decide)

private theorem toLower_of_plain (plain : c.toNat < 0x80) :
    c.toLower.toLower = c.toLower ∧ c.toLower.isAlphanum = c.isAlphanum := by
  have table : ∀ point < 0x80, (Char.ofNat point).toLower.toLower = (Char.ofNat point).toLower ∧
      (Char.ofNat point).toLower.isAlphanum = (Char.ofNat point).isAlphanum := by decide +kernel
  have found := table c.toNat plain
  rwa [Char.ofNat_toNat] at found

private theorem toLower_of_mem_smallForm (member : d ∈ smallForm before c after) :
    d.toLower = d := by
  by_cases beyond : 0x80 ≤ c.toNat
  · obtain dotted | ⟨small, single, other | kelvin⟩ := smallForm_of_beyond beyond
    · rw [dotted] at member
      simp only [List.mem_cons, List.not_mem_nil, or_false] at member
      obtain rfl | rfl := member <;> rfl
    · rw [single, List.mem_singleton] at member
      rw [member, toLower_of_beyond other]
    · rw [single, List.mem_singleton] at member
      rw [member, kelvin]
      rfl
  · rw [smallForm, if_pos (Nat.not_le.mp beyond), List.mem_singleton] at member
    rw [member, (toLower_of_plain (Nat.not_le.mp beyond)).1]

/-- A text in lower case has no plain capital letters. -/
theorem toLower_of_mem_lowercaseFrom (member : d ∈ lowercaseFrom before text) :
    d.toLower = d := by
  induction text generalizing before with
  | nil => contradiction
  | cons c rest ih =>
    obtain here | later := List.mem_append.mp member
    · exact toLower_of_mem_smallForm here
    · exact ih later

/-- A character beyond the plain ones leaves a trace in lower case. -/
theorem exists_strange_of_beyond (beyond : 0x80 ≤ c.toNat) :
    ∃ d ∈ smallForm before c after, ¬(d.toNat < 0x80 ∧ d ≠ 'k') := by
  have form : smallForm before c after = _ ∨ _ := smallForm_of_beyond beyond
  obtain dotted | ⟨small, single, strange⟩ := form
  · exact ⟨'\u0307', by simp [dotted], by decide⟩
  · refine ⟨small, by simp [single], ?_⟩
    rintro ⟨plain, noKelvin⟩
    exact strange.elim (fun other => absurd plain (Nat.not_lt.mpr other)) noKelvin

/-- Only plain texts turn into a plain text without a k, and only the case of their letters
changes. -/
theorem lowercaseFrom_eq_iff {plain : List Char}
    (allPlain : ∀ d ∈ plain, d.toNat < 0x80 ∧ d ≠ 'k') :
    lowercaseFrom before text = plain ↔ text.map Char.toLower = plain := by
  induction text generalizing before plain with
  | nil => exact Iff.rfl
  | cons c rest ih =>
    by_cases beyond : 0x80 ≤ c.toNat
    · -- Neither side can be plain: one has the trace of the character, the other the character.
      constructor
      · rintro rfl
        obtain ⟨d, member, strange⟩ := exists_strange_of_beyond beyond
        exact absurd (allPlain d (List.mem_append_left _ member)) strange
      · rintro rfl
        have here := (allPlain c.toLower (by simp)).1
        rw [toLower_of_beyond beyond] at here
        exact absurd here (Nat.not_lt.mpr beyond)
    · rw [lowercaseFrom, smallForm, if_pos (Nat.not_le.mp beyond), List.map_cons]
      cases plain with
      | nil => simp
      | cons d plain =>
        have others : ∀ other ∈ plain, other.toNat < 0x80 ∧ other ≠ 'k' :=
          fun other member => allPlain other (List.mem_cons_of_mem d member)
        simp only [List.cons_append, List.nil_append, List.cons.injEq, ih others]

end LowerCase

/-- Two texts that differ at most in the case of plain letters. -/
def SameButCase (left right : String) : Prop :=
  left.toList.map Char.toLower = right.toList.map Char.toLower

instance (left right : String) : Decidable (SameButCase left right) :=
  inferInstanceAs (Decidable (_ = _))

end Text

namespace RegisterName

open Text

def lowered (name : RegisterName) : List Char := name.text.toList.map Char.toLower

private theorem lowered_v (x : VIndex) :
    (RegisterName.v x).lowered = ['v', Nat.digitChar x.val] := by
  revert x
  decide

private theorem all_lowered (name : RegisterName) :
    name.lowered.all (fun d => d.toNat < 0x80 && d != 'k' && d.isAlphanum) = true := by
  cases name with
  | v x =>
    revert x
    decide
  | i | pc | sp => decide

private theorem plain_of_mem_lowered {name : RegisterName} {d : Char} (member : d ∈ name.lowered) :
    (d.toNat < 0x80 ∧ d ≠ 'k') ∧ d.isAlphanum = true := by
  simpa using List.all_eq_true.mp name.all_lowered d member

/-- In lower case each digit is written in one way. -/
theorem eq_digitChar_of_writesDigit {c : Char} {digit : Nat} (writes : WritesDigit 16 c digit)
    (small : c.toLower = c) : c = Nat.digitChar digit := by
  have table : ∀ digit < 16, (upperHexDigit digit).toLower = Nat.digitChar digit := by decide
  obtain ⟨inside, rfl | rfl⟩ := writes
  · rfl
  · rw [← table digit inside, small]

private theorem ofLowercase?_lowered (name : RegisterName) :
    ofLowercase? name.lowered = some name := by
  cases name with
  | v x =>
    revert x
    decide +kernel
  | i | pc | sp => rfl

/-- Among texts in lower case, each register has one name. -/
theorem ofLowercase?_eq_some_iff {text : List Char} {name : RegisterName}
    (small : ∀ d ∈ text, d.toLower = d) : ofLowercase? text = some name ↔ text = name.lowered := by
  constructor
  · intro read
    unfold ofLowercase? at read
    split at read
    · cases read
      rfl
    · cases read
      rfl
    · cases read
      rfl
    · next digits =>
      split at read
      · next number parsed =>
        simp only [Option.ite_none_right_eq_some, Option.some.injEq] at read
        obtain ⟨oneByte, rfl⟩ := read
        obtain ⟨c, rfl, writes⟩ := writesDigit_of_oneByte parsed oneByte
        have same : (Fin.ofNat 16 number.toNat).val = number.toNat := Nat.mod_eq_of_lt writes.1
        have digit := eq_digitChar_of_writesDigit writes (small c (by simp))
        rw [lowered_v, digit, same]
      · contradiction
    · contradiction
  · rintro rfl
    exact ofLowercase?_lowered name

/-- A text names a register exactly if it is the shown name apart from the case of its letters. -/
theorem ofText?_eq_some_iff {text : String} {name : RegisterName} :
    ofText? text = some name ↔ SameButCase text name.text := by
  rw [ofText?, lowercase,
    ofLowercase?_eq_some_iff fun d member => toLower_of_mem_lowercaseFrom member,
    lowercaseFrom_eq_iff fun d member => (plain_of_mem_lowered member).1]
  rfl

private theorem isAlphanum_of_sameButCase {text : String} {name : RegisterName}
    (same : SameButCase text name.text) {c : Char} (member : c ∈ text.toList) :
    c.isAlphanum = true := by
  have lower : c.toLower ∈ name.lowered := by
    rw [lowered, ← same]
    exact List.mem_map_of_mem member
  have plain := (plain_of_mem_lowered lower).2
  by_cases beyond : 0x80 ≤ c.toNat
  · rwa [toLower_of_beyond beyond] at plain
  · rwa [(toLower_of_plain (Nat.not_le.mp beyond)).2] at plain

/-- A text names a register exactly if it is the shown name of that register apart from the case of
plain letters. So a shown name is read back, no text names two registers, and none with a sign, a
blank, a letter of another script or a further digit names any. -/
theorem names_exactly_shown_texts :
    (∀ (text : String) (name : RegisterName),
      ofText? text = some name ↔ SameButCase text name.text) ∧
    (∀ name : RegisterName, ofText? name.text = some name) ∧
    (∀ (text : String) (name other : RegisterName),
      SameButCase text name.text → SameButCase text other.text → name = other) ∧
    (∀ text : String, ofText? text = none ↔ ∀ name : RegisterName, ¬SameButCase text name.text) ∧
    ∀ (text : String) (name : RegisterName), ofText? text = some name →
      text.length = name.text.length ∧ ∀ c ∈ text.toList, c.isAlphanum = true := by
  refine ⟨fun text name => ofText?_eq_some_iff, fun name => ofText?_eq_some_iff.mpr rfl, ?_, ?_, ?_⟩
  · intro text name other named alsoNamed
    have found := ofText?_eq_some_iff.mpr named
    have alsoFound := ofText?_eq_some_iff.mpr alsoNamed
    exact Option.some.inj (found.symm.trans alsoFound)
  · intro text
    simp only [Option.eq_none_iff_forall_ne_some, ne_eq, ofText?_eq_some_iff]
  · intro text name found
    have same := ofText?_eq_some_iff.mp found
    have lengths := congrArg List.length same
    simp only [List.length_map, String.length_toList] at lengths
    exact ⟨lengths, fun c member => isAlphanum_of_sameButCase same member⟩

/-- A name with both characters in the other case, and the same name with a sign. -/
theorem names_exactly_shown_texts_vB :
    SameButCase "Vb" (RegisterName.v 11).text ∧ ofText? "Vb" = some (.v 11) ∧
      (∀ other : RegisterName, SameButCase "Vb" other.text → RegisterName.v 11 = other) ∧
      "Vb".length = (RegisterName.v 11).text.length ∧ ofText? "V+b" = none := by
  obtain ⟨names, -, unique, unnamed, plain⟩ := names_exactly_shown_texts
  have same : SameButCase "Vb" (RegisterName.v 11).text := by decide
  have found := (names _ _).mpr same
  refine ⟨same, found, fun other => unique _ _ other same, (plain _ _ found).1, ?_⟩
  refine (unnamed "V+b").mpr fun name signed => ?_
  have sign := (plain _ _ ((names _ _).mpr signed)).2 '+' (by decide)
  exact absurd sign (by decide)

end RegisterName

end Chip8
