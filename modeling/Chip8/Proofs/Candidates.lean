import Chip8.Arguments.Completion
import Chip8.Arguments.Reading
import Mathlib.Data.List.Sort

/-! # Candidates behind the words of a command

The words that are already there lead down the tree of commands, and what is offered behind them
depends on where they lead and on how many are left for arguments. Candidates are the offers that
begin with the word at hand, in order and each once, so a longer word has fewer:
`candidates_append`. What holds of every command of a tree holds of the one that words lead to.
-/

namespace Chip8

universe u

namespace Arguments

/-- A list without its repetitions keeps its order, in which no two are the same. -/
theorem pairwise_eraseDups {β : Type u} [BEq β] [LawfulBEq β] {r : β → β → Prop} {values : List β}
    (ordered : values.Pairwise r) : values.eraseDups.Pairwise fun a b => r a b ∧ a ≠ b := by
  induction length : values.length using Nat.strongRecOn generalizing values with
  | ind count ih =>
    cases ordered with
    | nil => exact .nil
    | @cons first rest below tail =>
      rw [List.eraseDups_cons]
      have shorter : (rest.filter fun other => !other == first).length < count := by
        rw [← length, List.length_cons]
        exact Nat.lt_succ_of_le (List.length_filter_le _ rest)
      refine .cons (fun other member => ?_) (ih _ shorter (tail.filter _) rfl)
      obtain ⟨inside, different⟩ := List.mem_filter.mp (List.mem_eraseDups.mp member)
      exact ⟨below other inside, fun same => by simp [same] at different⟩

/-- What begins with a longer word begins with the front of it. -/
theorem isBeginning_of_append {word more offer : String}
    (longer : isBeginning (word ++ more) offer = true) : isBeginning word offer = true := by
  rw [isBeginning, List.isPrefixOf_iff_prefix] at longer ⊢
  rw [String.toList_append, List.map_append] at longer
  exact (List.prefix_append ..).trans longer

theorem isBeginning_empty (offer : String) : isBeginning "" offer = true := by
  rw [isBeginning, List.isPrefixOf_iff_prefix]
  exact List.nil_prefix

namespace Command

variable {α : Type u} {command sub : Command α} {P : Command α → Prop}

section Candidates

variable {words : List String} {word text : String}

theorem mem_candidates_iff :
    text ∈ command.candidates words word ↔
      text ∈ command.offersBehind words ∧ isBeginning word text = true := by
  rw [candidates, List.mem_eraseDups, List.mem_mergeSort, List.mem_filter]

/-- The candidates are in order, and each is listed once. -/
theorem pairwise_candidates (command : Command α) (words : List String) (word : String) :
    (command.candidates words word).Pairwise (· < ·) := by
  let offers := (command.offersBehind words).filter (isBeginning word)
  have ordered : (offers.mergeSort fun a b => decide (a ≤ b)).Pairwise (· ≤ ·) := by
    refine (List.pairwise_mergeSort ?_ ?_ offers).imp of_decide_eq_true
    · intro low middle high below above
      exact decide_eq_true (String.le_trans (of_decide_eq_true below) (of_decide_eq_true above))
    · intro left right
      exact Bool.or_eq_true_iff.mpr ((String.le_total left right).imp decide_eq_true decide_eq_true)
  exact (pairwise_eraseDups ordered).imp fun both => Std.lt_of_le_of_ne both.1 both.2

/-- The candidates are the offers that begin with the word, put in order. -/
theorem candidates_eq {texts : List String} (ordered : texts.Pairwise (· < ·))
    (offered : ((command.offersBehind words).filter (isBeginning word)).Perm texts) :
    command.candidates words word = texts :=
  (command.pairwise_candidates ..).eq_of_mem_iff ordered fun text => by
    rw [mem_candidates_iff, ← offered.mem_iff, List.mem_filter]

/-- A longer word narrows the candidates down. -/
theorem candidates_append (command : Command α) (words : List String) (word more : String) :
    command.candidates words (word ++ more) =
      (command.candidates words word).filter (isBeginning (word ++ more)) := by
  refine (command.pairwise_candidates ..).eq_of_mem_iff
    ((command.pairwise_candidates ..).filter _) fun text => ?_
  rw [List.mem_filter, mem_candidates_iff, mem_candidates_iff, and_assoc]
  exact and_congr_right fun _ => ⟨fun longer => ⟨isBeginning_of_append longer, longer⟩, And.right⟩

end Candidates

section Walking

/-- The command that some words lead down to, and how many are left for its arguments. -/
def walk (command : Command α) : List String → Command α × Nat
  | [] => (command, 0)
  | word :: rest =>
    match command.subcommands.find? (answersTo word) with
    | some sub => sub.walk rest
    | none => (command, rest.length + 1)

/-- The positional argument that is awaited behind some words. -/
def awaited? (command : Command α) (words : List String) : Option (Positional α) :=
  (command.walk words).1.positionals[(command.walk words).2]?

theorem offersBehind_eq (command : Command α) (words : List String) :
    command.offersBehind words = (command.walk words).1.offers (command.walk words).2 := by
  induction words generalizing command with
  | nil => rfl
  | cons word rest ih =>
    rw [offersBehind, walk]
    cases command.subcommands.find? (answersTo word) with
    | some sub => exact ih sub
    | none => rfl

/-- Something holds of a command and of all commands below it. -/
inductive Every (P : Command α → Prop) : Command α → Prop where
  | of {command : Command α} (here : P command) (below : ∀ sub ∈ command.subcommands, Every P sub) :
      Every P command

private theorem Every.here (every : command.Every P) : P command := by
  cases every with
  | of here => exact here

/-- Words lead to nothing but commands below. -/
theorem Every.walk (every : command.Every P) (words : List String) : P (command.walk words).1 := by
  induction words generalizing command with
  | nil => exact every.here
  | cons word rest ih =>
    rw [Command.walk]
    split
    · next sub found =>
      cases every with
      | of _ below => exact ih (below sub (List.mem_of_find?_eq_some found))
    · exact every.here

theorem Every.imp {Q : Command α → Prop} (every : command.Every P)
    (weaker : ∀ {sub : Command α}, P sub → Q sub) : command.Every Q := by
  induction every with
  | of here _ ih => exact .of (weaker here) ih

theorem Every.leaf (here : P command) (leaf : command.subcommands = []) : command.Every P :=
  .of here fun sub member => by
    rw [leaf] at member
    contradiction

end Walking

/-- Where an argument is awaited, and commands with arguments have no subcommands, the offers are
the words that are listed for it. -/
theorem offersBehind_of_awaited {words : List String} {positional : Positional α}
    (apart : command.Every fun sub => sub.choices = [] ∨ sub.positionals = [])
    (awaited : command.awaited? words = some positional) :
    command.offersBehind words = positional.reader.listed := by
  have member := List.mem_of_getElem? awaited
  rw [awaited?] at awaited
  rw [offersBehind_eq, offers, awaited]
  rcases apart.walk words with alone | none
  · rw [alone, List.map_nil, ite_self, List.nil_append]
  · rw [none] at member
    contradiction

section Reading

variable {positional : Positional α} {word : String} {value : α}

/-- How a command with one argument reads a word. -/
theorem readFrom_single (command : Command α) (leaf : command.subcommands = [])
    (needless : command.needsSubcommand = false) (compatible : command.exclusive = [])
    (single : command.positionals = [positional]) (plain : Shape.ofWord word = .plain)
    (read : positional.reader.read word = .ok value) :
    command.readFrom { unfilled := command.positionals } [word] =
      .ok [command.meaning ++ [value]] := by
  let slot : Slot α := { label := positional.label, reader := positional.reader }
  have placed : command.take { unfilled := command.positionals } word =
      .ok { unfilled := [], pending := some (slot, some word) } := by
    rw [take, plain, single]
    rfl
  have filled : slot.read word = .ok [value] := by
    simp only [slot, Slot.read, List.mapM_cons, read]
    rfl
  have uncalled : command.subcommand? word = none := by
    simp [subcommand?, choice?, choices, leaf]
  have idle : (if ({ unfilled := command.positionals } : Progress α).isAwaiting then none
      else command.subcommand? word) = none := uncalled
  rw [readFrom, if_neg Bool.false_ne_true, idle]
  simp only [placed, bind, Except.bind, readFrom, finish, Progress.settle, Progress.fill,
    Progress.add, filled, exclusion?, compatible, needless]
  rfl

/-- A word that calls a subcommand hands over the words behind it. -/
theorem read_subcommand {rest : List String} {levels : List (List α)}
    (bare : command.positionals = []) (compatible : command.exclusive = [])
    (called : command.subcommand? word = some sub)
    (other : (sub.name == (help : Command α).name) = false)
    (read : sub.readFrom { unfilled := sub.positionals } rest = .ok levels) :
    command.read (word :: rest) = .ok (command.meaning :: levels) := by
  have idle : (if ({ unfilled := command.positionals } : Progress α).isAwaiting then none
      else command.subcommand? word) = some sub := called
  rw [Command.read, readFrom, if_neg Bool.false_ne_true, idle]
  simp only [other, Bool.false_eq_true, if_false, read, bind, Except.bind, finish, Progress.settle,
    exclusion?, compatible, bare, Bool.not_true, Bool.and_false, List.filter_nil, List.any_nil,
    List.append_nil]
  rfl

end Reading

end Command

end Arguments

end Chip8
