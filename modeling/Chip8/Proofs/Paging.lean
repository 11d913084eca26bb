import Chip8.Proofs.Dialogue
import Chip8.Proofs.Listing
import Mathlib.Algebra.GroupWithZero.Nat

/-! # Listings that go on

A request for a listing goes on where the last one ended, until an instruction is executed. The next
page begins behind the last one, or at the last address if that would be beyond it, while the
addresses of a page stop at the last of their own parity. `pages_continue_listing` says what all
pages show together: one listing, and the last address for each page that is asked for behind the
end of it. `page_behind_listing` is a program counter where that address is no part of the listing.
-/

namespace Chip8

namespace Listing

/-- Every second place from one on, `count` of them, as far as sixteen bits can hold them. -/
def addressesFrom (place count : Nat) : List Address :=
  ((List.range count).map fun index => place + 2 * index).filterMap fun place =>
    if place < UInt16.size then some place.toUInt16 else none

/-- The place itself, or the last address in front of it. -/
def reach (place : Nat) : Address := (min 65535 place).toUInt16

/-- The addresses on pages of these lengths, the first of which begins at a place. -/
def pagedFrom (place : Nat) : List Nat → List Address
  | [] => []
  | count :: rest => addresses (reach place) count ++ pagedFrom (place + 2 * count) rest

/-- How many pages of these lengths begin behind the last address, empty ones left out. -/
def overrun (place : Nat) : List Nat → Nat
  | [] => 0
  | count :: rest =>
    (if 65535 < place ∧ 0 < count then 1 else 0) + overrun (place + 2 * count) rest

private theorem toNat_reach (place : Nat) : (reach place).toNat = min 65535 place := by
  rw [reach, Nat.toUInt16_eq, UInt16.toNat_ofNat']
  exact Nat.mod_eq_of_lt (by omega)

/-- The next page begins where the places go on. -/
theorem reach_add (place count : Nat) :
    (min 65535 ((reach place).toNat + 2 * count)).toUInt16 = reach (place + 2 * count) := by
  rw [toNat_reach, reach]
  exact congrArg Nat.toUInt16 (by omega)

/-- A page of places can be cut into two. -/
theorem addressesFrom_add (place first second : Nat) :
    addressesFrom place (first + second) =
      addressesFrom place first ++ addressesFrom (place + 2 * first) second := by
  simp only [addressesFrom, List.range_add, List.map_append, List.map_map, List.filterMap_append]
  congr 3
  funext index
  simp only [Function.comp_apply]
  omega

private theorem addressesFrom_of_beyond {place : Nat} (beyond : 65535 < place) (count : Nat) :
    addressesFrom place count = [] := by
  rw [addressesFrom, List.filterMap_eq_nil_iff]
  intro other member
  obtain ⟨index, -, rfl⟩ := List.mem_map.mp member
  have size : UInt16.size = 65536 := rfl
  exact if_neg (by omega)

/-- Before the end a page shows its places. -/
theorem addresses_reach_of_within {place : Nat} (within : place ≤ 65535) (count : Nat) :
    addresses (reach place) count = addressesFrom place count := by
  rw [addresses, toNat_reach, Nat.min_eq_right within]
  rfl

/-- Behind the end a page shows the last address, if anything. -/
theorem addresses_reach_of_beyond {place : Nat} (beyond : 65535 < place) (count : Nat) :
    addresses (reach place) count = List.replicate (if 0 < count then 1 else 0) 65535 := by
  have last : reach place = 65535 := by
    rw [reach, Nat.min_eq_left (Nat.le_of_lt beyond)]
    rfl
  cases count with
  | zero => rfl
  | succ count =>
    have one : min (count + 1) (capacity 65535) = 1 := Nat.min_eq_right (Nat.succ_pos count)
    rw [last, addresses_eq, one, if_pos (Nat.succ_pos count)]
    rfl

/-- The pages together show one listing, and the last address for each page behind its end. -/
theorem pagedFrom_eq (place : Nat) (counts : List Nat) :
    pagedFrom place counts =
      addressesFrom place counts.sum ++ List.replicate (overrun place counts) 65535 := by
  induction counts generalizing place with
  | nil => rfl
  | cons count rest ih =>
    rw [pagedFrom, overrun, ih, List.sum_cons, addressesFrom_add]
    by_cases beyond : 65535 < place
    · simp only [addresses_reach_of_beyond beyond, addressesFrom_of_beyond beyond,
        addressesFrom_of_beyond (Nat.lt_add_right (2 * count) beyond), beyond, true_and,
        List.nil_append, List.replicate_append_replicate]
    · rw [addresses_reach_of_within (Nat.le_of_not_lt beyond), if_neg fun both => beyond both.1,
        Nat.zero_add, List.append_assoc]

/-- No page runs over exactly if each that asks for anything begins before the end. -/
theorem overrun_eq_zero_iff {place : Nat} {counts : List Nat} :
    overrun place counts = 0 ↔
      ∀ earlier count later, counts = earlier ++ count :: later → 0 < count →
        place + 2 * earlier.sum ≤ 65535 := by
  induction counts generalizing place with
  | nil => simp [overrun]
  | cons first rest ih =>
    rw [overrun, Nat.add_eq_zero_iff, ih]
    constructor
    · rintro ⟨here, behind⟩ earlier count later same positive
      cases earlier with
      | nil =>
        cases same
        have within : ¬65535 < place := fun beyond => by simp [beyond, positive] at here
        simpa using Nat.le_of_not_lt within
      | cons other earlier =>
        cases same
        have before := behind earlier count later rfl positive
        rw [List.sum_cons]
        omega
    · intro begins
      refine ⟨if_neg fun both => ?_, fun earlier count later same positive => ?_⟩
      · have within := begins [] first rest rfl both.2
        simp only [List.sum_nil, Nat.mul_zero, Nat.add_zero] at within
        omega
      · have before := begins (first :: earlier) count later (by rw [same]; rfl) positive
        rw [List.sum_cons] at before
        omega

/-- The listed addresses are the places in steps of two, as far as there are addresses. -/
theorem mem_addresses_iff {start address : Address} {count : Nat} :
    address ∈ addresses start count ↔
      ∃ index < count, address.toNat = start.toNat + 2 * index := by
  have bound := address.toNat_lt
  rw [addresses_eq]
  simp only [List.mem_map, List.mem_range]
  constructor
  · rintro ⟨index, inside, rfl⟩
    exact ⟨index, Nat.lt_of_lt_of_le inside (Nat.min_le_left ..),
      toNat_of_lt_capacity (Nat.lt_of_lt_of_le inside (Nat.min_le_right ..))⟩
  · rintro ⟨index, inside, same⟩
    have held : index < capacity start := by
      unfold capacity
      omega
    refine ⟨index, Nat.lt_min.mpr ⟨inside, held⟩, ?_⟩
    rw [← UInt16.toNat_inj, toNat_of_lt_capacity held, same]

private theorem pairwise_addresses (start : Address) (count : Nat) :
    (addresses start count).Pairwise (· < ·) := by
  rw [addresses_eq, List.pairwise_map]
  refine List.pairwise_lt_range.imp_of_mem fun {low high} _ inside ascending => ?_
  have held : high < capacity start :=
    Nat.lt_of_lt_of_le (List.mem_range.mp inside) (Nat.min_le_right ..)
  rw [UInt16.lt_iff_toNat_lt, toNat_of_lt_capacity held,
    toNat_of_lt_capacity (Nat.lt_trans ascending held)]
  omega

end Listing

namespace Debugger

/-- A listing that was asked for: where it begins, and how many instructions it is to show. -/
structure Page where
  start : Address
  count : Nat
deriving DecidableEq, Repr

def Page.addresses (page : Page) : List Address := Listing.addresses page.start page.count

namespace Session

def page? (session : Session) (line : String) : Option Page :=
  match session.commandOf line with
  | .ok (.list count) => some ⟨session.listStart, count⟩
  | _ => none

def asksToExecute (session : Session) (line : String) : Bool :=
  match session.commandOf line with
  | .ok command => command.executes
  | .error _ => false

/-- The pages that lines ask for, up to the first line that asks to execute instructions, or to the
end of the session. -/
def pages (budget : Nat) (session : Session) : List String → List Page
  | [] => []
  | line :: rest =>
    if session.asksToExecute line then []
    else
      match session.answer budget line with
      | .reply reply => (session.page? line).toList ++ reply.session.pages budget rest
      | .exit | .unfinished => []

variable {session : Session} {budget : Nat} {line : String}

/-- What is answered to a request for a page. -/
theorem answer_list {count : Nat} (asked : session.commandOf line = .ok (.list count))
    (budget : Nat) :
    session.answer budget line =
      .reply (Session.say { session.afterList count with last := some (.list count) }
        (session.listEvents count)) := by
  rw [answer_of_asked asked Command.noConfusion]
  rfl

/-- Only listings move the place of the next one, as long as nothing is executed. -/
theorem listFrom_execute? {command : Command} {reply : Reply}
    (executed : session.execute? budget command = some reply)
    (still : command.executes = false) (other : ∀ count, command ≠ .list count) :
    reply.session.listFrom = session.listFrom := by
  cases running : session.console.isRunning with
  | false =>
    cases command with
    | list count => exact absurd rfl (other count)
    | exit | registers | memory | screen =>
      cases executed
      rfl
    | info topic => cases topic <;> cases executed <;> rfl
    | «break» | unbreak | step | set | key | timers | «continue» =>
      rw [execute?, unlessHalted_of_halted running] at executed
      cases executed
      rfl
  | true =>
    cases command with
    | list count => exact absurd rfl (other count)
    | step | «continue» => contradiction
    | exit | registers | memory | screen =>
      cases executed
      rfl
    | info topic => cases topic <;> cases executed <;> rfl
    | timers cycles =>
      rw [execute?, unlessHalted_of_running running] at executed
      cases executed
      rfl
    | «break» address | unbreak address =>
      rw [execute?, unlessHalted_of_running running, withAddress] at executed
      cases executed
      split
      · simp only [setBreakpoint, removeBreakpoint]
        split <;> rfl
      · rfl
    | set name value =>
      rw [execute?, unlessHalted_of_running running] at executed
      cases executed
      unfold setRegister
      split <;> rfl
    | key key pressed =>
      rw [execute?, unlessHalted_of_running running] at executed
      cases executed
      unfold setKey
      split <;> rfl

/-- A line that asks for neither a page nor instructions leaves the place of the next listing. -/
theorem listFrom_answer {reply : Reply} (replied : session.answer budget line = .reply reply)
    (still : session.asksToExecute line = false) (other : session.page? line = none) :
    reply.session.listFrom = session.listFrom := by
  obtain same | ⟨command, asked, -, executed⟩ := cases_of_reply replied
  · rw [same]
  · simp only [asksToExecute, asked] at still
    have noList : ∀ count, command ≠ .list count := by
      rintro count rfl
      simp only [page?, asked, reduceCtorEq] at other
    have kept := listFrom_execute? executed still noList
    exact kept

private theorem page?_eq_some {page : Page} (asked : session.page? line = some page) :
    page.start = session.listStart ∧ session.commandOf line = .ok (.list page.count) := by
  unfold page? at asked
  split at asked
  · next read =>
    cases asked
    exact ⟨rfl, read⟩
  · contradiction

/-- The answer to a request for a page is a line for each of its addresses. -/
theorem outputs_of_page {page : Page} (asked : session.page? line = some page) (budget : Nat) :
    ∃ reply, session.answer budget line = .reply reply ∧
      reply.outputs = page.addresses.map fun address => .event (session.lineAt address) := by
  obtain ⟨start, read⟩ := page?_eq_some asked
  refine ⟨_, answer_list read budget, ?_⟩
  rw [say, listEvents, List.map_map, Page.addresses, start]
  rfl

/-- A page comes first, and the next one begins where its places end. -/
theorem pages_of_page {page : Page} (asked : session.page? line = some page) (budget : Nat)
    (rest : List String) :
    ∃ after : Session, session.pages budget (line :: rest) = page :: after.pages budget rest ∧
      after.listFrom = some (min 65535 (page.start.toNat + 2 * page.count)).toUInt16 := by
  obtain ⟨start, read⟩ := page?_eq_some asked
  have still : session.asksToExecute line = false := by
    rw [asksToExecute, read]
    rfl
  refine ⟨{ session.afterList page.count with last := some (.list page.count) }, ?_, ?_⟩
  · rw [pages, still, answer_list read, asked]
    rfl
  · rw [start]
    rfl

/-- Behind a first page, the others begin where the places go on. -/
theorem flatMap_pages {place : Nat} (begins : session.listFrom = some (Listing.reach place))
    (budget : Nat) (lines : List String) :
    (session.pages budget lines).flatMap Page.addresses =
      Listing.pagedFrom place ((session.pages budget lines).map Page.count) := by
  induction lines generalizing session place with
  | nil => rfl
  | cons line rest ih =>
    cases asked : session.page? line with
    | some page =>
      obtain ⟨after, unfolded, next⟩ := pages_of_page asked budget rest
      have start : page.start = Listing.reach place := by
        rw [(page?_eq_some asked).1, listStart, begins, Option.getD_some]
      rw [start, Listing.reach_add] at next
      rw [unfolded, List.flatMap_cons, List.map_cons, Listing.pagedFrom, ← ih next,
        Page.addresses, start]
    | none =>
      unfold pages
      cases still : session.asksToExecute line with
      | true => rfl
      | false =>
        cases replied : session.answer budget line with
        | exit | unfinished => rfl
        | reply reply =>
          have kept := (listFrom_answer replied still asked).trans begins
          rw [asked]
          exact ih kept

end Session

/-- Listings that are asked for one after the other, from the program counter on and with no
instruction executed between them, show one listing of as many instructions as they ask for
together, and behind it the last address for each that asks for any where the listing has ended. So
they show that listing and nothing else just if each begins before its end. The listing goes up in
steps of two from the program counter, and leaves out no address. -/
theorem pages_continue_listing (session : Session) (fresh : session.listFrom = none) (budget : Nat)
    {line : String} {count : Nat} (asked : session.commandOf line = .ok (.list count))
    (lines : List String) :
    let pc := session.machine.registers.pc
    let pages := session.pages budget (line :: lines)
    let counts := pages.map Page.count
    let shown := pages.flatMap Page.addresses
    let whole := Listing.addresses pc counts.sum
    counts.head? = some count ∧
      shown = whole ++ List.replicate (Listing.overrun pc.toNat counts) 65535 ∧
      (shown = whole ↔
        ∀ earlier more later, counts = earlier ++ more :: later → 0 < more →
          pc.toNat + 2 * earlier.sum ≤ 65535) ∧
      whole.Pairwise (· < ·) ∧
      (∀ address, address ∈ whole ↔
        ∃ index < counts.sum, address.toNat = pc.toNat + 2 * index) ∧
      ∀ (other : Session) (text : String) (page : Page), other.page? text = some page →
        ∃ reply, other.answer budget text = .reply reply ∧
          reply.outputs = page.addresses.map fun address => .event (other.lineAt address) := by
  intro pc pages counts shown whole
  have bound := pc.toNat_lt
  have here : Listing.reach pc.toNat = pc := by
    apply UInt16.toNat_inj.mp
    rw [Listing.toNat_reach]
    omega
  have first : session.page? line = some ⟨pc, count⟩ := by
    rw [Session.page?, asked, Session.listStart, fresh]
    rfl
  obtain ⟨after, unfolded, next⟩ := Session.pages_of_page first budget lines
  have listed : counts = count :: (after.pages budget lines).map Page.count :=
    congrArg (List.map Page.count) unfolded
  have paged : shown = Listing.pagedFrom pc.toNat counts := by
    rw [← here, Listing.reach_add] at next
    rw [listed, Listing.pagedFrom, here, ← Session.flatMap_pages next]
    exact congrArg (List.flatMap Page.addresses) unfolded
  have together : shown = whole ++ List.replicate (Listing.overrun pc.toNat counts) 65535 := by
    rw [paged, Listing.pagedFrom_eq]
    rfl
  refine ⟨by rw [listed, List.head?_cons], together, ?_, Listing.pairwise_addresses ..,
    fun address => Listing.mem_addresses_iff, fun other text page => ?_⟩
  · rw [← Listing.overrun_eq_zero_iff, together, List.append_right_eq_self,
      List.replicate_eq_nil_iff]
  · exact fun requested => Session.outputs_of_page requested budget

/-- Two pages at the end of the address space, the second of which is cut off there. -/
theorem pages_continue_listing_to_end :
    let start : Console Terminal := .load (.new {} .zeros) [0x12, 0x00] {}
    let session := (Transcript.ofInput 1 start ["set pc 0xfff8"]).session
    session.listFrom = none ∧ session.commandOf "list 3" = .ok (.list 3) ∧
      (session.pages 1 ["list 3", "list 2"]).flatMap Page.addresses =
        [0xfff8, 0xfffa, 0xfffc, 0xfffe] := by
  intro start session
  have fresh : session.listFrom = none := by decide +kernel
  have asked : session.commandOf "list 3" = .ok (.list 3) := by decide +kernel
  have together := (pages_continue_listing session fresh 1 asked ["list 2"]).2.1
  exact ⟨fresh, asked, together.trans (by decide +kernel)⟩

/-- A page that is asked for when the addresses of one parity have all been shown begins at the last
address of all, which one listing of both pages does not show. -/
theorem page_behind_listing :
    let start : Console Terminal := .load (.new {} .zeros) [0x12, 0x00] {}
    let session := (Transcript.ofInput 1 start ["set pc 0xfffe"]).session
    let pages := session.pages 1 ["list", "list"]
    session.machine.registers.pc = 0xfffe ∧ session.listFrom = none ∧
      pages.map Page.count = [10, 10] ∧ pages.flatMap Page.addresses = [0xfffe, 0xffff] ∧
      Listing.addresses 0xfffe (10 + 10) = [0xfffe] := by
  decide +kernel

end Debugger

end Chip8
