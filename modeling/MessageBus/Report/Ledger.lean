import MessageBus.Report.Wording
/-!
The ledger of reports and message buffers. A slot holds one report or none. The text of a report is
borrowed, or a buffer that an allocator handed out and that goes back to it when the report is
dropped. A report moves from slot to slot with its buffer. Allocators, buffers and slots are numbered
in the order in which they came; every operation that fails leaves the ledger as it was, except that
dropping a report whose buffer was given back before still empties the slot.
-/
namespace MessageBus.Report

/-- A source of buffers: how many it may hand out, those it has handed out, and those that came back,
in order. -/
structure Allocator where
  limit : Option Nat
  lent : List Nat
  returned : List Nat
  deriving DecidableEq

def Allocator.handedOut (a : Allocator) : Nat := a.lent.length

def Allocator.freed (a : Allocator) : Nat := a.returned.length

structure Buffer where
  text : String
  allocator : Nat
  released : Bool
  deriving DecidableEq

/-- The text of a report: borrowed from elsewhere, or a buffer of the ledger. -/
inductive Message
  | borrowed (text : String)
  | owned (buffer : Nat)
  deriving DecidableEq

def Message.isOwned : Message → Bool
  | .borrowed _ => false
  | .owned _ => true

/-- A place for a report: its kind and its message, and where buffers for it come from. -/
structure Slot where
  allocator : Nat
  kind : Option Kind
  message : Option Message
  deriving DecidableEq

structure Ledger where
  allocators : List Allocator
  buffers : List Buffer
  slots : List Slot

namespace Ledger

/-- The allocator that slots and buffers get when none is named. -/
def commonAllocator : Nat := 0

/-- A ledger with the common allocator and nothing else. -/
def empty : Ledger := ⟨[⟨none, [], []⟩], [], []⟩

def allocator (l : Ledger) (a : Nat) : Allocator :=
  l.allocators.getD a ⟨none, [], []⟩

def buffer (l : Ledger) (b : Nat) : Buffer :=
  l.buffers.getD b ⟨"", commonAllocator, false⟩

def slot (l : Ledger) (s : Nat) : Slot :=
  l.slots.getD s ⟨commonAllocator, none, none⟩

/-- The report that a slot holds. -/
def held (l : Ledger) (s : Nat) : Option (Kind × Message) :=
  match (l.slot s).kind, (l.slot s).message with
  | some kind, some message => some (kind, message)
  | _, _ => none

/-- The ledger with kind and message of a slot replaced. -/
def hold (l : Ledger) (s : Nat) (kind : Option Kind) (message : Option Message) : Ledger :=
  { l with slots := l.slots.modify s fun slot => { slot with kind := kind, message := message } }

/-- The ledger after an allocator handed out a buffer with a text: the newest one. -/
def lend (l : Ledger) (a : Nat) (text : String) : Ledger :=
  { l with
    allocators := l.allocators.modify a fun x => { x with lent := x.lent ++ [l.buffers.length] }
    buffers := l.buffers ++ [⟨text, a, false⟩] }

/-- A new buffer with its text, unless the allocator is exhausted. -/
def allocate (l : Ledger) (a : Nat) (text : String) : Option (Nat × Ledger) :=
  let source := l.allocator a
  if source.limit.any (· ≤ source.handedOut) then none
  else some (l.buffers.length, l.lend a text)

/-- The text of a message. -/
def text (l : Ledger) : Message → Except Fault String
  | .borrowed text => .ok text
  | .owned b =>
    if (l.buffer b).released then .error (.misuse .usedAfterRelease) else .ok (l.buffer b).text

/-- The ledger after a buffer went back to the allocator that it is a buffer of. -/
def giveBack (l : Ledger) (b : Nat) : Ledger :=
  { l with
    buffers := l.buffers.modify b fun x => { x with released := true }
    allocators := l.allocators.modify (l.buffer b).allocator fun x =>
      { x with returned := x.returned ++ [b] } }

/-- Gives a buffer back, unless that was done before. -/
def release (l : Ledger) (b : Nat) : Except Fault Ledger :=
  if (l.buffer b).released then .error (.misuse .releasedTwice) else .ok (l.giveBack b)

/-! What the updates do to the parts of a ledger. -/

section

variable (l : Ledger) {s a b : Nat}

theorem getD_modify {α : Type} {xs : List α} {i : Nat} (h : i < xs.length) (f : α → α) (j : Nat)
    (d : α) : (xs.modify i f).getD j d = if j = i then f (xs.getD i d) else xs.getD j d := by
  by_cases hj : j = i
  · subst hj
    simp [h]
  · simp [hj, Ne.symm hj]

theorem getD_concat {α : Type} (xs : List α) (x : α) (j : Nat) (d : α) :
    (xs ++ [x]).getD j d = if j = xs.length then x else xs.getD j d := by
  by_cases hj : j = xs.length
  · simp [hj]
  · rcases Nat.lt_or_gt_of_ne hj with h | h
    · simp [List.getElem?_append_left h, hj]
    · have hnone : (xs ++ [x])[j]? = none := List.getElem?_eq_none (by simp; omega)
      have hnone' : xs[j]? = none := List.getElem?_eq_none (by omega)
      rw [List.getD_eq_getElem?_getD, List.getD_eq_getElem?_getD, hnone, hnone', if_neg hj]

@[simp] theorem hold_buffers (kind message) : (l.hold s kind message).buffers = l.buffers := rfl

@[simp] theorem hold_allocators (kind message) :
    (l.hold s kind message).allocators = l.allocators := rfl

@[simp] theorem length_hold_slots (kind message) :
    (l.hold s kind message).slots.length = l.slots.length := by simp [hold]

@[simp] theorem buffer_hold (kind message) : (l.hold s kind message).buffer b = l.buffer b := rfl

@[simp] theorem allocator_hold (kind message) :
    (l.hold s kind message).allocator a = l.allocator a := rfl

theorem slot_hold (h : s < l.slots.length) (kind message) (t : Nat) :
    (l.hold s kind message).slot t =
      if t = s then { l.slot s with kind := kind, message := message } else l.slot t :=
  getD_modify h ..

@[simp] theorem lend_slots (text) : (l.lend a text).slots = l.slots := rfl

@[simp] theorem slot_lend (text) : (l.lend a text).slot s = l.slot s := rfl

@[simp] theorem length_lend_buffers (text) :
    (l.lend a text).buffers.length = l.buffers.length + 1 := by simp [lend]

@[simp] theorem length_lend_allocators (text) :
    (l.lend a text).allocators.length = l.allocators.length := by simp [lend]

theorem buffer_lend (text) (b : Nat) :
    (l.lend a text).buffer b = if b = l.buffers.length then ⟨text, a, false⟩ else l.buffer b :=
  getD_concat ..

theorem allocator_lend (h : a < l.allocators.length) (text) (x : Nat) :
    (l.lend a text).allocator x =
      if x = a then { l.allocator a with lent := (l.allocator a).lent ++ [l.buffers.length] }
      else l.allocator x :=
  getD_modify h ..

@[simp] theorem giveBack_slots : (l.giveBack b).slots = l.slots := rfl

@[simp] theorem slot_giveBack : (l.giveBack b).slot s = l.slot s := rfl

@[simp] theorem length_giveBack_buffers : (l.giveBack b).buffers.length = l.buffers.length := by
  simp [giveBack]

@[simp] theorem length_giveBack_allocators :
    (l.giveBack b).allocators.length = l.allocators.length := by simp [giveBack]

theorem buffer_giveBack (h : b < l.buffers.length) (x : Nat) :
    (l.giveBack b).buffer x =
      if x = b then { l.buffer b with released := true } else l.buffer x :=
  getD_modify h ..

theorem allocator_giveBack (h : (l.buffer b).allocator < l.allocators.length) (x : Nat) :
    (l.giveBack b).allocator x =
      if x = (l.buffer b).allocator then
        { l.allocator x with returned := (l.allocator x).returned ++ [b] }
      else l.allocator x := by
  refine (getD_modify h ..).trans ?_
  by_cases hx : x = (l.buffer b).allocator <;> simp [hx, allocator]

end

/-- The kind to file into a slot, if one is given and the slot is clear. -/
def fileable (l : Ledger) (s : Nat) (kind : Option Kind) : Except Fault Kind :=
  match kind, (l.slot s).kind with
  | none, _ => .error (.misuse .kindRequired)
  | some _, some held => .error (.misuse (.alreadySet held))
  | some kind, none => .ok kind

/-- Files a report with a borrowed text, the description of its kind if none is given. -/
def fileBorrowed (l : Ledger) (s : Nat) (kind : Option Kind) (text : Option String) :
    Except Fault Ledger := do
  let kind ← l.fileable s kind
  return l.hold s (some kind) (some (.borrowed (text.getD kind.description)))

/-- Files a report whose text is a new buffer. Where no memory is to be had for the text, that is
filed instead, with a borrowed text. -/
def fileOwned (l : Ledger) (s : Nat) (kind : Option Kind) (w : Wording) : Except Fault Ledger := do
  let kind ← l.fileable s kind
  match w.text kind with
  | .error .outOfMemory => l.fileBorrowed s (some .noMemory) none
  | .error fault => .error (.template fault)
  | .ok text =>
    match l.allocate (l.slot s).allocator text with
    | none => l.fileBorrowed s (some .noMemory) none
    | some (b, l) => return l.hold s (some kind) (some (.owned b))

/-- Drops the report of a slot, with whether its buffer could be given back. -/
def clear (l : Ledger) (s : Nat) : Except Fault Unit × Ledger :=
  let cleared := l.hold s none none
  match (l.slot s).message with
  | some (.owned b) =>
    match cleared.release b with
    | .ok l => (.ok (), l)
    | .error fault => (.error fault, cleared)
  | _ => (.ok (), cleared)

/-- Moves the report of one slot into another, which must be clear. -/
def move (l : Ledger) (source destination : Nat) : Except Fault Ledger :=
  match (l.slot destination).kind with
  | some kind => .error (.misuse (.destinationSet kind))
  | none =>
    let from_ := l.slot source
    .ok ((l.hold destination from_.kind from_.message).hold source none none)

/-- A new clear slot with the allocator of a clear one. -/
def copy (l : Ledger) (s : Nat) : Except Fault Ledger :=
  match (l.slot s).kind with
  | some _ => .error (.misuse .copyOfSet)
  | none => .ok { l with slots := l.slots ++ [⟨(l.slot s).allocator, none, none⟩] }

/-- The slot holds a report of exactly this kind. -/
def hasKind (l : Ledger) (s : Nat) (kind : Option Kind) : Except Fault Bool :=
  match kind with
  | none => .error (.misuse .comparisonRequired)
  | some kind => .ok ((l.slot s).kind.any (· == kind))

/-- The literal form of a slot. -/
def literal (l : Ledger) (s : Nat) : Except Fault String :=
  match (l.slot s).kind with
  | none => .ok "BusError()"
  | some kind => do
    let text ←
      match (l.slot s).message with
      | none => pure "None"
      | some message => Text.quoted <$> l.text message
    return "BusError(" ++ Text.quoted kind.name ++ ", " ++ text ++ ")"

/-- The literal form of a message. -/
def messageLiteral (l : Ledger) : Message → String
  | .borrowed text => "BorrowedMessage(text=" ++ Text.quoted text ++ ")"
  | .owned b =>
    let b := l.buffer b
    "OwnedMessage(" ++ (if b.released then "released" else Text.quoted b.text) ++ ")"

end Ledger

/-- What can be done to the ledger. A target that may be missing is given as an option. A buffer is
named by its number, however it was reached: handed out directly or found in the slot that owns it. -/
inductive Operation
  | addAllocator (limit : Option Nat)
  | setLimit (allocator : Nat) (limit : Option Nat)
  | addSlot (allocator : Nat)
  | fileBorrowed (slot : Nat) (kind : Option Kind) (text : Option String)
  | fileOwned (slot : Nat) (kind : Option Kind) (wording : Wording)
  | fileIfGiven (slot : Option Nat) (kind : Option Kind) (wording : Wording)
  | fileBorrowedIfGiven (slot : Option Nat) (kind : Option Kind) (text : Option String)
  | clear (slot : Nat)
  | move (source : Nat) (destination : Option Nat)
  | copy (slot : Nat)
  | allocate (allocator : Nat) (text : String)
  | release (buffer : Nat)

/-- Carries out an operation, with whether it failed and the ledger after it. -/
def Ledger.step (l : Ledger) : Operation → Except Fault Unit × Ledger
  | .addAllocator limit => (.ok (), { l with allocators := l.allocators ++ [⟨limit, [], []⟩] })
  | .setLimit a limit =>
    (.ok (), { l with allocators := l.allocators.modify a fun x => { x with limit := limit } })
  | .addSlot a => (.ok (), { l with slots := l.slots ++ [⟨a, none, none⟩] })
  | .fileBorrowed s kind text => settle (l.fileBorrowed s kind text)
  | .fileOwned s kind w => settle (l.fileOwned s kind w)
  | .fileIfGiven none _ _ | .fileBorrowedIfGiven none _ _ => (.ok (), l)
  | .fileIfGiven (some s) kind w => settle (l.fileOwned s kind w)
  | .fileBorrowedIfGiven (some s) kind text => settle (l.fileBorrowed s kind text)
  | .clear s => l.clear s
  | .move s none => l.clear s
  | .move s (some d) => settle (l.move s d)
  | .copy s => settle (l.copy s)
  | .allocate a text =>
    match l.allocate a text with
    | none => (.error .exhausted, l)
    | some (_, l) => (.ok (), l)
  | .release b => settle (l.release b)
where
  /-- An operation that fails changes nothing. -/
  settle : Except Fault Ledger → Except Fault Unit × Ledger
    | .ok l => (.ok (), l)
    | .error fault => (.error fault, l)

/-- The ledger after some operations, failed ones among them. -/
def Ledger.run (l : Ledger) (operations : List Operation) : Ledger :=
  operations.foldl (fun l op => (l.step op).2) l

end MessageBus.Report
