/-!
Contract: tickets that order overlapping updates.

Owns: the counter that hands out tickets 1, 2, 3, ..., the watermark that lets an update land only
when its ticket is newer than every ticket seen before, and a desk of watermarks that draw on
counters, possibly on the same one.
-/

set_option autoImplicit false

namespace PackageStore

/-- The place of an update in the order of updates. -/
abbrev Ticket := Int

/-- Remembers the last ticket handed out, zero before the first. -/
structure Counter where
  last : Nat
deriving DecidableEq, Repr, Inhabited

namespace Counter

def fresh : Counter := ⟨0⟩

def issue (counter : Counter) : Ticket × Counter :=
  (counter.last + 1, ⟨counter.last + 1⟩)

end Counter

/-- The newest ticket that was let through, zero before the first. -/
structure Watermark where
  applied : Ticket
deriving DecidableEq, Repr, Inhabited

namespace Watermark

def fresh : Watermark := ⟨0⟩

/-- Whether a ticket is newer than every ticket let through before. -/
def admits (mark : Watermark) (ticket : Ticket) : Bool :=
  mark.applied < ticket

@[simp] theorem admits_iff (mark : Watermark) (ticket : Ticket) :
    mark.admits ticket = true ↔ mark.applied < ticket := by
  simp [admits]

/-- The watermark after a ticket was presented. -/
def present (mark : Watermark) (ticket : Ticket) : Watermark :=
  if mark.admits ticket then ⟨ticket⟩ else mark

theorem applied_present (mark : Watermark) (ticket : Ticket) :
    (mark.present ticket).applied = max mark.applied ticket := by
  unfold present admits
  by_cases newer : mark.applied < ticket
  · simp [newer, Int.max_eq_right (Int.le_of_lt newer)]
  · simp [newer, Int.max_eq_left (Int.not_lt.1 newer)]

end Watermark

/-- Watermarks, each with the number of the counter it draws on. -/
structure Desk where
  counters : List Counter
  marks : List (Nat × Watermark)
deriving DecidableEq, Repr

namespace Desk

/-- A ticket is drawn from a counter by whoever holds it, or on behalf of a watermark. -/
inductive Action where
  | draw (counter : Nat)
  | issue (mark : Nat)
  | present (mark : Nat) (ticket : Ticket)
deriving DecidableEq, Repr

inductive Answer where
  | ticket (number : Ticket)
  | admitted (newer : Bool)
  /-- Nothing at the desk goes by the number of the action. -/
  | noSuchMark
deriving DecidableEq, Repr

/-- `count` watermarks on one counter, or each on a counter of its own. -/
def ofCount (shared : Bool) (count : Nat) : Desk where
  counters := List.replicate (if shared then 1 else count) .fresh
  marks := (List.range count).map fun index => (if shared then 0 else index, .fresh)

def draw (desk : Desk) (counter : Nat) : Answer × Desk :=
  match desk.counters[counter]? with
  | none => (.noSuchMark, desk)
  | some source =>
      let (ticket, issued) := source.issue
      (.ticket ticket, { desk with counters := desk.counters.set counter issued })

def act (desk : Desk) : Action → Answer × Desk
  | .draw counter => desk.draw counter
  | .issue mark =>
      match desk.marks[mark]? with
      | none => (.noSuchMark, desk)
      | some (counter, _) => desk.draw counter
  | .present mark ticket =>
      match desk.marks[mark]? with
      | none => (.noSuchMark, desk)
      | some (counter, watermark) =>
          (.admitted (watermark.admits ticket),
            { desk with marks := desk.marks.set mark (counter, watermark.present ticket) })

/-- The newest ticket let through by each watermark. -/
def applied (desk : Desk) : List Ticket :=
  desk.marks.map (·.2.applied)

/-- The last ticket of each watermark's counter. -/
def lastIssued (desk : Desk) : List Nat :=
  desk.marks.map fun mark => (desk.counters.getD mark.1 .fresh).last

end Desk

end PackageStore
