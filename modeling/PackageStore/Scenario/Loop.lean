/-!
Contract: cooperative tasks that take turns in the order in which they become ready.

Owns: the queue of turns, tasks that wait for a gate or for a group of other tasks, and
cancellation. A task runs until it waits or ends. A cancelled task ends at its next turn, and
whoever waits for a group learns of each member's end one turn later.

Does not own: what a task does in its turn. That is a parameter.
-/

set_option autoImplicit false

namespace PackageStore.Scenario

/-- A gate that is opened from outside. -/
inductive Gate where
  | signer (number : Nat)
  | fetch (number : Nat)
deriving DecidableEq, Repr

/-- What a task can wait for. -/
inductive Signal where
  | gate (gate : Gate)
  | group (tasks : List Nat)
deriving DecidableEq, Repr

/-- How a turn leaves its task. -/
inductive Move (α : Type) where
  | wait (signal : Signal) (rest : α)
  /-- The task ends, and other tasks are cancelled. -/
  | done (others : List Nat)

/-- What tasks do to the world. -/
structure Program (ω α : Type) where
  /-- The turn of a task. -/
  turn : Nat → α → ω → ω × Move α
  /-- A task ends by cancellation. -/
  cancelled : Nat → α → ω → ω
  /-- The end of a tracked task is noticed. -/
  settled : Nat → ω → ω

structure Job (α : Type) where
  /-- What is left to do, `none` after the end. -/
  rest : Option α
  waiting : Option Signal
  struck : Bool
  tracked : Bool
  /-- The groups that wait for the end. -/
  groups : List Nat

/-- A task that waits for others, and how many of them it has not heard of. -/
structure Group where
  waiter : Nat
  left : Nat
  struck : Bool
deriving DecidableEq, Repr

inductive Turn where
  | run (task : Nat)
  | settle (task : Nat)
  | count (group : Nat)
deriving DecidableEq, Repr

structure Loop (ω α : Type) where
  world : ω
  jobs : List (Job α)
  groups : List Group
  queue : List Turn

namespace Loop

variable {ω α : Type}

def ofWorld (world : ω) : Loop ω α :=
  ⟨world, [], [], []⟩

def modifyWorld (loop : Loop ω α) (change : ω → ω) : Loop ω α :=
  { loop with world := change loop.world }

def enqueue (loop : Loop ω α) (turn : Turn) : Loop ω α :=
  { loop with queue := loop.queue ++ [turn] }

def setJob (loop : Loop ω α) (task : Nat) (job : Job α) : Loop ω α :=
  { loop with jobs := loop.jobs.set task job }

/-- Creates a task. It takes its first turn after those that are ready already. -/
def spawn (loop : Loop ω α) (tracked : Bool) (work : α) : Loop ω α :=
  let job : Job α := ⟨some work, none, false, tracked, []⟩
  enqueue { loop with jobs := loop.jobs ++ [job] } (.run loop.jobs.length)

/-- Makes a waiting task ready. -/
def wake (loop : Loop ω α) (task : Nat) (struck : Bool) : Loop ω α :=
  match loop.jobs[task]? with
  | some job =>
      (loop.setJob task { job with waiting := none, struck := job.struck || struck }).enqueue
        (.run task)
  | none => loop

/-- Opens a gate: the task that waits for it becomes ready. -/
def openGate (loop : Loop ω α) (gate : Gate) : Loop ω α :=
  match loop.jobs.findIdx? fun job => job.waiting == some (.gate gate) with
  | some task => loop.wake task false
  | none => loop

/-- Cancels a task that does not wait for a group; tells whether it was still pending. -/
def cancelSingle (loop : Loop ω α) (task : Nat) : Loop ω α × Bool :=
  match loop.jobs[task]? with
  | none => (loop, false)
  | some job =>
      match job.rest, job.waiting with
      | none, _ => (loop, false)
      | some _, some (.gate _) => (loop.wake task true, true)
      | some _, _ => (loop.setJob task { job with struck := true }, true)

/-- Cancels tasks one after another; tells whether one of them was still pending. -/
def cancelAll (loop : Loop ω α) : List Nat → Loop ω α × Bool
  | [] => (loop, false)
  | task :: rest =>
      let (loop, first) := loop.cancelSingle task
      let (loop, others) := loop.cancelAll rest
      (loop, first || others)

/-- Cancels a task; tells whether it was still pending. A task that waits for a group passes the
cancellation on to the members and ends when all of them have ended. -/
def cancel (loop : Loop ω α) (task : Nat) : Loop ω α × Bool :=
  match (loop.jobs[task]?).bind Job.waiting with
  | some (.group members) =>
      let (loop, pending) := loop.cancelAll members
      if pending then
        ({ loop with groups := loop.groups.map fun group =>
            if group.waiter = task then { group with struck := true } else group }, true)
      else loop.cancelSingle task
  | _ => loop.cancelSingle task

/-- Ends a task and tells those who wait for its end. -/
def finish (loop : Loop ω α) (task : Nat) (job : Job α) : Loop ω α :=
  let ended := loop.setJob task { job with rest := none, waiting := none }
  let settled := if job.tracked then ended.enqueue (.settle task) else ended
  job.groups.foldl (fun loop group => loop.enqueue (.count group)) settled

/-- Lets a group hear of a member: at once when the member has ended, else when it ends. -/
def join (group : Nat) (loop : Loop ω α) (member : Nat) : Loop ω α :=
  match loop.jobs[member]? with
  | some job =>
      if job.rest.isNone then loop.enqueue (.count group)
      else loop.setJob member { job with groups := job.groups ++ [group] }
  | none => loop.enqueue (.count group)

/-- Runs the turn of a task. -/
def runTask (program : Program ω α) (loop : Loop ω α) (task : Nat) : Loop ω α :=
  match loop.jobs[task]? with
  | none => loop
  | some job =>
      match job.rest with
      | none => loop
      | some work =>
          if job.struck then
            (loop.modifyWorld (program.cancelled task work)).finish task job
          else
            let (world, move) := program.turn task work loop.world
            let loop := { loop with world }
            match move with
            | .done others => (loop.cancelAll others).1.finish task job
            | .wait signal rest =>
                let loop := loop.setJob task { job with rest := some rest, waiting := some signal }
                match signal with
                | .gate _ => loop
                | .group members =>
                    let number := loop.groups.length
                    members.foldl (join number)
                      { loop with groups := loop.groups ++ [⟨task, members.length, false⟩] }

/-- A group hears of the end of one member. -/
def countMember (loop : Loop ω α) (number : Nat) : Loop ω α :=
  match loop.groups[number]? with
  | none => loop
  | some group =>
      let groups := loop.groups.set number { group with left := group.left - 1 }
      let loop := { loop with groups }
      if group.left = 1 then loop.wake group.waiter group.struck else loop

def runTurn (program : Program ω α) (loop : Loop ω α) : Turn → Loop ω α
  | .run task => loop.runTask program task
  | .settle task => loop.modifyWorld (program.settled task)
  | .count group => loop.countMember group

/-- Runs at most `fuel` turns. -/
def run (program : Program ω α) : Nat → Loop ω α → Loop ω α
  | 0, loop => loop
  | fuel + 1, loop =>
      match loop.queue with
      | [] => loop
      | turn :: rest => run program fuel (runTurn program { loop with queue := rest } turn)

/-- Runs until no task is ready. Every task has at most a handful of turns for each other task, so
the bound is never reached. -/
def settle (program : Program ω α) (loop : Loop ω α) : Loop ω α :=
  run program (16 * Nat.pow (loop.jobs.length + loop.queue.length + 4) 2) loop

end Loop

/-! ## Gates of the signer -/

/-- Gates that hold back the answers of the signer: which ones are open, and how many were
taken. Each request takes the oldest gate that is left. -/
structure SignerGates where
  opened : List Bool
  taken : Nat
deriving DecidableEq, Repr

namespace SignerGates

def none : SignerGates := ⟨[], 0⟩

/-- Adds a closed gate. -/
def add (gates : SignerGates) : Nat × SignerGates :=
  (gates.opened.length, { gates with opened := gates.opened ++ [false] })

def openOne (gates : SignerGates) (number : Nat) : SignerGates :=
  { gates with opened := gates.opened.set number true }

/-- Takes the oldest gate that is left; answers its number when it is still closed. -/
def take (gates : SignerGates) : Option Nat × SignerGates :=
  match gates.opened[gates.taken]? with
  | Option.none => (Option.none, gates)
  | some isOpen =>
      (if isOpen then Option.none else some gates.taken, { gates with taken := gates.taken + 1 })

end SignerGates

end PackageStore.Scenario
