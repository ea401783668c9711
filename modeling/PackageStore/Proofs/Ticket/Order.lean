import Mathlib.Data.List.Chain
import Mathlib.Data.List.Induction
import Mathlib.Data.List.Nodup
import Mathlib.Order.Bounds.Basic
import PackageStore.Ticket

/-!
Contract: the order that tickets give to updates.

Owns: runs of a desk with their answers; for every action what becomes of a watermark, and of a
counter that all watermarks share; and the theorem that such a counter hands out 1, 2, 3, ...
whoever asks, while a watermark lets a ticket through exactly if it is newer than every ticket
presented to it before.

The two sides do not meet. A watermark depends on the tickets presented to it alone, whether or not
the counter has handed them out, and the counter on how often it was asked.
-/

set_option autoImplicit false

namespace PackageStore.Desk

/-! ## Actions and answers -/

namespace Action

/-- The action asks the one counter that `count` watermarks share. -/
def asks (count : Nat) : Action → Bool
  | .draw counter => counter == 0
  | .issue mark => mark < count
  | .present _ _ => false

/-- The ticket that the action presents to a watermark. -/
def presented? (mark : Nat) : Action → Option Ticket
  | .present other ticket => if other = mark then some ticket else none
  | _ => none

theorem presented?_eq_some {mark : Nat} {ticket : Ticket} {action : Action}
    (presents : action.presented? mark = some ticket) : action = .present mark ticket := by
  cases action with
  | draw | issue => cases presents
  | present other _ =>
      by_cases same : other = mark
      · simpa [presented?, same] using presents
      · simp [presented?, same] at presents

end Action

def Answer.ticket? : Answer → Option Ticket
  | .ticket number => some number
  | _ => none

/-- The desk after actions, one after another. -/
def run (desk : Desk) (actions : List Action) : Desk :=
  actions.foldl (fun desk action => (desk.act action).2) desk

/-- What actions are answered, one after another. -/
def answers : Desk → List Action → List Answer
  | _, [] => []
  | desk, action :: rest => (desk.act action).1 :: answers (desk.act action).2 rest

/-- The tickets handed out, in order. -/
def tickets (desk : Desk) (actions : List Action) : List Ticket :=
  (desk.answers actions).filterMap Answer.ticket?

/-- The tickets presented to a watermark, in order. -/
def presented (mark : Nat) (actions : List Action) : List Ticket :=
  actions.filterMap (Action.presented? mark)

/-- The tickets that a watermark let through, in order. -/
def admitted (desk : Desk) (mark : Nat) (actions : List Action) : List Ticket :=
  ((desk.answers actions).zip actions).filterMap fun (answer, action) =>
    if answer = .admitted true then action.presented? mark else none

variable {desk : Desk}

/-! ## What one action does -/

theorem draw_marks (desk : Desk) (counter : Nat) : (desk.draw counter).2.marks = desk.marks := by
  unfold draw
  split
  · rfl
  · rfl

theorem act_present_counters (desk : Desk) (mark : Nat) (ticket : Ticket) :
    (desk.act (.present mark ticket)).2.counters = desk.counters := by
  unfold act
  dsimp only
  split
  · rfl
  · rfl

theorem act_issue_marks (desk : Desk) (mark : Nat) :
    (desk.act (.issue mark)).2.marks = desk.marks := by
  unfold act
  dsimp only
  split
  · rfl
  · next counter _ _ => exact desk.draw_marks counter

theorem act_present_of_mark {mark counter : Nat} {watermark : Watermark}
    (known : desk.marks[mark]? = some (counter, watermark)) (ticket : Ticket) :
    desk.act (.present mark ticket) =
      (.admitted (watermark.admits ticket),
        { desk with marks := desk.marks.set mark (counter, watermark.present ticket) }) := by
  simp only [act, known]

/-- A ticket presented to one watermark is nothing to the others. -/
theorem act_present_other (desk : Desk) {mark other : Nat} (different : other ≠ mark)
    (ticket : Ticket) :
    (desk.act (.present mark ticket)).2.marks[other]? = desk.marks[other]? := by
  unfold act
  dsimp only
  split
  · rfl
  · exact List.getElem?_set_ne (Ne.symm different)

/-! ## Watermarks -/

theorem exists_mark {mark : Nat} {newest : Ticket} (known : desk.applied[mark]? = some newest) :
    ∃ counter watermark, desk.marks[mark]? = some (counter, watermark) ∧
      watermark.applied = newest := by
  rw [applied, List.getElem?_map, Option.map_eq_some_iff] at known
  obtain ⟨⟨counter, watermark⟩, found, same⟩ := known
  exact ⟨counter, watermark, found, same⟩

/-- An action moves a watermark up to the ticket that it presents, if it presents one. -/
theorem act_applied {mark : Nat} {newest : Ticket} (known : desk.applied[mark]? = some newest)
    (action : Action) :
    (desk.act action).2.applied[mark]? =
      some ((action.presented? mark).elim newest (max newest)) := by
  obtain ⟨counter, watermark, found, rfl⟩ := exists_mark known
  rw [applied, List.getElem?_map]
  cases action with
  | draw other => rw [act, draw_marks, found]; rfl
  | issue other => rw [act_issue_marks, found]; rfl
  | present other ticket =>
      by_cases same : other = mark
      · subst same
        obtain ⟨within, -⟩ := List.getElem?_eq_some_iff.1 found
        rw [act_present_of_mark found, List.getElem?_set_self within]
        simp [Action.presented?, Watermark.applied_present]
      · rw [act_present_other desk (Ne.symm same), found]
        simp [Action.presented?, same]

theorem act_present_answer {mark : Nat} {newest : Ticket}
    (known : desk.applied[mark]? = some newest) (ticket : Ticket) :
    (desk.act (.present mark ticket)).1 = .admitted (decide (newest < ticket)) := by
  obtain ⟨counter, watermark, found, rfl⟩ := exists_mark known
  rw [act_present_of_mark found]
  rfl

theorem run_concat (desk : Desk) (earlier : List Action) (last : Action) :
    desk.run (earlier ++ [last]) = ((desk.run earlier).act last).2 :=
  List.foldl_append

/-- After a run, a watermark stands at the greatest of its beginning and the tickets presented
to it. -/
theorem run_applied {mark : Nat} {beginning : Ticket}
    (known : desk.applied[mark]? = some beginning) (actions : List Action) :
    ∃ newest, (desk.run actions).applied[mark]? = some newest ∧
      IsGreatest {ticket | ticket ∈ beginning :: presented mark actions} newest := by
  -- From the end of the run: the last action adds at most one ticket to the ones presented.
  induction actions using List.reverseRecOn with
  | nil => exact ⟨beginning, known, by simp [presented]⟩
  | append_singleton earlier last inductionHypothesis =>
      obtain ⟨newest, reached, greatest⟩ := inductionHypothesis
      refine ⟨_, (run_concat desk earlier last).symm ▸ act_applied reached last, ?_⟩
      have later : presented mark (earlier ++ [last]) =
          presented mark earlier ++ (last.presented? mark).toList := by
        rw [presented, List.filterMap_append, List.filterMap_cons, List.filterMap_nil]
        cases last.presented? mark <;> rfl
      cases presents : last.presented? mark with
      | none => simpa [later, presents] using greatest
      | some ticket =>
          have inserted : {other | other ∈ beginning :: presented mark (earlier ++ [last])} =
              insert ticket {other | other ∈ beginning :: presented mark earlier} := by
            ext other
            simp [later, presents, or_comm, or_left_comm]
          rw [inserted, Option.elim_some, max_comm]
          exact greatest.insert ticket

theorem admitted_cons (desk : Desk) (mark : Nat) (action : Action) (rest : List Action) :
    desk.admitted mark (action :: rest) =
      (if (desk.act action).1 = .admitted true then action.presented? mark else none).toList ++
        (desk.act action).2.admitted mark rest := by
  rw [admitted, answers, List.zip_cons_cons, List.filterMap_cons]
  dsimp only
  split
  · next nothing => rw [nothing]; rfl
  · next something => rw [something]; rfl

/-- The tickets that a watermark lets through rise, beginning with where it stands. -/
theorem admitted_isChain {mark : Nat} {newest : Ticket}
    (known : desk.applied[mark]? = some newest) (actions : List Action) :
    (newest :: desk.admitted mark actions).IsChain (· < ·) := by
  induction actions generalizing desk newest with
  | nil => exact List.isChain_singleton newest
  | cons action rest inductionHypothesis =>
      have moved := act_applied known action
      rw [admitted_cons]
      cases presents : action.presented? mark with
      | none =>
          rw [presents] at moved
          simpa using inductionHypothesis moved
      | some ticket =>
          obtain rfl := Action.presented?_eq_some presents
          rw [presents, Option.elim_some] at moved
          have later := inductionHypothesis moved
          rw [act_present_answer known]
          -- What is let through is where the watermark stands next, so the chain goes on from it.
          by_cases newer : newest < ticket
          · rw [max_eq_right newer.le] at later
            simpa [newer] using later
          · rw [max_eq_left (not_lt.1 newer)] at later
            simpa [newer] using later

/-! ## A counter that is shared -/

/-- All watermarks draw on the same counter, which has handed out a number of tickets. -/
structure Shared (desk : Desk) (count issued : Nat) : Prop where
  counters : desk.counters = [⟨issued⟩]
  seats : ∀ seat ∈ desk.marks, seat.1 = 0
  length : desk.marks.length = count

theorem ofCount_shared (count : Nat) : (ofCount true count).Shared count 0 where
  counters := rfl
  seats seat member := by
    obtain ⟨_, _, rfl⟩ := List.mem_map.1 member
    rfl
  length := by simp [ofCount]

namespace Shared

variable {count issued : Nat}

theorem draw_next (shared : desk.Shared count issued) :
    (desk.draw 0).1 = .ticket (issued + 1) ∧ (desk.draw 0).2.Shared count (issued + 1) := by
  have known : desk.counters[0]? = some ⟨issued⟩ := by rw [shared.counters]; rfl
  have drawn : desk.draw 0 =
      (.ticket (issued + 1), { desk with counters := desk.counters.set 0 ⟨issued + 1⟩ }) := by
    simp only [draw, known, Counter.issue]
  rw [drawn, shared.counters]
  exact ⟨rfl, rfl, shared.seats, shared.length⟩

theorem act_issue (shared : desk.Shared count issued) {mark : Nat} (within : mark < count) :
    desk.act (.issue mark) = desk.draw 0 := by
  rw [← shared.length] at within
  have known := List.getElem?_eq_getElem within
  have seat := shared.seats _ (List.getElem_mem within)
  simp only [act, known, seat]

/-- Whoever asks the counter gets the next ticket. -/
theorem act_asking (shared : desk.Shared count issued) {action : Action}
    (asks : action.asks count = true) :
    (desk.act action).1 = .ticket (issued + 1) ∧
      (desk.act action).2.Shared count (issued + 1) := by
  cases action with
  | draw counter =>
      obtain rfl : counter = 0 := by simpa [Action.asks] using asks
      exact shared.draw_next
  | issue mark =>
      rw [shared.act_issue (by simpa [Action.asks] using asks)]
      exact shared.draw_next
  | present => cases asks

/-- No other action is answered with a ticket, or moves the counter. -/
theorem act_other (shared : desk.Shared count issued) {action : Action}
    (silent : action.asks count = false) :
    (desk.act action).1.ticket? = none ∧ (desk.act action).2.Shared count issued := by
  cases action with
  | draw counter =>
      have missing : desk.counters[counter]? = none := by
        rw [shared.counters]
        simpa [Action.asks, Nat.pos_iff_ne_zero] using silent
      have unknown : desk.act (.draw counter) = (.noSuchMark, desk) := by
        simp only [act, draw, missing]
      rw [unknown]
      exact ⟨rfl, shared⟩
  | issue mark =>
      have missing : desk.marks[mark]? = none := by
        rw [List.getElem?_eq_none_iff, shared.length]
        simpa [Action.asks] using silent
      have unknown : desk.act (.issue mark) = (.noSuchMark, desk) := by
        simp only [act, missing]
      rw [unknown]
      exact ⟨rfl, shared⟩
  | present mark ticket =>
      unfold act
      dsimp only
      split
      · exact ⟨rfl, shared⟩
      · next counter watermark known =>
          refine ⟨rfl, shared.counters, ?_, List.length_set.trans shared.length⟩
          intro seat member
          rcases List.mem_or_eq_of_mem_set member with before | rfl
          · exact shared.seats seat before
          · exact shared.seats (counter, watermark) (List.mem_of_getElem? known)

/-- A shared counter has handed out as many tickets as it was asked for. -/
theorem run_shared (shared : desk.Shared count issued) (actions : List Action) :
    (desk.run actions).Shared count (issued + actions.countP (Action.asks count)) := by
  induction actions generalizing desk issued with
  | nil => exact shared
  | cons action rest inductionHypothesis =>
      cases asks : action.asks count with
      | true =>
          rw [List.countP_cons_of_pos asks, Nat.add_comm _ 1, ← Nat.add_assoc]
          exact inductionHypothesis (shared.act_asking asks).2
      | false =>
          rw [List.countP_cons_of_neg (by simp [asks])]
          exact inductionHypothesis (shared.act_other asks).2

/-- The tickets of a shared counter follow one another without a gap. -/
theorem tickets_eq (shared : desk.Shared count issued) (actions : List Action) :
    desk.tickets actions =
      (List.range' (issued + 1) (actions.countP (Action.asks count))).map Nat.cast := by
  induction actions generalizing desk issued with
  | nil => rfl
  | cons action rest inductionHypothesis =>
      rw [tickets, answers, List.filterMap_cons]
      cases asks : action.asks count with
      | true =>
          -- The rest of the run begins one ticket later, as does the rest of the range.
          obtain ⟨answered, later⟩ := shared.act_asking asks
          rw [List.countP_cons_of_pos asks, List.range'_succ, List.map_cons, answered,
            ← inductionHypothesis later]
          rfl
      | false =>
          obtain ⟨answered, later⟩ := shared.act_other asks
          rw [List.countP_cons_of_neg (by simp [asks]), answered, ← inductionHypothesis later]
          rfl

end Shared

/-! ## Tickets issued, and tickets let through -/

theorem ofCount_applied {count mark : Nat} (within : mark < count) :
    (ofCount true count).applied[mark]? = some 0 := by
  rw [applied, ofCount]
  simp [within, Watermark.fresh]

/-- **Tickets are issued in turn, and let through if newest.** Let any number of watermarks share a
counter, and let tickets be drawn from it, by whoever holds it or through a watermark, and whatever
tickets be presented, in any order. Then the counter hands out 1, 2, 3, ..., none of them twice, and
whoever asks next gets the next one. Each watermark stands at the greatest of zero and the tickets
presented to it; it lets a ticket through exactly if this is greater than zero and than all that
were presented to it before, so that the tickets let through rise; and to present a ticket to it
changes neither the counter nor another watermark. -/
theorem issues_in_turn_admits_newest (count : Nat) (actions : List Action) :
    let opened := ofCount true count
    let desk := opened.run actions
    let asked := actions.countP (Action.asks count)
    opened.tickets actions = (List.range' 1 asked).map Nat.cast ∧
    (opened.tickets actions).Nodup ∧
    (∀ action : Action, action.asks count = true → (desk.act action).1 = .ticket (asked + 1)) ∧
    (∀ mark, mark < count →
      (∃ newest, desk.applied[mark]? = some newest ∧
        IsGreatest {ticket | ticket ∈ 0 :: presented mark actions} newest) ∧
      (∀ ticket, (desk.act (.present mark ticket)).1 =
        .admitted (decide (0 < ticket ∧ ∀ earlier ∈ presented mark actions, earlier < ticket))) ∧
      (0 :: opened.admitted mark actions).Pairwise (· < ·)) ∧
    ∀ mark ticket,
      let after := (desk.act (.present mark ticket)).2
      after.counters = desk.counters ∧
        ∀ other, other ≠ mark → after.marks[other]? = desk.marks[other]? := by
  intro opened desk asked
  have shared : opened.Shared count 0 := ofCount_shared count
  have inTurn : opened.tickets actions = (List.range' 1 asked).map Nat.cast :=
    shared.tickets_eq actions
  refine ⟨inTurn, ?_, ?_, ?_, ?_⟩
  · rw [inTurn]
    exact (List.nodup_range' 1).map fun _ _ => Int.ofNat_inj.1
  · intro action asks
    have next := ((shared.run_shared actions).act_asking asks).1
    rwa [Nat.zero_add] at next
  · intro mark within
    have atZero : opened.applied[mark]? = some 0 := ofCount_applied within
    obtain ⟨newest, reached, greatest⟩ := run_applied atZero actions
    refine ⟨⟨newest, reached, greatest⟩, fun ticket => ?_, ?_⟩
    · rw [act_present_answer reached]
      have newer : newest < ticket ↔
          0 < ticket ∧ ∀ earlier ∈ presented mark actions, earlier < ticket :=
        greatest.lt_iff.trans List.forall_mem_cons
      exact congrArg Answer.admitted (decide_eq_decide.2 newer)
    · exact List.isChain_iff_pairwise.1 (admitted_isChain atZero actions)
  · intro mark ticket
    exact ⟨desk.act_present_counters mark ticket,
      fun other different => desk.act_present_other different ticket⟩

/-- Two watermarks and whoever holds the counter draw from it in turn; one ticket comes late, one
comes again, and one was never issued. -/
theorem issues_in_turn_admits_newest_late :
    let opened := ofCount true 2
    let actions : List Action := [.issue 0, .draw 0, .present 0 2, .present 0 1, .issue 1,
      .present 1 1, .present 0 2, .present 0 7, .present 0 (-3)]
    opened.tickets actions = [1, 2, 3] ∧
      opened.admitted 0 actions = [2, 7] ∧ opened.admitted 1 actions = [1] ∧
      ((opened.run actions).act (.issue 1)).1 = .ticket 4 ∧
      ((opened.run actions).act (.present 0 3)).1 = .admitted false ∧
      ((opened.run actions).act (.present 1 3)).1 = .admitted true := by
  intro opened actions
  obtain ⟨inTurn, -, next, watermarks, -⟩ := issues_in_turn_admits_newest 2 actions
  obtain ⟨-, first, -⟩ := watermarks 0 (by decide)
  obtain ⟨-, second, -⟩ := watermarks 1 (by decide)
  exact ⟨inTurn.trans (by decide), by decide, by decide, next (.issue 1) (by decide),
    (first 3).trans (by decide), (second 3).trans (by decide)⟩

end PackageStore.Desk
