import PackageStore.Proofs.Catalog.History
import PackageStore.Proofs.Catalog.Sorting
import PackageStore.Registry.Fetch

/-!
Contract: a refresh that fails changes the last error and nothing else.

Owns: what a registry can hand to a refresh, and where the fetch or the sorting of it raises; what a
failed refresh does to the index, and that a cancelled one does nothing; and that a refresh over the
transport always comes to its end with a report.

Does not own: which documents are listings of packages.
-/

set_option autoImplicit false

namespace PackageStore

/-- The failed fetch that a failure is reported as: itself, if it is one, and otherwise a new one
that quotes its text. -/
inductive Failure.ReportedAs : Failure → FetchFault → Prop where
  | itself (fault : FetchFault) : ReportedAs (.fetch fault) fault
  | quoted {failure : Failure} {fault : FetchFault} (other : ∀ fault, failure ≠ .fetch fault)
      (text : fault.message = "Registry fetch failed: " ++ failure.message)
      (unanswered : fault.status? = none) : ReportedAs failure fault

theorem Failure.reportedAs_asFetchFault (failure : Failure) :
    failure.ReportedAs failure.asFetchFault := by
  cases failure with
  | fetch fault => exact .itself fault
  | _ => exact .quoted (fun fault => nofun) rfl rfl

namespace Catalog

/-! ## What a refresh is given to sort -/

/-- An entry of a delivery. It may raise when it is drawn or filed under its category; later its
record may raise when its identity is read. -/
abbrev Entry := Except Failure (Category × Except Failure Package)

/-- What the registry hands to a refresh: a failure, or entries in their order. -/
abbrev Delivery := Except Failure (List Entry)

/-- The order in which filed entries are looked at: the higher categories first. -/
def byCategory {α : Type} (filed : List (Category × α)) : List (Category × α) :=
  Category.all.flatMap fun category => filed.filter (·.1 = category)

namespace Delivery

/-- A filed record is looked at. -/
def look (filed : Category × Except Failure Package) : Except Failure Tagged :=
  filed.2.map (Prod.mk filed.1)

/-- The packages of a delivery, as a refresh sorts them: all entries are filed, and then their
records are looked at in turn. -/
def answer (delivery : Delivery) : Except Failure (List Tagged) := do
  let entries ← delivery
  let filed ← entries.mapM id
  (byCategory filed).mapM look

/-- A package as an entry that was filed. -/
def readable (entry : Tagged) : Category × Except Failure Package :=
  (entry.1, .ok entry.2)

/-- The delivery of a registry that hands over packages, or fails. -/
def ofAnswer (answer : Except Failure (List Tagged)) : Delivery :=
  answer.map fun tagged => (tagged.map readable).map .ok

/-- The fetch fails, or the sorting of what was fetched does: at the first entry that cannot be
filed, or else at the first record whose identity cannot be read. -/
inductive Raises (failure : Failure) : Delivery → Prop where
  | fetching : Raises failure (.error failure)
  | filing {before after : List Entry} (filed : ∀ entry ∈ before, ∃ value, entry = .ok value) :
      Raises failure (.ok (before ++ .error failure :: after))
  | sorting {filed before after : List (Category × Except Failure Package)} {category : Category}
      (turn : byCategory filed = before ++ (category, .error failure) :: after)
      (read : ∀ entry ∈ before, ∃ record, entry.2 = .ok record) :
      Raises failure (.ok (filed.map .ok))

/-! ## Going through a list, up to the first element that raises -/

def raised? {α : Type} : Except Failure α → Option Failure
  | .error failure => some failure
  | .ok _ => none

theorem raised?_eq_some_iff {α : Type} {result : Except Failure α} {failure : Failure} :
    raised? result = some failure ↔ result = .error failure := by
  cases result with
  | error other => simp only [raised?, Option.some.injEq, Except.error.injEq]
  | ok value => exact iff_of_false nofun nofun

theorem raised?_eq_none_iff {α : Type} {result : Except Failure α} :
    raised? result = none ↔ ∃ value, result = .ok value := by
  cases result with
  | error failure => simp only [raised?, reduceCtorEq, exists_false]
  | ok value => exact iff_of_true rfl ⟨value, rfl⟩

theorem raised?_mapM {α β : Type} (f : α → Except Failure β) (values : List α) :
    raised? (values.mapM f) = values.findSome? fun value => raised? (f value) := by
  induction values with
  | nil => rfl
  | cons first rest inductionHypothesis =>
      rw [List.mapM_cons, List.findSome?_cons]
      cases f first with
      | error failure => rfl
      | ok result =>
          show _ = rest.findSome? fun value => raised? (f value)
          rw [← inductionHypothesis]
          cases rest.mapM f <;> rfl

theorem mapM_error_iff {α β : Type} {f : α → Except Failure β} {values : List α}
    {failure : Failure} :
    values.mapM f = .error failure ↔ ∃ before value after, values = before ++ value :: after ∧
      f value = .error failure ∧ ∀ earlier ∈ before, ∃ result, f earlier = .ok result := by
  rw [← raised?_eq_some_iff, raised?_mapM, List.findSome?_eq_some_iff]
  simp only [raised?_eq_some_iff, raised?_eq_none_iff]

/-- A list is gone through to its end if no element raises. -/
theorem mapM_map_ok {α β : Type} (values : List α) (f : α → β) (g : β → Except Failure α)
    (undoes : ∀ value, g (f value) = .ok value) : (values.map f).mapM g = .ok values := by
  induction values with
  | nil => rfl
  | cons first rest inductionHypothesis =>
      rw [List.map_cons, List.mapM_cons, undoes, inductionHypothesis]
      rfl

/-- Entries are filed exactly if none raises. -/
theorem mapM_id_ok_iff {entries : List Entry}
    {filed : List (Category × Except Failure Package)} :
    entries.mapM id = .ok filed ↔ entries = filed.map .ok := by
  constructor
  · intro passed
    induction entries generalizing filed with
    | nil =>
        cases passed
        rfl
    | cons entry rest inductionHypothesis =>
        rw [List.mapM_cons] at passed
        cases entry with
        | error failure => cases passed
        | ok value =>
            cases later : rest.mapM id with
            | error failure =>
                rw [later] at passed
                cases passed
            | ok values =>
                rw [later] at passed
                cases passed
                rw [inductionHypothesis later, List.map_cons]
  · rintro rfl
    exact mapM_map_ok filed .ok id fun value => rfl

theorem answer_of_raised {entries : List Entry} {failure : Failure}
    (raised : entries.mapM id = .error failure) : answer (.ok entries) = .error failure := by
  simp only [answer, bind, Except.bind, raised]

theorem answer_of_filed (filed : List (Category × Except Failure Package)) :
    answer (.ok (filed.map .ok)) = (byCategory filed).mapM look := by
  simp only [answer, bind, Except.bind, mapM_id_ok_iff.2 rfl]

theorem look_error_iff {filed : Category × Except Failure Package} {failure : Failure} :
    look filed = .error failure ↔ filed.2 = .error failure := by
  obtain ⟨category, record⟩ := filed
  cases record with
  | error other =>
      constructor
      · rintro ⟨⟩
        rfl
      · rintro ⟨⟩
        rfl
  | ok record => exact iff_of_false nofun nofun

theorem look_ok_iff {filed : Category × Except Failure Package} :
    (∃ entry, look filed = .ok entry) ↔ ∃ record, filed.2 = .ok record := by
  obtain ⟨category, record⟩ := filed
  cases record with
  | ok record => exact iff_of_true ⟨_, rfl⟩ ⟨_, rfl⟩
  | error other =>
      constructor
      · rintro ⟨entry, ⟨⟩⟩
      · rintro ⟨record, ⟨⟩⟩

/-! ## Where a delivery raises -/

/-- A delivery brings no packages exactly if the fetch or the sorting raises. -/
theorem answer_error_iff {delivery : Delivery} {failure : Failure} :
    delivery.answer = .error failure ↔ Raises failure delivery := by
  constructor
  · intro missing
    cases delivery with
    | error other =>
        cases missing
        exact .fetching
    | ok entries =>
        cases filing : entries.mapM id with
        | error other =>
            cases missing.symm.trans (answer_of_raised filing)
            obtain ⟨before, entry, after, rfl, rfl, filed⟩ := mapM_error_iff.1 filing
            exact .filing filed
        | ok filed =>
            rw [mapM_id_ok_iff.1 filing, answer_of_filed] at missing
            obtain ⟨before, ⟨category, record⟩, after, turn, raised, read⟩ :=
              mapM_error_iff.1 missing
            rw [mapM_id_ok_iff.1 filing]
            cases look_error_iff.1 raised
            exact .sorting turn fun entry member => look_ok_iff.1 (read entry member)
  · intro raises
    cases raises with
    | fetching => rfl
    | filing filed => exact answer_of_raised (mapM_error_iff.2 ⟨_, _, _, rfl, rfl, filed⟩)
    | sorting turn read =>
        rw [answer_of_filed]
        exact mapM_error_iff.2
          ⟨_, _, _, turn, rfl, fun entry member => look_ok_iff.2 (read entry member)⟩

/-- Records that can be read are looked at in turn. -/
theorem answer_ofAnswer (answer : Except Failure (List Tagged)) :
    (ofAnswer answer).answer = answer.map byCategory := by
  cases answer with
  | error failure => rfl
  | ok tagged =>
      have turns : byCategory (tagged.map readable) = (byCategory tagged).map readable := by
        simp only [byCategory, List.filter_map, List.map_flatMap]
        rfl
      rw [ofAnswer, Except.map, answer_of_filed, turns]
      exact mapM_map_ok (byCategory tagged) readable look fun entry => rfl

end Delivery

/-! ## The sorting does not depend on when a category is looked at -/

theorem tagged?_filter (tagged : List Tagged) (category other : Category) :
    Shelves.tagged? category (tagged.filter (·.1 = other)) =
      if other = category then Shelves.tagged? category tagged else [] := by
  simp only [Shelves.tagged?, List.filterMap_filter, decide_eq_true_eq]
  by_cases same : other = category
  · rw [if_pos same, same]
    apply List.filterMap_congr
    intro entry member
    by_cases tag : entry.1 = category
    · simp only [tag, if_true]
    · simp only [tag, if_false]
  · rw [if_neg same, List.filterMap_eq_nil_iff]
    intro entry member
    by_cases tag : entry.1 = other
    · simp only [tag, same, if_true, if_false]
    · simp only [tag, if_false]

theorem tagged?_byCategory (tagged : List Tagged) (category : Category) :
    Shelves.tagged? category (byCategory tagged) = Shelves.tagged? category tagged := by
  have parts : Shelves.tagged? category (byCategory tagged) =
      Category.all.flatMap fun other =>
        Shelves.tagged? category (tagged.filter (·.1 = other)) := by
    simp only [Shelves.tagged?, byCategory, List.filterMap_flatMap]
  rw [parts]
  simp only [tagged?_filter]
  cases category <;> simp [Category.all]

theorem sort_byCategory (tagged : List Tagged) :
    Shelves.sort (byCategory tagged) = Shelves.sort tagged := by
  simp only [Shelves.sort, tagged?_byCategory]

theorem complete_byCategory (catalog : Catalog) (answer : Except Failure (List Tagged)) :
    catalog.complete (answer.map byCategory) = catalog.complete answer := by
  cases answer with
  | error failure => rfl
  | ok tagged => simp only [complete, Except.map, replace, sort_byCategory]

/-! ## Refreshes that fail or are cancelled -/

namespace Session

/-- The refresh of a number failed for a reason and reported an error: the index keeps everything
but its last error, and nothing else happened to the session. -/
structure FailedWith (session next : Session) (number : Nat) (failure : Failure)
    (error : FetchFault) : Prop where
  reportedAs : failure.ReportedAs error
  catalog : next.catalog = { session.catalog with lastError := some error }
  report : next.history =
    session.history ++ [⟨number, .error failure, ⟨session.catalog.version, some error⟩⟩]
  waiting : ∀ other, other ∈ next.waiting ↔ other ∈ session.waiting ∧ other ≠ number
  started : next.started = session.started

/-- The action answers the refresh of a number. -/
def Action.isAnswerTo (number : Nat) : Action → Bool
  | .answer other _ => other = number
  | _ => false

variable {session : Session} {number : Nat}

theorem act_answer (waits : number ∈ session.waiting) (answer : Except Failure (List Tagged)) :
    session.act (.answer number answer) = (session.withdraw number).complete number answer :=
  if_pos waits

/-- A refresh whose fetch or whose sorting raises fails with what was raised. -/
theorem answer_failedWith (waits : number ∈ session.waiting) {delivery : Delivery}
    {failure : Failure} (raises : delivery.Raises failure) :
    session.FailedWith (session.act (.answer number delivery.answer)) number failure
      failure.asFetchFault := by
  obtain ⟨catalog, report⟩ := session.catalog.complete_failure failure
  rw [Delivery.answer_error_iff.2 raises, act_answer waits]
  refine ⟨failure.reportedAs_asFetchFault, catalog, ?_, fun other => mem_withdraw, rfl⟩
  rw [← report]
  rfl

/-- A refresh that is over is not waited for again. -/
theorem act_gone (gone : number ∉ session.waiting) (began : number < session.started)
    (action : Action) :
    number ∉ (session.act action).waiting ∧ number < (session.act action).started := by
  cases action with
  | refresh =>
      refine ⟨fun waits => ?_, Nat.lt_succ_of_lt began⟩
      rcases List.mem_append.1 waits with before | new
      · exact gone before
      · exact Nat.ne_of_lt began (List.mem_singleton.1 new)
  | answer other answer =>
      by_cases waits : other ∈ session.waiting
      · rw [act_answer waits]
        exact ⟨fun still => gone (mem_withdraw.1 still).1, began⟩
      · rw [act, if_neg waits]
        exact ⟨gone, began⟩
  | cancel other => exact ⟨fun still => gone (mem_withdraw.1 still).1, began⟩
  | setQuery query => exact ⟨gone, began⟩

/-- Answers to a refresh that is over do nothing. -/
theorem run_unanswered (gone : number ∉ session.waiting) (began : number < session.started)
    (actions : List Action) :
    session.run actions = session.run (actions.filter fun action => !action.isAnswerTo number) := by
  induction actions generalizing session with
  | nil => rfl
  | cons action rest inductionHypothesis =>
      obtain ⟨stillGone, stillBegan⟩ := act_gone gone began action
      have later := inductionHypothesis stillGone stillBegan
      cases answers : action.isAnswerTo number with
      | false =>
          rw [List.filter_cons_of_pos (by rw [answers]; rfl)]
          exact later
      | true =>
          rw [List.filter_cons_of_neg (by rw [answers]; exact Bool.false_ne_true)]
          have unmoved : session.act action = session := by
            cases action with
            | answer other answer =>
                rw [of_decide_eq_true answers, act, if_neg gone]
            | refresh | cancel | setQuery => cases answers
          rw [unmoved] at later
          rw [← later]
          exact congrArg (fun next => Session.run next rest) unmoved

/-! ## Refreshes over the transport -/

/-- What the transport raises becomes a failure, if the URL is not refused before. -/
theorem readAnswer_raised (url : String) (failure : Failure) :
    ∃ cause, Registry.readAnswer url (.raised failure) = .error cause := by
  rw [Registry.readAnswer]
  cases Url.target url with
  | error fault => exact ⟨_, rfl⟩
  | ok target => cases failure <;> exact ⟨_, rfl⟩

theorem complete_ok_iff (catalog : Catalog) (answer : Except Failure (List Tagged)) :
    (catalog.complete answer).2.1.ok = true ↔ ∃ tagged, answer = .ok tagged := by
  cases answer with
  | ok tagged => exact iff_of_true rfl ⟨tagged, rfl⟩
  | error failure =>
      rw [(catalog.complete_failure failure).2]
      exact iff_of_false Bool.false_ne_true nofun

/-- A refresh over the transport goes on with what the response brings, and ends with a report. -/
theorem answer_over_transport (waits : number ∈ session.waiting)
    (answer : Except Failure (List Tagged)) :
    let next := session.act (.answer number (Delivery.ofAnswer answer).answer)
    next.catalog = (session.catalog.complete answer).1 ∧
      ∃ completion, next.history = session.history ++ [completion] ∧
        completion.number = number ∧
        completion.report = (session.catalog.complete answer).2.1 := by
  intro next
  have completed : next =
      (session.withdraw number).complete number (answer.map byCategory) := by
    rw [← act_answer waits, ← Delivery.answer_ofAnswer]
  have same := session.catalog.complete_byCategory answer
  refine ⟨?_, ⟨number, answer.map byCategory, (session.catalog.complete answer).2.1⟩, ?_, rfl, rfl⟩
  · rw [completed, ← same]
    rfl
  · rw [completed, ← same]
    rfl

/-! ## The theorem -/

/-- **A failed refresh is contained.** Whatever was refreshed and searched for before: a refresh
whose fetch or whose sorting raises ends with a report of failure under the version in force, bears
the failed fetch that was raised or a new one that quotes what was raised, leaves this error as the
last one, and changes nothing else. A refresh that is cancelled changes nothing, the last error
included, and no later answer to it does anything. Over the transport, a refresh ends with a report
whatever the transport raises or responds. -/
theorem failed_refresh_contained (actions : List Action) :
    let session := start.run actions
    (∀ number ∈ session.waiting, ∀ (delivery : Delivery) failure, delivery.Raises failure →
      ∃ error, session.FailedWith (session.act (.answer number delivery.answer)) number failure
        error) ∧
    (∀ number, let next := session.act (.cancel number)
      next.catalog = session.catalog ∧ next.history = session.history ∧
      (number < session.started → ∀ later, next.run later =
        next.run (later.filter fun action => !action.isAnswerTo number))) ∧
    ∀ number ∈ session.waiting, ∀ url http,
      let answer := Registry.readAnswer url http
      let next := session.act (.answer number (Delivery.ofAnswer answer).answer)
      next.catalog = (session.catalog.complete answer).1 ∧
      (∃ completion, next.history = session.history ++ [completion] ∧
        completion.number = number ∧
        (completion.report.ok = true ↔ ∃ tagged, answer = .ok tagged)) ∧
      (∀ failure, answer = .error failure →
        ∃ error, session.FailedWith next number failure error) ∧
      ∀ raised, http = .raised raised → ∃ failure, answer = .error failure := by
  intro session
  refine ⟨?_, ?_, ?_⟩
  · intro number waits delivery failure raises
    exact ⟨_, answer_failedWith waits raises⟩
  · intro number next
    refine ⟨rfl, rfl, fun began later => ?_⟩
    have gone : number ∉ next.waiting := fun still => (mem_withdraw.1 still).2 rfl
    exact run_unanswered gone began later
  · intro number waits url http answer next
    obtain ⟨catalog, completion, history, same, report⟩ := answer_over_transport waits answer
    refine ⟨catalog, ⟨completion, history, same, ?_⟩, ?_, ?_⟩
    · rw [report]
      exact complete_ok_iff _ answer
    · intro failure failed
      have raises : (Delivery.ofAnswer answer).Raises failure := by
        rw [failed]
        exact .fetching
      exact ⟨_, answer_failedWith waits raises⟩
    · rintro raised rfl
      exact readAnswer_raised url raised

/-- The record of the higher category has no identity. -/
def brokenRecords : List (Category × Except Failure Package) :=
  [(.system, .ok default), (.downloaded, .error (.raised "AttributeError" "id"))]

def brokenDelivery : Delivery :=
  .ok (brokenRecords.map .ok)

theorem brokenDelivery_raises : brokenDelivery.Raises (.raised "AttributeError" "id") := by
  have turn : byCategory brokenRecords =
      [] ++ (.downloaded, .error (.raised "AttributeError" "id")) :: [(.system, .ok default)] := rfl
  exact .sorting turn fun _ => nofun

theorem failed_refresh_contained_broken :
    let session := start.run [.refresh, .refresh]
    0 ∈ session.waiting ∧ brokenDelivery.Raises (.raised "AttributeError" "id") ∧
      ∃ error, session.FailedWith (session.act (.answer 0 brokenDelivery.answer)) 0
        (.raised "AttributeError" "id") error ∧
      error.message = "Registry fetch failed: " ++ "id" := by
  intro session
  have waits : 0 ∈ session.waiting := List.mem_cons_self
  obtain ⟨contained, -, -⟩ := failed_refresh_contained [.refresh, .refresh]
  obtain ⟨error, failed⟩ := contained 0 waits brokenDelivery _ brokenDelivery_raises
  refine ⟨waits, brokenDelivery_raises, error, failed, ?_⟩
  cases failed.reportedAs with
  | quoted _ text => exact text

end Session

end Catalog

end PackageStore
