import PackageStore.Proofs.Registry.Grammar

/-!
Contract: the failures of a fetch by their causes.

Owns: what a request for a URL comes to; the ways in which a fetch can end on it, one for each class
of outcome; and that the packages, the status of a failed fetch and a failure that is passed on tell
which outcome it was.

Does not own: which documents are listings, and which URLs can be asked.
-/

set_option autoImplicit false

namespace PackageStore

/-- A failure that a request may end in: it is none of the store's own, and it does not stand for a
response. Only the reading of a response raises a refusal of its status. -/
def Failure.Foreign : Failure → Prop
  | .configuration _ | .fetch _ | .store _ _ _ => False
  | .transport name _ | .raised name _ => name ≠ "HTTPStatusError"
  | _ => True

/-- A failure of the transport. -/
def Failure.OfTransport (failure : Failure) : Prop :=
  ∃ name reason, failure = .transport name reason

theorem Failure.leavingCall_ne_fetch {failure : Failure} (foreign : failure.Foreign)
    (fault : FetchFault) : failure.leavingCall ≠ .fetch fault := by
  cases failure with
  | fetch => exact absurd foreign id
  | raised name message =>
      rw [leavingCall]
      split <;> exact nofun
  | _ => exact nofun

namespace Registry

/-! ## What a request comes to -/

/-- What the request for a URL comes to, given the answer of the transport. A URL that is none is
refused before the transport is asked, a failure arrives as it leaves the call, and a response is
refused when no server was named. -/
def outcome (url : String) (answer : HttpAnswer) : HttpAnswer :=
  match Url.target url, answer with
  | .error fault, _ => .raised (.badUrl fault)
  | .ok _, .raised failure => .raised failure.leavingCall
  | .ok .server, .response status body => .response status body
  | .ok (.path path), .response _ _ => .raised (.noServer path)

theorem outcome_raised {url : String} {target : Url.Target} (asked : Url.target url = .ok target)
    (failure : Failure) : outcome url (.raised failure) = .raised failure.leavingCall := by
  unfold outcome
  rw [asked]

theorem outcome_ne_fetch (url : String) {answer : HttpAnswer}
    (foreign : ∀ failure, answer = .raised failure → failure.Foreign) (fault : FetchFault) :
    outcome url answer ≠ .raised (.fetch fault) := by
  unfold outcome
  split
  · exact nofun
  · next failure _ =>
      intro same
      exact Failure.leavingCall_ne_fetch (foreign failure rfl) fault (HttpAnswer.raised.inj same)
  · exact nofun
  · exact nofun

/-! ## The ways in which a fetch ends -/

/-- The packages that a body lists. -/
def Lists (body : List UInt8) (tagged : List Tagged) : Prop :=
  ∃ payload, Json.ofBytes body = .ok payload ∧ IsListing AnyText payload tagged

section

variable {body : List UInt8} {tagged : List Tagged}

theorem not_lists_of_undecoded {fault : Json.DocumentFault}
    (undecoded : Json.ofBytes body = .error fault) : ¬ Lists body tagged := by
  rintro ⟨payload, decoded, -⟩
  cases undecoded.symm.trans decoded

/-- A document lists what the checks of its shape let through. -/
theorem lists_iff {payload : Json} (decoded : Json.ofBytes body = .ok payload) :
    Lists body tagged ↔ checkListing payload = .ok tagged := by
  rw [(checkListing_decides payload).ok_iff]
  constructor
  · rintro ⟨other, decodedToo, listing⟩
    cases decoded.symm.trans decodedToo
    exact listing
  · intro listing
    exact ⟨payload, decoded, listing⟩

theorem Lists.unique {other : List Tagged} (lists : Lists body tagged)
    (listsToo : Lists body other) : tagged = other := by
  obtain ⟨payload, decoded, -⟩ := id lists
  rw [lists_iff decoded] at lists listsToo
  exact Except.ok.inj (lists.symm.trans listsToo)

end

/-- How a fetch ends on what its request came to. -/
inductive Ends (url : String) : HttpAnswer → Except Failure (List Tagged) → Prop where
  | unreachable {name reason : String} :
      Ends url (.raised (.transport name reason)) (.error (.fetch (.unreachable url reason)))
  | passedOn {failure : Failure} (other : ¬ failure.OfTransport) :
      Ends url (.raised failure) (.error failure)
  | refused {status : Int} {body : List UInt8} (outside : ¬ (200 ≤ status ∧ status ≤ 299)) :
      Ends url (.response status body) (.error (.fetch (.status status url)))
  | notJson {status : Int} {body : List UInt8} {fault : Json.DocumentFault}
      (inside : 200 ≤ status ∧ status ≤ 299) (undecoded : Json.ofBytes body = .error fault) :
      Ends url (.response status body) (.error (.fetch (.notJson url fault)))
  | malformed {status : Int} {body : List UInt8} {issues : List Schema.Issue}
      (inside : 200 ≤ status ∧ status ≤ 299) (unlisted : ∀ tagged, ¬ Lists body tagged) :
      Ends url (.response status body) (.error (.fetch (.malformed url issues)))
  | listed {status : Int} {body : List UInt8} {tagged : List Tagged}
      (inside : 200 ≤ status ∧ status ≤ 299) (lists : Lists body tagged) :
      Ends url (.response status body) (.ok tagged)

theorem isSuccess_iff {status : Int} : isSuccess status = true ↔ 200 ≤ status ∧ status ≤ 299 := by
  simp [isSuccess]

theorem readBody_ends {url : String} {status : Int} {body : List UInt8}
    (inside : 200 ≤ status ∧ status ≤ 299) :
    Ends url (.response status body) (readBody url body) := by
  unfold readBody
  cases decoded : Json.ofBytes body with
  | error fault => exact .notJson inside decoded
  | ok payload =>
      dsimp only
      cases checked : checkListing payload with
      | ok tagged => exact .listed inside ((lists_iff decoded).2 checked)
      | error issues =>
          refine .malformed inside fun tagged lists => ?_
          rw [lists_iff decoded, checked] at lists
          cases lists

theorem readResponse_ends (url : String) (status : Int) (body : List UInt8) :
    Ends url (.response status body) (readResponse url status body) := by
  unfold readResponse
  by_cases success : isSuccess status = true
  · rw [if_pos success]
    exact readBody_ends (isSuccess_iff.1 success)
  · rw [if_neg success]
    exact .refused (mt isSuccess_iff.2 success)

theorem readAnswer_ends (url : String) (answer : HttpAnswer) :
    Ends url (outcome url answer) (readAnswer url answer) := by
  unfold readAnswer outcome
  cases Url.target url with
  | error fault => exact .passedOn nofun
  | ok target =>
      cases answer with
      | raised failure =>
          cases failure with
          | transport name reason => exact .unreachable
          | raised name message =>
              refine .passedOn ?_
              rw [Failure.leavingCall]
              split <;> exact nofun
          | _ => exact .passedOn nofun
      | response status body =>
          cases target with
          | server => exact readResponse_ends url status body
          | path path => exact .passedOn nofun

/-! ## Which outcome it was -/

/-- A fetch failed and reports a status, or none. -/
def FailsWith (fetched : Except Failure (List Tagged)) (status : Option Int) : Prop :=
  ∃ fault, fetched = .error (.fetch fault) ∧ fault.status? = status

namespace Ends

variable {url : String} {got : HttpAnswer} {fetched : Except Failure (List Tagged)}

theorem ok_iff (ends : Ends url got fetched) (tagged : List Tagged) :
    fetched = .ok tagged ↔ ∃ status body, got = .response status body ∧
      (200 ≤ status ∧ status ≤ 299) ∧ Lists body tagged := by
  constructor
  · rintro rfl
    cases ends with
    | listed inside lists => exact ⟨_, _, rfl, inside, lists⟩
  · rintro ⟨status, body, rfl, inside, lists⟩
    cases ends with
    | refused outside => exact absurd inside outside
    | notJson _ undecoded => exact absurd lists (not_lists_of_undecoded undecoded)
    | malformed _ unlisted => exact absurd lists (unlisted tagged)
    | listed _ listsToo => rw [lists.unique listsToo]

theorem failsWith_some_iff (ends : Ends url got fetched)
    (foreign : ∀ fault, got ≠ .raised (.fetch fault)) (status : Int) :
    FailsWith fetched (some status) ↔
      ¬ (200 ≤ status ∧ status ≤ 299) ∧ ∃ body, got = .response status body := by
  constructor
  · rintro ⟨fault, rfl, reported⟩
    cases ends with
    | unreachable => cases reported
    | passedOn => exact absurd rfl (foreign fault)
    | refused outside =>
        cases reported
        exact ⟨outside, _, rfl⟩
    | notJson => cases reported
    | malformed => cases reported
  · rintro ⟨outside, body, rfl⟩
    cases ends with
    | refused => exact ⟨_, rfl, rfl⟩
    | notJson inside => exact absurd inside outside
    | malformed inside => exact absurd inside outside
    | listed inside => exact absurd inside outside

theorem failsWith_none_iff (ends : Ends url got fetched)
    (foreign : ∀ fault, got ≠ .raised (.fetch fault)) :
    FailsWith fetched none ↔ (∃ failure, failure.OfTransport ∧ got = .raised failure) ∨
      ∃ status body, got = .response status body ∧ (200 ≤ status ∧ status ≤ 299) ∧
        ∀ tagged, ¬ Lists body tagged := by
  constructor
  · rintro ⟨fault, rfl, reported⟩
    cases ends with
    | unreachable => exact .inl ⟨_, ⟨_, _, rfl⟩, rfl⟩
    | passedOn => exact absurd rfl (foreign fault)
    | refused => cases reported
    | notJson inside undecoded =>
        exact .inr ⟨_, _, rfl, inside, fun _ => not_lists_of_undecoded undecoded⟩
    | malformed inside unlisted => exact .inr ⟨_, _, rfl, inside, unlisted⟩
  · rintro (⟨failure, ⟨name, reason, rfl⟩, rfl⟩ | ⟨status, body, rfl, inside, unlisted⟩)
    · cases ends with
      | unreachable => exact ⟨_, rfl, rfl⟩
      | passedOn other => exact absurd ⟨name, reason, rfl⟩ other
    · cases ends with
      | refused outside => exact absurd inside outside
      | notJson => exact ⟨_, rfl, rfl⟩
      | malformed => exact ⟨_, rfl, rfl⟩
      | listed _ lists => exact absurd lists (unlisted _)

/-- A failure that is no failed fetch is the one that the request ended in. -/
theorem error_iff (ends : Ends url got fetched) {failure : Failure}
    (other : ∀ fault, failure ≠ .fetch fault) :
    fetched = .error failure ↔ ¬ failure.OfTransport ∧ got = .raised failure := by
  constructor
  · rintro rfl
    cases ends with
    | passedOn other => exact ⟨other, rfl⟩
    | unreachable => exact absurd rfl (other _)
    | refused => exact absurd rfl (other _)
    | notJson => exact absurd rfl (other _)
    | malformed => exact absurd rfl (other _)
  · rintro ⟨notOfTransport, rfl⟩
    cases ends with
    | unreachable => exact absurd ⟨_, _, rfl⟩ notOfTransport
    | passedOn => rfl

end Ends

/-- **A fetch fails by cause.** It gives packages exactly if the response has a status of success
and a body that lists them. It fails with a status exactly if the response has this status and it is
none of success, whatever the body. It fails without a status exactly if the transport failed, or if
the body of a successful response lists nothing: it cannot be decoded, is no document or has not the
shape of a listing. Each failed fetch reports the one code and no chain. Any other failure of the
request, and no other one, is passed on as it is. -/
theorem fetch_classified (url : String) (answer : HttpAnswer)
    (foreign : ∀ failure, answer = .raised failure → failure.Foreign) :
    let got := outcome url answer
    let fetched := readAnswer url answer
    (∀ tagged, fetched = .ok tagged ↔ ∃ status body, got = .response status body ∧
      (200 ≤ status ∧ status ≤ 299) ∧ Lists body tagged) ∧
    (∀ status, FailsWith fetched (some status) ↔
      ¬ (200 ≤ status ∧ status ≤ 299) ∧ ∃ body, got = .response status body) ∧
    (FailsWith fetched none ↔ (∃ failure, failure.OfTransport ∧ got = .raised failure) ∨
      ∃ status body, got = .response status body ∧ (200 ≤ status ∧ status ≤ 299) ∧
        ∀ tagged, ¬ Lists body tagged) ∧
    (∀ fault, fetched = .error (.fetch fault) →
      (Failure.fetch fault).code? = some "FETCH_FAILED" ∧ (Failure.fetch fault).chain? = none) ∧
    ∀ failure, (∀ fault, failure ≠ .fetch fault) →
      (fetched = .error failure ↔ ¬ failure.OfTransport ∧ got = .raised failure) := by
  intro got fetched
  have ends : Ends url got fetched := readAnswer_ends url answer
  have other := outcome_ne_fetch url foreign
  exact ⟨ends.ok_iff, ends.failsWith_some_iff other, ends.failsWith_none_iff other,
    fun _ _ => ⟨rfl, rfl⟩, fun _ => ends.error_iff⟩

/-- A listing under a status of failure, a transport that fails, and a transport that raises
something else. -/
theorem fetch_classified_lost :
    let lost : Failure := .raised "OSError" "gone"
    let late : Failure := .transport "ReadTimeout" "late"
    (lost.Foreign ∧ late.Foreign) ∧
    FailsWith (readAnswer "http://node.test/apps" (.response 404 tornImage)) (some 404) ∧
    FailsWith (readAnswer "http://node.test/apps" (.raised late)) none ∧
    readAnswer "http://node.test/apps" (.raised lost) = .error lost := by
  intro lost late
  have foreign : lost.Foreign ∧ late.Foreign := by
    constructor
    · exact show "OSError" ≠ "HTTPStatusError" by decide
    · exact show "ReadTimeout" ≠ "HTTPStatusError" by decide
  have asked : Url.target "http://node.test/apps" = .ok .server := rfl
  have leaves : lost.leavingCall = lost := by
    rw [Failure.leavingCall, if_neg (by decide)]
  have refused := (fetch_classified "http://node.test/apps" (.response 404 tornImage) nofun).2.1 404
  have unreachable := (fetch_classified "http://node.test/apps" (.raised late)
    fun failure same => HttpAnswer.raised.inj same ▸ foreign.2).2.2.1
  have passedOn := (fetch_classified "http://node.test/apps" (.raised lost)
    fun failure same => HttpAnswer.raised.inj same ▸ foreign.1).2.2.2.2 lost nofun
  rw [outcome_raised asked] at unreachable passedOn
  exact ⟨foreign, refused.2 ⟨by decide, tornImage, rfl⟩,
    unreachable.2 (.inl ⟨late, ⟨_, _, rfl⟩, rfl⟩), passedOn.2 ⟨nofun, congrArg _ leaves⟩⟩

end Registry

end PackageStore
