import PackageStore.Failure
import PackageStore.Registry.Listing

/-!
Contract: fetching the listing of packages.

Owns: where the listing is found, whether it can be asked for at all, and how the one answer of the
transport becomes packages or a failure. Only a successful status of a server with a document that
is a listing gives packages.

Does not own: the transport.
-/

set_option autoImplicit false

namespace PackageStore

/-- Where a registry is reached. -/
structure Endpoint where
  baseUrl : String
  appsPath : String
deriving DecidableEq, Repr

/-- The base without slashes at its end, followed by the path of the listing. -/
def Endpoint.url (endpoint : Endpoint) : String :=
  String.ofList (endpoint.baseUrl.toList.reverse.dropWhile (· == '/')).reverse
    ++ endpoint.appsPath

/-- What the transport makes of a request. -/
inductive HttpAnswer where
  | raised (failure : Failure)
  | response (status : Int) (body : List UInt8)
deriving Repr

namespace Registry

/-- The statuses of success. -/
def isSuccess (status : Int) : Bool :=
  200 ≤ status && status ≤ 299

/-- The packages in the body of a successful response. -/
def readBody (url : String) (body : List UInt8) : Except Failure (List Tagged) :=
  match Json.ofBytes body with
  | .error fault => .error (.fetch (.notJson url fault))
  | .ok payload =>
      match checkListing payload with
      | .error issues => .error (.fetch (.malformed url issues))
      | .ok tagged => .ok tagged

/-- The packages that a response brings. -/
def readResponse (url : String) (status : Int) (body : List UInt8) :
    Except Failure (List Tagged) :=
  if isSuccess status then readBody url body else .error (.fetch (.status status url))

/-- The packages that an answer to the request for `url` brings. The URL is read before the request
is made, and a response is refused when the request named no server. -/
def readAnswer (url : String) (answer : HttpAnswer) : Except Failure (List Tagged) :=
  match Url.target url with
  | .error fault => .error (.badUrl fault)
  | .ok target =>
      match answer with
      | .raised (.transport _ reason) => .error (.fetch (.unreachable url reason))
      | .raised failure => .error failure.leavingCall
      | .response status body =>
          match target with
          | .server => readResponse url status body
          | .path path => .error (.noServer path)

/-- How many requests reach the transport. -/
def requests (url : String) : Nat :=
  match Url.target url with
  | .error _ => 0
  | .ok _ => 1

/-- The failure of a request over a connection that was closed. -/
def closedFailure : Failure :=
  .raised "RuntimeError" "Cannot send a request, as the client has been closed."

/-- What is logged about an answer. -/
def fetchLog (url : String) : Except Failure (List Tagged) → List LogLine
  | .ok tagged => [⟨.debug, s!"Fetched {tagged.length} packages from {url}"⟩]
  | .error _ => []

end Registry

end PackageStore
