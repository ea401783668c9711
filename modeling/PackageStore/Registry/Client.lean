import PackageStore.Registry.Fetch

/-!
Contract: a client of the registry and the HTTP client that it sends its requests with.

Owns: whether an HTTP client is made or taken over, how long a request may take, the scope in which
the client is used, and what leaving this scope closes. An HTTP client that was handed in belongs to
someone else and stays open.

Does not own: what an answer comes to.
-/

set_option autoImplicit false

namespace PackageStore

/-- How long a request may take: a number of seconds as it was given, or without a limit. -/
inductive Timeout where
  | unlimited
  | whole (seconds : Int)
  | real (seconds : Binary64)
deriving DecidableEq, Repr

def Timeout.shown : Timeout → String
  | .unlimited => "None"
  | .whole seconds => toString seconds
  | .real seconds => seconds.text

structure RegistryClient where
  endpoint : Endpoint
  timeout : Timeout
  ownsHttp : Bool
  httpClosed : Bool
deriving DecidableEq, Repr

namespace RegistryClient

/-- Puts a client together; answers with which timeouts HTTP clients are made for it. -/
def create (endpoint : Endpoint) (timeout : Timeout) (httpGiven : Bool) :
    RegistryClient × List Timeout :=
  (⟨endpoint, timeout, !httpGiven, false⟩, if httpGiven then [] else [timeout])

/-- Entering the scope of a client hands out the client itself. -/
def enter (client : RegistryClient) : RegistryClient :=
  client

/-- Closes the HTTP client if it is the client's own. -/
def close (client : RegistryClient) : RegistryClient :=
  { client with httpClosed := client.httpClosed || client.ownsHttp }

/-- What the transport makes of a request for the listing. -/
def received (client : RegistryClient) (answer : HttpAnswer) : HttpAnswer :=
  if client.httpClosed then .raised Registry.closedFailure else answer

/-- Asks for the listing once; answers what it comes to, and what is logged. -/
def fetch (client : RegistryClient) (answer : HttpAnswer) :
    Except Failure (List Tagged) × List LogLine :=
  let url := client.endpoint.url
  let read := Registry.readAnswer url (client.received answer)
  (read, Registry.fetchLog url read)

/-- How many requests for the listing reach the transport. -/
def requests (client : RegistryClient) : Nat :=
  if client.httpClosed then 0 else Registry.requests client.endpoint.url

end RegistryClient

end PackageStore
