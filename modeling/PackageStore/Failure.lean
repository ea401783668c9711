import PackageStore.Abi.Description
import PackageStore.Address
import PackageStore.Deployment.Key
import PackageStore.Json.Reader
import PackageStore.Schema.Issue
import PackageStore.Url.Basic

/-!
Contract: everything that can go wrong, by cause.

Owns: the causes, and for each cause its message, the chain and the code it reports; and what
raising a refusal of configuration comes to. Failures of collaborators are carried with the name and
the text they came with.

A refusal of configuration is raised with its message. The message is written first, and this is
what fails where it quotes an integer of more than `Number.maxDigits` digits. The limit is kept for
these messages only: the lines of the log, the warnings of observations and the texts of reports
leave it out and write every integer.

Does not own: how deep a value in a message may be nested.
-/

set_option autoImplicit false

namespace PackageStore

/-- A failure of configuration. -/
inductive ConfigurationFault where
  | invalidChain (role : Role) (key : ChainKey)
  | invalidAddress (role : Role) (value : Json) (chain : Chain)
  | invalidDefault (role : Role) (value : String) (chain : Chain)
  | missingAddress (role : Role) (chain : ChainKey)
  | noTable (role : Role)
  | notInitialized (role : Role)
  | noBinder (role : Role)
  | reported (message : String) (chain : Option Chain) (code : Option String)
deriving Repr, Inhabited

namespace ConfigurationFault

def message : ConfigurationFault → String
  | .invalidChain role key => s!"Invalid chain id {key.shown} in {role.name} address table"
  | .invalidAddress role value chain =>
      s!"Invalid {role.name} address {value.shown} for chain {chain}"
  | .invalidDefault role value _ => s!"Invalid default {role.name} address {Text.quoted value}"
  | .missingAddress role chain => s!"No {role.name} address configured for chain {chain.plain}"
  | .noTable role => s!"No address table configured for {role.name}"
  | .notInitialized role => s!"{role.name} binder is not initialized"
  | .noBinder role => s!"No binder configured for {role.name}"
  | .reported message _ _ => message

/-- The chain concerned, as it was named. -/
def chain? : ConfigurationFault → Option ChainKey
  | .invalidAddress _ _ chain => some (.int chain)
  | .invalidDefault _ _ chain => some (.int chain)
  | .missingAddress _ chain => some chain
  | .reported _ chain _ => chain.map .int
  | _ => none

def code? : ConfigurationFault → Option String
  | .invalidChain _ _ => some "INVALID_CHAIN_ID"
  | .invalidAddress _ _ _ => some "INVALID_ADDRESS"
  | .invalidDefault _ _ _ => some "INVALID_ADDRESS"
  | .missingAddress _ _ => some "MISSING_ADDRESS"
  | .reported _ _ code => code
  | _ => none

/-- Whether the message of a failure of configuration can be written. -/
def isWritable : ConfigurationFault → Bool
  | .invalidChain _ key => key.toJson.isWritable
  | .invalidAddress _ value chain => value.isWritable && Number.isWritable chain
  | .missingAddress _ key => key.toJson.isWritable
  | _ => true

end ConfigurationFault

/-- A failure to get the packages from the registry. -/
inductive FetchFault where
  | status (code : Int) (url : String)
  | unreachable (url reason : String)
  | notJson (url : String) (fault : Json.DocumentFault)
  | malformed (url : String) (issues : List Schema.Issue)
  | unexpected (reason : String)
  | reported (message : String) (status : Option Int)
deriving DecidableEq, Repr, Inhabited

namespace FetchFault

def message : FetchFault → String
  | .status code url => s!"Registry returned {code} for {url}"
  | .unreachable url reason => s!"Registry request to {url} failed: {reason}"
  | .notJson url fault => s!"Registry response from {url} is not JSON: {fault.message}"
  | .malformed url issues =>
      s!"Malformed registry response from {url}: "
        ++ Schema.summary issues "RegistryAppsResponse"
  | .unexpected reason => s!"Registry fetch failed: {reason}"
  | .reported message _ => message

def status? : FetchFault → Option Int
  | .status code _ => some code
  | .reported _ number => number
  | _ => none

/-- The code of every failed fetch. -/
def code : String := "FETCH_FAILED"

/-- The issues of a response that has not the listing's shape. -/
def issues? : FetchFault → Option (List Schema.Issue)
  | .malformed _ issues => some issues
  | _ => none

end FetchFault

inductive Failure where
  | configuration (fault : ConfigurationFault)
  | fetch (fault : FetchFault)
  /-- A failure of the store in general. -/
  | store (message : String) (chain : Option Chain) (code : Option String)
  /-- A failure of the transport below the registry, by name. -/
  | transport (name message : String)
  /-- Any other failure that a collaborator raised, by name. -/
  | raised (name message : String)
  /-- A request for a URL that is none. -/
  | badUrl (fault : Url.Fault)
  /-- An answer to a request that named no server. -/
  | noServer (path : String)
  | badAddress (fault : Address.ReadFault)
  | badInterface (fault : Abi.Fault)
  | notText (value : Json)
  | noEntry (key : ChainKey)
  | unboundedChain
  | unknownRole (value : Json)
  | unknownCategory (value : Json)
  | invalidSettings (issues : List Schema.Issue)
  | unreadableSetting (field : String)
deriving Repr, Inhabited

namespace Failure

def message : Failure → String
  | .configuration fault => fault.message
  | .fetch fault => fault.message
  | .store message _ _ => message
  | .transport _ message => message
  | .raised _ message => message
  | .badUrl fault => fault.message
  | .noServer path => s!"unknown url type: {Text.quoted path}"
  | .badAddress fault => fault.message
  | .badInterface fault => fault.message
  | .notText value => s!"'{value.kindName}' object has no attribute 'strip'"
  | .noEntry key => key.shown
  | .unboundedChain => "cannot convert float infinity to integer"
  | .unknownRole value => s!"{value.shown} is not a valid ContractRole"
  | .unknownCategory value => s!"{value.shown} is not a valid PackageCategory"
  | .invalidSettings issues => Schema.summary issues "StoreClientSettings"
  | .unreadableSetting field =>
      s!"error parsing value for field \"{field}\" from source \"EnvSettingsSource\""

/-- The chain that a failure of the store concerns, as it was named. -/
def chain? : Failure → Option ChainKey
  | .configuration fault => fault.chain?
  | .store _ chain _ => chain.map .int
  | _ => none

/-- The code that a failure of the store reports. -/
def code? : Failure → Option String
  | .configuration fault => fault.code?
  | .fetch _ => some FetchFault.code
  | .store _ _ code => code
  | _ => none

/-- The names of failures of the transport below the registry. -/
def transportNames : List String :=
  ["HTTPError", "RequestError", "TransportError", "TimeoutException", "ConnectTimeout",
    "ReadTimeout", "WriteTimeout", "PoolTimeout", "NetworkError", "ConnectError", "ReadError",
    "WriteError", "CloseError", "ProtocolError", "LocalProtocolError", "RemoteProtocolError",
    "ProxyError", "UnsupportedProtocol", "DecodingError", "TooManyRedirects"]

/-- The name that a name of a failure stands for. -/
def ownName (name : String) : String :=
  if name = "IOError" || name = "EnvironmentError" then "OSError" else name

/-- The failure that a collaborator raises under a name. The text of a key that was not found is
quoted. -/
def named (name message : String) (chain : Option Chain) (code : Option String)
    (status : Option Int) : Failure :=
  if name = "FetchError" then .fetch (.reported message status)
  else if name = "ConfigurationError" then .configuration (.reported message chain code)
  else if name = "StoreClientError" then .store message chain code
  else if transportNames.contains name then .transport name message
  else if name = "KeyError" then .raised name (Text.quoted message)
  else .raised (ownName name) message

/-- The failure as it leaves an asynchronous call. The signal that such a call has ended cannot
leave it as a failure, and another one takes its place. -/
def leavingCall : Failure → Failure
  | .raised name message =>
      if name = "StopIteration" then .raised "RuntimeError" "coroutine raised StopIteration"
      else .raised name message
  | failure => failure

/-- The failure to write a number of too many digits. -/
def tooManyDigits : Failure :=
  .raised "ValueError"
    s!"Exceeds the limit ({Number.maxDigits} digits) for integer string conversion"

end Failure

/-- The failure that raising a failure of configuration comes to. -/
def ConfigurationFault.raised (fault : ConfigurationFault) : Failure :=
  if fault.isWritable then .configuration fault else .tooManyDigits

/-- How much a log line matters. -/
inductive Severity where
  | debug
  | info
  | warning
  | error
deriving DecidableEq, Repr

def Severity.name : Severity → String
  | .debug => "DEBUG"
  | .info => "INFO"
  | .warning => "WARNING"
  | .error => "ERROR"

structure LogLine where
  severity : Severity
  text : Text
deriving DecidableEq, Repr

end PackageStore
