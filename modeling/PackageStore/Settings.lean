import PackageStore.Deployment.Builtin
import PackageStore.Schema.Number

/-!
Contract: the settings of a client.

Owns: the settings with their defaults, where their values are taken from, the checks that every
value has to pass, and the deployment tables that follow from them.

A value comes from the arguments, else from the environment, else it is the default. A map that is
given in both is merged.
-/

set_option autoImplicit false

namespace PackageStore

structure Settings where
  rpcUrl : String
  defaultChain : Chain
  registryUrl : String
  appsPath : String
  requestTimeout : Binary64
  pollInterval : Binary64
  storeAddresses : OrderedMap Chain Text
  logLevel : String
deriving Repr

namespace Settings

def default : Settings where
  rpcUrl := "https://rpc.sepolia.org"
  defaultChain := .sepolia
  registryUrl := "http://localhost:8080/main:app_store:sys"
  appsPath := "/apps"
  requestTimeout := .ofInt 30
  pollInterval := .ofInt 2
  storeAddresses := .empty
  logLevel := "INFO"

/-! ## Checks -/

open Schema Schema.Checked

/-- The levels of logging. -/
def logLevels : List String :=
  ["CRITICAL", "FATAL", "ERROR", "WARN", "WARNING", "INFO", "DEBUG", "NOTSET"]

/-- The capital form of a character as far as it consists of Latin letters; any other character
stands for itself, as it is part of no level's name. -/
def capitalLatin (c : Char) : List Char :=
  if c = 'ß' then ['S', 'S']
  else if c = 'ı' then ['I']
  else if c = 'ſ' then ['S']
  else if c = 'ﬀ' then ['F', 'F']
  else if c = 'ﬁ' then ['F', 'I']
  else if c = 'ﬂ' then ['F', 'L']
  else if c = 'ﬃ' then ['F', 'F', 'I']
  else if c = 'ﬄ' then ['F', 'F', 'L']
  else if c = 'ﬅ' then ['S', 'T']
  else if c = 'ﬆ' then ['S', 'T']
  else [c.toUpper]

/-- A text that settings hold as characters, with substitutes for lone surrogates. -/
def checkLegible (value : Json) : Checked String :=
  (checkText value).map fun text => Text.legible text.codes

/-- The level of logging that a text names, in capitals. -/
def checkLogLevel (value : Json) : Checked String :=
  match checkLegible value with
  | .error issues => .error issues
  | .ok text =>
      let level := String.ofList (text.toList.flatMap capitalLatin)
      if logLevels.contains level then .ok level
      else fault (.refused s!"Unknown log level: {text}")

/-- A number of seconds. A number that compares as at most zero is refused. -/
def checkInterval (value : Json) : Checked Binary64 :=
  match checkNumber value with
  | .error issues => .error issues
  | .ok number => if number.isAtMostZero then fault (.refused "must be positive") else .ok number

/-- Settings from the values that were given; every issue is reported, field by field. -/
def check (values : List (Text × Json)) : Checked Settings :=
  both (fun urls rest =>
      { rpcUrl := urls.1
        defaultChain := urls.2.1
        registryUrl := urls.2.2.1
        appsPath := urls.2.2.2
        requestTimeout := rest.1
        pollInterval := rest.2.1
        storeAddresses := rest.2.2.1
        logLevel := rest.2.2.2 })
    (both Prod.mk (optional "rpc_url" default.rpcUrl checkLegible values)
      (both Prod.mk (optional "default_chain_id" default.defaultChain checkInteger values)
        (both Prod.mk (optional "registry_url" default.registryUrl checkLegible values)
          (optional "apps_path" default.appsPath checkLegible values))))
    (both Prod.mk (optional "request_timeout" default.requestTimeout checkInterval values)
      (both Prod.mk (optional "wallet_poll_interval" default.pollInterval checkInterval values)
        (both Prod.mk
          (optional "package_store_addresses" default.storeAddresses checkIntegerMap values)
          (optional "log_level" default.logLevel checkLogLevel values))))

/-! ## Sources -/

/-- The names of the fields. -/
def fields : List String :=
  ["rpc_url", "default_chain_id", "registry_url", "apps_path", "request_timeout",
    "wallet_poll_interval", addressField, "log_level"]
where
  /-- The one field that is a map. -/
  addressField : String := "package_store_addresses"

/-- A name in small letters. The sign for kelvin counts as a k. -/
def smallName (name : String) : String :=
  String.ofList (name.toList.map fun c => if c = '\u212a' then 'k' else c.toLower)

/-- The variable of the environment that holds a field. -/
def variableName (field : String) : String :=
  "pkgstore_" ++ field

/-- The variable that holds a field. Names are compared in small letters, and the last of several
equal ones counts. -/
def environmentText? (environment : List (String × String)) (field : String) : Option String :=
  (environment.reverse.find? fun entry => smallName entry.1 == variableName field).map Prod.snd

/-- The value that the environment gives to a field. The map is written as a document, in which
null stands for no value. -/
def environmentValue (environment : List (String × String)) (field : String) :
    Except Failure (Option Json) :=
  match environmentText? environment field with
  | none => .ok none
  | some text =>
      if field = fields.addressField then
        match Json.ofText text with
        | .ok value => .ok value.present?
        | .error _ => .error (.unreadableSetting field)
      else .ok (some (.text text))

/-- The value that the arguments give to a field. Names are compared in small letters, and the
first of several equal ones counts. -/
def argumentValue (arguments : List (Text × Json)) (field : String) : Option Json :=
  (arguments.find? fun entry => (entry.1.plain?.map smallName) == some field).map Prod.snd

/-- Lays an argument over the value from the environment. Two maps are merged. -/
def overlay (below above : Option Json) : Option Json :=
  match below, above with
  | some (.object low), some (.object high) => some (Json.ofMembers (low ++ high))
  | _, some value => some value
  | below, none => below

/-- The values given to fields, in the order of the fields. -/
def collect (environment : List (String × String)) (arguments : List (Text × Json)) :
    List String → Except Failure (List (Text × Json))
  | [] => .ok []
  | field :: rest =>
      match environmentValue environment field with
      | .error failure => .error failure
      | .ok below =>
          match collect environment arguments rest with
          | .error failure => .error failure
          | .ok later =>
              match overlay below (argumentValue arguments field) with
              | some value => .ok ((.ofString field, value) :: later)
              | none => .ok later

/-- The settings of an environment and of arguments. -/
def load (environment : List (String × String)) (arguments : List (Text × Json)) :
    Except Failure Settings :=
  match collect environment arguments fields with
  | .error failure => .error failure
  | .ok values =>
      match check values with
      | .ok settings => .ok settings
      | .error issues => .error (.invalidSettings issues)

/-! ## Deployments -/

/-- The built-in tables, with the configured deployments of the package store merged in. -/
def tables (settings : Settings) : Except Failure Deployments.Tables :=
  let entries := settings.storeAddresses.entries
  if entries.isEmpty then .ok Deployments.builtinTables
  else
    match (Deployments.builtin .packageStore).merged
        (entries.map fun entry => (.int entry.1, .string entry.2)) with
    | .ok table => .ok (Deployments.withTable table Deployments.builtinTables)
    | .error failure => .error failure

end Settings

/-! ## Settings that are loaded once -/

/-- Settings in use by a process: those that were loaded first stay. `served` tells whether they
were handed out. -/
structure SettingsCache where
  environment : List (String × String)
  loaded : Option Settings
  served : Bool

namespace SettingsCache

def empty : SettingsCache := ⟨[], none, false⟩

/-- The settings in use, loaded from the environment at the first successful call. -/
def use (cache : SettingsCache) : Except Failure Settings × SettingsCache :=
  match cache.loaded with
  | some settings => (.ok settings, cache)
  | none =>
      match Settings.load cache.environment [] with
      | .ok settings => (.ok settings, { cache with loaded := some settings })
      | .error failure => (.error failure, cache)

/-- Hands out the settings in use. -/
def get (cache : SettingsCache) : Except Failure Settings × SettingsCache :=
  match cache.use with
  | (.ok settings, cache) => (.ok settings, { cache with served := true })
  | (.error failure, cache) => (.error failure, cache)

/-- The level of logging of given settings, else of the ones in use. -/
def logLevel (cache : SettingsCache) (arguments : Option (List (Text × Json))) :
    Except Failure String × SettingsCache :=
  match arguments with
  | some arguments =>
      ((Settings.load cache.environment arguments).map Settings.logLevel, cache)
  | none =>
      let (settings, cache) := cache.use
      (settings.map Settings.logLevel, cache)

end SettingsCache

/-- The layout of a log line. -/
def logFormat : String :=
  "%(asctime)s - %(name)s - %(levelname)s - %(message)s"

end PackageStore
