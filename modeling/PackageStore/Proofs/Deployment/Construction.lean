import PackageStore.Deployment.Table
import PackageStore.Proofs.Address.Reading
import PackageStore.Proofs.OrderedMap.Filling

/-!
Contract: the table that a listing stands for.

Owns: which entries of a listing are deployments, why any other entry is refused, and which of these
refusals cannot be written; the chains that a listing names and the last value under each; that a
listing is refused for its first entry that is no deployment; and what the table of any other listing
holds, in which order.

Different keys may stand for one chain. So a table is compared with the listing whose keys are
converted, and the addresses of a table with the map that is filled with the converted entries:
`Reads` says that the two have the same keys in the same order, and under each key the address that
the value stands for.
-/

set_option autoImplicit false

namespace PackageStore

namespace ChainKey

variable {key : ChainKey}

/-- The only numbers that stand for no chain without being refused as keys are infinite. -/
theorem chain_eq_unbounded_iff :
    key.chain = .error .unbounded ↔ ∃ negative, key = .float (.infinite negative) := by
  cases key with
  | int value => simp [chain]
  | bool value => simp [chain]
  | null => simp [chain]
  | text value =>
      rw [chain]
      split <;> simp
  | float value => cases value <;> simp [chain, Binary64.truncate?]

/-- A key that stands for no chain is no integer, so that it can be quoted. -/
theorem isWritable_of_notAChain (refused : key.chain = .error .notAChain) :
    key.toJson.isWritable = true := by
  cases key with
  | int value => simp [chain] at refused
  | bool value => simp [chain] at refused
  | float value => simp [toJson, Json.isWritable]
  | text value => exact Json.isWritable_string _
  | null => simp [toJson, Json.isWritable]

end ChainKey

namespace ConfigurationFault

variable {fault : ConfigurationFault}

theorem raised_of_writable (writable : fault.isWritable = true) :
    fault.raised = .configuration fault :=
  if_pos writable

theorem raised_of_unwritable (unwritable : fault.isWritable = false) :
    fault.raised = .tooManyDigits :=
  if_neg (Bool.eq_false_iff.1 unwritable)

@[simp] theorem isWritable_invalidAddress (role : Role) (value : Json) (chain : Chain) :
    (invalidAddress role value chain).isWritable =
      (value.isWritable && Number.isWritable chain) := rfl

/-- A refusal for a key can always be written. -/
theorem raised_invalidChain (role : Role) {key : ChainKey}
    (refused : key.chain = .error .notAChain) :
    (invalidChain role key).raised = .configuration (.invalidChain role key) :=
  raised_of_writable (ChainKey.isWritable_of_notAChain refused)

end ConfigurationFault

namespace Deployments

variable {role : Role} {entries : Listing}

/-- A whole number as a key finds what the chain finds. -/
theorem at?_int (table : Deployments) (chain : Chain) :
    table.at? (.int chain) = table.on? chain := by
  unfold at? on? OrderedMap.get?
  induction table.addresses.entries with
  | nil => rfl
  | cons entry rest inductionHypothesis =>
      by_cases here : entry.1 = chain
      · simp [OrderedMap.find, ChainKey.denotes, here]
      · simpa [List.find?_cons, OrderedMap.find, ChainKey.denotes, here, Ne.symm here]
          using inductionHypothesis

/-! ## Deployments and other entries -/

/-- Whether a value is the text of an address. -/
def isAddress (value : Json) : Bool :=
  value.text?.any Address.isValid

/-- The address that a value stands for. -/
def address? (value : Json) : Option Address :=
  value.text?.bind fun text => (Address.read text).toOption

@[simp] theorem isAddress_text (text : String) : isAddress (.text text) = Address.isValid text := by
  simp [isAddress]

@[simp] theorem address?_of_text (text : String) :
    address? (.text text) = (Address.read text).toOption := by
  simp [address?]

theorem address?_isSome (value : Json) : (address? value).isSome = isAddress value := by
  unfold address? isAddress
  cases value.text? with
  | none => rfl
  | some text =>
      simp only [Option.bind_some, Option.any_some, Address.isValid_eq_isOk]
      cases Address.read text <;> rfl

theorem address?_text (address : Address) : address? (.text address.text) = some address := by
  rw [address?_of_text, Address.read_text]
  rfl

/-- The check in front of the reading leaves no text that cannot be read. -/
theorem addressOf_eq (role : Role) (chain : Chain) (value : Json) :
    addressOf role chain value =
      match address? value with
      | some address => .ok address
      | none => .error (ConfigurationFault.invalidAddress role value chain).raised := by
  unfold addressOf address?
  cases value.text? with
  | none => rfl
  | some text =>
      simp only [Option.bind_some, Address.isValid_eq_isOk]
      cases Address.read text <;> rfl

/-- An entry whose key stands for a chain and whose value is the text of an address. -/
structure IsDeployment (entry : ChainKey × Json) : Prop where
  key : ∃ chain, entry.1.chain = .ok chain
  value : isAddress entry.2 = true

/-- A text that is too short to be an address. -/
theorem not_isDeployment_short (key : ChainKey) : ¬ IsDeployment (key, .text "0x44") := by
  intro deployment
  have invalid : isAddress (.text "0x44") = false := by
    rw [isAddress_text]
    decide
  exact Bool.false_ne_true (invalid.symm.trans deployment.value)

/-- Why an entry is refused: for its key, or else for its value. -/
def refusal? (role : Role) (entry : ChainKey × Json) : Option Failure :=
  match entry.1.chain with
  | .error .notAChain => some (ConfigurationFault.invalidChain role entry.1).raised
  | .error .unbounded => some .unboundedChain
  | .ok chain =>
      if isAddress entry.2 then none
      else some (ConfigurationFault.invalidAddress role entry.2 chain).raised

theorem refusal?_eq_none_iff (role : Role) {entry : ChainKey × Json} :
    refusal? role entry = none ↔ IsDeployment entry := by
  unfold refusal?
  split
  · next refused =>
      refine iff_of_false nofun fun deployment => ?_
      obtain ⟨chain, known⟩ := deployment.key
      cases refused.symm.trans known
  · next refused =>
      refine iff_of_false nofun fun deployment => ?_
      obtain ⟨chain, known⟩ := deployment.key
      cases refused.symm.trans known
  · next chain known =>
      constructor
      · intro accepted
        refine ⟨⟨chain, known⟩, ?_⟩
        by_contra notAddress
        rw [if_neg notAddress] at accepted
        cases accepted
      · intro deployment
        rw [if_pos deployment.value]

/-- The key stands for a chain. -/
def Converts (entry : ChainKey × Json) : Prop :=
  ∃ chain, entry.1.chain = .ok chain

/-- The key is an infinite number. -/
def IsInfinite (entry : ChainKey × Json) : Prop :=
  ∃ negative, entry.1 = .float (.infinite negative)

/-- The value is no address, and the message that says so cannot be written. -/
def IsUnwritable (entry : ChainKey × Json) : Prop :=
  ∃ chain, entry.1.chain = .ok chain ∧ isAddress entry.2 = false ∧
    (entry.2.isWritable && Number.isWritable chain) = false

/-- What the entry raises is not a refusal of the configuration. -/
def Escapes (entry : ChainKey × Json) : Prop :=
  IsInfinite entry ∨ IsUnwritable entry

section Escapes

variable {entry : ChainKey × Json}

theorem IsInfinite.not_converts (infinite : IsInfinite entry) : ¬ Converts entry := by
  rintro ⟨chain, known⟩
  cases known.symm.trans (ChainKey.chain_eq_unbounded_iff.2 infinite)

theorem IsUnwritable.converts (unwritable : IsUnwritable entry) : Converts entry := by
  obtain ⟨chain, known, -, -⟩ := unwritable
  exact ⟨chain, known⟩

theorem Escapes.not_isDeployment (escapes : Escapes entry) : ¬ IsDeployment entry := by
  intro deployment
  rcases escapes with infinite | ⟨chain, -, invalid, -⟩
  · exact infinite.not_converts deployment.key
  · exact Bool.false_ne_true (invalid.symm.trans deployment.value)

end Escapes

theorem not_isUnwritable_short {key : ChainKey} (known : key.chain = .ok 1) :
    ¬ IsUnwritable (key, .text "0x44") := by
  rintro ⟨chain, named, -, unwritable⟩
  cases named.symm.trans known
  rw [Json.text, Json.isWritable_string,
    Number.isWritable_of_lt 1 (by decide) (by decide)] at unwritable
  cases unwritable

theorem not_escapes_short {key : ChainKey} (known : key.chain = .ok 1) :
    ¬ Escapes (key, .text "0x44") :=
  not_or.2 ⟨fun infinite => infinite.not_converts ⟨1, known⟩, not_isUnwritable_short known⟩

/-- What is raised for an entry: a refusal for its key or for its value, the failure to write the
one for the value, or the failure to convert an infinite key. -/
inductive Raises (role : Role) (entry : ChainKey × Json) : Failure → Prop where
  | forKey (unnamed : ¬ Converts entry) (finite : ¬ IsInfinite entry) :
      Raises role entry (.configuration (.invalidChain role entry.1))
  | forValue {chain : Chain} (known : entry.1.chain = .ok chain)
      (invalid : isAddress entry.2 = false) (writable : ¬ IsUnwritable entry) :
      Raises role entry (.configuration (.invalidAddress role entry.2 chain))
  | unwritten (unwritable : IsUnwritable entry) : Raises role entry .tooManyDigits
  | unbounded (infinite : IsInfinite entry) : Raises role entry .unboundedChain

theorem raises_of_refusal? {entry : ChainKey × Json} {failure : Failure}
    (refused : refusal? role entry = some failure) : Raises role entry failure := by
  unfold refusal? at refused
  cases known : entry.1.chain with
  | error reason =>
      have unnamed : ¬ Converts entry := by
        rintro ⟨chain, converted⟩
        cases known.symm.trans converted
      cases reason with
      | unbounded =>
          simp only [known, Option.some.injEq] at refused
          rw [← refused]
          exact .unbounded (ChainKey.chain_eq_unbounded_iff.1 known)
      | notAChain =>
          simp only [known, Option.some.injEq] at refused
          rw [← refused, ConfigurationFault.raised_invalidChain role known]
          refine .forKey unnamed fun infinite => ?_
          cases known.symm.trans (ChainKey.chain_eq_unbounded_iff.2 infinite)
  | ok chain =>
      cases valid : isAddress entry.2 with
      | true => simp [known, valid] at refused
      | false =>
          simp only [known, valid, Bool.false_eq_true, if_false, Option.some.injEq] at refused
          rw [← refused]
          have written := ConfigurationFault.isWritable_invalidAddress role entry.2 chain
          cases writable : entry.2.isWritable && Number.isWritable chain with
          | true =>
              rw [ConfigurationFault.raised_of_writable (written.trans writable)]
              refine .forValue known valid ?_
              rintro ⟨other, converted, -, unwritable⟩
              cases known.symm.trans converted
              exact Bool.false_ne_true (unwritable.symm.trans writable)
          | false =>
              rw [ConfigurationFault.raised_of_unwritable (written.trans writable)]
              exact .unwritten ⟨chain, known, valid, writable⟩

theorem findSome?_refusal?_eq_none_iff (role : Role) :
    entries.findSome? (refusal? role) = none ↔ ∀ entry ∈ entries, IsDeployment entry := by
  simp only [List.findSome?_eq_none_iff, refusal?_eq_none_iff]

/-- What is raised for an entry is a refusal, unless the entry is of one of the two other kinds. -/
theorem Raises.isConfiguration_iff {entry : ChainKey × Json} {failure : Failure}
    (raises : Raises role entry failure) :
    (∃ fault, failure = .configuration fault) ↔ ¬ Escapes entry := by
  cases raises with
  | forKey unnamed finite =>
      exact iff_of_true ⟨_, rfl⟩ (not_or.2 ⟨finite, mt IsUnwritable.converts unnamed⟩)
  | forValue known _ writable =>
      have finite : ¬ IsInfinite entry := fun infinite => infinite.not_converts ⟨_, known⟩
      exact iff_of_true ⟨_, rfl⟩ (not_or.2 ⟨finite, writable⟩)
  | unwritten unwritable => simp [Failure.tooManyDigits, Escapes, unwritable]
  | unbounded infinite => simp [Escapes, infinite]

/-! ## What a listing names -/

/-- The listing with its keys converted. An entry whose key stands for no chain is left out. -/
def named (entries : Listing) : List (Chain × Json) :=
  entries.filterMap fun entry => entry.1.chain.toOption.map fun chain => (chain, entry.2)

/-- The chains that a listing names, once for each entry. -/
def chains (entries : Listing) : List Chain :=
  (named entries).map Prod.fst

/-- The value of the last entry whose key stands for a chain. -/
def latest? (chain : Chain) (entries : Listing) : Option Json :=
  OrderedMap.last? chain (named entries)

theorem named_cons {key : ChainKey} {chain : Chain} (known : key.chain = .ok chain) (value : Json)
    (rest : Listing) : named ((key, value) :: rest) = (chain, value) :: named rest := by
  rw [named, List.filterMap_cons, known]
  rfl

theorem named_append (first second : Listing) :
    named (first ++ second) = named first ++ named second :=
  List.filterMap_append ..

theorem latest?_append (chain : Chain) (first second : Listing) :
    latest? chain (first ++ second) = (latest? chain second).or (latest? chain first) := by
  rw [latest?, named_append, OrderedMap.last?_append]
  rfl

/-- Laid over other values, a listing decides what it names. -/
theorem get?_insertAll_named (values : OrderedMap Chain Json) (entries : Listing) (chain : Chain) :
    (values.insertAll (named entries)).get? chain =
      (latest? chain entries).or (values.get? chain) :=
  values.get?_insertAll (named entries) chain

theorem get?_ofList_named (entries : Listing) (chain : Chain) :
    (OrderedMap.ofList (named entries)).get? chain = latest? chain entries :=
  (get?_insertAll_named .empty entries chain).trans Option.or_none

/-- The listing of values under chains names these values under these chains. -/
theorem named_listed (values : OrderedMap Chain Json) : named (listed values) = values.entries := by
  rw [named, listed, List.filterMap_map]
  exact List.filterMap_some

theorem converts_listed (values : OrderedMap Chain Json) :
    ∀ entry ∈ listed values, ∃ chain, entry.1.chain = .ok chain := by
  intro entry member
  obtain ⟨own, _, rfl⟩ := List.mem_map.1 member
  exact ⟨own.1, rfl⟩

/-! ## Reading the values of a map -/

/-- The addresses are those that the values stand for, under the same chains in the same order. -/
structure Reads (values : OrderedMap Chain Json) (addresses : OrderedMap Chain Address) : Prop where
  keys : addresses.keys = values.keys
  found : ∀ chain, addresses.get? chain = (values.get? chain).bind address?

variable {values : OrderedMap Chain Json} {addresses other : OrderedMap Chain Address}

theorem Reads.empty : Reads .empty .empty :=
  ⟨rfl, fun _ => rfl⟩

theorem Reads.insert (reads : Reads values addresses) {value : Json} {address : Address}
    (known : address? value = some address) (chain : Chain) :
    Reads (values.insert chain value) (addresses.insert chain address) := by
  refine ⟨?_, ?_⟩
  · rw [OrderedMap.keys_insert, OrderedMap.keys_insert, reads.keys]
  · intro asked
    rw [OrderedMap.get?_insert, OrderedMap.get?_insert, reads.found]
    by_cases here : chain = asked
    · rw [if_pos here, if_pos here, Option.bind_some, known]
    · rw [if_neg here, if_neg here]

theorem Reads.unique (reads : Reads values addresses) (readsToo : Reads values other) :
    addresses = other := by
  apply OrderedMap.ext_get?
  · rw [reads.keys, readsToo.keys]
  · intro chain
    rw [reads.found, readsToo.found]

/-- The texts of a table are read as its addresses. -/
theorem reads_texts (table : Deployments) : Reads table.texts table.addresses := by
  refine ⟨(OrderedMap.keys_mapValues ..).symm, ?_⟩
  intro chain
  rw [texts, OrderedMap.get?_mapValues]
  cases table.addresses.get? chain with
  | none => rfl
  | some address => rw [Option.map_some, Option.bind_some, address?_text]

/-! ## Building a table -/

/-- Entries are added up to the first one that is refused. -/
theorem addEntries_of_refused {failure : Failure}
    (refused : entries.findSome? (refusal? role) = some failure)
    (addresses : OrderedMap Chain Address) :
    addEntries role addresses entries = .error failure := by
  induction entries generalizing addresses with
  | nil => cases refused
  | cons entry rest inductionHypothesis =>
      obtain ⟨key, value⟩ := entry
      rw [List.findSome?_cons] at refused
      unfold addEntries chainOf
      unfold refusal? at refused
      cases known : key.chain with
      | error fault => cases fault <;> simpa [known] using refused
      | ok chain =>
          simp only [known] at refused
          have check := address?_isSome value
          cases read : address? value with
          | none =>
              rw [read, Option.isSome_none] at check
              simpa [addressOf_eq, read, ← check] using refused
          | some address =>
              rw [read, Option.isSome_some] at check
              simp only [← check, if_true] at refused
              simpa [addressOf_eq, read] using inductionHypothesis refused _

/-- Deployments are added one after another, each under its chain. -/
theorem addEntries_of_deployments (role : Role)
    (deployments : ∀ entry ∈ entries, IsDeployment entry) (reads : Reads values addresses) :
    ∃ filled, addEntries role addresses entries = .ok filled ∧
      Reads (values.insertAll (named entries)) filled := by
  induction entries generalizing values addresses with
  | nil => exact ⟨addresses, rfl, reads⟩
  | cons entry rest inductionHypothesis =>
      obtain ⟨key, value⟩ := entry
      obtain ⟨⟨chain, known⟩, valid⟩ := deployments (key, value) List.mem_cons_self
      rw [← address?_isSome] at valid
      obtain ⟨address, read⟩ := Option.isSome_iff_exists.1 valid
      obtain ⟨filled, added, follows⟩ :=
        inductionHypothesis (fun entry member => deployments entry (List.mem_cons_of_mem _ member))
          (reads.insert read chain)
      refine ⟨filled, ?_, ?_⟩
      · simp only [addEntries, chainOf, known, addressOf_eq, read, added]
      · rw [named_cons known]
        exact follows

/-- A listing of deployments has a table. -/
theorem ofListing_of_deployments (role : Role)
    (deployments : ∀ entry ∈ entries, IsDeployment entry) :
    ∃ addresses, ofListing role entries = .ok ⟨role, addresses⟩ ∧
      Reads (.ofList (named entries)) addresses := by
  obtain ⟨addresses, added, reads⟩ := addEntries_of_deployments role deployments .empty
  refine ⟨addresses, ?_, reads⟩
  rw [ofListing, added]

/-- Only a listing of deployments has a table. -/
theorem deployments_of_ofListing {table : Deployments}
    (built : ofListing role entries = .ok table) :
    ∀ entry ∈ entries, IsDeployment entry := by
  rw [← findSome?_refusal?_eq_none_iff role]
  by_contra refused
  obtain ⟨failure, first⟩ := Option.ne_none_iff_exists'.1 refused
  rw [ofListing, addEntries_of_refused first] at built
  cases built

end Deployments

end PackageStore
