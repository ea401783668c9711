import PackageStore.Proofs.Client.Frame

/-!
Contract: what a client is put together from, and what binding its roles brings.

Owns: that every role of a client has a site whose table is the one chosen for it; that no role has
a binder at first; and that roles that are all bound read-only have the binders that their slots
call for.
-/

set_option autoImplicit false

namespace PackageStore

namespace OrderedMap

variable {κ α : Type} [DecidableEq κ]

/-- What inserting entries one after another can find is one of them, or was there before. -/
theorem get?_foldl {entries : List (κ × α)} {map : OrderedMap κ α} {key : κ} {value : α}
    (found : (entries.foldl (fun map entry => map.insert entry.1 entry.2) map).get? key =
      some value) : (key, value) ∈ entries ∨ map.get? key = some value := by
  induction entries generalizing map with
  | nil => exact .inr found
  | cons entry rest inductionHypothesis =>
      rcases inductionHypothesis found with listed | before
      · exact .inl (List.mem_cons_of_mem _ listed)
      · rw [get?_insert] at before
        split at before
        next here =>
          cases before
          rw [← here]
          exact .inl List.mem_cons_self
        next => exact .inr before

theorem mem_of_get?_ofList {entries : List (κ × α)} {key : κ} {value : α}
    (found : (ofList entries).get? key = some value) : (key, value) ∈ entries := by
  rcases get?_foldl found with listed | before
  · exact listed
  · cases before

/-- A key that stands in the map, or among the entries, is found. -/
theorem get?_foldl_isSome {entries : List (κ × α)} {map : OrderedMap κ α} {key : κ}
    (present : (map.get? key).isSome = true ∨ key ∈ entries.map Prod.fst) :
    ((entries.foldl (fun map entry => map.insert entry.1 entry.2) map).get? key).isSome = true := by
  induction entries generalizing map with
  | nil =>
      rcases present with before | listed
      · exact before
      · cases listed
  | cons entry rest inductionHypothesis =>
      refine inductionHypothesis ?_
      rw [get?_insert]
      by_cases here : entry.1 = key
      · rw [if_pos here]
        exact .inl rfl
      · rw [if_neg here]
        rcases present with before | listed
        · exact .inl before
        · rcases List.mem_cons.1 listed with same | later
          · exact absurd same.symm here
          · exact .inr later

theorem get?_ofList_isSome {entries : List (κ × α)} {key : κ}
    (listed : key ∈ entries.map Prod.fst) : ((ofList entries).get? key).isSome = true :=
  get?_foldl_isSome (.inr listed)

end OrderedMap

namespace Network

/-- The site of a role. -/
def site? (network : Network) (role : Role) : Option Site :=
  (network.slots.get? role).map Slot.site

variable {network : Network} {role : Role} {binder : Binder}

theorem site?_of_slots {other : Network} (slots : network.slots = other.slots) (role : Role) :
    network.site? role = other.site? role := by
  rw [site?, site?, slots]

theorem site?_of_binder (known : network.binder role = .ok binder) :
    network.site? role = some binder.site := by
  rw [site?, get?_of_binder known]
  rfl

theorem site?_hold (network : Network) {role : Role} {binder : Binder}
    (same : network.site? role = some binder.site) (other : Role) :
    (network.hold role binder).site? other = network.site? other := by
  by_cases here : role = other
  · subst here
    rw [same, site?, hold, OrderedMap.get?_insert, if_pos rfl]
    rfl
  · rw [site?, hold, OrderedMap.get?_insert, if_neg here]
    rfl

end Network

namespace Client

/-! ## The sites of a client -/

theorem sites_tables {tables : Deployments.Tables} {rpcUrl : String} {roles : List Role}
    {sites : List Site} (chosen : Client.sites tables rpcUrl roles = .ok sites) :
    sites.map Site.role = roles ∧
      ∀ site ∈ sites, Deployments.ofRole site.role tables = .ok site.table := by
  induction roles generalizing sites with
  | nil =>
      cases chosen
      exact ⟨rfl, nofun⟩
  | cons role rest inductionHypothesis =>
      unfold Client.sites at chosen
      split at chosen
      next => cases chosen
      next table known =>
        split at chosen
        next => cases chosen
        next later others =>
          cases chosen
          obtain ⟨named, tabled⟩ := inductionHypothesis others
          refine ⟨by rw [List.map_cons, named], fun site member => ?_⟩
          rcases List.mem_cons.1 member with rfl | member
          · exact known
          · exact tabled site member

/-- What a client was put together from. -/
theorem ofSettings_parts {settings : Settings} {given : Option Deployments.Tables}
    {roles : List Role} {wallet : WalletLink} {client : Client}
    (built : Client.ofSettings settings given roles wallet = .ok client) :
    ∃ tables sites, given.elim settings.tables .ok = .ok tables ∧
      Client.sites tables settings.rpcUrl roles = .ok sites ∧
      client = { settings, network := .ofSites sites, catalog := .empty, wallet,
                 started := false, registryClosed := false } := by
  unfold Client.ofSettings at built
  dsimp only at built
  split at built
  next => cases built
  next tables chosen =>
    split at built
    next => cases built
    next sites listed =>
      cases built
      refine ⟨tables, sites, ?_, listed, rfl⟩
      rw [← chosen]
      cases given <;> rfl

theorem ofSites_vacant {sites : List Site} {role : Role} {slot : Slot}
    (found : (Network.ofSites sites).slots.get? role = some slot) :
    ∃ site ∈ sites, role = site.role ∧ slot = .vacant site := by
  have listed := OrderedMap.mem_of_get?_ofList found
  obtain ⟨site, member, same⟩ := List.mem_map.1 listed
  cases same
  exact ⟨site, member, rfl, rfl⟩

/-- Every role of a client has a site with the table that was chosen for it. -/
theorem site?_built {settings : Settings} {given : Option Deployments.Tables} {roles : List Role}
    {wallet : WalletLink} {client : Client}
    (built : Client.ofSettings settings given roles wallet = .ok client) {role : Role}
    (member : role ∈ roles) :
    ∃ tables site, given.elim settings.tables .ok = .ok tables ∧
      client.network.site? role = some site ∧ site.role = role ∧
      Deployments.ofRole role tables = .ok site.table := by
  obtain ⟨tables, sites, chosen, listed, rfl⟩ := ofSettings_parts built
  obtain ⟨named, tabled⟩ := sites_tables listed
  have present : ((Network.ofSites sites).slots.get? role).isSome = true := by
    refine OrderedMap.get?_ofList_isSome ?_
    rw [List.map_map]
    exact named ▸ member
  obtain ⟨slot, found⟩ := Option.isSome_iff_exists.1 present
  obtain ⟨site, isSite, rfl, rfl⟩ := ofSites_vacant found
  exact ⟨tables, site, chosen, by rw [Network.site?, found]; rfl, rfl, tabled site isSite⟩

/-- At first, no role has a binder. -/
theorem no_binder_built {settings : Settings} {given : Option Deployments.Tables}
    {roles : List Role} {wallet : WalletLink} {client : Client}
    (built : Client.ofSettings settings given roles wallet = .ok client) (role : Role)
    (binder : Binder) : client.network.binder role ≠ .ok binder := by
  obtain ⟨tables, sites, -, -, rfl⟩ := ofSettings_parts built
  intro known
  obtain ⟨site, -, -, vacant⟩ := ofSites_vacant (Network.get?_of_binder known)
  cases vacant

/-! ## Roles that are all bound read-only -/

theorem bindReadOnly_elsewhere {connect : Role → Option Failure} {home : Chain}
    {roles : List Role} {role : Role} (absent : role ∉ roles) (network : Network) :
    (bindReadOnly connect home roles network).network.slots.get? role =
      network.slots.get? role := by
  refine bindReadOnly_keeps (motive := fun later =>
    later.slots.get? role = network.slots.get? role) connect roles ?_ rfl
  intro later other member slot address _ same
  have different : other ≠ role := fun equal => absent (equal ▸ member)
  rw [Network.hold, OrderedMap.get?_insert, if_neg different, same]

/-- If all roles could be bound, each has the read-only binder that its slot calls for. -/
theorem bindReadOnly_bound {connect : Role → Option Failure} {home : Chain} {roles : List Role}
    (distinct : roles.Nodup) {network : Network}
    (through : (bindReadOnly connect home roles network).failure = none) {role : Role}
    (member : role ∈ roles) {slot : Slot} (found : network.slots.get? role = some slot) :
    ∃ address, slot.site.table.require (.int home) = .ok address ∧
      (bindReadOnly connect home roles network).network.binder role =
        .ok (slot.bindReadOnly home address) := by
  induction roles generalizing network with
  | nil => cases member
  | cons head rest inductionHypothesis =>
      obtain ⟨apart, distinct⟩ := List.nodup_cons.1 distinct
      cases here : network.slots.get? head with
      | none =>
          have later : role ∈ rest := by
            refine (List.mem_cons.1 member).resolve_left fun same => ?_
            rw [← same, found] at here
            cases here
          simp only [bindReadOnly, here] at through ⊢
          exact inductionHypothesis distinct through later found
      | some first =>
          simp only [bindReadOnly, here] at through ⊢
          cases decided : first.homeAddress home none with
          | error failure => simp [decided] at through
          | ok address =>
              cases connected : connect head with
              | some failure => simp [decided, connected] at through
              | none =>
                  simp only [decided, connected] at through ⊢
                  by_cases same : head = role
                  · subst same
                    cases here.symm.trans found
                    -- The other roles are different, so that the binder stays as it is.
                    refine ⟨address, decided, ?_⟩
                    rw [Network.binder, bindReadOnly_elsewhere apart, ← Network.binder]
                    exact network.binder_hold_self head _
                  · have later := (List.mem_cons.1 member).resolve_left (Ne.symm same)
                    refine inductionHypothesis distinct through later ?_
                    rw [Network.hold, OrderedMap.get?_insert, if_neg same, found]

end Client

end PackageStore
