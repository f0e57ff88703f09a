import WalletTrust.Proofs.Obtainable
import WalletTrust.Proofs.Store.RoundTrip
import WalletTrust.Startup

/-!
# Starting again

A startup goes by the administrator that the database names, and by the configured one only where it
names none. It normalises the database to the registry that it serves, so that every later startup
comes to the same registry and leaves the database as it is.
-/

namespace WalletTrust.Startup

open Store (Location Tables)

/-- The store of a startup, once its tables are there. -/
def opened (c : Configuration) (disk : Disk) : Except Failure Store :=
  connect c disk >>= fun s => s.created.answer.map fun _ => s.created.state

/-- What the database of a configuration holds; tables that are missing hold nothing. -/
def database (c : Configuration) (disk : Disk) : Except Failure Tables :=
  (connect c disk >>= Store.found).map (·.getD {})

/-- The administrator that a startup goes by. -/
def effectiveAdmin (c : Configuration) (t : Tables) : Value :=
  t.admin?.getD (.ofPoints c.adminAddress)

variable {c : Configuration} {disk : Disk} {s : Store} {t : Tables}

theorem connect_of_location {location : Location} (h : Location.ofUrl c.databaseUrl = .ok location)
    (disk : Disk) :
    connect c disk = .ok (Store.touched { url := c.databaseUrl, location, disk }) := by
  rw [connect, Store.connect, h]
  rfl

private theorem connect_eq_ok (h : connect c disk = .ok s) :
    Location.ofUrl c.databaseUrl = .ok s.location ∧ s.own? = none ∧ s.fault? = none := by
  obtain ⟨fresh, hfresh, rfl⟩ := map_ok h
  obtain ⟨location, hlocation, rfl⟩ := map_ok hfresh
  rw [Store.touched_location, Store.touched_own?, Store.touched_fault?]
  exact ⟨hlocation, rfl, rfl⟩

theorem opened_eq_ok (h : opened c disk = .ok s) :
    ∃ first, connect c disk = .ok first ∧ first.created.outcome = (s, .ok ()) := by
  obtain ⟨first, hfirst, hcreated⟩ := bind_ok h
  obtain ⟨_, hanswer, hstate⟩ := map_ok hcreated
  exact ⟨first, hfirst, Prod.ext hstate hanswer⟩

theorem opened_of_created {first : Store} (hfirst : connect c disk = .ok first)
    (h : first.created.outcome = (s, .ok ())) : opened c disk = .ok s := by
  rw [opened, hfirst]
  show first.created.answer.map _ = _
  rw [Effect.answer_eq h, Effect.state_eq h]
  rfl

/-- A place that stores have in common is for the next store what it was for the last one. -/
theorem connect_shared (hlocation : Location.ofUrl c.databaseUrl = .ok s.location)
    (hshared : s.IsShared) (hsound : s.fault? = none) :
    ∃ next, connect c s.disk = .ok next ∧ next.found = s.found ∧
      next.isWritable = s.isWritable ∧ next.location = s.location ∧ next.fault? = none := by
  obtain ⟨place, access, hplace⟩ := hshared
  refine ⟨_, connect_of_location hlocation s.disk, ?_, ?_, Store.touched_location _,
    Store.touched_fault? _⟩
  · rw [Store.found_touched]
    simp only [Store.found, Store.strike, Store.content, hplace, hsound]
  · rw [Store.isWritable_touched]
    simp only [Store.isWritable, hplace]

theorem database_of_shared (hlocation : Location.ofUrl c.databaseUrl = .ok s.location)
    (hshared : s.IsShared) (hsound : s.fault? = none) (hfound : s.found = .ok (some t)) :
    database c s.disk = .ok t := by
  obtain ⟨next, hnext, hsame, -⟩ := connect_shared hlocation hshared hsound
  simp [database, hnext, hsame, hfound, bind, Except.bind, Except.map]

/-- Opening a database creates tables that hold nothing and leaves others as they are. -/
theorem opened_spec (hopened : opened c disk = .ok s) (hdatabase : database c disk = .ok t) :
    s.found = .ok (some t) ∧ Location.ofUrl c.databaseUrl = .ok s.location ∧
      s.fault? = none ∧ database c s.disk = .ok t := by
  obtain ⟨first, hfirst, hcreated⟩ := opened_eq_ok hopened
  obtain ⟨hlocation, hown, hsound⟩ := connect_eq_ok hfirst
  obtain ⟨found?, hfound, hnow, hsame, hdriver⟩ := Store.created_eq_ok hcreated
  have ht : found?.getD {} = t := by
    simpa [database, hfirst, hfound, bind, Except.bind, Except.map] using hdatabase
  rw [ht] at hnow
  rw [← hsame] at hlocation
  have hdriver' : s.fault? = none := hdriver.trans hsound
  refine ⟨hnow, hlocation, hdriver', ?_⟩
  cases hplace : s.location with
  | shared place access => exact database_of_shared hlocation ⟨place, access, hplace⟩ hdriver' hnow
  | own pooled writable =>
    -- memory of one store alone is empty for every new store
    rw [hsame] at hplace
    rw [Store.found_of_sound hsound] at hfound
    simp only [Store.content, hplace, hown, Except.ok.injEq] at hfound
    subst hfound
    rw [hsame, hplace] at hlocation
    rw [← ht, database, connect_of_location hlocation]
    rfl
  | unreachable f =>
    rw [Store.found_of_sound hdriver'] at hnow
    simp only [Store.content, hplace] at hnow
    cases hnow

private theorem restore_of_error {f : Failure}
    (hload : (s.loadRegistry (.ofPoints c.adminAddress)).answer = .error f) :
    (restore c s).outcome = (s, .error f) := by
  refine Process.bind_of_error ?_ _
  rw [Process.ask_apply, hload]
  rfl

private theorem restore_of_ok {r : Registry} {left : Store}
    (hload : (s.loadRegistry (.ofPoints c.adminAddress)).answer = .ok r)
    (hleft : (s.saveSnapshot r.snapshot).outcome = (left, .ok ())) :
    (restore c s).outcome = (left, .ok r) := by
  have hasked : (Process.ask (fun s : Store => s.loadRegistry (.ofPoints c.adminAddress)) s).outcome
      = (s, .ok r) := by
    rw [Process.ask_apply, hload]
    rfl
  rw [restore, Process.bind_of_ok hasked]
  exact Process.bind_of_ok hleft _

theorem restore_eq_ok {r : Registry} {left : Store} (h : (restore c s).outcome = (left, .ok r)) :
    (s.loadRegistry (.ofPoints c.adminAddress)).answer = .ok r ∧
      (s.saveSnapshot r.snapshot).outcome = (left, .ok ()) := by
  obtain ⟨loaded, mid, hload, hrest⟩ := Process.bind_ok h
  obtain ⟨_, last, hsaved, hlast⟩ := Process.bind_ok hrest
  obtain rfl : s = mid := congrArg Prod.fst hload
  obtain rfl : last = left := congrArg Prod.fst hlast
  obtain rfl : loaded = r := Except.ok.inj (congrArg Prod.snd hlast)
  exact ⟨congrArg Prod.snd hload, hsaved⟩

private theorem stored_outcome {first : Store} (hcreated : first.created.outcome = (s, .ok ())) :
    (stored c first).outcome = (restore c s).outcome := by
  have hinitialised := first.initialise_outcome.trans hcreated
  rw [stored, Process.bind_of_ok hinitialised, Process.bind_apply]
  generalize restore c s = e
  obtain ⟨answer, left, log⟩ := e
  cases answer <;> rfl

/-- Once the tables are there, a startup is a restore. -/
theorem run_of_opened (hpersist : c.persist = true) (hopened : opened c disk = .ok s) :
    (run c disk).1.answer = (restore c s).answer.map (fun registry =>
        { registry, store? := some (restore c s).state }) ∧
      (run c disk).2 = (restore c s).state.disk := by
  obtain ⟨first, hfirst, hcreated⟩ := opened_eq_ok hopened
  have hstored := stored_outcome (c := c) hcreated
  simp only [run, hpersist, if_true, hfirst, ofStore, Effect.answer_eq hstored,
    Effect.state_eq hstored]
  exact ⟨rfl, rfl⟩

private theorem run_of_restored (hpersist : c.persist = true) (hopened : opened c disk = .ok s)
    {r : Registry} {left : Store} (h : (restore c s).outcome = (left, .ok r)) :
    (run c disk).1.answer = .ok { registry := r, store? := some left } ∧
      (run c disk).2 = left.disk := by
  obtain ⟨hanswer, hdisk⟩ := run_of_opened hpersist hopened
  rw [hanswer, hdisk, Effect.answer_eq h, Effect.state_eq h]
  exact ⟨rfl, rfl⟩

theorem restored_of_run (hpersist : c.persist = true) (hopened : opened c disk = .ok s)
    {startup : Startup} (h : (run c disk).1.answer = .ok startup) :
    ∃ left, (restore c s).outcome = (left, .ok startup.registry) ∧ startup.store? = some left ∧
      (run c disk).2 = left.disk := by
  obtain ⟨hanswer, hdisk⟩ := run_of_opened hpersist hopened
  rw [hanswer] at h
  obtain ⟨r, hr, rfl⟩ := map_ok h
  exact ⟨_, Prod.ext rfl hr, rfl, hdisk⟩

/-- The administrator of a registry that is loaded is the effective one. -/
theorem admin_of_loadRegistry (hfound : s.found = .ok (some t)) {r : Registry}
    (h : (s.loadRegistry (.ofPoints c.adminAddress)).answer = .ok r) :
    .text r.admin = effectiveAdmin c t := by
  obtain ⟨t', ht', hloaded⟩ := Store.loadRegistry_eq_ok h
  obtain rfl := Store.tables_eq_ok hfound ht'
  rcases hloaded with ⟨hnone, hcreate⟩ | ⟨snapshot, dropped, hsome, hrestore⟩
  · rw [effectiveAdmin, Tables.admin?_of_snapshot? hnone]
    exact (Registry.create_eq_ok hcreate).1.symm
  · rw [effectiveAdmin, Tables.admin?_of_snapshot? hsome]
    rw [Registry.restore_answer] at hrestore
    obtain ⟨created, hcreate, rfl⟩ := map_ok hrestore
    exact (Registry.create_eq_ok hcreate).1.symm

/-- A database that can be read makes no registry for a bad administrator. -/
theorem loadRegistry_of_bad_admin (hfound : s.found = .ok (some t)) {found? : Option Snapshot}
    (hload : s.load.answer = .ok found?) (hadmin : ¬ (effectiveAdmin c t).IsAddress) :
    (s.loadRegistry (.ofPoints c.adminAddress)).answer =
      .error (Registry.badAdmin (effectiveAdmin c t)) := by
  have hread := hload
  rw [Store.load_answer, Store.tables_of_found hfound] at hread
  obtain ⟨stored?, hstored, rfl⟩ := map_ok hread
  have hnamed := Tables.admin?_of_snapshot? hstored
  rw [Store.loadRegistry_answer, hload]
  unfold effectiveAdmin at hadmin ⊢
  cases stored? with
  | none =>
    rw [hnamed] at hadmin ⊢
    exact Registry.create_of_not_isAddress hadmin
  | some stored =>
    rw [hnamed] at hadmin ⊢
    exact Registry.restore_of_not_isAddress hadmin

/-- A store as a startup leaves it: its database holds the registry in the tables that are written
for it. -/
structure Settled (c : Configuration) (r : Registry) (t : Tables) (s : Store) : Prop where
  location : Location.ofUrl c.databaseUrl = .ok s.location
  offers : s.Offers t
  wellFormed : r.WellFormed
  holds : t.Holds r
  written : Tables.ofSnapshot r.snapshot = .ok t

/-- A startup settles the database, whatever was in it. -/
theorem settled_after_run (hpersist : c.persist = true) (hopened : opened c disk = .ok s)
    (hlocation : Location.ofUrl c.databaseUrl = .ok s.location) (hfound : s.found = .ok (some t))
    (hsound : s.fault? = none) (hkeys : (t.rows.map (·.wallet)).Nodup) {startup : Startup}
    (h : (run c disk).1.answer = .ok startup) :
    ∃ left held, startup.store? = some left ∧ (run c disk).2 = left.disk ∧
      left.location = s.location ∧ Settled c startup.registry held left := by
  obtain ⟨left, hrestored, hstore, hdisk⟩ := restored_of_run hpersist hopened h
  obtain ⟨hload, hsaved⟩ := restore_eq_ok hrestored
  have hrows : ∀ t', s.tables = .ok t' → (t'.rows.map (·.wallet)).Nodup := by
    intro t' ht'
    rw [Store.tables_eq_ok hfound ht']
    exact hkeys
  have htyped := Store.isTyped_loadRegistry hrows hload
  obtain ⟨old, held, -, hwritable, hheld, rfl⟩ := Store.saveSnapshot_eq_ok hsaved
  have hoffers : s.Offers t := ⟨hfound, hwritable, hsound⟩
  have hplace := Store.put_location s (some held)
  rw [← hplace] at hlocation
  have hholds := ((Tables.ofSnapshot_eq_ok_iff_fits htyped).1 hheld).2
  exact ⟨_, held, hstore, hdisk, hplace, hlocation, hoffers.put held,
    Store.wellFormed_loadRegistry hrows hload, hholds, hheld⟩

/-- A startup on a settled database comes to the registry that it holds and writes the same tables
again, whoever is configured for an administrator. -/
theorem Settled.run {r : Registry} (h : Settled c r t s) (hshared : s.IsShared)
    (hpersist : c.persist = true) :
    (∃ again, (run c s.disk).1.answer = .ok again ∧ again.registry = r) ∧
      database c (run c s.disk).2 = .ok t := by
  obtain ⟨next, hnext, hsame, hopen, hplace, hsound⟩ :=
    connect_shared h.location hshared h.offers.sound
  have hoffers : next.Offers t :=
    ⟨hsame.trans h.offers.found, hopen.trans h.offers.writable, hsound⟩
  have hopened : opened c s.disk = .ok next :=
    opened_of_created hnext (Store.created_of_found hoffers.found)
  have hload : (next.loadRegistry (.ofPoints c.adminAddress)).answer = .ok r :=
    (Store.load_of_holds h.wellFormed hoffers.found h.holds).2 _
  have hrestored := restore_of_ok hload (hoffers.saveSnapshot_of_ok h.written)
  obtain ⟨hanswer, hdisk⟩ := run_of_restored hpersist hopened hrestored
  have hagain : (next.put (some t)).location = s.location := by
    rw [Store.put_location, hplace]
  refine ⟨⟨_, hanswer, rfl⟩, ?_⟩
  rw [hdisk]
  refine database_of_shared ?_ ?_ (hoffers.put t).sound (hoffers.put t).found
  · rw [hagain, h.location]
  · rwa [Store.IsShared, hagain]

/-- The administrator that the database names comes before the configured one. If it has no valid
address, the startup fails for this reason and the program ends, and the database stays as it was.
If a startup succeeds, the database holds its registry, and whoever is configured for an
administrator afterwards, the next startup comes to the same registry and to the same tables. -/
theorem startup_normalises_once (hpersist : c.persist = true) (hopened : opened c disk = .ok s)
    (hdatabase : database c disk = .ok t) (hkeys : (t.rows.map (·.wallet)).Nodup) :
    let admin := effectiveAdmin c t
    let first := run c disk
    (¬ admin.IsAddress → (∃ found?, s.load.answer = .ok found?) →
      first.1.answer = .error (Registry.badAdmin admin) ∧ database c first.2 = .ok t ∧
        ∀ env, Configuration.ofEnvironment env = c →
          (launch env disk).1.answer = .error (.exit 1)) ∧
      ∀ startup, first.1.answer = .ok startup →
        .text startup.registry.admin = admin ∧
        ∃ store held, startup.store? = some store ∧ store.found = .ok (some held) ∧
          held.Holds startup.registry ∧
          store.load.answer = .ok (some startup.registry.snapshot) ∧
          (s.IsShared → database c first.2 = .ok held ∧
            ∀ c' : Configuration, c'.persist = true → c'.databaseUrl = c.databaseUrl →
              let second := run c' first.2
              (∃ again, second.1.answer = .ok again ∧ again.registry = startup.registry) ∧
                database c' second.2 = .ok held) := by
  intro admin first
  obtain ⟨hfound, hlocation, hsound, hkept⟩ := opened_spec hopened hdatabase
  refine ⟨?_, ?_⟩
  · rintro hadmin ⟨found?, hload⟩
    -- the failure comes before anything is saved
    have hbad := loadRegistry_of_bad_admin hfound hload hadmin
    have hrestored := restore_of_error hbad
    obtain ⟨hrun, hdisk⟩ := run_of_opened hpersist hopened
    have hanswer : (run c disk).1.answer = .error (Registry.badAdmin admin) := by
      rw [hrun, Effect.answer_eq hrestored]
      rfl
    refine ⟨hanswer, ?_, ?_⟩
    · rw [hdisk, Effect.state_eq hrestored, hkept]
    · rintro env rfl
      simp only [launch, hanswer, Registry.badAdmin]
  · intro startup hstartup
    obtain ⟨_, hrestored, -⟩ := restored_of_run hpersist hopened hstartup
    have hadmin := admin_of_loadRegistry hfound (restore_eq_ok hrestored).1
    obtain ⟨left, held, hstore, hdisk, hplace, hsettled⟩ :=
      settled_after_run hpersist hopened hlocation hfound hsound hkeys hstartup
    have hnow := hsettled.offers.found
    have hloaded := (Store.load_of_holds hsettled.wellFormed hnow hsettled.holds).1
    refine ⟨hadmin, left, held, hstore, hnow, hsettled.holds, hloaded, fun hshared => ?_⟩
    have hleft : left.IsShared := by rwa [Store.IsShared, hplace]
    refine ⟨?_, fun c' hpersist' hurl => ?_⟩
    · rw [hdisk]
      exact database_of_shared hsettled.location hleft hsettled.offers.sound hnow
    · rw [hdisk]
      -- what is settled depends on the configuration only through the place of the database
      have hagain : Settled c' startup.registry held left :=
        { hsettled with location := by rw [hurl, hsettled.location] }
      exact hagain.run hleft hpersist'

/-- A configuration of a file without an administrator. -/
def unconfigured : Configuration where
  adminAddress := []
  databaseUrl := Text.toPoints "sqlite:///turboauth.db"
  apiHost := Text.toPoints "0.0.0.0"
  apiPort := 8000
  persist := true

/-- Tables with a row that can be kept, a row of an unknown status, a row of a malformed wallet and
a malformed pointer. -/
def worn : Tables where
  rows :=
    [⟨.text (Address.repeating 'B'), .text " active ", .integer 75, .integer 7⟩,
      ⟨.text (Address.repeating 'C'), .text "gone", .integer 75, .integer 7⟩,
      ⟨.text "malformed", .text "BLOCKED", .integer 0, .integer 7⟩]
  properties :=
    [(.text "admin_address", .text (Address.repeating 'A')),
      (.text "next_contract_address", .text "malformed")]

def wornFile : Store.Place := .file (.ofName "turboauth.db")

def wornDisk : Disk := [(wornFile, .tables worn)]

/-- Whether an address leads to a place that is opened as places are by default. -/
def leadsTo (place : Store.Place) : Except Failure Location → Bool
  | .ok (.shared other access) => other == place && access == {}
  | _ => false

private theorem eq_of_leadsTo {place : Store.Place} {location : Except Failure Location}
    (h : leadsTo place location = true) : location = .ok (.shared place {}) := by
  unfold leadsTo at h
  split at h
  · obtain ⟨hplace, haccess⟩ := Bool.and_eq_true_iff.1 h
    rw [eq_of_beq hplace, eq_of_beq haccess]
  · cases h

theorem location_unconfigured :
    Location.ofUrl unconfigured.databaseUrl = .ok (.shared wornFile {}) := by
  have hhere : leadsTo wornFile (Location.ofUrl unconfigured.databaseUrl) = true := by
    decide +kernel
  exact eq_of_leadsTo hhere

private theorem opened_unconfigured : ∃ s, opened unconfigured wornDisk = .ok s ∧ s.IsShared ∧
    database unconfigured wornDisk = .ok worn := by
  have hconnect := connect_of_location location_unconfigured wornDisk
  let s : Store :=
    { url := unconfigured.databaseUrl, location := .shared wornFile {}, disk := wornDisk }
  have hfound : s.touched.found = .ok (some worn) := by
    rw [Store.found_touched]
    rfl
  refine ⟨s.touched, ?_, ⟨wornFile, {}, s.touched_location⟩, ?_⟩
  · exact opened_of_created hconnect (Store.created_of_found hfound)
  · rw [database, hconnect]
    exact congrArg (Except.map fun found? : Option Tables => found?.getD {}) hfound

theorem startup_normalises_once_worn :
    ∃ startup, (run unconfigured wornDisk).1.answer = .ok startup ∧
      startup.registry.admin = Address.repeating 'A' ∧
      ∃ again,
        (run { unconfigured with adminAddress := Text.toPoints "nobody" }
          (run unconfigured wornDisk).2).1.answer = .ok again ∧
        again.registry = startup.registry := by
  have hsucceeds : (run unconfigured wornDisk).1.answer.toOption.isSome = true := by
    decide +kernel
  obtain ⟨startup, hstartup⟩ := exists_ok hsucceeds
  obtain ⟨s, hopened, hshared, hdatabase⟩ := opened_unconfigured
  have hkeys : (worn.rows.map (·.wallet)).Nodup := by decide +kernel
  obtain ⟨hadmin, store, held, -, -, -, -, hagain⟩ :=
    (startup_normalises_once rfl hopened hdatabase hkeys).2 startup hstartup
  have hnamed : effectiveAdmin unconfigured worn = .text (Address.repeating 'A') := by
    have hproperty : worn.property? Tables.adminKey = some (.text (Address.repeating 'A')) := by
      simp [Tables.property?, Tables.hasIntactProperties, worn, Tables.adminKey,
        Store.Cell.isIntact, Store.Cell.toValue]
    have haddress : IsAddress (Address.repeating 'A') := Address.isAddress_repeating (by decide)
    simp [effectiveAdmin, Tables.admin?, hproperty, Registry.isEmpty_address haddress]
  refine ⟨startup, hstartup, ?_, ?_⟩
  · rw [hnamed] at hadmin
    exact Value.text.inj hadmin
  · obtain ⟨-, hlater⟩ := hagain hshared
    exact (hlater { unconfigured with adminAddress := Text.toPoints "nobody" } rfl rfl).1

end WalletTrust.Startup
