import WalletTrust.Proofs.Session.Replacement

/-!
# Rows that are restored

Rows go through two filters: one drops those whose status cannot be read, the other drops those of a
malformed wallet or score. Each filter reports how many it dropped, and what passes both is what the
registry holds.
-/

namespace WalletTrust.Store

namespace Row

/-- A row that can be read, with integers for its score and its time. -/
def HasIntegers (row : Row) : Prop :=
  row.isIntact = true ∧
    ∃ score time : Int, row.trustScore = .integer score ∧ row.updatedAt = .integer time

def isSound (row : Row) : Bool :=
  (Address.ofValue? row.wallet.toValue).isSome && Score.isValid row.trustScore.toValue

def isKept (row : Row) : Bool := row.isReadable && row.isSound

/-- An entry that has the wallet, the status, the score and the time of a row. -/
structure Restores (row : Row) (entry : String × Record) : Prop where
  wallet : row.wallet = .text entry.1 ∧ IsAddress entry.1
  status : ∃ m, Status.ofValue row.status.toValue = .ok m ∧ entry.2.status = .status m
  score : ∃ score : Int, row.trustScore = .integer score ∧ entry.2.trustScore = .int score ∧
    0 ≤ score ∧ score ≤ 100
  time : ∃ time : Int, row.updatedAt = .integer time ∧ entry.2.updatedAt = .int time

/-- What is loaded of a row whose status can be read. -/
def entry (row : Row) : Value × Record :=
  (row.wallet.toValue,
    { status := .status ((Status.ofValue row.status.toValue).toOption.getD .unknown)
      trustScore := row.trustScore.toValue
      updatedAt := row.updatedAt.toValue })

private theorem recordOf_eq {row : Row} (hread : row.isReadable = true) (h : row.HasIntegers) :
    Tables.recordOf row = .ok (some row.entry.2) := by
  obtain ⟨m, hm⟩ := exists_ok hread
  obtain ⟨-, score, time, hscore, htime⟩ := h
  simp only [Tables.recordOf, entry, hm, hscore, htime]
  rfl

private theorem admissible?_entry_of_unsound {row : Row} (h : row.isSound = false) :
    Registry.admissible? row.entry = none := by
  unfold Registry.admissible? entry
  unfold isSound at h
  cases hw : Address.ofValue? row.wallet.toValue with
  | none => rfl
  | some wallet =>
    rw [hw, Option.isSome_some, Bool.true_and] at h
    simp [h]

theorem isSound_iff {row : Row} :
    row.isSound = true ↔ ∃ wallet score, row.wallet = .text wallet ∧ IsAddress wallet ∧
      row.trustScore = .integer score ∧ 0 ≤ score ∧ score ≤ 100 := by
  constructor
  · intro h
    obtain ⟨haddress, hvalid⟩ := Bool.and_eq_true_iff.1 h
    obtain ⟨wallet, hw⟩ := Option.isSome_iff_exists.1 haddress
    obtain ⟨htext, hletters⟩ := Address.ofValue?_eq_some_iff.1 hw
    obtain ⟨score, hscore, hrange⟩ := Score.isValid_iff.1 hvalid
    exact ⟨wallet, score, eq_text_of_toValue htext, Address.isValid_iff.1 hletters,
      eq_integer_of_toValue hscore, hrange⟩
  · rintro ⟨wallet, score, hwallet, haddress, hscore, hrange⟩
    have hvalid : Score.isValid (.int score) = true := Score.isValid_iff.2 ⟨score, rfl, hrange⟩
    simp [isSound, hwallet, hscore, Cell.toValue, Address.ofValue?_text, haddress, hvalid]

theorem exists_admissible?_entry {row : Row} (hread : row.isReadable = true)
    (hsound : row.isSound = true) (h : row.HasIntegers) :
    ∃ kept, Registry.admissible? row.entry = some kept ∧ row.Restores kept := by
  obtain ⟨m, hm⟩ := exists_ok hread
  obtain ⟨wallet, score, hwallet, haddress, hscore, hrange⟩ := isSound_iff.1 hsound
  obtain ⟨-, -, time, -, htime⟩ := h
  have hentry : row.entry = (.text wallet, ⟨.status m, .int score, .int time⟩) := by
    simp only [entry, hwallet, hm, hscore, htime]
    rfl
  have hvalid : Score.isValid (.int score) = true := Score.isValid_iff.2 ⟨score, rfl, hrange⟩
  refine ⟨(wallet, ⟨.status m, .int score, .int time⟩), ?_, ⟨hwallet, haddress⟩, ⟨m, hm, rfl⟩,
    ⟨score, hscore, rfl, hrange⟩, ⟨time, htime, rfl⟩⟩
  simp [Registry.admissible?, hentry, Address.ofValue?_text, haddress, hvalid]

private theorem isKept_iff {row : Row} (h : row.HasIntegers) :
    row.isKept = true ↔ ∃ entry, row.Restores entry := by
  constructor
  · intro hkept
    obtain ⟨hread, hsound⟩ := Bool.and_eq_true_iff.1 hkept
    obtain ⟨kept, -, hrestores⟩ := exists_admissible?_entry hread hsound h
    exact ⟨kept, hrestores⟩
  · rintro ⟨kept, hrestores⟩
    obtain ⟨hwallet, haddress⟩ := hrestores.wallet
    obtain ⟨m, hm, -⟩ := hrestores.status
    obtain ⟨score, hscore, -, hrange⟩ := hrestores.score
    have hread : row.isReadable = true := by
      rw [isReadable, hm]
      rfl
    have hsound : row.isSound = true :=
      isSound_iff.2 ⟨kept.1, score, hwallet, haddress, hscore, hrange⟩
    rw [isKept, hread, hsound]
    rfl

end Row

def unreadRows (rows : List Row) : Nat := rows.countP (!·.isReadable)

/-- The rows that only the second filter drops. -/
def unsoundRows (rows : List Row) : Nat := rows.countP fun row => row.isReadable && !row.isSound

theorem records_of_hasIntegers {t : Tables} (h : ∀ row ∈ t.rows, row.HasIntegers) :
    t.records = .ok ((t.rows.filter Row.isReadable).map Row.entry, unreadRows t.rows) := by
  rw [Tables.records_of_isIntact (List.all_eq_true.2 fun row hrow => (h row hrow).1)]
  refine Tables.recordsOf_eq_ok_iff.2 ⟨?_, rfl⟩
  rw [List.forall₂_map_right_iff, List.forall₂_same]
  intro row hrow
  obtain ⟨hmem, hread⟩ := List.mem_filter.1 hrow
  exact ⟨rfl, Row.recordOf_eq hread (h row hmem)⟩

/-- The filters may be joined. -/
theorem filterMap_entry_filter (rows : List Row) :
    ((rows.filter Row.isReadable).map Row.entry).filterMap Registry.admissible? =
      (rows.filter Row.isKept).filterMap fun row => Registry.admissible? row.entry := by
  rw [List.filterMap_map]
  -- a row that cannot be read is gone already, and the second filter has none for an unsound one
  induction rows with
  | nil => rfl
  | cons row rows ih =>
    cases hread : row.isReadable with
    | false => simpa [Row.isKept, hread] using ih
    | true =>
      cases hsound : row.isSound with
      | false => simpa [Row.isKept, hread, hsound, Row.admissible?_entry_of_unsound] using ih
      | true =>
        have hkept : row.isKept = true := by simp [Row.isKept, hread, hsound]
        rw [List.filter_cons_of_pos hread, List.filter_cons_of_pos hkept, List.filterMap_cons,
          List.filterMap_cons, ih]
        rfl

private theorem forall₂_filterMap {α β : Type} {R : α → β → Prop} {f : α → Option β} {l : List α}
    (h : ∀ a ∈ l, ∃ b, f a = some b ∧ R a b) : List.Forall₂ R l (l.filterMap f) := by
  induction l with
  | nil => exact .nil
  | cons a l ih =>
    rw [List.forall_mem_cons] at h
    obtain ⟨⟨b, hb, hab⟩, hrest⟩ := h
    rw [List.filterMap_cons_some hb]
    exact .cons hab (ih hrest)

/-- What passes both filters are the rows that can be kept, in their order. -/
theorem forall₂_filterMap_entry {rows : List Row} (h : ∀ row ∈ rows, row.HasIntegers) :
    List.Forall₂ Row.Restores (rows.filter Row.isKept)
      (((rows.filter Row.isReadable).map Row.entry).filterMap Registry.admissible?) := by
  rw [filterMap_entry_filter]
  refine forall₂_filterMap ?_
  intro row hrow
  obtain ⟨hmem, hkept⟩ := List.mem_filter.1 hrow
  obtain ⟨hread, hsound⟩ := Bool.and_eq_true_iff.1 hkept
  exact Row.exists_admissible?_entry hread hsound (h row hmem)

theorem length_filter_isReadable (rows : List Row) :
    (rows.filter Row.isReadable).length =
      unsoundRows rows + (rows.filter Row.isKept).length := by
  induction rows with
  | nil => rfl
  | cons row rows ih =>
    simp only [unsoundRows] at ih ⊢
    cases hread : row.isReadable <;> cases hsound : row.isSound <;>
      simp [Row.isKept, hread, hsound] at ih ⊢ <;> omega

/-- Every row is dropped by one of the filters or kept. -/
theorem length_eq_of_filters (rows : List Row) :
    unreadRows rows + unsoundRows rows + (rows.filter Row.isKept).length = rows.length := by
  have hread := length_filter_isReadable rows
  have hrows := List.length_eq_countP_add_countP Row.isReadable (l := rows)
  rw [List.countP_eq_length_filter] at hrows
  simp only [unreadRows, Bool.not_eq_true, Bool.decide_eq_false] at hrows ⊢
  omega

/-- The records that the first filter leaves, with the administrator and the pointer. -/
def Tables.filtered (t : Tables) (admin : String) : Snapshot :=
  let next := (t.property? Tables.nextKey).getD (.text "")
  { admin := .text admin
    next := if next.isEmpty then .text "" else next
    records := (t.rows.filter Row.isReadable).map Row.entry }

variable {s : Store} {t : Tables} {admin : String}

private theorem Tables.isIntact_of_property? {key : String} {v : Value}
    (h : t.property? key = some v) :
    t.hasIntactProperties = true := by
  unfold Tables.property? at h
  split at h
  · assumption
  · cases h

/-- Where tables name an administrator, whether they can be read depends on their rows alone. -/
theorem snapshot?_of_admin (hadmin : t.property? Tables.adminKey = some (.text admin))
    (haddress : IsAddress admin) :
    t.snapshot? = t.records.map fun kept =>
      some ({ t.filtered admin with records := kept.1 }, kept.2) := by
  have hnamed : t.admin? = some (.text admin) := by
    simp [Tables.admin?, hadmin, Registry.isEmpty_address haddress]
  rw [Tables.snapshot?, hnamed, Tables.checkIntact, Tables.isIntact_of_property? hadmin]
  cases t.records <;> rfl

theorem load_of_admin (hfound : s.found = .ok (some t))
    (hadmin : t.property? Tables.adminKey = some (.text admin)) (haddress : IsAddress admin) :
    s.load = match t.records with
      | .error f => .fail f
      | .ok (records, dropped) =>
        ⟨.ok (some { t.filtered admin with records }), droppedEntries dropped⟩ := by
  unfold load
  rw [tables_of_found hfound]
  simp only [bind, Except.bind, snapshot?_of_admin hadmin haddress]
  cases t.records with
  | error f => rfl
  | ok kept => simp [Logged.ofExcept, Logged.tell, Except.map, Logged.andThen]

/-- The registry that both filters leave. -/
def Tables.restored (t : Tables) (admin : String) : Registry where
  admin := admin
  next := (Address.ofValue? (t.filtered admin).next).getD ""
  records := (t.filtered admin).records.filterMap Registry.admissible?

def restoredEntry (snapshot : Snapshot) : Log.Entry :=
  entry .info "registry_restored"
    [("wallets", .int snapshot.records.length), ("has_next_contract", .bool !snapshot.next.isEmpty)]

def Tables.restoredLog (t : Tables) (admin : String) : List Log.Entry :=
  droppedEntries (unreadRows t.rows) ++
    restoredEntry (t.filtered admin) ::
      ((Registry.admissibleNext (t.filtered admin).next).log ++
        Registry.droppedEntries (unsoundRows t.rows))

theorem loadRegistry_eq (hfound : s.found = .ok (some t))
    (hadmin : t.property? Tables.adminKey = some (.text admin)) (haddress : IsAddress admin)
    (h : ∀ row ∈ t.rows, row.HasIntegers) (default : Value) :
    s.loadRegistry default = ⟨.ok (t.restored admin), t.restoredLog admin⟩ := by
  have hload : s.load = ⟨.ok (some (t.filtered admin)), droppedEntries (unreadRows t.rows)⟩ := by
    rw [load_of_admin hfound hadmin haddress, records_of_hasIntegers h]
    rfl
  have hkept := (forall₂_filterMap_entry h).length_eq
  have hcount : (t.filtered admin).records.length -
      ((t.filtered admin).records.filterMap Registry.admissible?).length = unsoundRows t.rows := by
    have hlength := length_filter_isReadable t.rows
    simp only [Tables.filtered, List.length_map]
    omega
  have hnamed : (t.filtered admin).admin = .text admin := rfl
  have hrestored := Registry.restore_eq haddress hnamed
  simp only [hcount] at hrestored
  unfold loadRegistry
  rw [hload]
  simp only [Logged.bind_ok, hrestored, Logged.tell]
  rfl

theorem ofValue?_filtered_next (t : Tables) (admin : String) :
    Address.ofValue? (t.filtered admin).next =
      (t.property? Tables.nextKey).bind Address.ofValue? := by
  unfold Tables.filtered
  cases t.property? Tables.nextKey with
  | none => rfl
  | some next =>
    cases hempty : next.isEmpty with
    | true => simpa [hempty, Registry.ofValue?_of_isEmpty hempty] using
        Registry.ofValue?_of_isEmpty (v := .text "") rfl
    | false => simp [hempty]

/-- What becomes of tables that name a valid administrator, and what is logged about it. -/
structure Tables.RestoresTo (t : Tables) (admin : String) (r : Registry) (log : List Log.Entry) :
    Prop where
  admin : r.admin = admin
  next : ∀ next, t.property? Tables.nextKey = some (.text next) →
    r.next = if IsAddress next then next else ""
  noNext : t.property? Tables.nextKey = none → r.next = ""
  records : List.Forall₂ Row.Restores (t.rows.filter Row.isKept) r.records
  kept : ∀ row ∈ t.rows, row.isKept = true ↔ ∃ entry, row.Restores entry
  size : unreadRows t.rows + unsoundRows t.rows + r.size = t.rows.length
  unread : log.filter (·.event == "registry_rows_dropped") =
    if unreadRows t.rows = 0 then [] else
      [{ source := .store, level := .warning, event := "registry_rows_dropped"
         fields := [("reason", .text "invalid_status"), ("dropped", .int (unreadRows t.rows))] }]
  unsound : log.filter (·.event == "snapshot_records_dropped") =
    if unsoundRows t.rows = 0 then [] else
      [{ source := .registry, level := .warning, event := "snapshot_records_dropped"
         fields := [("dropped", .int (unsoundRows t.rows))] }]
  unobserved : ∀ e ∈ log, e.source ≠ .observer

theorem restoresTo_restored (admin : String) (h : ∀ row ∈ t.rows, row.HasIntegers) :
    t.RestoresTo admin (t.restored admin) (t.restoredLog admin) where
  admin := rfl
  next := by
    intro next hnext
    rw [Tables.restored, ofValue?_filtered_next, hnext, Option.bind_some, Address.ofValue?_text]
    split <;> rfl
  noNext := by
    intro hnext
    rw [Tables.restored, ofValue?_filtered_next, hnext]
    rfl
  records := forall₂_filterMap_entry h
  kept := fun row hrow => Row.isKept_iff (h row hrow)
  size := by
    have hkept := (forall₂_filterMap_entry h).length_eq
    have hrows := length_eq_of_filters t.rows
    rw [hkept] at hrows
    exact hrows
  unread := by
    unfold Tables.restoredLog droppedEntries Registry.droppedEntries restoredEntry
    rcases Registry.admissibleNext_log (t.filtered admin).next with hlog | hlog <;> rw [hlog] <;>
      split <;> split <;> rfl
  unsound := by
    unfold Tables.restoredLog droppedEntries Registry.droppedEntries restoredEntry
    rcases Registry.admissibleNext_log (t.filtered admin).next with hlog | hlog <;> rw [hlog] <;>
      split <;> split <;> rfl
  unobserved := by
    unfold Tables.restoredLog droppedEntries Registry.droppedEntries restoredEntry
    rcases Registry.admissibleNext_log (t.filtered admin).next with hlog | hlog <;> rw [hlog] <;>
      split <;> split <;> simp [entry]

theorem Tables.property?_eq_of_properties {t' : Tables} (h : t'.properties = t.properties)
    (key : String) : t'.property? key = t.property? key := by
  rw [Tables.property?, Tables.property?, Tables.hasIntactProperties, Tables.hasIntactProperties, h]

/-- Tables whose kept rows and properties are the same restore the same registry. -/
theorem restored_eq {t' : Tables} (hproperties : t'.properties = t.properties)
    (hkept : t'.rows.filter Row.isKept = t.rows.filter Row.isKept) (admin : String) :
    t'.restored admin = t.restored admin := by
  have hnext : t'.property? Tables.nextKey = t.property? Tables.nextKey := by
    rw [Tables.property?_eq_of_properties hproperties]
  have hrecords : (t'.filtered admin).records.filterMap Registry.admissible? =
      (t.filtered admin).records.filterMap Registry.admissible? := by
    simp only [Tables.filtered, filterMap_entry_filter, hkept]
  rw [Tables.restored, Tables.restored, hrecords, ofValue?_filtered_next, ofValue?_filtered_next,
    hnext]

/-- From tables with a valid administrator and with integers for scores and times, loading makes the
registry of the rows that can be kept, and reports the others, each in one of two counts. The
registry depends on the other rows in no way, and nobody who observes registries hears of it. -/
theorem loading_keeps_sound_rows (hfound : s.found = .ok (some t))
    (hadmin : t.property? Tables.adminKey = some (.text admin)) (haddress : IsAddress admin)
    (h : ∀ row ∈ t.rows, row.HasIntegers) (default : Value) :
    ∃ r log, s.loadRegistry default = ⟨.ok r, log⟩ ∧ t.RestoresTo admin r log ∧
      ((t.rows.map (·.wallet)).Nodup → r.WellFormed) ∧
      (∀ (s' : Store) (t' : Tables), s'.found = .ok (some t') → t'.properties = t.properties →
        (∀ row ∈ t'.rows, row.HasIntegers) →
        t'.rows.filter Row.isKept = t.rows.filter Row.isKept →
        (s'.loadRegistry default).answer = .ok r) ∧
      ∀ session : Session, session.store? = some s →
        let step := session.step (.loadRegistry default)
        step.result = .ok (.flag true) ∧ step.session.registry? = some r ∧
          step.session.observer? = session.observer? ∧ step.log = log := by
  have hload := loadRegistry_eq hfound hadmin haddress h default
  have hanswer : (s.loadRegistry default).answer = .ok (t.restored admin) := by rw [hload]
  refine ⟨_, _, hload, restoresTo_restored admin h, ?_, ?_, ?_⟩
  · intro hrows
    refine wellFormed_loadRegistry ?_ hanswer
    intro t' ht'
    rwa [tables_eq_ok hfound ht']
  · intro s' t' hfound' hproperties h' hkept
    have hadmin' : t'.property? Tables.adminKey = some (.text admin) := by
      rw [← hadmin, Tables.property?_eq_of_properties hproperties]
    rw [loadRegistry_eq hfound' hadmin' haddress h', restored_eq hproperties hkept]
  · intro session hstore
    rw [← loadRegistry_of_found s.found_touched] at hload
    simp only [Session.step, Session.onStore, Session.needStore, hstore, Session.replace, hload,
      true_and, and_true]
    exact ⟨rfl, rfl⟩

/-- Tables with a row that can be kept, a row that both filters would drop, and one that only the
second drops. -/
def damaged : Tables where
  rows :=
    [⟨.text (Address.repeating 'B'), .text " active ", .integer 75, .integer 7⟩,
      ⟨.text "malformed", .text "gone", .integer 300, .integer 7⟩,
      ⟨.text (Address.repeating 'C'), .text "BLOCKED", .integer (-1), .integer 7⟩]
  properties :=
    [(.text "admin_address", .text (Address.repeating 'A')),
      (.text "next_contract_address", .text "malformed")]

theorem loading_keeps_sound_rows_damaged :
    let s : Store := { url := [], location := .own true true, own? := some damaged }
    ∃ r log, s.loadRegistry .null = ⟨.ok r, log⟩ ∧ r.admin = Address.repeating 'A' ∧
      r.next = "" ∧ r.size = 1 := by
  intro s
  have haddress : IsAddress (Address.repeating 'A') := Address.isAddress_repeating (by decide)
  have hadmin : damaged.property? Tables.adminKey = some (.text (Address.repeating 'A')) := by
    simp [Tables.property?, Tables.hasIntactProperties, damaged, Tables.adminKey, Cell.isIntact,
      Cell.toValue]
  have hnext : damaged.property? Tables.nextKey = some (.text "malformed") := by
    simp [Tables.property?, Tables.hasIntactProperties, damaged, Tables.nextKey, Cell.isIntact,
      Cell.toValue]
  have hintegers : ∀ row ∈ damaged.rows, row.HasIntegers := by
    simp [damaged, Row.HasIntegers, Row.isIntact, Cell.isIntact]
  obtain ⟨r, log, hload, hrestored, -⟩ :=
    loading_keeps_sound_rows (s := s) rfl hadmin haddress hintegers .null
  refine ⟨r, log, hload, hrestored.admin, hrestored.next _ hnext, ?_⟩
  have hunread : unreadRows damaged.rows = 1 := by decide +kernel
  have hunsound : unsoundRows damaged.rows = 1 := by decide +kernel
  have hrows : damaged.rows.length = 3 := rfl
  have hsize := hrestored.size
  omega

end WalletTrust.Store
