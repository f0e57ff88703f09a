import WalletTrust.Proofs.Registry.Projection
import WalletTrust.Proofs.Store.Blocking

/-!
# What a restore reports

A restore is reported as soon as a snapshot was read, before the registry checks what it is made of.
The report therefore tells the truth only of a snapshot that passes all checks. Of any other
snapshot the later entries of the log make up the difference, unless the administrator is refused.
-/

namespace WalletTrust.Store

def restoreReports (log : List Log.Entry) : List Log.Entry :=
  log.filter (·.event == "registry_restored")

/-- A report comes only with a registry that was restored from what is stored, and tells its size
and whether it points to a successor. -/
def ReportsTruly (s : Store) (default : Value) : Prop :=
  ∀ e ∈ (s.loadRegistry default).log, e.event = "registry_restored" →
    ∃ snapshot r, s.load.answer = .ok (some snapshot) ∧
      (Registry.restore snapshot).answer = .ok r ∧ (s.loadRegistry default).answer = .ok r ∧
      e.fields = [("wallets", .int r.size), ("has_next_contract", .bool (r.next != ""))]

/-- The log of a restore accounts for whatever a registry does not have of a snapshot. -/
structure Accounts (snapshot : Snapshot) (r : Registry) (log : List Log.Entry) : Prop where
  wallets : ∃ dropped, snapshot.records.length = r.size + dropped ∧
    log.filter (·.event == "snapshot_records_dropped") = Registry.droppedEntries dropped
  pointer : snapshot.next.isEmpty = false ↔
    r.next ≠ "" ∨ ∃ e ∈ log, e.event = "snapshot_next_contract_dropped"

theorem event_of_load {s : Store} {e : Log.Entry} (h : e ∈ s.load.log) :
    e.event = "registry_rows_dropped" := by
  unfold load at h
  cases hfound : s.tables >>= Tables.snapshot? with
  | error f =>
    rw [hfound] at h
    cases h
  | ok found? =>
    rw [hfound] at h
    cases found? with
    | none => cases h
    | some found =>
      obtain ⟨snapshot, dropped⟩ := found
      simp only [Logged.ofExcept, Logged.tell, Logged.bind_ok, Logged.pure_eq, List.nil_append,
        List.append_nil, droppedEntries] at h
      split at h
      · cases h
      · rw [List.mem_singleton.1 h]
        rfl

theorem event_of_restore {snapshot : Snapshot} {e : Log.Entry}
    (h : e ∈ (Registry.restore snapshot).log) :
    e.event = "snapshot_next_contract_dropped" ∨ e.event = "snapshot_records_dropped" := by
  by_cases hadmin : snapshot.admin.IsAddress
  · obtain ⟨admin, hs, haddress⟩ := hadmin
    rw [Registry.restore_eq haddress hs] at h
    rcases List.mem_append.1 h with hnext | hrecords
    · left
      rcases Registry.admissibleNext_log snapshot.next with hlog | hlog
      · rw [hlog] at hnext
        cases hnext
      · rw [hlog] at hnext
        rw [List.mem_singleton.1 hnext]
    · right
      unfold Registry.droppedEntries at hrecords
      split at hrecords
      · cases hrecords
      · rw [List.mem_singleton.1 hrecords]
  · rw [Registry.restore_of_bad_admin hadmin] at h
    cases h

theorem loadRegistry_of_none {s : Store} (h : s.load.answer = .ok none) (default : Value) :
    s.loadRegistry default = ⟨Registry.create default,
      s.load.log ++ [entry .info "registry_created" [("source", .text "default_admin")]]⟩ := by
  unfold loadRegistry
  generalize s.load = loaded at h
  obtain ⟨answer, log⟩ := loaded
  obtain rfl : answer = .ok none := h
  simp [Logged.tell, Logged.ofExcept]

/-- The report stands behind what was told of the rows, and before what is told of the registry. -/
theorem loadRegistry_of_some {s : Store} {snapshot : Snapshot}
    (h : s.load.answer = .ok (some snapshot)) (default : Value) :
    s.loadRegistry default = ⟨(Registry.restore snapshot).answer,
      s.load.log ++ restoredEntry snapshot :: (Registry.restore snapshot).log⟩ := by
  unfold loadRegistry
  generalize s.load = loaded at h
  obtain ⟨answer, log⟩ := loaded
  obtain rfl : answer = .ok (some snapshot) := h
  simp [Logged.tell, restoredEntry]

theorem loadRegistry_of_error {s : Store} {f : Failure} (h : s.load.answer = .error f)
    (default : Value) : s.loadRegistry default = ⟨.error f, s.load.log⟩ := by
  unfold loadRegistry
  generalize s.load = loaded at h
  obtain ⟨answer, log⟩ := loaded
  obtain rfl : answer = .error f := h
  simp

theorem restoreReports_load (s : Store) : restoreReports s.load.log = [] := by
  refine List.filter_eq_nil_iff.2 fun e he => ?_
  simp [event_of_load he]

theorem restoreReports_restore (snapshot : Snapshot) :
    restoreReports (Registry.restore snapshot).log = [] := by
  refine List.filter_eq_nil_iff.2 fun e he => ?_
  rcases event_of_restore he with h | h <;> simp [h]

/-- What is read of the tables has an empty text for a missing pointer. -/
theorem next_of_load {s : Store} {snapshot : Snapshot} (h : s.load.answer = .ok (some snapshot))
    (hempty : snapshot.next.isEmpty = true) : snapshot.next = .text "" := by
  rw [load_answer] at h
  obtain ⟨found?, hfound, hsnapshot⟩ := map_ok h
  obtain ⟨t, -, hread⟩ := bind_ok hfound
  obtain ⟨⟨found, dropped⟩, rfl, rfl⟩ := Option.map_eq_some_iff.1 hsnapshot
  rcases Tables.snapshot?_eq_ok hread with ⟨-, ⟨⟩⟩ | ⟨_, _, -, hsame, -, hnext⟩
  cases hsame
  exact hnext hempty

private theorem eq_of_restore {snapshot : Snapshot} {r : Registry}
    (h : (Registry.restore snapshot).answer = .ok r) :
    snapshot.admin.IsAddress ∧ r.snapshot = snapshot.sound := by
  by_cases hadmin : snapshot.admin.IsAddress
  · obtain ⟨restored, log, hrestore, hsound, -⟩ := Registry.exists_restore hadmin
    rw [hrestore] at h
    cases h
    exact ⟨hadmin, hsound⟩
  · rw [Registry.restore_of_bad_admin hadmin] at h
    cases h

theorem size_of_snapshot {snapshot : Snapshot} {r : Registry} (h : r.snapshot = snapshot.sound) :
    r.size = snapshot.sound.records.length := by
  rw [← h]
  exact (List.length_map _).symm

theorem next_of_snapshot {snapshot : Snapshot} {r : Registry} (h : r.snapshot = snapshot.sound) :
    Value.text r.next = if snapshot.next.IsAddress then snapshot.next else .text "" :=
  congrArg Snapshot.next h

private theorem isEmpty_of_not_isAddress {next : Value} {s : String}
    (h : Value.text s = if next.IsAddress then next else .text "") :
    next.IsAddress ∧ next = .text s ∧ s ≠ "" ∨ ¬ next.IsAddress ∧ s = "" := by
  by_cases hnext : next.IsAddress
  · rw [if_pos hnext] at h
    obtain ⟨address, rfl, haddress⟩ := hnext
    cases h
    refine .inl ⟨⟨s, rfl, haddress⟩, rfl, ?_⟩
    rintro rfl
    exact Registry.not_isAddress_empty haddress
  · rw [if_neg hnext] at h
    exact .inr ⟨hnext, Value.text.inj h⟩

/-- A report tells the size and the pointer of the restored registry only if nothing is dropped. -/
theorem sound_eq_iff {snapshot : Snapshot} {r : Registry} (h : r.snapshot = snapshot.sound)
    (hempty : snapshot.next.isEmpty = true → snapshot.next = .text "") :
    snapshot.sound = snapshot ↔
      snapshot.records.length = r.size ∧ (!snapshot.next.isEmpty) = (r.next != "") := by
  have hnext := isEmpty_of_not_isAddress (next_of_snapshot h)
  rw [size_of_snapshot h]
  constructor
  · intro hsound
    refine ⟨by rw [hsound], ?_⟩
    rcases hnext with ⟨-, htext, -⟩ | ⟨hother, hnone⟩
    · simp [htext, Value.isEmpty, bne]
    · have hpointer : snapshot.next = .text "" := by
        rw [← hsound, Snapshot.sound, if_neg hother]
      simp [hpointer, hnone, Value.isEmpty]
  · rintro ⟨hlength, hpointer⟩
    have hrecords : snapshot.sound.records = snapshot.records := by
      refine List.filter_eq_self.2 (List.length_filter_eq_length_iff.1 hlength.symm)
    have hnext' : snapshot.sound.next = snapshot.next := by
      rcases hnext with ⟨haddress, -⟩ | ⟨hother, hnone⟩
      · exact if_pos haddress
      · rw [hnone, bne_self_eq_false, Bool.not_eq_false'] at hpointer
        rw [hempty hpointer]
        exact if_neg (hempty hpointer ▸ hother)
    obtain ⟨admin, next, records⟩ := snapshot
    simp only [Snapshot.mk.injEq, Snapshot.sound] at hrecords hnext' ⊢
    exact ⟨trivial, hnext', hrecords⟩

/-- A pointer that is there is kept, or else its loss is logged. -/
theorem admissibleNext_spec (next : Value) :
    next.isEmpty = false ↔ (Address.ofValue? next).getD "" ≠ "" ∨
      ∃ e ∈ (Registry.admissibleNext next).log, e.event = "snapshot_next_contract_dropped" := by
  unfold Registry.admissibleNext
  cases hempty : next.isEmpty with
  | true => simp [Registry.ofValue?_of_isEmpty hempty, Logged.succeed]
  | false =>
    cases hnext : Address.ofValue? next with
    | none => simp
    | some address =>
      have hne : address ≠ "" := by
        rintro rfl
        obtain ⟨-, hvalid⟩ := Address.ofValue?_eq_some_iff.1 hnext
        exact Registry.not_isAddress_empty (Address.isValid_iff.1 hvalid)
      simp [hne, Logged.succeed]

theorem exists_accounts {s : Store} {snapshot : Snapshot}
    (h : s.load.answer = .ok (some snapshot)) (hadmin : snapshot.admin.IsAddress)
    (default : Value) : ∃ r, (s.loadRegistry default).answer = .ok r ∧
      Accounts snapshot r (s.loadRegistry default).log := by
  obtain ⟨admin, hs, haddress⟩ := hadmin
  have hkept := List.length_filterMap_le Registry.admissible? snapshot.records
  rw [loadRegistry_of_some h, Registry.restore_eq haddress hs]
  refine ⟨_, rfl, ⟨snapshot.records.length -
    (snapshot.records.filterMap Registry.admissible?).length, ?_, ?_⟩, ?_⟩
  · simp only [Registry.size]
    omega
  · have hload : s.load.log.filter (·.event == "snapshot_records_dropped") = [] := by
      refine List.filter_eq_nil_iff.2 fun e he => ?_
      simp [event_of_load he]
    rw [List.filter_append, hload, List.nil_append,
      List.filter_cons_of_neg (by simp [restoredEntry, entry]), List.filter_append]
    unfold Registry.droppedEntries
    rcases Registry.admissibleNext_log snapshot.next with hlog | hlog <;> rw [hlog] <;>
      split <;> rfl
  · rw [admissibleNext_spec]
    refine or_congr Iff.rfl ⟨?_, ?_⟩
    · rintro ⟨e, he, hevent⟩
      exact ⟨e, by simp [he], hevent⟩
    · rintro ⟨e, he, hevent⟩
      rw [List.mem_append, List.mem_cons, List.mem_append] at he
      rcases he with hload | rfl | hnext | hrecords
      · rw [event_of_load hload] at hevent
        simp at hevent
      · simp [restoredEntry, entry] at hevent
      · exact ⟨e, hnext, hevent⟩
      · unfold Registry.droppedEntries at hrecords
        split at hrecords
        · cases hrecords
        · rw [List.mem_singleton.1 hrecords] at hevent
          simp at hevent

/-- The report is true of a snapshot that passes all checks, and of no other. -/
theorem reportsTruly_iff (s : Store) (default : Value) :
    s.ReportsTruly default ↔ ∀ snapshot, s.load.answer = .ok (some snapshot) →
      snapshot.admin.IsAddress ∧ snapshot.sound = snapshot := by
  constructor
  · intro htrue snapshot hload
    have hlog := loadRegistry_of_some hload default
    obtain ⟨found, r, hfound, hrestore, -, hfields⟩ :=
      htrue (restoredEntry snapshot) (by simp [hlog]) rfl
    rw [hload] at hfound
    cases hfound
    obtain ⟨hadmin, hsound⟩ := eq_of_restore hrestore
    simp only [restoredEntry, entry, List.cons.injEq, Prod.mk.injEq, true_and, and_true,
      Value.int.injEq, Value.bool.injEq, Int.natCast_inj] at hfields
    exact ⟨hadmin, (sound_eq_iff hsound (next_of_load hload)).2 hfields⟩
  · intro hsound e he hevent
    cases hload : s.load.answer with
    | error f =>
      rw [loadRegistry_of_error hload] at he
      rw [event_of_load he] at hevent
      simp at hevent
    | ok found? =>
      cases found? with
      | none =>
        rw [loadRegistry_of_none hload, List.mem_append, List.mem_singleton] at he
        rcases he with he | rfl
        · rw [event_of_load he] at hevent
          simp at hevent
        · simp [entry] at hevent
      | some snapshot =>
        obtain ⟨hadmin, hsame⟩ := hsound snapshot hload
        obtain ⟨r, log, hrestore, hr, -⟩ := Registry.exists_restore hadmin
        rw [loadRegistry_of_some hload, List.mem_append, List.mem_cons] at he
        rcases he with he | rfl | he
        · rw [event_of_load he] at hevent
          simp at hevent
        · obtain ⟨hlength, hpointer⟩ := (sound_eq_iff hr (next_of_load hload)).1 hsame
          have hanswer : (Registry.restore snapshot).answer = .ok r := by rw [hrestore]
          refine ⟨snapshot, r, rfl, hanswer, ?_, ?_⟩
          · rw [loadRegistry_of_some hload, hanswer]
          · simp [restoredEntry, entry, hlength, hpointer]
        · rcases event_of_restore he with h | h <;> simp [h] at hevent

/-- A restore is reported exactly when a snapshot was read, with the number of its records and
whether it has a pointer. If the administrator is refused afterwards there is no registry. Else the
log accounts for the rest: what the registry lacks of the report is told by the entries about what
was dropped. The report itself is true exactly if nothing is dropped or refused. -/
theorem restores_are_reported_as_read (s : Store) (default : Value) :
    (∀ f, s.load.answer = .error f → (s.loadRegistry default).answer = .error f ∧
      restoreReports (s.loadRegistry default).log = []) ∧
      (s.load.answer = .ok none →
        (s.loadRegistry default).answer = Registry.create default ∧
          restoreReports (s.loadRegistry default).log = []) ∧
      (∀ snapshot, s.load.answer = .ok (some snapshot) →
        restoreReports (s.loadRegistry default).log = [restoredEntry snapshot] ∧
          (¬ snapshot.admin.IsAddress →
            (s.loadRegistry default).answer = .error (Registry.badAdmin snapshot.admin)) ∧
          (snapshot.admin.IsAddress → ∃ r, (s.loadRegistry default).answer = .ok r ∧
            Accounts snapshot r (s.loadRegistry default).log)) ∧
      (s.ReportsTruly default ↔ ∀ snapshot, s.load.answer = .ok (some snapshot) →
        snapshot.admin.IsAddress ∧ snapshot.sound = snapshot) := by
  refine ⟨?_, ?_, ?_, reportsTruly_iff s default⟩
  · intro f h
    rw [loadRegistry_of_error h]
    exact ⟨rfl, restoreReports_load s⟩
  · intro h
    rw [loadRegistry_of_none h]
    refine ⟨rfl, ?_⟩
    have hload := restoreReports_load s
    rw [restoreReports] at hload
    rw [restoreReports, List.filter_append, hload]
    rfl
  · intro snapshot h
    refine ⟨?_, ?_, fun hadmin => exists_accounts h hadmin default⟩
    · have hload := restoreReports_load s
      have hrestore := restoreReports_restore snapshot
      rw [restoreReports] at hload hrestore
      rw [loadRegistry_of_some h, restoreReports, List.filter_append, hload, List.nil_append,
        List.filter_cons_of_pos (by simp [restoredEntry, entry]), hrestore]
    · intro hadmin
      rw [loadRegistry_of_some h, Registry.restore_of_bad_admin hadmin]
      rfl

/-- A row that can be read, but that no registry can hold. -/
def misaddressed : Row := ⟨.text "bad", .text "ACTIVE", .integer 75, .integer 7⟩

def soundRow : Row := ⟨.text (Address.repeating 'B'), .text "ACTIVE", .integer 75, .integer 7⟩

theorem load_holding (rows : List Row) (h : ∀ row ∈ rows, row.HasIntegers) :
    (holding rows).load.answer = .ok (some
      { admin := .text (Address.repeating 'A'), next := .text ""
        records := (rows.filter Row.isReadable).map Row.entry }) := by
  have haddress : IsAddress (Address.repeating 'A') := Address.isAddress_repeating (by decide)
  obtain ⟨t, hfound, hrows, hadmin⟩ := found_holding rows
  cases hfound
  rw [load_of_admin rfl hadmin haddress, records_of_hasIntegers h]
  simp [Tables.filtered, Tables.property?, Tables.nextKey, Value.isEmpty]

theorem restores_are_reported_as_read_patchy :
    (holding [soundRow]).ReportsTruly .null ∧
      ∃ r e, ((holding [soundRow, misaddressed]).loadRegistry .null).answer = .ok r ∧
        restoreReports ((holding [soundRow, misaddressed]).loadRegistry .null).log = [e] ∧
        e.fields = [("wallets", .int 2), ("has_next_contract", .bool false)] ∧
        Accounts ⟨.text (Address.repeating 'A'), .text "", [soundRow.entry, misaddressed.entry]⟩ r
          ((holding [soundRow, misaddressed]).loadRegistry .null).log := by
  have haddress : IsAddress (Address.repeating 'A') := Address.isAddress_repeating (by decide)
  have hintegers : ∀ row ∈ [soundRow], row.HasIntegers := by
    simp [soundRow, Row.HasIntegers, Row.isIntact, Cell.isIntact]
  have hsound := load_holding [soundRow] hintegers
  have hpatchy := load_holding [soundRow, misaddressed]
    (by simp [soundRow, misaddressed, Row.HasIntegers, Row.isIntact, Cell.isIntact])
  refine ⟨?_, ?_⟩
  · obtain ⟨-, -, -, htrue⟩ := restores_are_reported_as_read (holding [soundRow]) .null
    refine htrue.2 fun snapshot hload => ?_
    rw [hsound] at hload
    cases hload
    exact ⟨⟨_, rfl, haddress⟩, by rfl⟩
  · obtain ⟨-, -, hread, -⟩ :=
      restores_are_reported_as_read (holding [soundRow, misaddressed]) .null
    obtain ⟨hreport, -, hregistry⟩ := hread _ hpatchy
    obtain ⟨r, hanswer, haccounts⟩ := hregistry ⟨_, rfl, haddress⟩
    exact ⟨r, _, hanswer, hreport, rfl, haccounts⟩

/-- A row that is dropped after the report is counted by it all the same. -/
theorem report_counts_dropped_row :
    ¬ (holding [misaddressed]).ReportsTruly .null ∧
      ∃ r e, ((holding [misaddressed]).loadRegistry .null).answer = .ok r ∧ r.size = 0 ∧
        e ∈ ((holding [misaddressed]).loadRegistry .null).log ∧ e.event = "registry_restored" ∧
        e.fields = [("wallets", .int 1), ("has_next_contract", .bool false)] := by
  have haddress : IsAddress (Address.repeating 'A') := Address.isAddress_repeating (by decide)
  have hintegers : ∀ row ∈ [misaddressed], row.HasIntegers := by
    simp [misaddressed, Row.HasIntegers, Row.isIntact, Cell.isIntact]
  have hload := load_holding _ hintegers
  refine ⟨?_, ?_⟩
  · intro htrue
    obtain ⟨-, hsame⟩ := (reportsTruly_iff _ _).1 htrue _ hload
    have hlength := congrArg (fun s : Snapshot => s.records.length) hsame
    revert hlength
    decide +kernel
  · obtain ⟨t, hfound, hrows, hadmin⟩ := found_holding [misaddressed]
    cases hfound
    rw [loadRegistry_eq rfl hadmin haddress hintegers]
    refine ⟨_, _, rfl, by rfl, List.mem_append_right _ List.mem_cons_self, rfl, rfl⟩

end WalletTrust.Store
