import WalletTrust.Proofs.Outcome
import WalletTrust.Proofs.Registry.WellFormed
import WalletTrust.Store.Basic

/-!
# Loading a registry

A registry that is loaded was either created for the administrator at hand or restored from a
snapshot of the tables. Rows with wallets of their own make a snapshot with keys of their own.
-/

namespace WalletTrust

/-- A record of a status and of integers, whatever these are. -/
inductive Record.IsTyped : Record → Prop
  | mk (status : Status) (score time : Int) : IsTyped ⟨.status status, .int score, .int time⟩

theorem Record.IsTyped.status {r : Record} (h : r.IsTyped) :
    ∃ status, r.status = .status status := by
  cases h with
  | mk status score time => exact ⟨status, rfl⟩

/-- A registry of such records, which need not be well-formed. -/
structure Registry.IsTyped (r : Registry) : Prop where
  records : ∀ entry ∈ r.records, entry.2.IsTyped
  distinct : (Registry.wallets r.records).Nodup

namespace Store

/-- A row whose status can be read. -/
def Row.isReadable (row : Row) : Bool := (Status.ofValue row.status.toValue).toOption.isSome

namespace Tables

private theorem recordOf_of_unreadable {row : Row} (h : row.isReadable = false) :
    recordOf row = .ok none := by
  unfold recordOf
  rw [Row.isReadable] at h
  cases hs : Status.ofValue row.status.toValue with
  | error f => rfl
  | ok status =>
    rw [hs] at h
    cases h

private theorem recordOf_ne_none {row : Row} (h : row.isReadable = true) :
    recordOf row ≠ .ok none := by
  obtain ⟨status, hs⟩ := exists_ok h
  intro hnone
  simp only [recordOf, hs] at hnone
  obtain ⟨score, -, hnone⟩ := bind_ok hnone
  obtain ⟨time, -, hnone⟩ := bind_ok hnone
  cases hnone

/-- An entry that has the wallet of a row and its record. -/
def ReadsAs (row : Row) (entry : Value × Record) : Prop :=
  entry.1 = row.wallet.toValue ∧ recordOf row = .ok (some entry.2)

/-- What is loaded are the records of the rows that can be read, in their order, and the number of
the other rows. -/
theorem recordsOf_eq_ok_iff {rows : List Row} {records : List (Value × Record)} {dropped : Nat} :
    recordsOf rows = .ok (records, dropped) ↔
      List.Forall₂ ReadsAs (rows.filter Row.isReadable) records ∧
      dropped = rows.countP (!·.isReadable) := by
  induction rows generalizing records dropped with
  | nil =>
    constructor
    · rintro ⟨⟩
      exact ⟨.nil, rfl⟩
    · rintro ⟨⟨⟩, rfl⟩
      rfl
  | cons row rows ih =>
    cases hrow : row.isReadable with
    | false =>
      have hstep : recordsOf (row :: rows) =
          (recordsOf rows).map fun kept => (kept.1, kept.2 + 1) := by
        rw [recordsOf, recordOf_of_unreadable hrow]
        rfl
      rw [hstep, List.filter_cons_of_neg (by simp [hrow]), List.countP_cons_of_pos (by simp [hrow])]
      constructor
      · intro h
        obtain ⟨⟨kept, count⟩, hkept, heq⟩ := map_ok h
        cases heq
        obtain ⟨hall, rfl⟩ := ih.1 hkept
        exact ⟨hall, rfl⟩
      · rintro ⟨hall, rfl⟩
        rw [ih.2 ⟨hall, rfl⟩]
        rfl
    | true =>
      rw [List.filter_cons_of_pos hrow, List.countP_cons_of_neg (by simp [hrow])]
      constructor
      · intro h
        obtain ⟨record?, hrecord, h⟩ := bind_ok h
        obtain ⟨⟨kept, count⟩, hkept, h⟩ := bind_ok h
        obtain ⟨hall, rfl⟩ := ih.1 hkept
        cases record? with
        -- a row that can be read has a record, or else the whole fails
        | none => exact absurd hrecord (recordOf_ne_none hrow)
        | some record =>
          cases h
          exact ⟨.cons ⟨rfl, hrecord⟩ hall, rfl⟩
      · rintro ⟨hall, rfl⟩
        cases hall with
        | cons hentry hrest =>
          obtain ⟨hkey, hrecord⟩ := hentry
          rw [recordsOf, hrecord, ih.2 ⟨hrest, rfl⟩, ← hkey]
          rfl

private theorem isTyped_of_recordOf {row : Row} {record : Record}
    (h : recordOf row = .ok (some record)) :
    record.IsTyped := by
  unfold recordOf at h
  split at h
  · cases h
  · rename_i status hs
    obtain ⟨score, -, h⟩ := bind_ok h
    obtain ⟨time, -, h⟩ := bind_ok h
    cases h
    exact .mk status score time

private theorem spec_of_forall₂ {rows : List Row} {records : List (Value × Record)}
    (h : List.Forall₂ ReadsAs rows records) :
    records.map (·.1) = rows.map (·.wallet.toValue) ∧ ∀ entry ∈ records, entry.2.IsTyped := by
  induction h with
  | nil => exact ⟨rfl, by simp⟩
  | cons hentry _ ih =>
    obtain ⟨hkey, hrecord⟩ := hentry
    rw [List.map_cons, List.map_cons, hkey, ih.1, List.forall_mem_cons]
    exact ⟨rfl, isTyped_of_recordOf hrecord, ih.2⟩

/-- Rows that can be read keep their wallets and their order, and have a status and integers. -/
theorem recordsOf_spec {rows : List Row} {records : List (Value × Record)} {dropped : Nat}
    (h : recordsOf rows = .ok (records, dropped)) :
    (records.map (·.1)).Sublist (rows.map (·.wallet.toValue)) ∧
      ∀ entry ∈ records, entry.2.IsTyped := by
  obtain ⟨hall, -⟩ := recordsOf_eq_ok_iff.1 h
  obtain ⟨hkeys, htyped⟩ := spec_of_forall₂ hall
  rw [hkeys]
  exact ⟨List.filter_sublist.map _, htyped⟩

theorem checkIntact_eq_ok {intact : Bool} (h : checkIntact intact = .ok ()) : intact = true := by
  unfold checkIntact at h
  split at h
  · assumption
  · cases h

/-- Rows of which one cannot be read are not read at all. -/
theorem records_eq_ok {t : Tables} {kept : List (Value × Record) × Nat} (h : t.records = .ok kept) :
    t.rows.all Row.isIntact = true ∧ recordsOf t.rows = .ok kept := by
  obtain ⟨_, hintact, hkept⟩ := bind_ok h
  exact ⟨checkIntact_eq_ok hintact, hkept⟩

theorem records_of_isIntact {t : Tables} (h : t.rows.all Row.isIntact = true) :
    t.records = recordsOf t.rows := by
  rw [records, h]
  rfl

/-- What is read of tables: nothing, if they name no administrator, or else the snapshot. -/
theorem snapshot?_eq_ok {t : Tables} {found? : Option (Snapshot × Nat)}
    (h : t.snapshot? = .ok found?) :
    t.admin? = none ∧ found? = none ∨
      ∃ snapshot dropped, t.admin? = some snapshot.admin ∧ found? = some (snapshot, dropped) ∧
        t.records = .ok (snapshot.records, dropped) ∧
        (snapshot.next.isEmpty = true → snapshot.next = .text "") := by
  obtain ⟨_, -, h⟩ := bind_ok h
  cases hadmin : t.admin? with
  | none =>
    rw [hadmin] at h
    cases h
    exact .inl ⟨rfl, rfl⟩
  | some admin =>
    rw [hadmin] at h
    obtain ⟨⟨records, dropped⟩, hrecords, h⟩ := bind_ok h
    cases h
    refine .inr ⟨_, dropped, rfl, rfl, hrecords, ?_⟩
    intro hempty
    simp only at hempty ⊢
    split at hempty
    · rename_i hnone
      exact if_pos hnone
    · contradiction

theorem recordsOf_of_snapshot? {t : Tables} {snapshot : Snapshot} {dropped : Nat}
    (h : t.snapshot? = .ok (some (snapshot, dropped))) :
    recordsOf t.rows = .ok (snapshot.records, dropped) := by
  rcases snapshot?_eq_ok h with ⟨-, ⟨⟩⟩ | ⟨_, _, -, hfound, hrecords, -⟩
  cases hfound
  exact (records_eq_ok hrecords).2

theorem admin?_of_snapshot? {t : Tables} {found? : Option (Snapshot × Nat)}
    (h : t.snapshot? = .ok found?) : t.admin? = found?.map (·.1.admin) := by
  rcases snapshot?_eq_ok h with ⟨hadmin, rfl⟩ | ⟨_, _, hadmin, rfl, -⟩ <;> exact hadmin

end Tables

theorem eq_text_of_toValue {c : Cell} {s : String} (h : c.toValue = .text s) : c = .text s := by
  cases c with
  | text t => exact congrArg Cell.text (Value.text.inj h)
  | _ => cases h

theorem eq_integer_of_toValue {c : Cell} {n : Int} (h : c.toValue = .int n) : c = .integer n := by
  cases c with
  | integer m => exact congrArg Cell.integer (Value.int.inj h)
  | _ => cases h

private theorem distinctTexts_of_rows {rows : List Row} {records : List (Value × Record)}
    (hrows : (rows.map (·.wallet)).Nodup)
    (h : (records.map (·.1)).Sublist (rows.map (·.wallet.toValue))) :
    Registry.DistinctTexts records := by
  have hkeys : (rows.map (·.wallet.toValue)).Pairwise
      fun a b => ∀ wallet : String, a = .text wallet → b ≠ .text wallet := by
    rw [List.Nodup, List.pairwise_map] at hrows
    rw [List.pairwise_map]
    refine hrows.imp ?_
    intro a b hab wallet ha hb
    exact hab ((eq_text_of_toValue ha).trans (eq_text_of_toValue hb).symm)
  exact List.pairwise_map.1 (hkeys.sublist h)

theorem load_answer (s : Store) :
    s.load.answer = (s.tables >>= Tables.snapshot?).map (Option.map (·.1)) := by
  unfold load
  rw [Logged.bind_answer, Logged.ofExcept_answer]
  cases s.tables >>= Tables.snapshot? with
  | error f => rfl
  | ok found? => cases found? <;> rfl

theorem loadRegistry_answer (s : Store) (admin : Value) :
    (s.loadRegistry admin).answer = s.load.answer >>= fun found? =>
      match found? with
      | none => Registry.create admin
      | some snapshot => (Registry.restore snapshot).answer := by
  unfold loadRegistry
  rw [Logged.bind_answer]
  cases s.load.answer with
  | error f => rfl
  | ok found? => cases found? <;> rfl

theorem load_of_found {s s' : Store} (h : s'.found = s.found) : s'.load = s.load := by
  unfold load tables
  rw [h]

theorem loadRegistry_of_found {s s' : Store} (h : s'.found = s.found) (admin : Value) :
    s'.loadRegistry admin = s.loadRegistry admin := by
  unfold loadRegistry
  rw [load_of_found h]

/-- A registry that is loaded from tables is a new one, if they name no administrator, or restored
from their snapshot. -/
theorem loadRegistry_eq_ok {s : Store} {admin : Value} {r : Registry}
    (h : (s.loadRegistry admin).answer = .ok r) :
    ∃ t, s.tables = .ok t ∧
      (t.snapshot? = .ok none ∧ Registry.create admin = .ok r ∨
        ∃ snapshot dropped, t.snapshot? = .ok (some (snapshot, dropped)) ∧
          (Registry.restore snapshot).answer = .ok r) := by
  rw [loadRegistry_answer, load_answer] at h
  obtain ⟨found?, hfound, h⟩ := bind_ok h
  obtain ⟨stored?, hstored, rfl⟩ := map_ok hfound
  obtain ⟨t, ht, hsnapshot⟩ := bind_ok hstored
  refine ⟨t, ht, ?_⟩
  cases stored? with
  | none => exact .inl ⟨hsnapshot, h⟩
  | some stored => exact .inr ⟨stored.1, stored.2, hsnapshot, h⟩

/-- What is loaded from rows with wallets of their own is well-formed. -/
theorem wellFormed_loadRegistry {s : Store} {admin : Value} {r : Registry}
    (hrows : ∀ t, s.tables = .ok t → (t.rows.map (·.wallet)).Nodup)
    (h : (s.loadRegistry admin).answer = .ok r) : r.WellFormed := by
  obtain ⟨t, ht, ⟨-, hcreate⟩ | ⟨snapshot, dropped, hsnapshot, hrestore⟩⟩ := loadRegistry_eq_ok h
  · exact Registry.wellFormed_create hcreate
  · obtain ⟨hsub, htyped⟩ := Tables.recordsOf_spec (Tables.recordsOf_of_snapshot? hsnapshot)
    have hkeys := distinctTexts_of_rows (hrows t ht) hsub
    exact Registry.wellFormed_restore hkeys (fun entry he => (htyped entry he).status) hrestore

/-- What is loaded has a status and integers for each wallet, as the rows do. -/
theorem isTyped_loadRegistry {s : Store} {admin : Value} {r : Registry}
    (hrows : ∀ t, s.tables = .ok t → (t.rows.map (·.wallet)).Nodup)
    (h : (s.loadRegistry admin).answer = .ok r) : r.IsTyped := by
  refine ⟨?_, (wellFormed_loadRegistry hrows h).distinct⟩
  obtain ⟨t, ht, ⟨-, hcreate⟩ | ⟨snapshot, dropped, hsnapshot, hrestore⟩⟩ := loadRegistry_eq_ok h
  · obtain ⟨-, -, hnew⟩ := Registry.create_eq_ok hcreate
    rw [hnew]
    simp
  · obtain ⟨-, htyped⟩ := Tables.recordsOf_spec (Tables.recordsOf_of_snapshot? hsnapshot)
    rw [Registry.restore_answer] at hrestore
    obtain ⟨created, -, rfl⟩ := map_ok hrestore
    intro entry hentry
    obtain ⟨original, hmem, hkept⟩ := List.mem_filterMap.1 hentry
    obtain ⟨rfl, -⟩ := Registry.admissible?_eq_some hkept
    exact htyped _ hmem

end Store
end WalletTrust
