import WalletTrust.Proofs.Registry.Times
import WalletTrust.Proofs.Store.Loading
import WalletTrust.Proofs.Store.Transaction

/-!
# Registries in tables

The tables of a registry show each of its records in a row and nothing else. They are what a
replacement writes, if every integer fits into a column, and they are read back as the snapshot. A
well-formed registry is read back as itself.
-/

namespace WalletTrust

theorem Status.ofValue_name (s : Status) : ofValue (.text s.name) = .ok s := by
  have hname : normalized s.name = s.name := by cases s <;> decide +kernel
  simp only [ofValue, hname, ofName?_name]

/-- A record of integers that columns hold. -/
structure Record.Fits (r : Record) : Prop where
  score : ∃ score, r.trustScore = .int score ∧ Store.Cell.inWord score = true
  time : r.updatedAt.IsTime (Store.Cell.inWord · = true)

namespace Registry

def Fits (r : Registry) : Prop := ∀ entry ∈ r.records, entry.2.Fits

theorem WellFormed.isTyped {r : Registry} (hr : r.WellFormed) (htimes : r.Timed fun _ => True) :
    r.IsTyped := by
  refine ⟨?_, hr.distinct⟩
  rintro ⟨wallet, status, score, time⟩ hentry
  obtain ⟨-, ⟨status, rfl⟩, ⟨score, rfl, -⟩⟩ := hr.records _ hentry
  obtain ⟨time, rfl, -⟩ := htimes _ hentry
  exact .mk status score time

end Registry

namespace Store

/-- The row of a wallet and what is known of it. -/
inductive Row.Shows : Row → String × Record → Prop
  | mk (wallet : String) (status : Status) (score time : Int) :
    Shows ⟨.text wallet, .text status.name, .integer score, .integer time⟩
      (wallet, ⟨.status status, .int score, .int time⟩)

/-- The tables hold a registry, the whole of it and nothing besides. -/
structure Tables.Holds (t : Tables) (r : Registry) : Prop where
  properties : t.properties =
    [(.text adminKey, .text r.admin), (.text nextKey, .text r.next)]
  rows : List.Forall₂ Row.Shows t.rows r.records

theorem Cell.inWord_iff {n : Int} : inWord n = true ↔ -wordEnd ≤ n ∧ n < wordEnd := by
  simp [inWord]

theorem inWord_of_score {score : Int} (h : 0 ≤ score ∧ score ≤ 100) : Cell.inWord score = true := by
  rw [Cell.inWord_iff, Cell.wordEnd]
  constructor <;> omega

/-- Scores fit, so that in a well-formed registry it is up to the times. -/
theorem fits_iff_timed {r : Registry} (hr : r.WellFormed) :
    r.Fits ↔ r.Timed (Cell.inWord · = true) := by
  constructor
  · exact fun h entry hentry => (h entry hentry).time
  · intro h entry hentry
    obtain ⟨score, hscore, hrange⟩ := (hr.records entry hentry).score
    exact ⟨⟨score, hscore, inWord_of_score hrange⟩, h entry hentry⟩

/-- Whether the integers of a row are ones that columns hold. -/
def Row.fits (row : Row) : Bool :=
  match row.trustScore, row.updatedAt with
  | .integer score, .integer time => Cell.inWord score && Cell.inWord time
  | _, _ => true

private theorem fits_iff_of_shows {row : Row} {entry : String × Record} (h : row.Shows entry) :
    row.fits = true ↔ entry.2.Fits := by
  obtain ⟨wallet, status, score, time⟩ := h
  simp only [Row.fits, Bool.and_eq_true]
  constructor
  · rintro ⟨hscore, htime⟩
    exact ⟨⟨score, rfl, hscore⟩, ⟨time, rfl, htime⟩⟩
  · rintro ⟨⟨score, hs, hscore⟩, ⟨time, ht, htime⟩⟩
    cases hs
    cases ht
    exact ⟨hscore, htime⟩

theorem all_fits_iff {rows : List Row} {records : List (String × Record)}
    (h : List.Forall₂ Row.Shows rows records) :
    rows.all Row.fits = true ↔ ∀ entry ∈ records, entry.2.Fits := by
  induction h with
  | nil => simp
  | cons hrow _ ih => rw [List.all_cons, Bool.and_eq_true, fits_iff_of_shows hrow, ih,
      List.forall_mem_cons]

theorem wallets_of_shows {rows : List Row} {records : List (String × Record)}
    (h : List.Forall₂ Row.Shows rows records) :
    rows.map (·.wallet) = (Registry.wallets records).map Cell.text := by
  induction h with
  | nil => rfl
  | cons hrow _ ih =>
    cases hrow
    simpa [Registry.wallets] using ih

theorem exists_rows {records : List (String × Record)}
    (htyped : ∀ entry ∈ records, entry.2.IsTyped) :
    ∃ rows, List.Forall₂ Row.Shows rows records := by
  induction records with
  | nil => exact ⟨[], .nil⟩
  | cons entry records ih =>
    obtain ⟨rows, hrows⟩ := ih fun e he => htyped e (List.mem_cons_of_mem entry he)
    obtain ⟨wallet, record⟩ := entry
    have hentry : record.IsTyped := htyped _ List.mem_cons_self
    cases hentry with
    | mk status score time => exact ⟨_ :: rows, .cons (.mk wallet status score time) hrows⟩

def keyed (records : List (String × Record)) : List (Value × Record) :=
  records.map fun (wallet, record) => (.text wallet, record)

namespace Tables

private theorem namedStatuses_of_shows {rows : List Row} {records : List (String × Record)}
    (h : List.Forall₂ Row.Shows rows records) :
    namedStatuses (keyed records) = .ok (rows.map (·.status.toValue)) := by
  induction h with
  | nil => rfl
  | cons hrow _ ih =>
    cases hrow
    simp only [keyed] at ih
    simp [keyed, namedStatuses, Status.nameOf, ih, Cell.toValue, bind, Except.bind]

/-- Why a row cannot be written whose integers do not fit. -/
def tooWide : Failure := .integerTooWide "SQLite INTEGER"

private theorem rowOf_of_shows {row : Row} {entry : String × Record} (h : row.Shows entry) :
    rowOf (.text entry.1) row.status.toValue entry.2.trustScore entry.2.updatedAt =
      if row.fits then .ok row else .error tooWide := by
  obtain ⟨wallet, status, score, time⟩ := h
  cases hscore : Cell.inWord score <;> cases htime : Cell.inWord time <;>
    simp [rowOf, Row.fits, Cell.ofValue, Cell.toValue, hscore, htime, required, tooWide,
      Cell.preferText, Cell.preferInteger, bind, Except.bind]

private theorem addRow_of_new {t : Tables} {row : Row} (h : row.wallet ∉ t.rows.map (·.wallet)) :
    t.addRow row = .ok { t with rows := t.rows ++ [row] } := by
  have hnew : t.rows.any (·.wallet = row.wallet) = false := by
    rw [List.any_eq_false]
    intro old hold heq
    exact h (List.mem_map.2 ⟨old, hold, of_decide_eq_true heq⟩)
  simp [addRow, hnew]

/-- Rows of new wallets are added one after the other, up to the first one that does not fit. -/
theorem addRecords_of_shows {rows : List Row} {records : List (String × Record)}
    (h : List.Forall₂ Row.Shows rows records) (t : Tables)
    (hnew : ((t.rows ++ rows).map (·.wallet)).Nodup) :
    addRecords t ((keyed records).zip (rows.map (·.status.toValue))) =
      if rows.all Row.fits then .ok { t with rows := t.rows ++ rows } else .error tooWide := by
  induction h generalizing t with
  | nil => simp [keyed, addRecords]
  | @cons row entry rows records hrow hrows ih =>
    have hfresh : row.wallet ∉ t.rows.map (·.wallet) := by
      rw [List.map_append, List.nodup_append] at hnew
      intro hmem
      exact hnew.2.2 _ hmem _ List.mem_cons_self rfl
    have hstep : addRecords t ((keyed (entry :: records)).zip
        ((row :: rows).map (·.status.toValue))) =
          rowOf (.text entry.1) row.status.toValue entry.2.trustScore entry.2.updatedAt >>=
            fun row => t.addRow row >>= fun t =>
              addRecords t ((keyed records).zip (rows.map (·.status.toValue))) := rfl
    rw [hstep, rowOf_of_shows hrow]
    cases hfits : row.fits with
    | false => simp [hfits, bind, Except.bind]
    | true =>
      have hrest := ih { t with rows := t.rows ++ [row] } (by simpa using hnew)
      simpa [hfits, addRow_of_new hfresh, bind, Except.bind] using hrest

theorem propertyOf_text (key value : String) :
    propertyOf (.text key) (orEmpty (.text value)) = .ok (.text key, .text value) := rfl

theorem ofSnapshot_of_shows {r : Registry} {rows : List Row}
    (hrows : List.Forall₂ Row.Shows rows r.records)
    (hdistinct : (Registry.wallets r.records).Nodup) :
    ofSnapshot r.snapshot =
      if rows.all Row.fits then
        .ok ⟨rows, [(.text adminKey, .text r.admin), (.text nextKey, .text r.next)]⟩
      else .error tooWide := by
  have hnew : (rows.map (·.wallet)).Nodup := by
    rw [wallets_of_shows hrows]
    exact hdistinct.map fun _ _ h => Cell.text.inj h
  have hnames := namedStatuses_of_shows hrows
  have hadded := addRecords_of_shows hrows
    ⟨[], [(.text adminKey, .text r.admin), (.text nextKey, .text r.next)]⟩ (by simpa using hnew)
  simp only [keyed] at hnames hadded
  simpa [ofSnapshot, Registry.snapshot, hnames, propertyOf_text, putProperty, adminKey_ne_nextKey,
    bind, Except.bind] using hadded

/-- The tables of a snapshot hold the registry. There are any if and only if its integers fit. -/
theorem ofSnapshot_eq_ok_iff_fits {r : Registry} (hr : r.IsTyped) {t : Tables} :
    ofSnapshot r.snapshot = .ok t ↔ r.Fits ∧ t.Holds r := by
  have hwritten : ∀ {rows}, List.Forall₂ Row.Shows rows r.records →
      (ofSnapshot r.snapshot = .ok t ↔ r.Fits ∧
        t = ⟨rows, [(.text adminKey, .text r.admin), (.text nextKey, .text r.next)]⟩) := by
    intro rows hrows
    rw [ofSnapshot_of_shows hrows hr.distinct, Registry.Fits, ← all_fits_iff hrows]
    cases rows.all Row.fits <;> simp [eq_comm]
  constructor
  · intro h
    obtain ⟨rows, hrows⟩ := exists_rows hr.records
    obtain ⟨hfits, rfl⟩ := (hwritten hrows).1 h
    exact ⟨hfits, rfl, hrows⟩
  · rintro ⟨hfits, hproperties, hrows⟩
    refine (hwritten hrows).2 ⟨hfits, ?_⟩
    rw [← hproperties]

theorem ofSnapshot_of_not_fits {r : Registry} (hr : r.IsTyped) (h : ¬ r.Fits) :
    ofSnapshot r.snapshot = .error tooWide := by
  obtain ⟨rows, hrows⟩ := exists_rows hr.records
  have hall : rows.all Row.fits = false := by
    rw [Bool.eq_false_iff, Ne, all_fits_iff hrows]
    exact h
  rw [ofSnapshot_of_shows hrows hr.distinct, hall, if_neg Bool.false_ne_true]

theorem ofSnapshot_of_fits {r : Registry} (hr : r.IsTyped) (hfits : r.Fits) :
    ∃ t, ofSnapshot r.snapshot = .ok t := by
  obtain ⟨rows, hrows⟩ := exists_rows hr.records
  have hholds : Holds ⟨rows, [(.text adminKey, .text r.admin), (.text nextKey, .text r.next)]⟩ r :=
    ⟨rfl, hrows⟩
  exact ⟨_, (ofSnapshot_eq_ok_iff_fits hr).2 ⟨hfits, hholds⟩⟩

theorem ofSnapshot_eq_ok_iff {r : Registry} (hr : r.WellFormed) (htimes : r.Timed fun _ => True)
    {t : Tables} :
    ofSnapshot r.snapshot = .ok t ↔ r.Timed (Cell.inWord · = true) ∧ t.Holds r := by
  rw [ofSnapshot_eq_ok_iff_fits (hr.isTyped htimes), fits_iff_timed hr]

theorem exists_ofSnapshot {r : Registry} (hr : r.WellFormed)
    (hfits : r.Timed (Cell.inWord · = true)) : ∃ t, ofSnapshot r.snapshot = .ok t := by
  have htimes : r.Timed fun _ => True := hfits.imp fun _ _ => trivial
  exact ofSnapshot_of_fits (hr.isTyped htimes) ((fits_iff_timed hr).2 hfits)

theorem recordOf_of_shows {row : Row} {entry : String × Record} (h : row.Shows entry) :
    recordOf row = .ok (some entry.2) := by
  obtain ⟨wallet, status, score, time⟩ := h
  simp [recordOf, Cell.toValue, Status.ofValue_name, Value.toInteger, bind, Except.bind]

theorem recordsOf_of_shows {rows : List Row} {records : List (String × Record)}
    (h : List.Forall₂ Row.Shows rows records) : recordsOf rows = .ok (keyed records, 0) := by
  induction h with
  | nil => rfl
  | cons hrow _ ih =>
    have hrecord := recordOf_of_shows hrow
    cases hrow
    simp [recordsOf, hrecord, ih, keyed, Cell.toValue, bind, Except.bind]

private theorem isIntact_of_shows {rows : List Row} {records : List (String × Record)}
    (h : List.Forall₂ Row.Shows rows records) : rows.all Row.isIntact = true := by
  induction h with
  | nil => rfl
  | cons hrow _ ih =>
    cases hrow
    simpa [Row.isIntact, Cell.isIntact] using ih

/-- Tables that hold a registry hold its snapshot, and no row is dropped. -/
theorem snapshot?_of_holds {t : Tables} {r : Registry} (hnamed : r.admin ≠ "") (h : t.Holds r) :
    t.snapshot? = .ok (some (r.snapshot, 0)) := by
  have hrecords :=
    (records_of_isIntact (isIntact_of_shows h.rows)).trans (recordsOf_of_shows h.rows)
  have hintact : t.hasIntactProperties = true := by
    simp [hasIntactProperties, h.properties, Cell.isIntact]
  have hadmin : t.admin? = some (.text r.admin) := by
    have hproperty : t.property? adminKey = some (.text r.admin) := by
      simp [property?, hintact, h.properties, Cell.toValue]
    simp [admin?, hproperty, Value.isEmpty, hnamed]
  have hnext : t.property? nextKey = some (.text r.next) := by
    simp [property?, hintact, h.properties, adminKey_ne_nextKey, Cell.toValue]
  by_cases hempty : r.next = "" <;>
    simp [snapshot?, checkIntact, hintact, hadmin, hnext, hrecords, hempty, Registry.snapshot,
      keyed, Value.isEmpty, bind, Except.bind]

end Tables

/-- A snapshot that fits leaves tables of the new registry alone, whatever the old ones were. -/
theorem Offers.saveSnapshot_of_fits {s : Store} {old : Tables} (h : s.Offers old) {r : Registry}
    (hr : r.IsTyped) (hfits : r.Fits) :
    ∃ left t, (s.saveSnapshot r.snapshot).outcome = (left, .ok ()) ∧ left.Offers t ∧ t.Holds r ∧
      Tables.ofSnapshot r.snapshot = .ok t := by
  obtain ⟨t, ht⟩ := Tables.ofSnapshot_of_fits hr hfits
  have hholds := ((Tables.ofSnapshot_eq_ok_iff_fits hr).1 ht).2
  exact ⟨_, t, h.saveSnapshot_of_ok ht, h.put t, hholds, ht⟩

theorem Offers.saveSnapshot_of_not_fits {s : Store} {old : Tables} (h : s.Offers old)
    {r : Registry} (hr : r.IsTyped) (hfits : ¬ r.Fits) :
    (s.saveSnapshot r.snapshot).outcome = (s, .error Tables.tooWide) :=
  h.saveSnapshot_of_error (Tables.ofSnapshot_of_not_fits hr hfits)

theorem load_answer_of_holds {s : Store} {t : Tables} {r : Registry} (hnamed : r.admin ≠ "")
    (hfound : s.found = .ok (some t)) (h : t.Holds r) :
    s.load.answer = .ok (some r.snapshot) := by
  rw [load_answer, tables_of_found hfound]
  simp [Tables.snapshot?_of_holds hnamed h, bind, Except.bind, Except.map]

/-- A store that holds a registry loads its snapshot, and restores it whatever the administrator at
hand is. -/
theorem load_of_holds {s : Store} {t : Tables} {r : Registry} (hr : r.WellFormed)
    (hfound : s.found = .ok (some t)) (h : t.Holds r) :
    s.load.answer = .ok (some r.snapshot) ∧
      ∀ admin, (s.loadRegistry admin).answer = .ok r := by
  have hnamed : r.admin ≠ "" := by
    intro hempty
    exact Registry.not_isAddress_empty (hempty ▸ hr.admin)
  have hload := load_answer_of_holds hnamed hfound h
  refine ⟨hload, ?_⟩
  intro admin
  rw [loadRegistry_answer, hload]
  exact Registry.restore_snapshot hr

end Store
end WalletTrust
