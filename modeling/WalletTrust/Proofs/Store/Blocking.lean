import WalletTrust.Proofs.Store.Restoring

/-!
# Rows that block a restore

A text whose bytes are none ends a restore before any row is looked at. A row whose status cannot be
read is dropped. Of every other row the score and the time are read as integers, and the first of
them that stands for none ends the restore. If there is nothing of the kind, the rows that are left
are restored with what their cells stand for.
-/

namespace WalletTrust.Store

namespace Cell

/-- What a cell spells, without the blanks around it. -/
def spelling? : Cell → Option (List Nat)
  | .text s => some (Text.trimBy Text.isNumberBlank (Text.toPoints s))
  | .garbled data => some (Text.trimBy Text.isAsciiBlank (data.map UInt8.toNat))
  | .blob data => some (Text.trimBy Text.isAsciiBlank (data.map UInt8.toNat))
  | _ => none

/-- The integer that a cell stands for. -/
inductive StandsFor : Cell → Int → Prop
  | integer (n : Int) : StandsFor (.integer n) n
  | real (negative : Bool) (m : Nat) (e : Int) :
      StandsFor (.real (.finite negative m e)) (Binary64.truncate negative m e)
  | spelled {c : Cell} {points : List Nat} {n : Int} (hspelling : c.spelling? = some points)
      (h : Text.integerOf points = .ok n) : StandsFor c n

/-- A cell that stands for no integer, and the failure of reading it as one. -/
inductive IsUnread : Cell → Failure → Prop
  | nan : IsUnread (.real .nan) .integerOfNan
  | infinite (negative : Bool) : IsUnread (.real (.infinite negative)) .integerOfInfinity
  | malformed {c : Cell} {points : List Nat} (hspelling : c.spelling? = some points)
      (h : Text.integerOf points = .error .malformed) : IsUnread c (.notInteger c.toValue)
  | tooLong {c : Cell} {points : List Nat} {count : Nat} (hspelling : c.spelling? = some points)
      (h : Text.integerOf points = .error (.tooLong count)) : IsUnread c (.tooManyDigits count)

variable {c : Cell} {n : Int} {f : Failure}

/-- A cell that spells something stands for the integer that it spells, or is unread. -/
theorem toInteger_of_spelling {points : List Nat} (h : c.spelling? = some points) :
    c.toValue.toInteger = match Text.integerOf points with
      | .ok n => .ok n
      | .error .malformed => .error (.notInteger c.toValue)
      | .error (.tooLong count) => .error (.tooManyDigits count) := by
  cases c with
  | text s => cases h; rfl
  | garbled data => cases h; rfl
  | blob data => cases h; rfl
  | _ => cases h

theorem toInteger_eq_ok_iff : c.toValue.toInteger = .ok n ↔ c.StandsFor n := by
  constructor
  · intro h
    cases hspelling : c.spelling? with
    | some points =>
      rw [toInteger_of_spelling hspelling] at h
      split at h
      · cases h
        exact .spelled hspelling ‹_›
      · cases h
      · cases h
    | none =>
      cases c with
      | integer m => cases h; exact .integer n
      | real x =>
        cases x with
        | finite negative m e => cases h; exact .real negative m e
        | _ => cases h
      | _ => cases hspelling
  · intro h
    cases h with
    | integer => rfl
    | real => rfl
    | spelled hspelling h => rw [toInteger_of_spelling hspelling, h]

private theorem toInteger_eq_error_iff : c.toValue.toInteger = .error f ↔ c.IsUnread f := by
  constructor
  · intro h
    cases hspelling : c.spelling? with
    | some points =>
      rw [toInteger_of_spelling hspelling] at h
      split at h
      · cases h
      · cases h
        exact .malformed hspelling ‹_›
      · cases h
        exact .tooLong hspelling ‹_›
    | none =>
      cases c with
      | integer m => cases h
      | real x =>
        cases x with
        | nan => cases h; exact .nan
        | infinite negative => cases h; exact .infinite negative
        | finite negative m e => cases h
      | _ => cases hspelling
  · intro h
    cases h with
    | nan => rfl
    | infinite => rfl
    | malformed hspelling h => rw [toInteger_of_spelling hspelling, h]
    | tooLong hspelling h => rw [toInteger_of_spelling hspelling, h]

end Cell

namespace Row

/-- An entry that has the wallet and the status of a row, and what its other cells stand for. -/
structure Decodes (row : Row) (entry : Value × Record) : Prop where
  wallet : entry.1 = row.wallet.toValue
  status : ∃ m, Status.ofValue row.status.toValue = .ok m ∧ entry.2.status = .status m
  score : ∃ score, row.trustScore.StandsFor score ∧ entry.2.trustScore = .int score
  time : ∃ time, row.updatedAt.StandsFor time ∧ entry.2.updatedAt = .int time

/-- A row that lacks a number although its status can be read. The score is read before the time. -/
inductive LacksNumber : Row → Failure → Prop
  | score {row : Row} {f : Failure} (hread : row.isReadable = true)
      (h : row.trustScore.IsUnread f) : LacksNumber row f
  | time {row : Row} {score : Int} {f : Failure} (hread : row.isReadable = true)
      (hscore : row.trustScore.StandsFor score) (h : row.updatedAt.IsUnread f) : LacksNumber row f

/-- A row with a text that is none, or without a number. -/
inductive Blocks : Row → Failure → Prop
  | garbled {row : Row} (h : row.isIntact = false) : Blocks row (.database .badText)
  | number {row : Row} {f : Failure} (h : row.LacksNumber f) : Blocks row f

private theorem readsAs_iff {row : Row} {entry : Value × Record} :
    Tables.ReadsAs row entry ↔ row.Decodes entry := by
  constructor
  · rintro ⟨hwallet, hrecord⟩
    unfold Tables.recordOf at hrecord
    split at hrecord
    · cases hrecord
    · rename_i m hm
      obtain ⟨score, hscore, hrecord⟩ := bind_ok hrecord
      obtain ⟨time, htime, hrecord⟩ := bind_ok hrecord
      obtain ⟨key, record⟩ := entry
      cases hrecord
      exact ⟨hwallet, ⟨m, hm, rfl⟩, ⟨score, Cell.toInteger_eq_ok_iff.1 hscore, rfl⟩,
        ⟨time, Cell.toInteger_eq_ok_iff.1 htime, rfl⟩⟩
  · rintro ⟨hwallet, ⟨m, hm, hstatus⟩, ⟨score, hscore, htrust⟩, ⟨time, htime, hupdated⟩⟩
    obtain ⟨key, status, trustScore, updatedAt⟩ := entry
    obtain rfl : status = .status m := hstatus
    obtain rfl : trustScore = .int score := htrust
    obtain rfl : updatedAt = .int time := hupdated
    refine ⟨hwallet, ?_⟩
    rw [Tables.recordOf, hm]
    simp only [Cell.toInteger_eq_ok_iff.2 hscore, Cell.toInteger_eq_ok_iff.2 htime]
    rfl

private theorem recordOf_eq_error_iff {row : Row} {f : Failure} :
    Tables.recordOf row = .error f ↔ row.LacksNumber f := by
  constructor
  · intro h
    unfold Tables.recordOf at h
    split at h
    · cases h
    · rename_i m hm
      have hread : row.isReadable = true := by rw [isReadable, hm]; rfl
      cases hscore : row.trustScore.toValue.toInteger with
      | error g =>
        rw [hscore] at h
        cases h
        exact .score hread (Cell.toInteger_eq_error_iff.1 hscore)
      | ok score =>
        cases htime : row.updatedAt.toValue.toInteger with
        | error g =>
          rw [hscore, htime] at h
          cases h
          exact .time hread (Cell.toInteger_eq_ok_iff.1 hscore)
            (Cell.toInteger_eq_error_iff.1 htime)
        | ok time =>
          rw [hscore, htime] at h
          cases h
  · intro h
    cases h with
    | score hread h =>
      obtain ⟨m, hm⟩ := exists_ok hread
      rw [Tables.recordOf, hm]
      simp only [Cell.toInteger_eq_error_iff.2 h]
      rfl
    | time hread hscore h =>
      obtain ⟨m, hm⟩ := exists_ok hread
      rw [Tables.recordOf, hm]
      simp only [Cell.toInteger_eq_ok_iff.2 hscore, Cell.toInteger_eq_error_iff.2 h]
      rfl

end Row

/-- Rows of which the first one that lacks a number has a given failure. -/
inductive LackNumber : List Row → Failure → Prop
  | here {row : Row} {rows : List Row} {f : Failure} (h : row.LacksNumber f) :
      LackNumber (row :: rows) f
  | later {row : Row} {rows : List Row} {f : Failure} (hrow : ∀ g, ¬ row.LacksNumber g)
      (h : LackNumber rows f) : LackNumber (row :: rows) f

/-- Rows that end a restore. A text that is none comes before all that is missing. -/
inductive Blocked : List Row → Failure → Prop
  | garbled {rows : List Row} (h : rows.all Row.isIntact = false) :
      Blocked rows (.database .badText)
  | number {rows : List Row} {f : Failure} (hintact : rows.all Row.isIntact = true)
      (h : LackNumber rows f) : Blocked rows f

private theorem LackNumber.exists_row {rows : List Row} {f : Failure} (h : LackNumber rows f) :
    ∃ row ∈ rows, row.LacksNumber f := by
  induction h with
  | here h => exact ⟨_, List.mem_cons_self, h⟩
  | later _ _ ih =>
    obtain ⟨row, hmem, hrow⟩ := ih
    exact ⟨row, List.mem_cons_of_mem _ hmem, hrow⟩

private theorem exists_lackNumber {rows : List Row} {row : Row} (hmem : row ∈ rows) {f : Failure}
    (h : row.LacksNumber f) : ∃ g, LackNumber rows g := by
  induction rows with
  | nil => cases hmem
  | cons first rows ih =>
    by_cases hfirst : ∃ g, first.LacksNumber g
    · obtain ⟨g, hg⟩ := hfirst
      exact ⟨g, .here hg⟩
    · rcases List.mem_cons.1 hmem with rfl | hrest
      · exact absurd ⟨f, h⟩ hfirst
      · obtain ⟨g, hg⟩ := ih hrest
        exact ⟨g, .later (not_exists.1 hfirst) hg⟩

private theorem exists_blocked_iff {rows : List Row} :
    (∃ f, Blocked rows f) ↔ ∃ row ∈ rows, ∃ f, row.Blocks f := by
  constructor
  · rintro ⟨f, h⟩
    cases h with
    | garbled h =>
      obtain ⟨row, hmem, hrow⟩ := List.all_eq_false.1 h
      exact ⟨row, hmem, _, .garbled (Bool.not_eq_true _ ▸ hrow)⟩
    | number _ h =>
      obtain ⟨row, hmem, hrow⟩ := h.exists_row
      exact ⟨row, hmem, f, .number hrow⟩
  · rintro ⟨row, hmem, f, h⟩
    cases hintact : rows.all Row.isIntact with
    | false => exact ⟨_, .garbled hintact⟩
    | true =>
      cases h with
      | garbled hrow => cases hrow.symm.trans (List.all_eq_true.1 hintact row hmem)
      | number hrow =>
        obtain ⟨g, hg⟩ := exists_lackNumber hmem hrow
        exact ⟨g, .number hintact hg⟩

namespace Tables

theorem recordsOf_eq_error_iff {rows : List Row} {f : Failure} :
    recordsOf rows = .error f ↔ LackNumber rows f := by
  induction rows generalizing f with
  | nil =>
    constructor
    · rintro ⟨⟩
    · rintro ⟨⟩
  | cons row rows ih =>
    cases hrow : recordOf row with
    | error g =>
      have hlacks := Row.recordOf_eq_error_iff.1 hrow
      have hstep : recordsOf (row :: rows) = .error g := by
        rw [recordsOf, hrow]
        rfl
      rw [hstep]
      constructor
      · rintro ⟨⟩
        exact .here hlacks
      · intro h
        cases h with
        | here h =>
          have hsame := hrow.symm.trans (Row.recordOf_eq_error_iff.2 h)
          cases hsame
          rfl
        | later hnone _ => exact absurd hlacks (hnone g)
    | ok record? =>
      have hnone : ∀ g, ¬ row.LacksNumber g := by
        intro g hg
        rw [Row.recordOf_eq_error_iff.2 hg] at hrow
        cases hrow
      have hstep : recordsOf (row :: rows) = .error f ↔ recordsOf rows = .error f := by
        rw [recordsOf, hrow]
        cases recordsOf rows with
        | error g => rfl
        | ok kept =>
          cases record? <;>
            exact iff_of_false (by rintro ⟨⟩) (by rintro ⟨⟩)
      rw [hstep, ih]
      constructor
      · exact .later hnone
      · intro h
        cases h with
        | here h => exact absurd h (hnone f)
        | later _ h => exact h

theorem records_eq_error_iff {t : Tables} {f : Failure} :
    t.records = .error f ↔ Blocked t.rows f := by
  cases hintact : t.rows.all Row.isIntact with
  | false =>
    rw [records, hintact]
    constructor
    · rintro ⟨⟩
      exact .garbled hintact
    · intro h
      cases h with
      | garbled => rfl
      | number hall _ => cases hall.symm.trans hintact
  | true =>
    rw [records_of_isIntact hintact, recordsOf_eq_error_iff]
    constructor
    · exact .number hintact
    · intro h
      cases h with
      | garbled hnone => cases hnone.symm.trans hintact
      | number _ h => exact h

/-- Rows that do not end a restore are decoded, but for those whose status cannot be read. -/
theorem records_of_not_blocked {t : Tables} (h : ∀ f, ¬ Blocked t.rows f) :
    ∃ records, t.records = .ok (records, unreadRows t.rows) ∧
      List.Forall₂ Row.Decodes (t.rows.filter Row.isReadable) records := by
  cases hrecords : t.records with
  | error f => exact absurd (records_eq_error_iff.1 hrecords) (h f)
  | ok kept =>
    obtain ⟨records, dropped⟩ := kept
    obtain ⟨hall, rfl⟩ := recordsOf_eq_ok_iff.1 (records_eq_ok hrecords).2
    exact ⟨records, rfl, hall.imp fun row entry => Row.readsAs_iff.1⟩

end Tables

variable {s : Store} {t : Tables} {admin : String}

theorem load_of_blocked (hfound : s.found = .ok (some t))
    (hadmin : t.property? Tables.adminKey = some (.text admin)) (haddress : IsAddress admin)
    {f : Failure} (h : Blocked t.rows f) : s.load = .fail f := by
  rw [load_of_admin hfound hadmin haddress, Tables.records_eq_error_iff.2 h]

theorem loadRegistry_of_blocked (hfound : s.found = .ok (some t))
    (hadmin : t.property? Tables.adminKey = some (.text admin)) (haddress : IsAddress admin)
    {f : Failure} (h : Blocked t.rows f) (default : Value) : s.loadRegistry default = .fail f := by
  rw [loadRegistry, load_of_blocked hfound hadmin haddress h]
  rfl

/-- From tables with a valid administrator a snapshot is read, and a registry restored, unless a row
holds a text that is none, or a row whose status can be read holds a score or a time that stands for
no integer. Then both fail, with such a text or else as the first such row does. Otherwise exactly
the rows whose status cannot be read are dropped, and every other row is kept with what its cells
stand for. -/
theorem unread_numbers_block_restoring (hfound : s.found = .ok (some t))
    (hadmin : t.property? Tables.adminKey = some (.text admin)) (haddress : IsAddress admin)
    (default : Value) :
    (∀ f, Blocked t.rows f → s.load = .fail f ∧ s.loadRegistry default = .fail f) ∧
      ((∀ f, ¬ Blocked t.rows f) → ∃ snapshot r,
        s.load = ⟨.ok (some snapshot), droppedEntries (unreadRows t.rows)⟩ ∧
        snapshot.admin = .text admin ∧
        List.Forall₂ Row.Decodes (t.rows.filter Row.isReadable) snapshot.records ∧
        (s.loadRegistry default).answer = .ok r ∧ r.admin = admin ∧
        r.records = snapshot.records.filterMap Registry.admissible?) ∧
      ((∃ f, Blocked t.rows f) ↔ ∃ row ∈ t.rows, ∃ f, row.Blocks f) := by
  refine ⟨?_, ?_, exists_blocked_iff⟩
  · intro f h
    exact ⟨load_of_blocked hfound hadmin haddress h,
      loadRegistry_of_blocked hfound hadmin haddress h default⟩
  · intro h
    obtain ⟨records, hrecords, hdecodes⟩ := Tables.records_of_not_blocked h
    have hload := load_of_admin hfound hadmin haddress
    rw [hrecords] at hload
    have hregistry := s.loadRegistry_answer default
    rw [hload] at hregistry
    exact ⟨_, _, hload, rfl, hdecodes,
      hregistry.trans (congrArg Logged.answer (Registry.restore_eq haddress rfl)), rfl, rfl⟩

/-- A store in memory that holds these rows and an administrator. -/
def holding (rows : List Row) : Store where
  url := []
  location := .own true true
  own? := some { rows, properties := [(.text "admin_address", .text (Address.repeating 'A'))] }

theorem found_holding (rows : List Row) :
    ∃ t, (holding rows).found = .ok (some t) ∧ t.rows = rows ∧
      t.property? Tables.adminKey = some (.text (Address.repeating 'A')) :=
  ⟨_, rfl, rfl, by
    simp [Tables.property?, Tables.hasIntactProperties, Tables.adminKey, Cell.isIntact,
      Cell.toValue]⟩

/-- A row whose status cannot be read, and one whose score is spelled and whose time is no whole
number. -/
def scrawled : List Row :=
  [⟨.text (Address.repeating 'B'), .text "gone", .text "abc", .integer 7⟩,
    ⟨.text (Address.repeating 'C'), .text "ACTIVE", .text "1_0",
      .real (.finite false 0x14000000000000 (-51))⟩]

def endless : Row :=
  ⟨.text (Address.repeating 'D'), .text "ACTIVE", .integer 75, .real (.infinite false)⟩

/-- A row that is sound but for a wallet of bytes that are no text. -/
def mangled : Row := ⟨.garbled [0xff], .text "ACTIVE", .integer 75, .integer 7⟩

theorem unread_numbers_block_restoring_scrawled :
    (∃ snapshot r, (holding scrawled).load = ⟨.ok (some snapshot), droppedEntries 1⟩ ∧
      snapshot.records.length = 1 ∧ ((holding scrawled).loadRegistry .null).answer = .ok r) ∧
      (holding (scrawled ++ [endless])).loadRegistry .null = .fail .integerOfInfinity ∧
      (holding (scrawled ++ [endless, mangled])).loadRegistry .null =
        .fail (.database .badText) := by
  have haddress : IsAddress (Address.repeating 'A') := Address.isAddress_repeating (by decide)
  have hread : Tables.records ⟨scrawled, []⟩ =
      .ok ([(.text (Address.repeating 'C'), ⟨.status .active, .int 10, .int 2⟩)], 1) := by rfl
  have hblocked : Tables.records ⟨scrawled ++ [endless], []⟩ = .error .integerOfInfinity := by rfl
  refine ⟨?_, ?_, ?_⟩
  · obtain ⟨t, hfound, hrows, hadmin⟩ := found_holding scrawled
    obtain ⟨-, hrestored, -⟩ := unread_numbers_block_restoring hfound hadmin haddress .null
    rw [hrows] at hrestored
    obtain ⟨snapshot, r, hload, -, hdecodes, hregistry, -⟩ := hrestored <| by
      intro f h
      cases hread.symm.trans (Tables.records_eq_error_iff.2 h)
    exact ⟨snapshot, r, hload, hdecodes.length_eq.symm, hregistry⟩
  · obtain ⟨t, hfound, hrows, hadmin⟩ := found_holding (scrawled ++ [endless])
    obtain ⟨hfails, -⟩ := unread_numbers_block_restoring hfound hadmin haddress .null
    rw [hrows] at hfails
    exact (hfails _ (Tables.records_eq_error_iff.1 hblocked)).2
  · obtain ⟨t, hfound, hrows, hadmin⟩ := found_holding (scrawled ++ [endless, mangled])
    obtain ⟨hfails, -⟩ := unread_numbers_block_restoring hfound hadmin haddress .null
    rw [hrows] at hfails
    exact (hfails _ (.garbled rfl)).2

/-- A text that spells no number can be stored as a score, and then nothing is restored. -/
theorem text_for_score_blocks_restoring :
    let row : Row := ⟨.text (Address.repeating 'B'), .text "ACTIVE", .text "abc", .integer 7⟩
    rowOf (.text (Address.repeating 'B')) (.text "ACTIVE") (.text "abc") (.int 7) = .ok row ∧
      (holding [row]).load.answer = .error (.notInteger (.text "abc")) ∧
      ((holding [row]).loadRegistry .null).answer = .error (.notInteger (.text "abc")) := by
  intro row
  refine ⟨by rfl, by rfl, by rfl⟩

end WalletTrust.Store
