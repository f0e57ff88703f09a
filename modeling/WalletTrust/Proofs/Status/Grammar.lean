import Mathlib.Data.List.Forall2
import WalletTrust.Proofs.Store.Loading
import WalletTrust.Proofs.Text.Blank

/-!
# What spells a status

A value spells a status if it is the status, its code, or a text with its name between blanks. The
letters of a name may be capital or small, and a small `I` may be without its dot.
-/

namespace WalletTrust

namespace Text

/-- A character is a capital letter, its small letter, or the dotless small letter of an `I`. -/
def IsCaseOf (c letter : Char) : Prop :=
  c = letter ∨ c = letter.toLower ∨ c = 'ı' ∧ letter = 'I'

instance (c letter : Char) : Decidable (IsCaseOf c letter) :=
  inferInstanceAs (Decidable (c = letter ∨ c = letter.toLower ∨ c = 'ı' ∧ letter = 'I'))

/-- The capital letters that no ligature and no other form of an `S` has for its upper case. -/
def plainLetters : List Char := "ABCDEGHIJKLMNOPQRTUVWXYZ".toList

theorem toNat_lt_of_mem_plainLetters {letter : Char} (h : letter ∈ plainLetters) :
    letter.toNat < 0x80 := by
  have hall : plainLetters.all (·.toNat < 0x80) = true := by decide
  simpa using List.all_eq_true.1 hall letter h

theorem isSmall_toLower {letter : Char} (h : letter ∈ plainLetters) :
    'a' ≤ letter.toLower ∧ letter.toLower ≤ 'z' := by
  have hall : plainLetters.all (fun c => 'a' ≤ c.toLower ∧ c.toLower ≤ 'z') = true := by decide
  simpa using List.all_eq_true.1 hall letter h

private theorem toUpper_eq_iff {c letter : Char} (hc : 'a' ≤ c ∧ c ≤ 'z')
    (h : letter ∈ plainLetters) :
    c.toUpper = letter ↔ IsCaseOf c letter := by
  -- there are few letters of either kind
  have hsmall : c ∈ (List.range 0x7b).map Char.ofNat := by
    have hle : c.toNat ≤ 'z'.toNat := hc.2
    exact List.mem_map.2 ⟨c.toNat, List.mem_range.2 (Nat.lt_succ_of_le hle), Char.ofNat_toNat c⟩
  have hall : ((List.range 0x7b).map Char.ofNat).all (fun c => plainLetters.all fun letter =>
      'a' ≤ c → (c.toUpper = letter ↔ IsCaseOf c letter)) = true := by decide +kernel
  have hletters := List.all_eq_true.1 (List.all_eq_true.1 hall c hsmall) letter h
  exact of_decide_eq_true hletters hc.1

theorem isCaseOf_iff_of_not_small {c letter : Char} (hc : ¬ ('a' ≤ c ∧ c ≤ 'z'))
    (h : letter ∈ plainLetters) : IsCaseOf c letter ↔ c = letter ∨ c = 'ı' ∧ letter = 'I' := by
  have hlower : c ≠ letter.toLower := fun heq => hc (heq ▸ isSmall_toLower h)
  simp [IsCaseOf, hlower]

/-- A character that is no small letter has itself for its upper case, or else an `I`, or what
starts with none of the plain letters. -/
theorem upperAscii_of_not_small {c : Char} (hc : ¬ ('a' ≤ c ∧ c ≤ 'z')) :
    c = 'ı' ∧ upperAscii c = ['I'] ∨ c ≠ 'ı' ∧ upperAscii c = [c] ∨
      0x80 ≤ c.toNat ∧ c ≠ 'ı' ∧ ∃ first others, upperAscii c = first :: others ∧
        first ∉ plainLetters := by
  unfold upperAscii
  rw [if_neg hc]
  split
  case h_2 hpoint => exact .inl ⟨Char.toNat_inj.1 hpoint, rfl⟩
  case h_11 _ hdotless _ _ _ _ _ _ _ _ =>
    refine .inr (.inl ⟨?_, rfl⟩)
    rintro rfl
    exact hdotless (by decide)
  -- the others are no ASCII, and their upper case starts with an `S` or an `F`
  all_goals
    rename_i hpoint
    refine .inr (.inr ⟨by omega, ?_, _, _, rfl, by decide⟩)
    rintro rfl
    exact absurd hpoint (by decide)

private theorem upperAscii_append_eq_cons {c letter : Char} (h : letter ∈ plainLetters)
    (rest letters : List Char) :
    upperAscii c ++ rest = letter :: letters ↔ IsCaseOf c letter ∧ rest = letters := by
  by_cases hc : 'a' ≤ c ∧ c ≤ 'z'
  · have hupper : upperAscii c = [c.toUpper] := if_pos hc
    rw [hupper, List.singleton_append, List.cons.injEq, toUpper_eq_iff hc h]
  rw [isCaseOf_iff_of_not_small hc h]
  rcases upperAscii_of_not_small hc with ⟨rfl, hupper⟩ | ⟨hne, hupper⟩ |
    ⟨hbound, hne, first, others, hupper, hfirst⟩
  · have hother : 'ı' ≠ letter := by
      rintro rfl
      exact absurd h (by decide)
    simp [hupper, hother, eq_comm]
  · simp [hupper, hne]
  · have hfirst' : first ≠ letter := fun heq => hfirst (heq ▸ h)
    have hother : c ≠ letter := by
      rintro rfl
      have hsmall := toNat_lt_of_mem_plainLetters h
      omega
    simp [hupper, hfirst', hother, hne]

theorem upperAscii_ne_nil (c : Char) : upperAscii c ≠ [] := by
  unfold upperAscii
  repeat' split
  all_goals exact List.cons_ne_nil _ _

/-- A word has a name for its upper case if its characters are the letters of the name. -/
theorem flatMap_upperAscii_eq_iff {name : List Char} (h : ∀ letter ∈ name, letter ∈ plainLetters)
    (word : List Char) :
    word.flatMap upperAscii = name ↔ List.Forall₂ IsCaseOf word name := by
  induction word generalizing name with
  | nil =>
    cases name with
    | nil => simp
    | cons letter letters => simp
  | cons c word ih =>
    rw [List.flatMap_cons]
    cases name with
    | nil => simp [upperAscii_ne_nil c]
    | cons letter letters =>
      rw [List.forall_mem_cons] at h
      rw [upperAscii_append_eq_cons h.1, List.forall₂_cons, ih h.2]

end Text

namespace Status

/-- A text that names a status: its letters, between blanks. -/
def Names (s : String) (m : Status) : Prop :=
  ∃ left word right, (∀ c ∈ left, Text.isBlank c = true) ∧ (∀ c ∈ right, Text.isBlank c = true) ∧
    s.toList = left ++ (word ++ right) ∧ List.Forall₂ Text.IsCaseOf word m.name.toList

/-- The values that a status is read from. -/
inductive Spells : Value → Status → Prop
  | itself (m : Status) : Spells (.status m) m
  | code (m : Status) : Spells (.int m.code) m
  | name {s : String} {m : Status} (h : Names s m) : Spells (.text s) m

theorem plain_name (m : Status) : ∀ letter ∈ m.name.toList, letter ∈ Text.plainLetters := by
  have hall : m.name.toList.all (Text.plainLetters.contains ·) = true := by cases m <;> decide
  simpa using hall

private theorem isBlank_of_isCaseOf {c letter : Char} (h : letter ∈ Text.plainLetters)
    (hc : Text.IsCaseOf c letter) : Text.isBlank c = false := by
  have hall : Text.plainLetters.all (fun letter =>
      !Text.isBlank letter && !Text.isBlank letter.toLower) = true := by decide +kernel
  have hletter : Text.isBlank letter = false ∧ Text.isBlank letter.toLower = false := by
    simpa using List.all_eq_true.1 hall letter h
  rcases hc with rfl | rfl | ⟨rfl, -⟩
  · exact hletter.1
  · exact hletter.2
  · decide

private theorem forall_not_isBlank {word name : List Char}
    (h : List.Forall₂ Text.IsCaseOf word name)
    (hname : ∀ letter ∈ name, letter ∈ Text.plainLetters) :
    ∀ c ∈ word, Text.isBlank c = false := by
  induction h with
  | nil => simp
  | cons hc _ ih =>
    rw [List.forall_mem_cons] at hname ⊢
    exact ⟨isBlank_of_isCaseOf hname.1 hc, ih hname.2⟩

private theorem names_iff (s : String) (m : Status) :
    Names s m ↔ List.Forall₂ Text.IsCaseOf (Text.trimBy Text.isBlank s.toList) m.name.toList := by
  constructor
  · rintro ⟨left, word, right, hleft, hright, hs, hword⟩
    have hsolid := forall_not_isBlank hword (plain_name m)
    rwa [hs, Text.trimBy_padded hleft hright, Text.trimBy_of_forall_not hsolid]
  · intro h
    obtain ⟨left, right, hleft, hright, hs⟩ := Text.exists_eq_padded_trimBy Text.isBlank s.toList
    exact ⟨left, _, right, hleft, hright, hs, h⟩

theorem normalized_eq_name_iff (s : String) (m : Status) : normalized s = m.name ↔ Names s m := by
  rw [names_iff, ← Text.flatMap_upperAscii_eq_iff (plain_name m), normalized,
    ← String.toList_inj, String.toList_ofList]

private theorem ofName?_eq_some_iff (s : String) (m : Status) :
    ofName? s = some m ↔ s = m.name := by
  constructor
  · intro h
    have hname := List.find?_some h
    exact (beq_iff_eq.1 hname).symm
  · rintro rfl
    exact ofName?_name m

theorem ofCode_int_eq_ok_iff (n : Int) (m : Status) : ofCode (.int n) = .ok m ↔ n = m.code := by
  constructor
  · intro h
    unfold ofCode at h
    split at h
    · rename_i found hfound
      obtain rfl : found = m := Except.ok.inj h
      have hsame := List.find?_some hfound
      exact (beq_iff_eq.1 hsame).symm
    · cases h
  · rintro rfl
    cases m <;> rfl

/-- A value is read as a status if it spells it. -/
theorem ofValue_eq_ok_iff (v : Value) (m : Status) : ofValue v = .ok m ↔ Spells v m := by
  cases v with
  | status other =>
    constructor
    · rintro ⟨⟩
      exact .itself m
    · rintro ⟨⟩
      rfl
  | int n =>
    rw [ofValue, ofCode_int_eq_ok_iff]
    constructor
    · rintro rfl
      exact .code m
    · rintro ⟨⟩
      rfl
  | text s =>
    have hnames : ofName? (normalized s) = some m ↔ Names s m := by
      rw [ofName?_eq_some_iff, normalized_eq_name_iff]
    have hread : ofValue (.text s) = .ok m ↔ ofName? (normalized s) = some m := by
      rw [ofValue]
      cases ofName? (normalized s) <;> simp
    rw [hread, hnames]
    exact ⟨.name, fun (.name h) => h⟩
  | _ => exact ⟨fun h => (nomatch h), fun h => (nomatch h)⟩

theorem ofValue_error {v : Value} {f : Failure} (h : ofValue v = .error f) : f = .notStatus v := by
  unfold ofValue ofCode at h
  split at h
  · cases h
  · split at h
    · cases h
    · exact (Except.error.inj h).symm
  · split at h
    · cases h
    · exact (Except.error.inj h).symm
  · exact (Except.error.inj h).symm

theorem ofValue_of_not_spells {v : Value} (h : ∀ m, ¬ Spells v m) :
    ofValue v = .error (.notStatus v) := by
  cases hv : ofValue v with
  | ok m => exact absurd ((ofValue_eq_ok_iff v m).1 hv) (h m)
  | error f => rw [ofValue_error hv]

end Status

namespace Store

private theorem Row.isReadable_iff (row : Row) :
    row.isReadable = true ↔ ∃ m, Status.Spells row.status.toValue m := by
  simp only [← Status.ofValue_eq_ok_iff]
  constructor
  · exact exists_ok
  · rintro ⟨m, hm⟩
    rw [Row.isReadable, hm]
    rfl

private theorem Tables.recordOf_status {row : Row} {record : Record}
    (h : recordOf row = .ok (some record)) :
    ∃ m, Status.Spells row.status.toValue m ∧ record.status = .status m := by
  unfold recordOf at h
  split at h
  · cases h
  · rename_i m hm
    obtain ⟨score, -, h⟩ := bind_ok h
    obtain ⟨time, -, h⟩ := bind_ok h
    cases h
    exact ⟨m, (Status.ofValue_eq_ok_iff _ m).1 hm, rfl⟩

private theorem forall₂_load {s : Store} {snapshot : Snapshot}
    (h : s.load.answer = .ok (some snapshot)) :
    ∃ t, s.tables = .ok t ∧
      List.Forall₂ (fun row entry => entry.1 = row.wallet.toValue ∧
        ∃ m, Status.Spells row.status.toValue m ∧ entry.2.status = .status m)
        (t.rows.filter Row.isReadable) snapshot.records := by
  rw [load_answer] at h
  obtain ⟨found?, hfound, hsnapshot⟩ := map_ok h
  obtain ⟨t, ht, hread⟩ := bind_ok hfound
  cases found? with
  | none => cases hsnapshot
  | some found =>
    obtain ⟨loaded, dropped⟩ := found
    obtain rfl : loaded = snapshot := Option.some.inj hsnapshot
    have hrecords := Tables.recordsOf_of_snapshot? hread
    obtain ⟨hall, -⟩ := Tables.recordsOf_eq_ok_iff.1 hrecords
    refine ⟨t, ht, hall.imp ?_⟩
    rintro row entry ⟨hkey, hrecord⟩
    exact ⟨hkey, Tables.recordOf_status hrecord⟩

end Store

namespace Status

/-- A status is read from the values that spell it, and from no others. Every other value that can
be shown in a message is refused with that value. The rows of a database that are loaded are those
whose status is spelled. -/
theorem statuses_are_read_as_spelled :
    (∀ v m, ofValue v = .ok m ↔ Spells v m) ∧
      (∀ v, (∀ m, ¬ Spells v m) → v.isWritable = true → ofValue v = .error (.invalidStatus v)) ∧
      ∀ (s : Store) (snapshot : Snapshot), s.load.answer = .ok (some snapshot) →
        ∃ t, s.tables = .ok t ∧
          (∀ row : Store.Row, row.isReadable = true ↔ ∃ m, Spells row.status.toValue m) ∧
          List.Forall₂ (fun row entry => entry.1 = row.wallet.toValue ∧
            ∃ m, Spells row.status.toValue m ∧ entry.2.status = .status m)
            (t.rows.filter Store.Row.isReadable) snapshot.records := by
  refine ⟨ofValue_eq_ok_iff, ?_, ?_⟩
  · intro v hv hwritable
    rw [ofValue_of_not_spells hv, Failure.notStatus, Failure.showing, if_pos hwritable]
  · intro s snapshot h
    obtain ⟨t, ht, hall⟩ := Store.forall₂_load h
    exact ⟨t, ht, Store.Row.isReadable_iff, hall⟩

theorem statuses_are_read_as_spelled_between_blanks :
    ofValue (.text "\u2003reVıew\n") = .ok .review ∧
      ofValue (.int 4) = .error (.invalidStatus (.int 4)) := by
  obtain ⟨hread, hrefused, -⟩ := statuses_are_read_as_spelled
  have hname : Names "\u2003reVıew\n" .review :=
    ⟨['\u2003'], "reVıew".toList, ['\n'], List.forall_mem_singleton.2 (by decide),
      List.forall_mem_singleton.2 (by decide), rfl, by decide⟩
  refine ⟨(hread _ _).2 (.name hname), hrefused (.int 4) ?_ (by decide +kernel)⟩
  intro m h
  have hcode := (hread _ _).2 h
  rw [ofValue, ofCode_int_eq_ok_iff] at hcode
  cases m <;> exact absurd hcode (by decide)

/-- Two limits of the grammar: a dotless letter is read like the small letter of an `I`, which its
case in ASCII is not, and an integer that no message can show is not refused with itself. -/
theorem dotless_letters_and_long_integers :
    ofValue (.text "actıve") = .ok .active ∧
      ¬ List.Forall₂ (fun c letter => c = letter ∨ c = letter.toLower)
        (Text.trimBy Text.isBlank "actıve".toList) Status.active.name.toList ∧
      ofValue (.int (Nat.pow 10 Text.digitLimit)) = .error .integerTooLong := by
  refine ⟨rfl, by decide +kernel, ?_⟩
  have hshown : (Value.int (Nat.pow 10 Text.digitLimit)).isWritable = false := by decide +kernel
  have hlong : ∀ m : Status, (Nat.pow 10 Text.digitLimit : Int) ≠ m.code := by
    intro m
    cases m <;> decide +kernel
  rw [ofValue_of_not_spells, Failure.notStatus, Failure.showing, hshown]
  · rfl
  · intro m h
    have hcode := (ofValue_eq_ok_iff _ m).2 h
    rw [ofValue, ofCode_int_eq_ok_iff] at hcode
    exact hlong m hcode

end Status
end WalletTrust
