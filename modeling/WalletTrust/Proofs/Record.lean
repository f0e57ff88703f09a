import WalletTrust.Proofs.Status.Grammar
import WalletTrust.Proofs.Store.RoundTrip

/-!
# Records from fields

A record is decoded from named fields of any kind, one after the other. What comes out has a status
and integers, and its own fields decode to it again. The first field that cannot be converted is the
one that decoding fails for.
-/

namespace WalletTrust.Record

def given (name : String) (default : Value) (entries : List (Value × Value)) : Value :=
  (Value.field? name entries).getD default

def givenStatus (entries : List (Value × Value)) : Value :=
  given "status" (.status .unknown) entries

def givenScore (entries : List (Value × Value)) : Value := given "trust_score" (.int 0) entries

def givenTime (entries : List (Value × Value)) : Value := given "updated_at" (.int 0) entries

structure Decodes (entries : List (Value × Value)) (r : Record) : Prop where
  status : ∃ m, Status.Spells (givenStatus entries) m ∧ r.status = .status m
  score : ∃ n, (givenScore entries).toInteger = .ok n ∧ r.trustScore = .int n
  time : ∃ n, (givenTime entries).toInteger = .ok n ∧ r.updatedAt = .int n

/-- The failure of the first field that cannot be converted. -/
inductive FailsFirst (entries : List (Value × Value)) : Failure → Prop
  | status (h : ∀ m, ¬ Status.Spells (givenStatus entries) m) :
      FailsFirst entries (.notStatus (givenStatus entries))
  | score {m : Status} {f : Failure} (hstatus : Status.Spells (givenStatus entries) m)
      (h : (givenScore entries).toInteger = .error f) : FailsFirst entries f
  | time {m : Status} {score : Int} {f : Failure} (hstatus : Status.Spells (givenStatus entries) m)
      (hscore : (givenScore entries).toInteger = .ok score)
      (h : (givenTime entries).toInteger = .error f) : FailsFirst entries f

variable {entries : List (Value × Value)} {r : Record} {f : Failure}

theorem ofFields_eq (entries : List (Value × Value)) : ofFields entries =
    Status.ofValue (givenStatus entries) >>= fun m =>
      (givenScore entries).toInteger >>= fun score =>
        (givenTime entries).toInteger >>= fun time => .ok ⟨.status m, .int score, .int time⟩ :=
  rfl

theorem ofFields_eq_ok_iff : ofFields entries = .ok r ↔ Decodes entries r := by
  rw [ofFields_eq]
  constructor
  · intro h
    obtain ⟨m, hm, h⟩ := bind_ok h
    obtain ⟨score, hscore, h⟩ := bind_ok h
    obtain ⟨time, htime, h⟩ := bind_ok h
    cases h
    exact ⟨⟨m, (Status.ofValue_eq_ok_iff _ m).1 hm, rfl⟩, ⟨score, hscore, rfl⟩, ⟨time, htime, rfl⟩⟩
  · rintro ⟨⟨m, hm, hstatus⟩, ⟨score, hscore, htrust⟩, ⟨time, htime, hupdated⟩⟩
    obtain ⟨status, trustScore, updatedAt⟩ := r
    obtain rfl : status = .status m := hstatus
    obtain rfl : trustScore = .int score := htrust
    obtain rfl : updatedAt = .int time := hupdated
    rw [(Status.ofValue_eq_ok_iff _ m).2 hm, hscore, htime]
    rfl

theorem ofFields_eq_error_iff : ofFields entries = .error f ↔ FailsFirst entries f := by
  rw [ofFields_eq]
  constructor
  · intro h
    cases hm : Status.ofValue (givenStatus entries) with
    | error g =>
      rw [hm] at h
      cases h
      rw [Status.ofValue_error hm]
      refine .status fun m hspells => ?_
      rw [(Status.ofValue_eq_ok_iff _ m).2 hspells] at hm
      cases hm
    | ok m =>
      have hstatus := (Status.ofValue_eq_ok_iff _ m).1 hm
      cases hscore : (givenScore entries).toInteger with
      | error g =>
        rw [hm, hscore] at h
        cases h
        exact .score hstatus hscore
      | ok score =>
        cases htime : (givenTime entries).toInteger with
        | error g =>
          rw [hm, hscore, htime] at h
          cases h
          exact .time hstatus hscore htime
        | ok time =>
          rw [hm, hscore, htime] at h
          cases h
  · intro h
    cases h with
    | status h =>
      rw [Status.ofValue_of_not_spells h]
      rfl
    | score hstatus h =>
      rw [(Status.ofValue_eq_ok_iff _ _).2 hstatus, h]
      rfl
    | time hstatus hscore h =>
      rw [(Status.ofValue_eq_ok_iff _ _).2 hstatus, hscore, h]
      rfl

private theorem Decodes.isTyped (h : Decodes entries r) : r.IsTyped := by
  obtain ⟨⟨m, -, hstatus⟩, ⟨score, -, hscore⟩, ⟨time, -, htime⟩⟩ := h
  obtain ⟨status, trustScore, updatedAt⟩ := r
  obtain rfl : status = .status m := hstatus
  obtain rfl : trustScore = .int score := hscore
  obtain rfl : updatedAt = .int time := htime
  exact .mk m score time

/-- A record of a status and integers is written as fields that decode to it. -/
theorem IsTyped.exists_fields (h : r.IsTyped) :
    ∃ written, r.fields = .ok written ∧ ofFields written = .ok r := by
  cases h with
  | mk m score time =>
    refine ⟨_, rfl, ?_⟩
    rw [ofFields_eq]
    simp only [givenStatus, givenScore, givenTime, given, Value.field?]
    simp [Status.ofValue_name, Value.toInteger, bind, Except.bind]

/-- Decoding fields of any kind normalises them in one pass: what it makes is a record of a status
and of integers, which is written as fields that decode to the same record. Every such record comes
about in this way. Fields are converted in a fixed order, and the first one that cannot be converted
decides the failure; a field that is missing has its default. -/
theorem records_are_normalised_in_one_pass :
    (∀ (m : Status) (score time : Int), ∃ written,
      (⟨.status m, .int score, .int time⟩ : Record).fields = .ok written ∧
        ofFields written = .ok ⟨.status m, .int score, .int time⟩) ∧
      (∀ given r, ofFields given = .ok r ↔ Decodes given r) ∧
      (∀ given r, ofFields given = .ok r → r.IsTyped ∧
        ∃ written, r.fields = .ok written ∧ ofFields written = .ok r) ∧
      ∀ given f, ofFields given = .error f ↔ FailsFirst given f := by
  refine ⟨?_, fun _ _ => ofFields_eq_ok_iff, ?_, fun _ _ => ofFields_eq_error_iff⟩
  · intro m score time
    exact (IsTyped.mk m score time).exists_fields
  · intro given r h
    have htyped := (ofFields_eq_ok_iff.1 h).isTyped
    exact ⟨htyped, htyped.exists_fields⟩

/-- Fields of other kinds than a record has, where digits of two scripts write one number. -/
def motley : List (Value × Value) :=
  [(.text "updated_at", .bytes [0x20, 0x37]), (.text "trust_score", .text "\u2003+\u0667_5"),
    (.text "status", .text " blocked\n")]

theorem records_are_normalised_in_one_pass_motley :
    (∃ r written, ofFields motley = .ok r ∧ r.trustScore = .int 75 ∧ r.fields = .ok written ∧
      ofFields written = .ok r) ∧
      ofFields [(.text "updated_at", .null), (.text "trust_score", .text "x")] =
        .error (.notInteger (.text "x")) := by
  obtain ⟨-, hdecoded, hagain, hfails⟩ := records_are_normalised_in_one_pass
  have hstatus : Status.ofValue (givenStatus motley) = .ok .blocked := by rfl
  have hscore : (givenScore motley).toInteger = .ok 75 := by rfl
  have htime : (givenTime motley).toInteger = .ok 7 := by rfl
  have hmotley : ofFields motley = .ok ⟨.status .blocked, .int 75, .int 7⟩ :=
    (hdecoded _ _).2 ⟨⟨_, (Status.ofValue_eq_ok_iff _ _).1 hstatus, rfl⟩, ⟨_, hscore, rfl⟩,
      ⟨_, htime, rfl⟩⟩
  obtain ⟨-, written, hwritten, hread⟩ := hagain _ _ hmotley
  refine ⟨⟨_, written, hmotley, rfl, hwritten, hread⟩, (hfails _ _).2 ?_⟩
  exact .score (.itself .unknown) (by rfl)

end WalletTrust.Record
