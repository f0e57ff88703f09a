import WalletTrust.Proofs.Obtainable
import WalletTrust.Session.Basic

/-!
# Restoring is a projection

A registry is restored from its own snapshot as it is. From any other snapshot with a valid
administrator a registry is restored that holds the sound part of it. No observer hears of either.
-/

namespace WalletTrust

def Value.IsScore (v : Value) : Prop := ∃ n : Int, v = .int n ∧ 0 ≤ n ∧ n ≤ 100

theorem Address.isSome_ofValue?_iff (v : Value) : (ofValue? v).isSome = true ↔ v.IsAddress := by
  constructor
  · intro h
    obtain ⟨s, hs⟩ := Option.isSome_iff_exists.1 h
    obtain ⟨rfl, hvalid⟩ := ofValue?_eq_some_iff.1 hs
    exact ⟨s, rfl, isValid_iff.1 hvalid⟩
  · rintro ⟨s, rfl, hs⟩
    rw [ofValue?_text, if_pos hs]
    rfl

instance (v : Value) : Decidable v.IsAddress := decidable_of_iff _ (Address.isSome_ofValue?_iff v)

instance (v : Value) : Decidable v.IsScore := decidable_of_iff _ Score.isValid_iff

namespace Snapshot

/-- An entry that a registry can hold, whatever its status is. -/
def IsSound (entry : Value × Record) : Prop := entry.1.IsAddress ∧ entry.2.trustScore.IsScore

instance (entry : Value × Record) : Decidable (IsSound entry) :=
  inferInstanceAs (Decidable (_ ∧ _))

/-- The part of a snapshot that a registry can hold, with an empty pointer in place of one that is
no address. -/
def sound (s : Snapshot) : Snapshot where
  admin := s.admin
  next := if s.next.IsAddress then s.next else .text ""
  records := s.records.filter fun entry => IsSound entry

end Snapshot

namespace Registry

open Snapshot (IsSound)

private theorem admissible?_of_isSound {entry : Value × Record} (h : IsSound entry) :
    ∃ kept, admissible? entry = some kept ∧ entry = (.text kept.1, kept.2) := by
  obtain ⟨key, record⟩ := entry
  obtain ⟨⟨wallet, rfl, hwallet⟩, hscore⟩ := h
  have hvalid : Score.isValid record.trustScore = true := Score.isValid_iff.2 hscore
  exact ⟨(wallet, record), by simp [admissible?, Address.ofValue?_text, hwallet, hvalid], rfl⟩

private theorem admissible?_eq_none {entry : Value × Record} (h : ¬ IsSound entry) :
    admissible? entry = none := by
  by_contra hsome
  obtain ⟨kept, hkept⟩ := Option.ne_none_iff_exists'.1 hsome
  obtain ⟨rfl, hwallet, hscore⟩ := admissible?_eq_some hkept
  exact h ⟨⟨kept.1, rfl, hwallet⟩, hscore⟩

/-- Sound entries are kept as they are, and in their order. -/
theorem map_filterMap_admissible? (records : List (Value × Record)) :
    (records.filterMap admissible?).map (fun entry => (Value.text entry.1, entry.2)) =
      records.filter fun entry => IsSound entry := by
  induction records with
  | nil => rfl
  | cons entry rest ih =>
    by_cases h : IsSound entry
    · obtain ⟨kept, hkept, hentry⟩ := admissible?_of_isSound h
      rw [List.filterMap_cons_some hkept, List.map_cons, ih, ← hentry,
        List.filter_cons_of_pos (by simpa using h)]
    · rw [List.filterMap_cons_none (admissible?_eq_none h), ih,
        List.filter_cons_of_neg (by simpa using h)]

private theorem text_ofValue?_getD (next : Value) :
    Value.text ((Address.ofValue? next).getD "") =
      if next.IsAddress then next else .text "" := by
  by_cases h : next.IsAddress
  · obtain ⟨s, rfl, hs⟩ := h
    rw [Address.ofValue?_text, if_pos hs, if_pos ⟨s, rfl, hs⟩]
    rfl
  · have hnone : Address.ofValue? next = none := by
      rw [← Option.not_isSome_iff_eq_none, Address.isSome_ofValue?_iff]
      exact h
    rw [hnone, if_neg h]
    rfl

/-- What is restored of a snapshot with a valid administrator is its sound part, and passes all
checks again. -/
theorem exists_restore {s : Snapshot} (hadmin : s.admin.IsAddress) :
    ∃ r log, restore s = ⟨.ok r, log⟩ ∧ r.snapshot = s.sound ∧ r.Passes := by
  obtain ⟨admin, hs, haddress⟩ := hadmin
  have hrestore := restore_eq haddress hs
  refine ⟨_, _, hrestore, ?_, passes_restore (congrArg Logged.answer hrestore)⟩
  have hrecords := map_filterMap_admissible? s.records
  have hnext := text_ofValue?_getD s.next
  simp only [snapshot, Snapshot.sound, hs, hrecords, hnext]

theorem restore_of_bad_admin {s : Snapshot} (h : ¬ s.admin.IsAddress) :
    restore s = .fail (badAdmin s.admin) := by
  rw [restore, create_of_not_isAddress h]
  rfl

private theorem source_of_restore (s : Snapshot) :
    ∀ entry ∈ (restore s).log, entry.source ≠ .observer := by
  by_cases hadmin : s.admin.IsAddress
  · obtain ⟨admin, hs, haddress⟩ := hadmin
    rw [restore_eq haddress hs]
    intro entry hentry
    rcases List.mem_append.1 hentry with hnext | hrecords
    · rcases admissibleNext_log s.next with hlog | hlog
      · rw [hlog] at hnext
        cases hnext
      · rw [hlog, List.mem_singleton] at hnext
        rw [hnext]
        nofun
    · unfold droppedEntries at hrecords
      split at hrecords
      · cases hrecords
      · rw [List.mem_singleton.1 hrecords]
        nofun
  · rw [restore_of_bad_admin hadmin]
    nofun

end Registry

namespace Session

theorem observer?_replace (s : Session) (op : Logged Registry) :
    (s.replace op).session.observer? = s.observer? ∧ (s.replace op).log = op.log := by
  unfold replace
  cases op.answer <;> exact ⟨rfl, rfl⟩

/-- The actions that put a restored registry in place of the present one. -/
inductive Action.IsRestore : Action → Prop
  | restore (s : Snapshot) : IsRestore (.restore s)
  | roundTrip : IsRestore .roundTrip

theorem unobserved_step {a : Action} (ha : a.IsRestore) (s : Session) (heard : Clocks) :
    (s.step a heard).session.observer? = s.observer? ∧
      ∀ entry ∈ (s.step a heard).log, entry.source ≠ .observer := by
  cases ha with
  | restore snapshot =>
    obtain ⟨hobserver, hlog⟩ := s.observer?_replace (Registry.restore snapshot)
    refine ⟨hobserver, ?_⟩
    rw [step, hlog]
    exact Registry.source_of_restore snapshot
  | roundTrip =>
    cases hr : s.registry? with
    | none =>
      simp only [step, onRegistry, hr]
      exact ⟨rfl, nofun⟩
    | some r =>
      obtain ⟨hobserver, hlog⟩ := s.observer?_replace (Registry.restore r.snapshot)
      simp only [step, onRegistry, hr, hlog]
      exact ⟨hobserver, Registry.source_of_restore r.snapshot⟩

end Session

namespace Registry

/-- A registry is what its own snapshot restores. Of any other snapshot with a valid administrator
the sound part is restored, and restoring that once more changes nothing; without one there is no
registry. Whichever it is, observers keep what they recorded and log nothing. -/
theorem restoring_is_a_projection :
    (∀ r : Registry, r.Reachable → restore r.snapshot = .succeed r) ∧
      (∀ s : Snapshot, s.admin.IsAddress → ∃ r log, restore s = ⟨.ok r, log⟩ ∧
        r.snapshot = s.sound ∧ restore r.snapshot = .succeed r) ∧
      (∀ s : Snapshot, ¬ s.admin.IsAddress → restore s = .fail (badAdmin s.admin)) ∧
      ∀ (session : Session) (heard : Clocks) (a : Session.Action), a.IsRestore →
        let step := session.step a heard
        step.session.observer? = session.observer? ∧
          ∀ entry ∈ step.log, entry.source ≠ .observer := by
  refine ⟨?_, ?_, fun s => restore_of_bad_admin, ?_⟩
  · intro r hr
    exact hr.wellFormed.passes.restore_snapshot
  · intro s hadmin
    obtain ⟨r, log, hrestore, hsound, hpasses⟩ := exists_restore hadmin
    exact ⟨r, log, hrestore, hsound, hpasses.restore_snapshot⟩
  · intro session heard a ha
    exact Session.unobserved_step ha session heard

theorem restoring_is_a_projection_patchy :
    restore patched.snapshot = .succeed patched ∧
      (∃ r log, restore patchy = ⟨.ok r, log⟩ ∧ r.next = "" ∧ r.size = 1) ∧
      (restore { patchy with admin := .null }).answer = .error (badAdmin .null) := by
  obtain ⟨hreachable, hvalid, hinvalid, -⟩ := restoring_is_a_projection
  have hA : IsAddress (Address.repeating 'A') := Address.isAddress_repeating (by decide)
  have hnull : ¬ (Value.null).IsAddress := by decide
  have hsize : patchy.sound.records.length = 1 := by decide +kernel
  have hnext : ¬ patchy.next.IsAddress := by decide +kernel
  refine ⟨hreachable patched (.restore isProper_patchy restore_patchy), ?_, ?_⟩
  · obtain ⟨r, log, hrestore, hsound, -⟩ := hvalid patchy ⟨_, rfl, hA⟩
    have hpointer := congrArg Snapshot.next hsound
    have hrecords := congrArg (fun s => s.records.length) hsound
    simp only [snapshot, Snapshot.sound, if_neg hnext, Value.text.injEq] at hpointer
    simp only [hsize, snapshot, List.length_map] at hrecords
    exact ⟨r, log, hrestore, hpointer, hrecords⟩
  · rw [hinvalid { patchy with admin := .null } hnull]
    rfl

end Registry
end WalletTrust
