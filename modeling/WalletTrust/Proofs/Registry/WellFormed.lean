import WalletTrust.Proofs.Registry.Call
import WalletTrust.Proofs.Registry.Records

/-!
# Well-formed registries

Every way to obtain a registry checks what it lets in: the administrator has an address, the pointer
is an address or missing, and every record has a wallet of its own, a status and a score. A
well-formed registry is the one that its snapshot restores.
-/

namespace WalletTrust.Registry

/-- What a registry holds of a wallet. -/
structure Admits (entry : String × Record) : Prop where
  wallet : IsAddress entry.1
  status : ∃ status, entry.2.status = .status status
  score : ∃ score : Int, entry.2.trustScore = .int score ∧ 0 ≤ score ∧ score ≤ 100

structure WellFormed (r : Registry) : Prop where
  admin : IsAddress r.admin
  next : r.next = "" ∨ IsAddress r.next
  records : ∀ entry ∈ r.records, Admits entry
  distinct : (wallets r.records).Nodup

theorem create_text (s : String) :
    create (.text s) = if IsAddress s then .ok { admin := s } else .error (badAdmin (.text s)) := by
  by_cases h : IsAddress s <;> simp [create, Address.ofValue?_text, h]

theorem create_eq_ok {admin : Value} {r : Registry} (h : create admin = .ok r) :
    admin = .text r.admin ∧ IsAddress r.admin ∧ r = { admin := r.admin } := by
  unfold create at h
  split at h
  · rename_i s hs
    obtain ⟨rfl, hvalid⟩ := Address.ofValue?_eq_some_iff.1 hs
    cases h
    exact ⟨rfl, Address.isValid_iff.1 hvalid, rfl⟩
  · cases h

theorem wellFormed_create {admin : Value} {r : Registry} (h : create admin = .ok r) :
    r.WellFormed := by
  obtain ⟨-, haddress, hr⟩ := create_eq_ok h
  rw [hr]
  exact ⟨haddress, .inl rfl, by simp, by simp [wallets]⟩

theorem not_isAddress_empty : ¬ IsAddress "" := by decide

theorem isEmpty_address {s : String} (h : IsAddress s) : (Value.text s).isEmpty = false := by
  have hne : s ≠ "" := by
    rintro rfl
    exact not_isAddress_empty h
  simpa [Value.isEmpty] using hne

theorem ofValue?_of_isEmpty {v : Value} (h : v.isEmpty = true) : Address.ofValue? v = none := by
  cases v with
  | text s =>
    obtain rfl : s = "" := by simpa [Value.isEmpty] using h
    simp [Address.ofValue?_text, not_isAddress_empty]
  | _ => rfl

theorem admissibleNext_answer (next : Value) :
    (admissibleNext next).answer = .ok ((Address.ofValue? next).getD "") := by
  unfold admissibleNext
  split
  · rename_i h
    simp [ofValue?_of_isEmpty h, Logged.succeed]
  · cases h : Address.ofValue? next <;> simp [Logged.succeed]

theorem admissibleNext_log (next : Value) :
    (admissibleNext next).log = [] ∨
      (admissibleNext next).log =
        [{ source := .registry, level := .warning, event := "snapshot_next_contract_dropped"
           fields := [("reason", .text "invalid_address")] }] := by
  unfold admissibleNext
  split
  · exact .inl rfl
  · split
    · exact .inl rfl
    · exact .inr rfl

/-- What a snapshot is restored to depends on the administrator alone for its success. -/
theorem restore_answer (s : Snapshot) :
    (restore s).answer = (create s.admin).map fun r =>
      { r with
        next := (Address.ofValue? s.next).getD ""
        records := s.records.filterMap admissible? } := by
  have hnext := admissibleNext_answer s.next
  unfold restore
  cases hc : create s.admin with
  | error f => simp [Logged.ofExcept, Except.map]
  | ok r =>
    cases hn : admissibleNext s.next with
    | mk answer log =>
      rw [hn] at hnext
      simp only at hnext
      subst hnext
      simp [Logged.ofExcept, Logged.tell, Except.map]

/-- With a valid administrator there is a registry, and what was dropped is logged. -/
theorem restore_eq {admin : String} (haddress : IsAddress admin) {snapshot : Snapshot}
    (hadmin : snapshot.admin = .text admin) :
    let records := snapshot.records.filterMap admissible?
    restore snapshot =
      ⟨.ok { admin, next := (Address.ofValue? snapshot.next).getD "", records },
        (admissibleNext snapshot.next).log ++
          droppedEntries (snapshot.records.length - records.length)⟩ := by
  have hnext := admissibleNext_answer snapshot.next
  unfold restore
  rw [hadmin, create_text, if_pos haddress]
  cases hn : admissibleNext snapshot.next with
  | mk answer log =>
    rw [hn] at hnext
    obtain rfl := hnext
    simp [Logged.ofExcept, Logged.tell]

theorem admissible?_eq_some {entry : Value × Record} {kept : String × Record}
    (h : admissible? entry = some kept) :
    entry = (.text kept.1, kept.2) ∧ IsAddress kept.1 ∧
      ∃ score : Int, kept.2.trustScore = .int score ∧ 0 ≤ score ∧ score ≤ 100 := by
  obtain ⟨key, record⟩ := entry
  unfold admissible? at h
  split at h
  · rename_i wallet hw
    obtain ⟨hkey, hvalid⟩ := Address.ofValue?_eq_some_iff.1 hw
    by_cases hs : Score.isValid record.trustScore = true
    · simp only [hs, if_true, Option.some.injEq] at h
      subst h
      obtain rfl : key = .text wallet := hkey
      exact ⟨rfl, Address.isValid_iff.1 hvalid, Score.isValid_iff.1 hs⟩
    · simp [hs] at h
  · cases h

/-- No two records have one text for a key. -/
def DistinctTexts (records : List (Value × Record)) : Prop :=
  records.Pairwise fun a b => ∀ wallet : String, a.1 = .text wallet → b.1 ≠ .text wallet

private theorem nodup_wallets_admissible {records : List (Value × Record)}
    (h : DistinctTexts records) :
    (wallets (records.filterMap admissible?)).Nodup := by
  rw [wallets, List.Nodup, List.pairwise_map, List.pairwise_filterMap]
  refine h.imp ?_
  intro a b hab kept hkept other hother heq
  obtain ⟨rfl, -⟩ := admissible?_eq_some hkept
  obtain ⟨rfl, -⟩ := admissible?_eq_some hother
  exact hab kept.1 rfl (congrArg Value.text heq.symm)

/-- A registry all of whose parts pass the checks of a restore. -/
structure Passes (r : Registry) : Prop where
  admin : IsAddress r.admin
  next : r.next = "" ∨ IsAddress r.next
  records : ∀ entry ∈ r.records, admissible? (.text entry.1, entry.2) = some entry

theorem passes_restore {s : Snapshot} {r : Registry} (h : (restore s).answer = .ok r) :
    r.Passes := by
  rw [restore_answer] at h
  obtain ⟨created, hc, rfl⟩ := map_ok h
  refine ⟨(create_eq_ok hc).2.1, ?_, ?_⟩
  · cases hn : Address.ofValue? s.next with
    | none => exact .inl rfl
    | some next => exact .inr (Address.isValid_iff.1 (Address.ofValue?_eq_some_iff.1 hn).2)
  · intro entry hentry
    obtain ⟨original, -, hkept⟩ := List.mem_filterMap.1 hentry
    rw [← (admissible?_eq_some hkept).1]
    exact hkept

theorem wellFormed_restore {s : Snapshot} {r : Registry} (hkeys : DistinctTexts s.records)
    (hstatuses : ∀ entry ∈ s.records, ∃ status, entry.2.status = .status status)
    (h : (restore s).answer = .ok r) : r.WellFormed := by
  have hpasses := passes_restore h
  rw [restore_answer] at h
  obtain ⟨created, -, rfl⟩ := map_ok h
  refine ⟨hpasses.admin, hpasses.next, ?_, nodup_wallets_admissible hkeys⟩
  intro entry hentry
  obtain ⟨original, hmem, hkept⟩ := List.mem_filterMap.1 hentry
  obtain ⟨rfl, haddress, hscore⟩ := admissible?_eq_some hkept
  exact ⟨haddress, hstatuses _ hmem, hscore⟩

/-- An accepted call writes nothing that a registry cannot hold. -/
theorem wellFormed_put {r : Registry} {c : Call} {w : Write} (hr : r.WellFormed)
    (hw : c.write? = some w) : (r.put w).WellFormed := by
  cases Call.writes_of_write? hw with
  | record haddress hscore =>
    rename_i wallet status score now
    refine ⟨hr.admin, hr.next, ?_, nodup_wallets_write hr.distinct⟩
    intro entry hentry
    rcases mem_write hentry with rfl | hold
    · exact ⟨haddress, ⟨status, rfl⟩, ⟨score, rfl, hscore⟩⟩
    · exact hr.records entry hold
  | next haddress => exact ⟨hr.admin, .inr haddress, hr.records, hr.distinct⟩
  | admin haddress => exact ⟨haddress, hr.next, hr.records, hr.distinct⟩

/-- Whether a command goes through or fails, what it leaves is well-formed. -/
theorem wellFormed_perform {r : Registry} (hr : r.WellFormed) (clock : Clock) (command : Command) :
    (r.perform clock command).state.WellFormed := by
  rw [r.perform_state ⟨clock, command⟩, afterCall]
  cases hw : (Call.mk clock command).write? with
  | none => exact hr
  | some w => exact wellFormed_put hr hw

theorem Admits.admissible? {entry : String × Record} (h : Admits entry) :
    admissible? (.text entry.1, entry.2) = some entry := by
  obtain ⟨score, hscore, hrange⟩ := h.score
  simp [Registry.admissible?, Address.ofValue?_text, h.wallet, hscore, Score.isValid_int, hrange]

theorem WellFormed.passes {r : Registry} (hr : r.WellFormed) : r.Passes :=
  ⟨hr.admin, hr.next, fun entry hentry => (hr.records entry hentry).admissible?⟩

/-- Nothing is dropped of such a registry, so that nothing is logged. -/
theorem Passes.restore_snapshot {r : Registry} (hr : r.Passes) :
    restore r.snapshot = .succeed r := by
  have hrecords : r.snapshot.records.filterMap Registry.admissible? = r.records := by
    rw [snapshot, List.filterMap_map]
    conv_rhs => rw [← List.filterMap_some (l := r.records)]
    exact List.filterMap_congr hr.records
  have hlength : r.snapshot.records.length = r.records.length := List.length_map _
  have hnext : admissibleNext r.snapshot.next = .succeed r.next := by
    rw [snapshot, admissibleNext]
    rcases hr.next with hempty | haddress
    · rw [hempty]
      rfl
    · rw [isEmpty_address haddress, Address.ofValue?_text, if_pos haddress]
      rfl
  have hpointer := r.snapshot.next |> admissibleNext_answer
  rw [hnext] at hpointer
  rw [restore_eq hr.admin rfl, hrecords, hlength, Nat.sub_self, hnext, ← Except.ok.inj hpointer]
  rfl

/-- Snapshots lose nothing of a well-formed registry. -/
theorem restore_snapshot {r : Registry} (hr : r.WellFormed) :
    (restore r.snapshot).answer = .ok r := by
  rw [hr.passes.restore_snapshot]
  rfl

end WalletTrust.Registry
