import WalletTrust.Registry.Basic
import Mathlib.Data.List.Nodup

/-!
# Records as a dictionary

Writing a record adds its wallet to the wallets that have one, unless it is among them, and touches
no other record. Wallets that have one record each keep one record each.
-/

namespace WalletTrust.Registry

def wallets (records : List (String × Record)) : List String := records.map (·.1)

theorem find?_eq_none_iff {wallet : String} {records : List (String × Record)} :
    find? wallet records = none ↔ wallet ∉ wallets records := by
  induction records with
  | nil => simp [find?, wallets]
  | cons entry rest ih =>
    by_cases h : entry.1 = wallet
    · simp [find?, wallets, h]
    · simpa [find?, wallets, h, Ne.symm h] using ih

theorem find?_eq_some_iff {records : List (String × Record)} (h : (wallets records).Nodup)
    {wallet : String} {record : Record} :
    find? wallet records = some record ↔ (wallet, record) ∈ records := by
  induction records with
  | nil => simp [find?]
  | cons entry rest ih =>
    obtain ⟨other, kept⟩ := entry
    obtain ⟨habsent, hrest⟩ := List.nodup_cons.1 h
    by_cases hw : other = wallet
    · subst hw
      have hnone : (other, record) ∉ rest :=
        fun hmem => habsent (List.mem_map.2 ⟨(other, record), hmem, rfl⟩)
      simp [find?, hnone, eq_comm]
    · simp [find?, hw, Ne.symm hw, ih hrest]

/-- Records of the same wallets are the same records, whatever order they were written in. -/
theorem perm_of_find? {records records' : List (String × Record)} (h : (wallets records).Nodup)
    (h' : (wallets records').Nodup)
    (hfind : ∀ wallet, find? wallet records = find? wallet records') :
    records.Perm records' := by
  have hnodup : records.Nodup := List.Nodup.of_map _ h
  have hnodup' : records'.Nodup := List.Nodup.of_map _ h'
  rw [List.perm_ext_iff_of_nodup hnodup hnodup']
  intro entry
  rw [← find?_eq_some_iff h, hfind, find?_eq_some_iff h']

private theorem wallets_write (wallet : String) (record : Record)
    (records : List (String × Record)) :
    wallets (write wallet record records) =
      if wallet ∈ wallets records then wallets records else wallets records ++ [wallet] := by
  induction records with
  | nil => simp [write, wallets]
  | cons entry rest ih =>
    obtain ⟨w, r⟩ := entry
    by_cases hw : w = wallet
    · simp [write, wallets, hw]
    · simp only [wallets] at ih
      by_cases hmem : wallet ∈ rest.map (·.1) <;>
        simp_all [write, wallets, Ne.symm hw]

theorem nodup_wallets_write {wallet : String} {record : Record} {records : List (String × Record)}
    (h : (wallets records).Nodup) : (wallets (write wallet record records)).Nodup := by
  rw [wallets_write]
  split
  · exact h
  · rename_i hw
    exact List.nodup_append.2 ⟨h, List.nodup_singleton _, by
      intro a ha b hb
      rw [List.mem_singleton.1 hb]
      exact fun hab => hw (hab ▸ ha)⟩

theorem mem_write {wallet : String} {record : Record} {records : List (String × Record)}
    {entry : String × Record} (h : entry ∈ write wallet record records) :
    entry = (wallet, record) ∨ entry ∈ records := by
  induction records with
  | nil => exact .inl (List.mem_singleton.1 h)
  | cons head rest ih =>
    obtain ⟨w, r⟩ := head
    by_cases hw : w = wallet
    · rcases (by simpa [write, hw] using h : entry = (wallet, record) ∨ entry ∈ rest) with h | h
      · exact .inl h
      · exact .inr (List.mem_cons_of_mem _ h)
    · rcases (by simpa [write, hw] using h :
        entry = (w, r) ∨ entry ∈ write wallet record rest) with h | h
      · exact .inr (h ▸ List.mem_cons_self)
      · exact (ih h).imp_right (List.mem_cons_of_mem _)

end WalletTrust.Registry
