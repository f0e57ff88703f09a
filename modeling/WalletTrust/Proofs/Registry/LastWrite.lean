import WalletTrust.Proofs.Registry.Call
import WalletTrust.Proofs.Registry.Records
import Mathlib.Data.Finset.Dedup
import Mathlib.Data.Finset.Card

/-!
# The last accepted write wins

After any calls, a registry holds what the last accepted write of each kind left there. The right
hand sides are read off the calls alone; they mention neither the registry nor its observer.
-/

namespace WalletTrust

namespace Write

/-- The wallet and the record of a written status. -/
def recorded? : Write → Option (String × Record)
  | .record wallet status score now => some (wallet, ⟨.status status, .int score, now⟩)
  | _ => none

def next? : Write → Option String
  | .next address => some address
  | _ => none

def admin? : Write → Option String
  | .admin address => some address
  | _ => none

def lastRecord? (wallet : String) (ws : List Write) : Option Record :=
  ((ws.filterMap recorded?).filter (·.1 = wallet)).getLast?.map (·.2)

private theorem lastRecord?_cons (wallet : String) (w : Write) (ws : List Write) :
    lastRecord? wallet (w :: ws) =
      (lastRecord? wallet ws).or ((w.recorded?.filter (·.1 = wallet)).map (·.2)) := by
  cases hw : w.recorded? with
  | none => simp only [lastRecord?, List.filterMap_cons, hw, Option.filter_none, Option.map_none,
      Option.or_none]
  | some entry =>
    by_cases h : entry.1 = wallet
    · simp only [lastRecord?, List.filterMap_cons, hw, List.filter_cons, h, decide_true, if_true,
        List.getLast?_cons, Option.filter_some, Option.map_some]
      cases ((ws.filterMap recorded?).filter (·.1 = wallet)).getLast? <;> rfl
    · simp only [lastRecord?, List.filterMap_cons, hw, List.filter_cons, h, decide_false,
        Bool.false_eq_true, if_false, Option.filter_some, Option.map_none, Option.or_none]

end Write

namespace Registry

open Write

private theorem admin_puts (r : Registry) (ws : List Write) :
    (ws.foldl put r).admin = (ws.filterMap admin?).getLast?.getD r.admin := by
  induction ws generalizing r with
  | nil => rfl
  | cons w ws ih =>
    rw [List.foldl_cons, ih]
    cases w <;> simp [put, withStatus, admin?, List.getLast?_cons]

private theorem next_puts (r : Registry) (ws : List Write) :
    (ws.foldl put r).next = (ws.filterMap next?).getLast?.getD r.next := by
  induction ws generalizing r with
  | nil => rfl
  | cons w ws ih =>
    rw [List.foldl_cons, ih]
    cases w <;> simp [put, withStatus, next?, List.getLast?_cons]

theorem find?_puts (wallet : String) (r : Registry) (ws : List Write) :
    find? wallet (ws.foldl put r).records =
      (lastRecord? wallet ws).or (find? wallet r.records) := by
  induction ws generalizing r with
  | nil => simp [lastRecord?]
  | cons w ws ih =>
    rw [List.foldl_cons, ih, Write.lastRecord?_cons, Option.or_assoc]
    congr 1
    cases w with
    | record other status score now =>
      by_cases h : other = wallet <;>
        simp [recorded?, put, withStatus, find?_write, h, Option.filter_some]
    | next address => simp [recorded?, put]
    | admin address => simp [recorded?, put]

private theorem nodup_wallets_puts {r : Registry} (h : (wallets r.records).Nodup)
    (ws : List Write) :
    (wallets (ws.foldl put r).records).Nodup := by
  induction ws generalizing r with
  | nil => exact h
  | cons w ws ih =>
    refine ih ?_
    cases w with
    | record wallet status score now => exact nodup_wallets_write h
    | next address => exact h
    | admin address => exact h

theorem lastRecord?_isSome {wallet : String} {ws : List Write} :
    (lastRecord? wallet ws).isSome ↔ wallet ∈ (ws.filterMap recorded?).map (·.1) := by
  simp only [lastRecord?, Option.isSome_map, List.getLast?_isSome, ne_eq, List.filter_eq_nil_iff,
    List.mem_map]
  simp

/-- The size of a registry that started empty counts the wallets of its writes. -/
theorem size_puts {r : Registry} (h : r.records = []) (ws : List Write) :
    (ws.foldl put r).size = ((ws.filterMap recorded?).map (·.1)).toFinset.card := by
  have hnodup := nodup_wallets_puts (r := r) (by simp [h, wallets]) ws
  have hsize : (ws.foldl put r).size = (wallets (ws.foldl put r).records).length := by
    simp [size, wallets]
  rw [hsize, ← List.toFinset_card_of_nodup hnodup]
  congr 1
  ext wallet
  rw [List.mem_toFinset, List.mem_toFinset, ← lastRecord?_isSome]
  have hfind := find?_puts wallet r ws
  rw [h] at hfind
  rw [← not_iff_not, ← find?_eq_none_iff, hfind]
  simp [find?]

end Registry

/-- A registry that was created and called any number of times is what its last accepted writes
say, whoever observes it. -/
theorem last_accepted_write_wins {admin : String} (h : IsAddress admin) (observer : Observer)
    (calls : List Call) :
    ∃ r, Registry.create (.text admin) = .ok r ∧
      let final := (Run.after Host.call ⟨r, observer⟩ calls).registry
      let writes := calls.filterMap Call.write?
      final.admin = (writes.filterMap Write.admin?).getLast?.getD admin ∧
      final.next = (writes.filterMap Write.next?).getLast?.getD "" ∧
      (∀ wallet, Registry.find? wallet final.records = Write.lastRecord? wallet writes) ∧
      final.size = ((writes.filterMap Write.recorded?).map (·.1)).toFinset.card ∧
      Run.answers Host.call ⟨r, observer⟩ calls = calls.map Call.answer := by
  refine ⟨{ admin }, by simp [Registry.create, Address.ofValue?_text, h], ?_⟩
  intro final writes
  have hfinal : final = writes.foldl Registry.put { admin } :=
    Host.registry_after_calls ⟨{ admin }, observer⟩ calls
  refine ⟨?_, ?_, ?_, ?_, Host.answers_calls _ _⟩
  · rw [hfinal, Registry.admin_puts]
  · rw [hfinal, Registry.next_puts]
  · intro wallet
    rw [hfinal, Registry.find?_puts]
    exact Option.or_none
  · rw [hfinal, Registry.size_puts rfl]

/-- Two writes of a wallet between three that are rejected or fail, a rejected pointer and a
transfer. -/
def mixedCalls (wallet heir : String) : List Call :=
  [⟨some (.int 1), .setStatus (.text wallet) (.status .active) (.int 50)⟩,
    ⟨some (.int 2), .setStatus (.text wallet) (.status .blocked) (.bool true)⟩,
    ⟨none, .setStatus (.text wallet) (.status .review) (.int 7)⟩,
    ⟨some (.int 4), .setStatus (.text wallet) (.status .blocked) (.int 101)⟩,
    ⟨some (.int 5), .setStatus (.text wallet) (.status .unknown) (.int 0)⟩,
    ⟨some (.int 6), .setNextContract (.int 5)⟩,
    ⟨none, .transferAdmin (.text heir)⟩]

theorem writes_mixedCalls {wallet heir : String} (hwallet : IsAddress wallet)
    (hheir : IsAddress heir) :
    (mixedCalls wallet heir).filterMap Call.write? =
      [.record wallet .active 50 (.int 1), .record wallet .unknown 0 (.int 5), .admin heir] := by
  simp [mixedCalls, List.filterMap_cons, Call.write?, hwallet, hheir]

theorem last_accepted_write_wins_mixed :
    IsAddress (Address.repeating 'A') ∧
    ∃ r, Registry.create (.text (Address.repeating 'A')) = .ok r ∧
      let calls := mixedCalls (Address.repeating 'W') (Address.repeating 'B')
      let final := (Run.after Host.call ⟨r, .journal⟩ calls).registry
      final.admin = Address.repeating 'B' ∧ final.next = "" ∧
      Registry.find? (Address.repeating 'W') final.records =
        some ⟨.status .unknown, .int 0, .int 5⟩ ∧
      final.size = 1 := by
  have hA : IsAddress (Address.repeating 'A') := Address.isAddress_repeating (by decide)
  have hB : IsAddress (Address.repeating 'B') := Address.isAddress_repeating (by decide)
  have hW : IsAddress (Address.repeating 'W') := Address.isAddress_repeating (by decide)
  have hwrites := writes_mixedCalls hW hB
  obtain ⟨r, hr, hadmin, hnext, hrecord, hsize, -⟩ := last_accepted_write_wins hA .journal
    (mixedCalls (Address.repeating 'W') (Address.repeating 'B'))
  refine ⟨hA, r, hr, ?_, ?_, ?_, ?_⟩
  · simp [hadmin, hwrites, List.filterMap_cons, Write.admin?]
  · simp [hnext, hwrites, List.filterMap_cons, Write.next?]
  · simp [hrecord, hwrites, Write.lastRecord?, List.filterMap_cons, Write.recorded?]
  · simp [hsize, hwrites, List.filterMap_cons, Write.recorded?]

end WalletTrust
