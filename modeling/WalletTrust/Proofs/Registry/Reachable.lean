import WalletTrust.Proofs.Store.Loading

/-!
# Reachable registries

A registry comes from an administrator, from a snapshot or from the rows of a store, and goes on by
commands, also by those that fail. Whatever came in on the way, it is well-formed.
-/

namespace WalletTrust

/-- A snapshot as anybody can hand one over: no two of its records are under equal keys, and each of
them has a status. Everything else may be of any kind. -/
structure Snapshot.IsProper (s : Snapshot) : Prop where
  keys : s.records.Pairwise fun a b => a.1.same b.1 = false
  statuses : ∀ entry ∈ s.records, ∃ status, entry.2.status = .status status

namespace Registry

/-- The registries that there can be. The rows of a store have a primary key. -/
inductive Reachable : Registry → Prop
  | create {admin : Value} {r : Registry} (h : create admin = .ok r) : Reachable r
  | restore {s : Snapshot} {r : Registry} (hs : s.IsProper) (h : (restore s).answer = .ok r) :
      Reachable r
  | load {store : Store} {admin : Value} {r : Registry}
      (hrows : ∀ t, store.tables = .ok t → (t.rows.map (·.wallet)).Nodup)
      (h : (store.loadRegistry admin).answer = .ok r) : Reachable r
  | perform {r : Registry} (clock : Clock) (command : Command) (hr : Reachable r) :
      Reachable (r.perform clock command).state

private theorem distinctTexts_of_keys {records : List (Value × Record)}
    (h : records.Pairwise fun a b => a.1.same b.1 = false) : DistinctTexts records := by
  refine h.imp ?_
  intro a b hab wallet ha hb
  rw [ha, hb] at hab
  simp [Value.same, Value.sameAtom, Value.integer?, Value.string?] at hab

theorem Reachable.wellFormed {r : Registry} (h : r.Reachable) : r.WellFormed := by
  induction h with
  | create h => exact wellFormed_create h
  | restore hs h => exact wellFormed_restore (distinctTexts_of_keys hs.keys) hs.statuses h
  | load hrows h => exact Store.wellFormed_loadRegistry hrows h
  | perform clock command _ ih => exact wellFormed_perform ih clock command

end Registry
end WalletTrust
