import WalletTrust.Proofs.Authority.GuardedCall

/-!
# Times of records

A registry whose clock tells integers keeps integers, and what all of them have in common stays
true of the times of its records.
-/

namespace WalletTrust

/-- A time that is an integer with a property. -/
def Value.IsTime (P : Int → Prop) (v : Value) : Prop := ∃ time : Int, v = .int time ∧ P time

/-- A clock that tells such times, unless it fails. -/
def Clock.Tells (P : Int → Prop) (clock : Clock) : Prop := ∀ now, clock = some now → now.IsTime P

/-- A registry whose records were written at such times. -/
def Registry.Timed (P : Int → Prop) (r : Registry) : Prop :=
  ∀ entry ∈ r.records, entry.2.updatedAt.IsTime P

variable {P : Int → Prop}

theorem Registry.Timed.imp {Q : Int → Prop} {r : Registry} (hr : r.Timed P)
    (h : ∀ time, P time → Q time) : r.Timed Q := by
  intro entry hentry
  obtain ⟨time, htime, hP⟩ := hr entry hentry
  exact ⟨time, htime, h time hP⟩

namespace Registry

private theorem timed_put {r : Registry} (hr : r.Timed P) {c : Call} (hclock : c.clock.Tells P)
    {w : Write} (hw : c.write? = some w) : (r.put w).Timed P := by
  cases Call.writes_of_write? hw with
  | record haddress hscore =>
    rename_i wallet status score now
    intro entry hentry
    rcases mem_write hentry with rfl | hold
    · exact hclock now rfl
    · exact hr entry hold
  | next haddress => exact hr
  | admin haddress => exact hr

end Registry

namespace Host

theorem timed_callAs {h : Host} (hadmin : IsAddress h.registry.admin) (hr : h.registry.Timed P)
    {c : GuardedCall} (hcaller : IsCaller c.caller) (hclock : c.clock.Tells P) :
    (h.callAs c).1.registry.Timed P :=
  registry_callAs hadmin hcaller hr fun _ hw => Registry.timed_put hr hclock hw

end Host
end WalletTrust
