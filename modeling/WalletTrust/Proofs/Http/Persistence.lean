import WalletTrust.Proofs.Http.Change
import WalletTrust.Proofs.Registry.Reachable
import WalletTrust.Proofs.Run
import WalletTrust.Proofs.Store.RoundTrip

/-!
# What a request does to the store

Saving puts the tables of the registry or leaves the store as its connection found it, and the reply
to a change says which. A change that is accepted is not saved only if the store was not ready or a
time did not fit.
-/

namespace WalletTrust

namespace Store

/-- A database with tables that a request can find and change. -/
structure IsReady (s : Store) : Prop where
  tables : ∃ t, s.found = .ok (some t)
  writable : s.isWritable = true
  shared : ∀ writable, s.location ≠ .own false writable
  sound : s.fault? = none

theorem IsReady.touched {s : Store} (h : s.IsReady) : s.touched.IsReady := by
  obtain ⟨t, ht⟩ := h.tables
  refine ⟨⟨t, ?_⟩, ?_, ?_, ?_⟩
  · rw [found_touched, ht]
  · rw [isWritable_touched, h.writable]
  · rw [touched_location]
    exact h.shared
  · rw [touched_fault?, h.sound]

theorem IsReady.put {s : Store} (h : s.IsReady) (t : Tables) : (s.put (some t)).IsReady := by
  obtain ⟨old, hold⟩ := h.tables
  refine ⟨⟨t, found_put hold _⟩, isWritable_put h.writable t, ?_, ?_⟩
  · rw [put_location]
    exact h.shared
  · rw [put_fault?, h.sound]

private theorem saveForRequest_of_own {s : Store} {writable : Bool}
    (h : s.location = .own false writable) (r : Registry) :
    (s.saveForRequest r).outcome = (s, .error (.database .missing)) := by
  rw [saveForRequest, Process.bind_apply, Process.read_apply, h]
  rfl

private theorem saveForRequest_of_ne {s : Store} (h : ∀ writable, s.location ≠ .own false writable)
    (r : Registry) : (s.saveForRequest r).outcome = (s.saveSnapshot r.snapshot).outcome := by
  rw [saveForRequest, Process.bind_apply, Process.read_apply]
  cases hl : s.location with
  | own pooled writable =>
    cases pooled with
    | false => exact absurd hl (h writable)
    | true => rfl
  | _ => rfl

/-- Saving on behalf of a request leaves the store as it was, or puts the tables of the registry. -/
theorem saveForRequest_cases (s : Store) (r : Registry) :
    (∃ f, (s.saveForRequest r).outcome = (s, .error f)) ∨
      ∃ old t, s.found = .ok (some old) ∧ Tables.ofSnapshot r.snapshot = .ok t ∧
        (s.saveForRequest r).outcome = (s.put (some t), .ok ()) := by
  by_cases hown : ∃ writable, s.location = .own false writable
  · obtain ⟨writable, hl⟩ := hown
    exact .inl ⟨_, saveForRequest_of_own hl r⟩
  · rw [saveForRequest_of_ne (not_exists.1 hown)]
    rcases s.saveSnapshot_cases r.snapshot with hfailed | ⟨old, t, hold, -, ht, hsaved⟩
    · exact .inl hfailed
    · exact .inr ⟨old, t, hold, ht, hsaved⟩

private theorem saveForRequest_of_isReady {s : Store} (hs : s.IsReady) {r : Registry} {t : Tables}
    (ht : Tables.ofSnapshot r.snapshot = .ok t) :
    (s.saveForRequest r).outcome = (s.put (some t), .ok ()) := by
  obtain ⟨old, hold⟩ := hs.tables
  have hoffers : s.Offers old := ⟨hold, hs.writable, hs.sound⟩
  rw [saveForRequest_of_ne hs.shared]
  exact hoffers.saveSnapshot_of_ok ht

end Store

namespace Http

namespace Service

/-- Saving after a change either puts the tables of the registry or leaves the store as the
connection found it. -/
theorem save_spec (store : Store) (r : Registry) (operation : String) :
    let saving := save (some store) r operation
    (saving.persisted = false ∧ saving.store? = some store.touched) ∨
      ∃ t, saving.persisted = true ∧ saving.store? = some (store.touched.put (some t)) ∧
        Store.Tables.ofSnapshot r.snapshot = .ok t ∧
        ∃ old, store.touched.found = .ok (some old) := by
  simp only [save, Option.map_some]
  rcases store.touched.saveForRequest_cases r with ⟨f, hsave⟩ | ⟨old, t, hold, ht, hsave⟩
  · rw [Effect.answer_eq hsave, Effect.state_eq hsave]
    exact .inl ⟨rfl, rfl⟩
  · rw [Effect.answer_eq hsave, Effect.state_eq hsave]
    exact .inr ⟨t, rfl, rfl, ht, old, hold⟩

theorem save_of_isReady {store : Store} (hs : store.IsReady) {r : Registry} {t : Store.Tables}
    (ht : Store.Tables.ofSnapshot r.snapshot = .ok t) (operation : String) :
    (save (some store) r operation).persisted = true := by
  simp only [save, Option.map_some,
    Effect.answer_eq (Store.saveForRequest_of_isReady hs.touched ht)]

/-- A service for administrators only, with a well-formed registry and a store. -/
structure Runs (P : Int → Prop) (store : Store) (s : Service) : Prop where
  authority : s.authority = .admin
  store : s.store? = some store
  wellFormed : s.host.registry.WellFormed
  timed : s.host.registry.Timed P

variable {P : Int → Prop}

private theorem Runs.congr {store : Store} {s s' : Service} (hs : s.Runs P store)
    (hhost : s'.host = s.host) (hauthority : s'.authority = s.authority)
    (hstore : s'.store? = s.store?) : s'.Runs P store := by
  refine ⟨hauthority.trans hs.authority, hstore.trans hs.store, ?_, ?_⟩
  · rw [hhost]
    exact hs.wellFormed
  · rw [hhost]
    exact hs.timed

/-- What becomes of a store in a request, next to the registry afterwards and to the reply. -/
def Settles (before after : Store) (r : Registry) (reply : Reply) : Prop :=
  (¬ reply.IsPersisted ∧ (after = before ∨ after = before.touched) ∧
      (before.IsReady → r.Timed (Store.Cell.inWord · = true) → ¬ reply.IsAccepted)) ∨
    (reply.IsPersisted ∧ ∃ t old, before.touched.found = .ok (some old) ∧
      after = before.touched.put (some t) ∧ t.Holds r)

theorem settles_plain (store : Store) (r : Registry) {reply : Reply} (h : reply.IsPlain) :
    Settles store store r reply :=
  .inl ⟨h.not_isPersisted, .inl rfl, fun _ _ => h.not_isAccepted⟩

private theorem settles_rejected (store : Store) (r : Registry) (status : Nat) :
    Settles store store r (changeReply status false false) := by
  refine .inl ⟨?_, .inl rfl, ?_⟩
  · rw [isPersisted_changeReply]
    exact Bool.false_ne_true
  · intro _ _
    rw [isAccepted_changeReply]
    exact Bool.false_ne_true

/-- An accepted change is not saved only if the store was not ready or a time did not fit. -/
theorem settles_saved (store : Store) {r : Registry} (hr : r.WellFormed) (htimed : r.Timed P)
    (operation : String) :
    let saving := save (some store) r operation
    ∃ after, saving.store? = some after ∧
      Settles store after r (changeReply 200 true saving.persisted) := by
  intro saving
  rcases save_spec store r operation with ⟨hpersisted, hleft⟩ | ⟨t, hpersisted, hput, ht, hfound⟩
  · refine ⟨store.touched, hleft, .inl ⟨?_, .inr rfl, ?_⟩⟩
    · rw [isPersisted_changeReply]
      exact ne_true_of_eq_false hpersisted
    · intro hready hfits
      obtain ⟨t, ht⟩ := Store.Tables.exists_ofSnapshot hr hfits
      have hsaves := save_of_isReady hready ht operation
      rw [hpersisted] at hsaves
      cases hsaves
  · obtain ⟨old, hold⟩ := hfound
    have htimes := htimed.imp fun _ _ => trivial
    have hholds := ((Store.Tables.ofSnapshot_eq_ok_iff hr htimes).1 ht).2
    refine ⟨_, hput, .inr ⟨?_, t, old, hold, rfl, hholds⟩⟩
    rw [isPersisted_changeReply]
    exact hpersisted

private theorem Runs.change {store : Store} {s : Service} (hs : s.Runs P store) {clock : Clock}
    (hclock : clock.Tells P) (caller : String) (command : Command) :
    let o := s.change clock caller command
    ∃ after, o.service.Runs P after ∧ Settles store after o.service.host.registry o.reply := by
  intro o
  obtain ⟨hauthority, hhost, hanswer⟩ := change_spec hs.authority clock caller command
  have hregistry : o.service.host.registry.WellFormed := by
    rw [hhost]
    exact Host.wellFormed_callAs hs.wellFormed (.text caller)
  have htimed : o.service.host.registry.Timed P := by
    rw [hhost]
    exact Host.timed_callAs hs.wellFormed.admin hs.timed (.text caller) hclock
  split at hanswer
  · obtain ⟨hsaved, hreply⟩ := hanswer
    rw [hs.store] at hsaved hreply
    obtain ⟨after, hafter, hsettles⟩ := settles_saved store hregistry htimed command.operation
    refine ⟨after, ⟨hauthority, hsaved.trans hafter, hregistry, htimed⟩, ?_⟩
    rw [hreply]
    exact hsettles
  · obtain ⟨hleft, hreply⟩ := hanswer
    refine ⟨store, ⟨hauthority, hleft.trans hs.store, hregistry, htimed⟩, ?_⟩
    rw [hreply]
    exact settles_rejected store _ 400
  · obtain ⟨hleft, hreply⟩ := hanswer
    refine ⟨store, ⟨hauthority, hleft.trans hs.store, hregistry, htimed⟩, ?_⟩
    rw [hreply]
    exact settles_plain store _ (isPlain_failureReply _)

theorem Runs.serve {store : Store} {s : Service} (hs : s.Runs P store) {clock : Clock}
    (hclock : clock.Tells P) (duration : Binary64) (r : Request) :
    let o := s.serve clock duration r
    ∃ after, o.service.Runs P after ∧ Settles store after o.service.host.registry o.reply := by
  intro o
  obtain ⟨hhost, hauthority, hstore, hreply⟩ := s.serve_spec clock duration r
  rw [hhost, hreply]
  rcases s.answers_route clock r with ⟨command, caller, -, -, hroute⟩ | ⟨-, reply, hplain, hroute⟩
  · obtain ⟨after, hruns, hsettles⟩ := hs.change hclock caller command
    rw [← hroute] at hruns hsettles
    exact ⟨after, hruns.congr hhost hauthority hstore, hsettles⟩
  · have hruns : (s.route clock r).2.service.Runs P store := by
      rw [hroute]
      exact hs
    refine ⟨store, hruns.congr hhost hauthority hstore, ?_⟩
    rw [hroute]
    exact settles_plain store _ hplain

end Service
end Http
end WalletTrust
