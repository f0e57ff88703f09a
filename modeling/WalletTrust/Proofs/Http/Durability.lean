import WalletTrust.Proofs.Http.Persistence

/-!
# Durability of accepted changes

A database holds the registry as it was after the last reply that a change was saved, or what it
held before the first. Saving may fail in any request, for reasons of the database or of the driver.
Where nothing fails, every change that is accepted is saved.
-/

namespace WalletTrust

namespace Store

/-- A store whose driver is about to give up, unless it does so anyway. -/
def failing (s : Store) (fault : Fault) : Store := { s with fault? := s.fault? <|> some fault }

/-- What is left of a store, with the driver as it was before. -/
def recovered (s left : Store) : Store := { left with fault? := s.fault? }

theorem recovered_touched (s : Store) (fault : Fault) :
    s.recovered (s.failing fault).touched = s.touched := by
  obtain ⟨url, location, disk, own?, fault?⟩ := s
  cases location <;> rfl

theorem recovered_put (s : Store) (fault : Fault) (tables? : Option Tables) :
    s.recovered ((s.failing fault).touched.put tables?) = s.touched.put tables? := by
  obtain ⟨url, location, disk, own?, fault?⟩ := s
  cases location <;> rfl

/-- What a driver lets through before it gives up would go through in any case. -/
theorem found_of_failing {s : Store} {fault : Fault} {found? : Option Tables}
    (h : (s.failing fault).found = .ok found?) : s.found = .ok found? := by
  cases hsound : s.fault? with
  | some own =>
    have hsame : s.failing fault = s := by
      rw [failing, hsound]
      exact congrArg (fun fault? => { s with fault? }) hsound.symm
    rwa [hsame] at h
  | none =>
    obtain ⟨_, -, hcontent⟩ := bind_ok h
    rw [found_of_sound hsound]
    exact hcontent

end Store

namespace Http

/-- A request at the time of a clock, and when and why the database driver gives up meanwhile, if it
does. -/
structure Exchange where
  clock : Clock
  duration : Binary64
  request : Request
  fault? : Option Store.Fault := none

namespace Service

/-- The service after an exchange, and the reply. A driver that failed is there again afterwards. -/
def exchange (s : Service) (e : Exchange) : Service × Reply :=
  match s.store?, e.fault? with
  | some store, some fault =>
    let o := { s with store? := some (store.failing fault) }.serve e.clock e.duration e.request
    ({ o.service with store? := o.service.store?.map store.recovered }, o.reply)
  | _, _ =>
    let o := s.serve e.clock e.duration e.request
    (o.service, o.reply)

/-- The content of a database after an exchange: the registry as it is now if the reply says that it
was saved, and otherwise what was there before. -/
def Keeps (before after : Store) (r : Registry) (reply : Reply) : Prop :=
  (¬ reply.IsPersisted ∧ after.found = before.found) ∨
    (reply.IsPersisted ∧ ∃ t, after.found = .ok (some t) ∧ t.Holds r)

variable {P : Int → Prop}

private theorem Settles.keeps {before after : Store} {r : Registry} {reply : Reply}
    (h : Settles before after r reply) : Keeps before after r reply := by
  rcases h with ⟨hreply, rfl | rfl, -⟩ | ⟨hreply, t, old, hold, rfl, hholds⟩
  · exact .inl ⟨hreply, rfl⟩
  · exact .inl ⟨hreply, before.found_touched⟩
  · exact .inr ⟨hreply, t, Store.found_put hold _, hholds⟩

/-- A reply says that something was saved only if the driver did not give up before. -/
theorem Settles.keeps_of_failing {store after : Store} {fault : Store.Fault} {r : Registry}
    {reply : Reply} (h : Settles (store.failing fault) after r reply) :
    Keeps store (store.recovered after) r reply := by
  rcases h with ⟨hreply, rfl | rfl, -⟩ | ⟨hreply, t, old, hold, rfl, hholds⟩
  · exact .inl ⟨hreply, rfl⟩
  · rw [Store.recovered_touched]
    exact .inl ⟨hreply, store.found_touched⟩
  · rw [Store.found_touched] at hold
    have hfound := store.found_touched.trans (Store.found_of_failing hold)
    rw [Store.recovered_put]
    exact .inr ⟨hreply, t, Store.found_put hfound _, hholds⟩

private theorem Runs.exchange {store : Store} {s : Service} (hs : s.Runs P store) {e : Exchange}
    (hclock : e.clock.Tells P) :
    let next := s.exchange e
    ∃ after, next.1.Runs P after ∧ Keeps store after next.1.host.registry next.2 := by
  unfold Service.exchange
  rw [hs.store]
  cases e.fault? with
  | none =>
    obtain ⟨after, hruns, hsettles⟩ := hs.serve hclock e.duration e.request
    exact ⟨after, hruns, hsettles.keeps⟩
  | some fault =>
    have hfailing : Runs P (store.failing fault)
        { s with store? := some (store.failing fault) } :=
      ⟨hs.authority, rfl, hs.wellFormed, hs.timed⟩
    obtain ⟨after, hruns, hsettles⟩ := hfailing.serve hclock e.duration e.request
    have hrecovered := congrArg (Option.map store.recovered) hruns.store
    exact ⟨_, ⟨hruns.authority, hrecovered, hruns.wellFormed, hruns.timed⟩,
      hsettles.keeps_of_failing⟩

/-- While nothing fails and all times fit, a database stays ready and accepted changes are saved. -/
theorem Runs.exchange_ready {store : Store} {s : Service}
    (hs : s.Runs (Store.Cell.inWord · = true) store) (hready : store.IsReady) {e : Exchange}
    (hfault : e.fault? = none) (hclock : e.clock.Tells (Store.Cell.inWord · = true)) :
    let next := s.exchange e
    ∃ after, next.1.Runs (Store.Cell.inWord · = true) after ∧ after.IsReady ∧
      (next.2.IsAccepted → next.2.IsPersisted) := by
  unfold Service.exchange
  rw [hs.store, hfault]
  obtain ⟨after, hruns, hsettles⟩ := hs.serve hclock e.duration e.request
  refine ⟨after, hruns, ?_⟩
  rcases hsettles with ⟨-, hafter, hrejected⟩ | ⟨hreply, t, old, -, rfl, -⟩
  · refine ⟨?_, fun haccepted => absurd haccepted (hrejected hready hruns.timed)⟩
    rcases hafter with rfl | rfl
    · exact hready
    · exact hready.touched
  · exact ⟨hready.touched.put t, fun _ => hreply⟩

private theorem Runs.after_ready {store : Store} {s : Service}
    (hs : s.Runs (Store.Cell.inWord · = true) store) (hready : store.IsReady)
    {exchanges : List Exchange}
    (hexchanges : ∀ e ∈ exchanges, e.fault? = none ∧ e.clock.Tells (Store.Cell.inWord · = true)) :
    ∀ p ∈ Run.transcript Service.exchange s exchanges, p.2.IsAccepted → p.2.IsPersisted := by
  induction exchanges generalizing s store with
  | nil => simp
  | cons e exchanges ih =>
    obtain ⟨hfault, hclock⟩ := hexchanges e List.mem_cons_self
    obtain ⟨after, hruns, hstill, hreply⟩ := hs.exchange_ready hready hfault hclock
    intro p hp
    rw [Run.transcript_cons] at hp
    rcases List.mem_cons.1 hp with rfl | hp
    · exact hreply
    · exact ih hruns hstill (fun e' he' => hexchanges e' (List.mem_cons_of_mem e he')) p hp

/-- The content of a database after a run is the registry after the last exchange whose reply says
that it was saved, or what was there before the run. -/
theorem Runs.after {store : Store} {s : Service} (hs : s.Runs P store) {exchanges : List Exchange}
    (hclocks : ∀ e ∈ exchanges, e.clock.Tells P) :
    ∃ kept, (Run.after Service.exchange s exchanges).Runs P kept ∧
      (((∀ p ∈ Run.transcript Service.exchange s exchanges, ¬ p.2.IsPersisted) ∧
          kept.found = store.found) ∨
        ∃ earlier e later, exchanges = earlier ++ e :: later ∧
          ((Run.after Service.exchange s earlier).exchange e).2.IsPersisted ∧
          let saved := Run.after Service.exchange s (earlier ++ [e])
          (∀ p ∈ Run.transcript Service.exchange saved later, ¬ p.2.IsPersisted) ∧
          saved.host.registry.WellFormed ∧
          ∃ t, kept.found = .ok (some t) ∧ t.Holds saved.host.registry) := by
  induction exchanges using List.reverseRecOn with
  | nil => exact ⟨store, hs, .inl ⟨by simp, rfl⟩⟩
  | append_singleton exchanges e ih =>
    obtain ⟨kept, hruns, hkept⟩ := ih fun e' he' => hclocks e' (List.mem_append_left [e] he')
    obtain ⟨after, hafter, hcontent⟩ := hruns.exchange (hclocks e (by simp))
    have hrun : Run.after Service.exchange s (exchanges ++ [e]) =
        ((Run.after Service.exchange s exchanges).exchange e).1 := by
      rw [Run.after_append, Run.after_cons, Run.after_nil]
    refine ⟨after, by rwa [hrun], ?_⟩
    rcases hcontent with ⟨hreply, hsame⟩ | ⟨hreply, hholds⟩
    · rcases hkept with ⟨hnone, hfirst⟩ | ⟨earlier, e', later, rfl, hsaved, hnone, hr, hholds⟩
      · refine .inl ⟨?_, hsame.trans hfirst⟩
        rw [Run.forall_transcript_concat]
        exact ⟨hnone, hreply⟩
      · have hjoined : earlier ++ [e'] ++ later = earlier ++ e' :: later := by simp
        refine .inr ⟨earlier, e', later ++ [e], by simp, hsaved, ?_, hr, ?_⟩
        · rw [Run.forall_transcript_concat, ← Run.after_append, hjoined]
          exact ⟨hnone, hreply⟩
        · rw [hsame]
          exact hholds
    · refine .inr ⟨exchanges, e, [], rfl, hreply, by simp, ?_, ?_⟩
      · rw [hrun]
        exact hafter.wellFormed
      · rw [hrun]
        exact hholds

end Service

open Service (exchange) in
/-- A service on a reachable registry keeps in the database the registry as it was last saved, whole
and alone. It is loaded from there whatever administrator is at hand. -/
theorem database_holds_last_saved {r : Registry} (hr : r.Reachable) (htimes : r.Timed fun _ => True)
    (observer : Observer) (store : Store) (meters : Meters) {exchanges : List Exchange}
    (hclocks : ∀ e ∈ exchanges, e.clock.Tells fun _ => True) :
    let app := Service.putUp ⟨⟨r, observer⟩, .admin, some store, meters⟩
    ∃ kept, (Run.after exchange app exchanges).store? = some kept ∧
      (((∀ p ∈ Run.transcript exchange app exchanges, ¬ p.2.IsPersisted) ∧
          kept.found = store.found) ∨
        ∃ earlier e later, exchanges = earlier ++ e :: later ∧
          (exchange (Run.after exchange app earlier) e).2.IsPersisted ∧
          let saved := Run.after exchange app (earlier ++ [e])
          (∀ p ∈ Run.transcript exchange saved later, ¬ p.2.IsPersisted) ∧
          (∃ t, kept.found = .ok (some t) ∧ t.Holds saved.host.registry) ∧
          kept.load.answer = .ok (some saved.host.registry.snapshot) ∧
          ∀ admin, (kept.loadRegistry admin).answer = .ok saved.host.registry) ∧
      (store.IsReady → r.Timed (Store.Cell.inWord · = true) →
        (∀ e ∈ exchanges, e.fault? = none ∧ e.clock.Tells (Store.Cell.inWord · = true)) →
          ∀ p ∈ Run.transcript exchange app exchanges, p.2.IsAccepted → p.2.IsPersisted) := by
  intro app
  have hruns : app.Runs (fun _ => True) store := ⟨rfl, rfl, hr.wellFormed, htimes⟩
  obtain ⟨kept, hkept, hcontent⟩ := hruns.after hclocks
  refine ⟨kept, hkept.store, ?_, ?_⟩
  · rcases hcontent with hfirst | ⟨earlier, e, later, hsplit, hsaved, hnone, hwf, t, hfound, hholds⟩
    · exact .inl hfirst
    · obtain ⟨hload, hregistry⟩ := Store.load_of_holds hwf hfound hholds
      exact .inr ⟨earlier, e, later, hsplit, hsaved, hnone, ⟨t, hfound, hholds⟩, hload, hregistry⟩
  · intro hready hfits hexchanges
    have hword : app.Runs (Store.Cell.inWord · = true) store := ⟨rfl, rfl, hr.wellFormed, hfits⟩
    exact hword.after_ready hready hexchanges

/-- The administrator sets a pointer to a successor. -/
def pointing : Exchange :=
  { clock := none
    duration := .zero false
    request :=
      { method := Text.toPoints "POST"
        target := "/api/v1/contract/next"
        headers := [(callerHeader, Address.repeating 'A')]
        contentType? := some "application/json"
        body := (Text.utf8 ("\x7b\"contract_address\":\"" ++ Address.repeating 'B' ++
          "\"\x7d")).map UInt8.ofNat } }

/-- Whether a command, if there is one, sets the pointer to an address. -/
def pointsTo (address : String) : Option Command → Bool
  | some (.setNextContract (.text next)) => next == address
  | _ => false

theorem command?_pointing :
    pointing.request.command? = some (.setNextContract (.text (Address.repeating 'B'))) := by
  have hread : pointsTo (Address.repeating 'B') pointing.request.command? = true := by
    decide +kernel
  unfold pointsTo at hread
  split at hread
  · rename_i next hcommand
    rw [hcommand, beq_iff_eq.1 hread]
  · cases hread

theorem Request.caller?_of_header {r : Request} {name : String}
    (h : r.headers = [(callerHeader, name)]) :
    r.caller? = if Text.strip name = "" then none else some (Text.strip name) := by
  simp [Request.caller?, Request.header?, h]

theorem caller?_pointing : pointing.request.caller? = some (Address.repeating 'A') := by
  rw [Request.caller?_of_header rfl]
  decide +kernel

theorem database_holds_last_saved_pointing :
    let store : Store := { url := [], location := .own true true, own? := some {} }
    let app := Service.putUp ⟨⟨{ admin := Address.repeating 'A' }, .silent⟩, .admin, some store, {}⟩
    ∃ kept, (Run.after Service.exchange app [pointing]).store? = some kept ∧
      ∀ admin, (kept.loadRegistry admin).answer =
        .ok { admin := Address.repeating 'A', next := Address.repeating 'B' } := by
  intro store app
  have hA : IsAddress (Address.repeating 'A') := Address.isAddress_repeating (by decide)
  have hB : IsAddress (Address.repeating 'B') := Address.isAddress_repeating (by decide)
  let r : Registry := { admin := Address.repeating 'A' }
  have hcreate : Registry.create (.text (Address.repeating 'A')) = .ok r := by
    rw [Registry.create_text, if_pos hA]
  have hclock : ∀ P, pointing.clock.Tells P := by
    rintro P now ⟨⟩
  have hclocks : ∀ e ∈ [pointing], e.clock.Tells fun _ => True := by simpa using hclock _
  have hready : store.IsReady := ⟨⟨{}, rfl⟩, rfl, by rintro writable ⟨⟩, rfl⟩
  obtain ⟨kept, hkept, hcontent, hsaves⟩ := database_holds_last_saved (.create hcreate)
    (by intro entry hentry; cases hentry) .silent store {} hclocks
  have hw : (Call.mk none (.setNextContract (.text (Address.repeating 'B')))).write? =
      some (.next (Address.repeating 'B')) := by simp [Call.write?, hB]
  obtain ⟨hhost, -, -, hreply⟩ := app.serve_spec none (.zero false) pointing.request
  rw [Service.route_of_command command?_pointing caller?_pointing] at hhost hreply
  obtain ⟨hregistry, hsays⟩ := Service.change_of_write (s := app) rfl hA hw
  have haccepted : (app.serve none (.zero false) pointing.request).reply.IsAccepted := by
    rw [hreply]
    exact hsays
  have hpersisted := hsaves hready (by intro entry hentry; cases hentry)
    (by simpa [pointing] using hclock _) (pointing, _) List.mem_cons_self haccepted
  refine ⟨kept, hkept, ?_⟩
  rcases hcontent with ⟨hnone, -⟩ | ⟨earlier, e, later, hsplit, -, -, -, -, hload⟩
  · exact absurd hpersisted (hnone _ List.mem_cons_self)
  · obtain ⟨rfl, hrest⟩ : earlier = [] ∧ [pointing] = e :: later := by
      cases earlier with
      | nil => exact ⟨rfl, hsplit⟩
      | cons first earlier => simp at hsplit
    cases hrest
    intro admin
    rw [hload admin]
    exact congrArg Except.ok ((congrArg Host.registry hhost).trans hregistry)

end Http
end WalletTrust
