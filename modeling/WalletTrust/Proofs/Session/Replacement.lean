import WalletTrust.Proofs.Registry.Reachable
import WalletTrust.Proofs.Store.RoundTrip
import WalletTrust.Session.Basic

/-!
# Replacement of what is stored

A snapshot that is saved takes the place of everything that the database held, and is what is loaded
from then on. If one of its integers fits into no column, the database stays as it was.
-/

namespace WalletTrust

/-- A snapshot of texts, statuses and integers with an administrator. The texts need not be
addresses, and the integers may be of any size. -/
structure Snapshot.IsTyped (s : Snapshot) : Prop where
  admin : ∃ admin : String, s.admin = .text admin ∧ admin ≠ ""
  next : ∃ next : String, s.next = .text next
  records : ∀ entry ∈ s.records, (∃ wallet : String, entry.1 = .text wallet) ∧ entry.2.IsTyped
  distinct : (s.records.map (·.1)).Nodup

def Snapshot.Fits (s : Snapshot) : Prop := ∀ entry ∈ s.records, entry.2.Fits

namespace Snapshot

private theorem exists_keyed {records : List (Value × Record)}
    (h : ∀ entry ∈ records, ∃ wallet : String, entry.1 = .text wallet) :
    ∃ named, records = Store.keyed named := by
  induction records with
  | nil => exact ⟨[], rfl⟩
  | cons entry records ih =>
    obtain ⟨named, rfl⟩ := ih fun e he => h e (List.mem_cons_of_mem entry he)
    obtain ⟨key, record⟩ := entry
    obtain ⟨wallet, rfl⟩ : ∃ wallet : String, key = .text wallet := h _ List.mem_cons_self
    exact ⟨(wallet, record) :: named, rfl⟩

/-- Such a snapshot is the one of a registry, which need not be well-formed. -/
theorem IsTyped.exists_registry {s : Snapshot} (h : s.IsTyped) :
    ∃ r : Registry, s = r.snapshot ∧ r.admin ≠ "" ∧ r.IsTyped ∧ (r.Fits ↔ s.Fits) := by
  obtain ⟨admin, next, records⟩ := s
  obtain ⟨⟨admin, rfl, hnamed⟩, ⟨next, rfl⟩, hrecords, hdistinct⟩ := h
  obtain ⟨named, rfl⟩ := exists_keyed fun entry he => (hrecords entry he).1
  have hmem : ∀ entry ∈ named, ((.text entry.1, entry.2) : Value × Record) ∈ Store.keyed named :=
    fun entry hentry => List.mem_map.2 ⟨entry, hentry, rfl⟩
  refine ⟨⟨admin, next, named⟩, rfl, hnamed, ⟨?_, ?_⟩, ?_, ?_⟩
  · exact fun entry hentry => (hrecords _ (hmem entry hentry)).2
  · -- texts differ as keys if and only if they differ as wallets
    have hkeys : (Store.keyed named).map (·.1) = (Registry.wallets named).map Value.text := by
      simp [Store.keyed, Registry.wallets]
    rw [hkeys] at hdistinct
    exact hdistinct.of_map _
  · intro h entry hentry
    obtain ⟨original, horiginal, rfl⟩ := List.mem_map.1 hentry
    exact h original horiginal
  · exact fun h entry hentry => h _ (hmem entry hentry)

end Snapshot

namespace Session

variable {s : Session} {store : Store}

/-- A session takes over what saving answers and leaves. -/
theorem saveSnapshot_of_outcome (hstore : s.store? = some store) {snapshot : Snapshot}
    {left : Store} {answer : Except Failure Unit}
    (hleft : (store.touched.saveSnapshot snapshot).outcome = (left, answer)) :
    let step := s.step (.saveSnapshot snapshot)
    step.result = answer.map (fun _ => .nothing) ∧ step.session = s.withStore left := by
  simp only [step, onStore, needStore, hstore, changeStore, leave, Effect.state_eq hleft,
    Effect.answer_eq hleft, true_and]
  rfl

theorem load_result (hstore : s.store? = some store) :
    (s.step .load).result = store.load.answer.map .snapshot := by
  rw [← Store.load_of_found store.found_touched]
  simp only [step, onStore, needStore, hstore, ask]

private theorem loadRegistry_of_answer (hstore : s.store? = some store) {admin : Value}
    {r : Registry} (hr : (store.loadRegistry admin).answer = .ok r) :
    let step := s.step (.loadRegistry admin)
    step.result = .ok (.flag true) ∧ step.session.registry? = some r := by
  rw [← Store.loadRegistry_of_found store.found_touched] at hr
  simp only [step, onStore, needStore, hstore, replace, hr, true_and]
  rfl

/-- The registry of a session is saved as its snapshot. -/
theorem step_save (hstore : s.store? = some store) {r : Registry} (hr : s.registry? = some r) :
    s.step .save = s.step (.saveSnapshot r.snapshot) := by
  simp only [step, onRegistry, hr, onStore, needStore, hstore]
  rfl

/-- A snapshot that fits is all that the database holds afterwards, and is what is loaded. -/
theorem save_of_fits (hstore : s.store? = some store) {old : Store.Tables}
    (hoffers : store.Offers old) {snapshot : Snapshot} (htyped : snapshot.IsTyped)
    (hfits : snapshot.Fits) :
    let saved := s.step (.saveSnapshot snapshot)
    saved.result = .ok .nothing ∧
      (saved.session.step .load).result = .ok (.snapshot (some snapshot)) ∧
      ∃ t, Store.Tables.ofSnapshot snapshot = .ok t ∧
        saved.session.store?.map Store.found = some (.ok (some t)) ∧
        t.rows.map (·.wallet.toValue) = snapshot.records.map (·.1) := by
  intro saved
  obtain ⟨r, rfl, hnamed, hr, hrfits⟩ := htyped.exists_registry
  obtain ⟨left, t, hleft, hnow, hholds, ht⟩ :=
    hoffers.touched.saveSnapshot_of_fits hr (hrfits.2 hfits)
  obtain ⟨hresult, hsession⟩ := saveSnapshot_of_outcome hstore hleft
  have hafter : saved.session.store? = some left := by
    rw [hsession]
    rfl
  have hload : left.load.answer = .ok (some r.snapshot) :=
    Store.load_answer_of_holds hnamed hnow.found hholds
  have hwallets : t.rows.map (·.wallet.toValue) = r.snapshot.records.map (·.1) := by
    have hcells := congrArg (List.map Store.Cell.toValue) (Store.wallets_of_shows hholds.rows)
    rw [List.map_map] at hcells
    refine hcells.trans ?_
    simp [Registry.snapshot, Registry.wallets, Store.Cell.toValue]
  refine ⟨hresult, ?_, t, ht, ?_, hwallets⟩
  · rw [load_result hafter, hload, Except.map]
  · rw [hafter, Option.map_some, hnow.found]

/-- A snapshot that does not fit changes nothing, whichever of its records it is. -/
theorem save_of_not_fits (hstore : s.store? = some store) {old : Store.Tables}
    (hoffers : store.Offers old) {snapshot : Snapshot} (htyped : snapshot.IsTyped)
    (hfits : ¬ snapshot.Fits) :
    let saved := s.step (.saveSnapshot snapshot)
    saved.result = .error Store.Tables.tooWide ∧
      (saved.session.step .load).result = (s.step .load).result ∧
      saved.session.store?.map Store.found = some (.ok (some old)) := by
  intro saved
  obtain ⟨r, rfl, -, hr, hrfits⟩ := htyped.exists_registry
  have herror := hoffers.touched.saveSnapshot_of_not_fits hr (mt hrfits.1 hfits)
  obtain ⟨hresult, hsession⟩ := saveSnapshot_of_outcome hstore herror
  have hafter : saved.session.store? = some store.touched := by
    rw [hsession]
    rfl
  refine ⟨hresult, ?_, ?_⟩
  · rw [load_result hafter, load_result hstore, Store.load_of_found store.found_touched]
  · rw [hafter, Option.map_some, hoffers.touched.found]

/-- A well-formed registry whose times fit is restored after it was saved. -/
theorem loadRegistry_of_save (hstore : s.store? = some store) {old : Store.Tables}
    (hoffers : store.Offers old) {r : Registry} (hregistry : s.registry? = some r)
    (hr : r.WellFormed) (hfits : r.Timed (Store.Cell.inWord · = true)) :
    let saved := s.step .save
    saved.result = .ok .nothing ∧ ∀ admin,
      let restored := saved.session.step (.loadRegistry admin)
      restored.result = .ok (.flag true) ∧ restored.session.registry? = some r := by
  intro saved
  have htyped : r.IsTyped := hr.isTyped (hfits.imp fun _ _ => trivial)
  obtain ⟨left, t, hleft, hnow, hholds, -⟩ :=
    hoffers.touched.saveSnapshot_of_fits htyped ((Store.fits_iff_timed hr).2 hfits)
  obtain ⟨hresult, hsession⟩ := saveSnapshot_of_outcome hstore hleft
  have hsaved : saved = s.step (.saveSnapshot r.snapshot) := step_save hstore hregistry
  rw [hsaved, hsession]
  refine ⟨hresult, fun admin => ?_⟩
  exact loadRegistry_of_answer rfl ((Store.load_of_holds hr hnow.found hholds).2 admin)

/-- Saving a snapshot replaces all that a database held, so that the snapshot is loaded afterwards,
or else fails and leaves the database as it was. A registry that is saved is restored whoever the
administrator at hand is. -/
theorem saving_replaces_all_or_nothing (hstore : s.store? = some store) {old : Store.Tables}
    (hoffers : store.Offers old) {snapshot : Snapshot} (htyped : snapshot.IsTyped) :
    let saved := s.step (.saveSnapshot snapshot)
    let loaded := saved.session.step .load
    (snapshot.Fits →
      saved.result = .ok .nothing ∧ loaded.result = .ok (.snapshot (some snapshot)) ∧
        ∃ t, Store.Tables.ofSnapshot snapshot = .ok t ∧
          saved.session.store?.map Store.found = some (.ok (some t)) ∧
          t.rows.map (·.wallet.toValue) = snapshot.records.map (·.1)) ∧
      (¬ snapshot.Fits →
        saved.result = .error Store.Tables.tooWide ∧ loaded.result = (s.step .load).result ∧
          saved.session.store?.map Store.found = some (.ok (some old))) ∧
      ∀ r : Registry, s.registry? = some r → r.Reachable →
        r.Timed (Store.Cell.inWord · = true) →
        let kept := s.step .save
        kept.result = .ok .nothing ∧ ∀ admin,
          let restored := kept.session.step (.loadRegistry admin)
          restored.result = .ok (.flag true) ∧ restored.session.registry? = some r := by
  refine ⟨?_, ?_, ?_⟩
  · exact save_of_fits hstore hoffers htyped
  · exact save_of_not_fits hstore hoffers htyped
  · intro r hregistry hreachable hfits
    exact loadRegistry_of_save hstore hoffers hregistry hreachable.wellFormed hfits

def archive : Session where
  store? := some
    { url := [], location := .own true true
      own? := some
        { rows := [⟨.text "kept", .text "ACTIVE", .integer 50, .integer 7⟩]
          properties := [(.text "admin_address", .text "old")] } }

/-- A snapshot of two wallets, the last of which has a time. -/
def lasting (time : Int) : Snapshot where
  admin := .text "new"
  records := [(.text "", { trustScore := .int (-5) }), (.text "last", { updatedAt := .int time })]

private theorem isTyped_lasting (time : Int) : (lasting time).IsTyped := by
  refine ⟨⟨"new", rfl, by decide⟩, ⟨"", rfl⟩, ?_, ?_⟩
  · intro entry hentry
    simp only [lasting, List.mem_cons, List.not_mem_nil, or_false] at hentry
    rcases hentry with rfl | rfl
    · exact ⟨⟨"", rfl⟩, .mk .unknown (-5) 0⟩
    · exact ⟨⟨"last", rfl⟩, .mk .unknown 0 time⟩
  · simp [lasting]

private theorem fits_lasting_iff {time : Int} :
    (lasting time).Fits ↔ Store.Cell.inWord time = true := by
  constructor
  · intro h
    obtain ⟨n, hn, hfits⟩ := (h (.text "last", { updatedAt := .int time }) (by simp [lasting])).time
    cases hn
    exact hfits
  · intro htime entry hentry
    simp only [lasting, List.mem_cons, List.not_mem_nil, or_false] at hentry
    rcases hentry with rfl | rfl
    · exact ⟨⟨-5, rfl, by decide⟩, ⟨0, rfl, by decide⟩⟩
    · exact ⟨⟨0, rfl, by decide⟩, ⟨time, rfl, htime⟩⟩

theorem saving_replaces_all_or_nothing_lasting :
    let last := Store.Cell.wordEnd - 1
    let saved := archive.step (.saveSnapshot (lasting last))
    let refused := archive.step (.saveSnapshot (lasting (last + 1)))
    (saved.session.step .load).result = .ok (.snapshot (some (lasting last))) ∧
      (refused.session.step .load).result = (archive.step .load).result := by
  intro last saved refused
  have hfits : (lasting last).Fits := fits_lasting_iff.2 (by decide)
  have hwide : ¬ (lasting (last + 1)).Fits := by
    rw [fits_lasting_iff]
    decide
  have hsaved := (saving_replaces_all_or_nothing (s := archive) rfl ⟨rfl, rfl, rfl⟩
    (isTyped_lasting last)).1 hfits
  have hrefused := (saving_replaces_all_or_nothing (s := archive) rfl ⟨rfl, rfl, rfl⟩
    (isTyped_lasting (last + 1))).2.1 hwide
  exact ⟨hsaved.2.1, hrefused.2.1⟩

end Session
end WalletTrust
