import WalletTrust.Proofs.Http.Change
import WalletTrust.Proofs.Registry.Reachable

/-!
# Whatever becomes of a registry

Registries are created, restored, loaded, taken through snapshots, and changed by commands, with or
without a caller, and by requests. Whoever observes them and whatever authority guards them, each
of these ways leads to registries that commands alone reach, and these are well-formed.
-/

namespace WalletTrust

def Value.IsAddress (v : Value) : Prop := ∃ s, v = .text s ∧ WalletTrust.IsAddress s

namespace Registry

/-- The registries that operations of any kind lead to. -/
inductive Obtainable : Registry → Prop
  | create {admin : Value} {r : Registry} (h : create admin = .ok r) : Obtainable r
  | restore {s : Snapshot} {r : Registry} (hs : s.IsProper) (h : (restore s).answer = .ok r) :
      Obtainable r
  | load {store : Store} {admin : Value} {r : Registry}
      (hrows : ∀ t, store.tables = .ok t → (t.rows.map (·.wallet)).Nodup)
      (h : (store.loadRegistry admin).answer = .ok r) : Obtainable r
  | roundTrip {r r' : Registry} (hr : Obtainable r) (h : (restore r.snapshot).answer = .ok r') :
      Obtainable r'
  | perform {h : Host} (clock : Clock) (heard : Clocks) (command : Command)
      (hr : Obtainable h.registry) : Obtainable (h.perform clock command heard).state.registry
  | performAs {h : Host} (a : Authority) (clock : Clock) (heard : Clocks) (caller : Value)
      (command : Command) (hr : Obtainable h.registry) :
      Obtainable (h.performAs a clock caller command heard).state.registry
  | serve {s : Http.Service} (clock : Clock) (heard : Clocks) (duration : Binary64)
      (request : Http.Request) (hr : Obtainable s.host.registry) :
      Obtainable (s.serve clock duration request heard).service.host.registry

theorem Reachable.of_perform {h : Host} (hr : h.registry.Reachable) (clock : Clock) (heard : Clocks)
    (command : Command) : (h.perform clock command heard).state.registry.Reachable := by
  have hreached := hr.perform clock command
  rw [h.registry.perform_state ⟨clock, command⟩] at hreached
  rw [h.perform_state ⟨clock, command⟩ heard]
  exact hreached

/-- A caller is refused, or leaves what the command would leave without it. -/
theorem Reachable.of_performAs {h : Host} (hr : h.registry.Reachable) (a : Authority)
    (clock : Clock) (heard : Clocks) (caller : Value) (command : Command) :
    (h.performAs a clock caller command heard).state.registry.Reachable := by
  rcases h.performAs_cases a clock caller command heard with ⟨f, -, houtcome⟩ | ⟨-, houtcome⟩
  · rw [Effect.state_eq houtcome]
    exact hr
  · rw [Effect.state_eq houtcome]
    exact hr.of_perform clock heard command

/-- A request comes to a command on behalf of a caller, or leaves the registry alone. -/
theorem Reachable.of_serve {s : Http.Service} (clock : Clock) (heard : Clocks) (duration : Binary64)
    (request : Http.Request) (hr : s.host.registry.Reachable) :
    (s.serve clock duration request heard).service.host.registry.Reachable := by
  rw [(s.serve_spec clock duration request heard).1]
  rcases s.answers_route clock request heard with
    ⟨command, caller, -, -, hroute⟩ | ⟨-, reply, -, hroute⟩
  · rw [hroute, (s.change_attempt clock caller command heard).2.1]
    exact hr.of_performAs s.authority clock heard (.text caller) command
  · rw [hroute]
    exact hr

/-- Callers, requests and round trips lead nowhere that commands do not. -/
theorem Obtainable.reachable {r : Registry} (h : r.Obtainable) : r.Reachable := by
  induction h with
  | create h => exact .create h
  | restore hs h => exact .restore hs h
  | load hrows h => exact .load hrows h
  | roundTrip hr h ih =>
    rw [restore_snapshot ih.wellFormed] at h
    cases h
    exact ih
  | perform clock heard command hr ih => exact ih.of_perform clock heard command
  | performAs a clock heard caller command hr ih =>
    exact ih.of_performAs a clock heard caller command
  | serve clock heard duration request hr ih => exact ih.of_serve clock heard duration request

theorem create_of_not_isAddress {admin : Value} (h : ¬ admin.IsAddress) :
    create admin = .error (badAdmin admin) := by
  unfold create
  split
  · rename_i s hs
    obtain ⟨rfl, hvalid⟩ := Address.ofValue?_eq_some_iff.1 hs
    exact absurd ⟨s, rfl, Address.isValid_iff.1 hvalid⟩ h
  · rfl

theorem restore_of_not_isAddress {s : Snapshot} (h : ¬ s.admin.IsAddress) :
    (restore s).answer = .error (badAdmin s.admin) := by
  rw [restore_answer, create_of_not_isAddress h]
  rfl

/-- Every registry that there can be is well-formed, and its administrator's authority permits
exactly the administrator. Where the administrator has no valid address there is no registry. -/
theorem obtainable_registries_are_well_formed :
    (∀ r : Registry, r.Obtainable → r.WellFormed ∧ ∀ caller,
      Authority.admin.permits r caller = .ok (r.isAdmin caller) ∧
        (r.isAdmin caller = true ↔ caller = .text r.admin)) ∧
      ∀ admin : Value, ¬ admin.IsAddress →
        create admin = .error (badAdmin admin) ∧
        (∀ s : Snapshot, s.admin = admin → (restore s).answer = .error (badAdmin admin)) ∧
        ∀ store : Store,
          (store.load.answer = .ok none →
            (store.loadRegistry admin).answer = .error (badAdmin admin)) ∧
          ∀ s other, store.load.answer = .ok (some s) → s.admin = admin →
            (store.loadRegistry other).answer = .error (badAdmin admin) := by
  refine ⟨?_, ?_⟩
  · intro r h
    have hr := h.reachable.wellFormed
    exact ⟨hr, fun caller => ⟨Authority.permits_eq_isAdmin hr.admin caller, isAdmin_iff hr.admin⟩⟩
  · intro admin h
    refine ⟨create_of_not_isAddress h, ?_, ?_⟩
    · rintro s rfl
      exact restore_of_not_isAddress h
    · intro store
      refine ⟨?_, ?_⟩
      · intro hload
        rw [Store.loadRegistry_answer, hload]
        exact create_of_not_isAddress h
      · rintro s other hload rfl
        rw [Store.loadRegistry_answer, hload]
        exact restore_of_not_isAddress h

/-- A snapshot with a pointer that is no text, and with records of which only the last is under an
address and has a score. -/
def patchy : Snapshot where
  admin := .text (Address.repeating 'A')
  next := .int 5
  records :=
    [(.text (" " ++ Address.repeating 'B'), { status := .status .active, trustScore := .int 50 }),
      (.text (Address.repeating 'C'), { status := .status .active, trustScore := .bool true }),
      (.text (Address.repeating 'D'), { status := .status .active, trustScore := .int 50 })]

theorem isProper_patchy : patchy.IsProper := by
  refine ⟨?_, ?_⟩
  · decide +kernel
  · simp [patchy]

/-- What is restored of the snapshot: its administrator and its last record. -/
def patched : Registry where
  admin := Address.repeating 'A'
  records := [(Address.repeating 'D', { status := .status .active, trustScore := .int 50 })]

theorem restore_patchy : (restore patchy).answer = .ok patched := by
  have hA : IsAddress (Address.repeating 'A') := Address.isAddress_repeating (by decide)
  have hD : IsAddress (Address.repeating 'D') := Address.isAddress_repeating (by decide)
  have hC : IsAddress (Address.repeating 'C') := Address.isAddress_repeating (by decide)
  have hpadded : ¬ IsAddress (" " ++ Address.repeating 'B') := by decide +kernel
  have hscore : Score.isValid (.int 50) = true := by decide
  have hflag : Score.isValid (.bool true) = false := rfl
  have hrecords : patchy.records.filterMap admissible? = patched.records := by
    simp [patchy, patched, admissible?, Address.ofValue?_text, hpadded, hC, hD, hscore, hflag]
  rw [restore_answer, hrecords]
  simp [patchy, patched, create_text, hA, Address.ofValue?, Except.map]

theorem obtainable_registries_are_well_formed_patchy :
    (restore patchy).answer = .ok patched ∧ patched.WellFormed ∧
      Authority.admin.permits patched (.text "") = .ok false ∧
      create (.int 5) = .error (badAdmin (.int 5)) := by
  obtain ⟨hobtainable, hinvalid⟩ := obtainable_registries_are_well_formed
  obtain ⟨hr, hpermits⟩ := hobtainable patched (.restore isProper_patchy restore_patchy)
  refine ⟨restore_patchy, hr, ?_, ?_⟩
  · have hempty : patched.isAdmin (.text "") = false := by decide +kernel
    rw [(hpermits (.text "")).1, hempty]
  · refine (hinvalid (.int 5) ?_).1
    rintro ⟨s, ⟨⟩, -⟩

end Registry
end WalletTrust
