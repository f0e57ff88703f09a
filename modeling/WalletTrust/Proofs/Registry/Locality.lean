import WalletTrust.Proofs.Registry.EventLog
import WalletTrust.Proofs.Registry.Reachable
import WalletTrust.Proofs.Reordering
import Mathlib.Data.Fin.VecNotation
import Mathlib.Data.Fintype.Basic
import Mathlib.Tactic.FinCases

/-!
# Calls are local to their targets

A call reads and writes nothing but what its registry holds of the target of the call, and a
recorder is told of that target alone. Calls may therefore be put in any order in which those on one
target follow each other as before.
-/

namespace WalletTrust

inductive Target where
  | wallet (wallet : Value)
  | next
  | admin

namespace Target

def ofCommand : Command → Target
  | .setStatus w _ _ => .wallet w
  | .setNextContract _ => .next
  | .transferAdmin _ => .admin

def ofWrite : Write → Target
  | .record w _ _ _ => .wallet (.text w)
  | .next _ => .next
  | .admin _ => .admin

theorem wallet_ne_of_ofWrite_ne {wallet other : String} {status : Status} {score : Int}
    {now : Value} (h : ofWrite (.record wallet status score now) ≠ .wallet (.text other)) :
    wallet ≠ other := by
  rintro rfl
  exact h rfl

theorem ofCommand_of_write {c : Call} {w : Write} (h : c.write? = some w) :
    ofCommand c.command = ofWrite w := by
  cases Call.writes_of_write? h <;> rfl

end Target

/-- A command with the time that its registry reads and the time that a recorder hears. -/
structure TimedCommand where
  now : Value
  heard : Value
  command : Command

namespace TimedCommand

def call (t : TimedCommand) : Call := Call.timely (t.now, t.command)

def target (t : TimedCommand) : Target := .ofCommand t.command

end TimedCommand

/-- Whether an event tells something about a target. -/
def Event.concerns (e : Event) : Target → Bool
  | .wallet (.text wallet) => e.isAbout wallet
  | .wallet _ => false
  | .next => e.kind = .contractUpgraded
  | .admin => false

namespace Registry

/-- What a registry holds of a target: a record or an address. -/
def held (r : Registry) : Target → Option Record ⊕ String
  | .wallet v => .inl (match v with
    | .text wallet => find? wallet r.records
    | _ => none)
  | .next => .inr r.next
  | .admin => .inr r.admin

variable {r r' : Registry} {w : Write} {τ : Target}

private theorem held_put_of_ne (h : Target.ofWrite w ≠ τ) : (r.put w).held τ = r.held τ := by
  cases w with
  | record wallet status score now =>
    cases τ with
    | wallet other =>
      cases other with
      | text other =>
        simp only [held, put, withStatus, find?_write, if_neg (Target.wallet_ne_of_ofWrite_ne h)]
      | _ => rfl
    | next => rfl
    | admin => rfl
  | next address =>
    cases τ with
    | next => exact absurd rfl h
    | _ => rfl
  | admin address =>
    cases τ with
    | admin => exact absurd rfl h
    | _ => rfl

/-- Whatever was held of the target of a write is overwritten. -/
theorem held_put (r r' : Registry) (w : Write) :
    (r.put w).held (.ofWrite w) = (r'.put w).held (.ofWrite w) := by
  cases w with
  | record wallet status score now =>
    simp only [held, Target.ofWrite, put, withStatus, find?_write, if_true]
  | next address => rfl
  | admin address => rfl

private theorem eventOf?_eq (h : r.held (.ofWrite w) = r'.held (.ofWrite w)) (now : Value) :
    r.eventOf? now w = r'.eventOf? now w := by
  cases w with
  | record wallet status score time =>
    have hfind : find? wallet r.records = find? wallet r'.records := Sum.inl.inj h
    have hstatus : r.statusOf wallet = r'.statusOf wallet := by rw [statusOf, statusOf, hfind]
    simp only [eventOf?_record, statusEvent, statusNotice, hstatus]
  | next address => rfl
  | admin address => rfl

private theorem concerns_eventOf? {now : Value} {e : Event} (he : e ∈ r.eventOf? now w)
    (h : Target.ofWrite w ≠ τ) : e.concerns τ = false := by
  cases w with
  | record wallet status score time =>
    obtain ⟨-, -, -, -, -, hkind⟩ := r.statusEvent_fields wallet status score now
    rw [eventOf?_record] at he
    cases he
    cases τ with
    | wallet other =>
      cases other with
      | text other =>
        simpa [Event.concerns] using Target.wallet_ne_of_ofWrite_ne h
      | _ => rfl
    | next => simpa [Event.concerns] using hkind
    | admin => rfl
  | next address =>
    rw [eventOf?_next] at he
    cases he
    cases τ with
    | wallet other => cases other <;> rfl
    | next => exact absurd rfl h
    | admin => rfl
  | admin address =>
    rw [eventOf?_admin] at he
    cases he

end Registry

namespace Host

/-- The host after a command at its times, and the answer. -/
def callAt (h : Host) (t : TimedCommand) : Host × Except Failure Bool :=
  (h.perform (some t.now) t.command (.same (some t.heard))).outcome

def events (h : Host) : List Event :=
  match h.observer with
  | .recorder events => events
  | _ => []

/-- A host whose recorder has kept what it had and has a well-formed registry. -/
structure Records (old : List Event) (h : Host) : Prop where
  observer : ∃ new, h.observer = .recorder (old ++ new)
  registry : h.registry.WellFormed

/-- What a host holds of a target, and the events that it recorded about it. -/
def view (τ : Target) (h : Host) : (Option Record ⊕ String) × List Event :=
  (h.registry.held τ, h.events.filter (·.concerns τ))

/-- A call leaves what its command writes and tells the recorder of it, and is always answered. -/
theorem callAt_eq (h : Host) (t : TimedCommand) :
    h.callAt t = (h.afterCall t.call (.same (some t.heard)), .ok t.call.write?.isSome) := by
  have hperform := h.perform_spec t.call (.same (some t.heard))
  rw [Call.answer, show t.call.stalls = false from Call.stalls_timely _, if_neg (by simp)]
    at hperform
  exact hperform

theorem callAt_answer (h : Host) (t : TimedCommand) :
    (h.callAt t).2 = .ok t.call.write?.isSome := by rw [callAt_eq]

theorem callAt_of_no_write {t : TimedCommand} (hw : t.call.write? = none) (h : Host) :
    (h.callAt t).1 = h := by rw [callAt_eq, afterCall_of_no_write hw]

theorem callAt_of_write {t : TimedCommand} {w : Write} (hw : t.call.write? = some w)
    (r : Registry) (events : List Event) :
    (callAt ⟨r, .recorder events⟩ t).1 =
      ⟨r.put w, .recorder (events ++ (r.eventOf? t.heard w).toList)⟩ := by
  rw [callAt_eq, afterCall_of_write hw, Registry.told_recorder]

theorem answers_callsAt (h : Host) (calls : List TimedCommand) :
    Run.answers callAt h calls = calls.map fun t => .ok t.call.write?.isSome :=
  Run.answers_eq_map callAt callAt_answer h calls

variable {old : List Event} {h h' : Host} {t : TimedCommand} {τ : Target}

theorem Records.exists_eq (hh : h.Records old) :
    ∃ r new, h = ⟨r, .recorder (old ++ new)⟩ ∧ r.WellFormed := by
  obtain ⟨⟨new, hobserver⟩, hregistry⟩ := hh
  exact ⟨h.registry, new, by rw [← hobserver], hregistry⟩

theorem Records.callAt (hh : h.Records old) (t : TimedCommand) : (h.callAt t).1.Records old := by
  obtain ⟨r, new, rfl, hregistry⟩ := hh.exists_eq
  cases hw : t.call.write? with
  | none =>
    rw [callAt_of_no_write hw]
    exact ⟨⟨new, rfl⟩, hregistry⟩
  | some w =>
    rw [callAt_of_write hw]
    exact ⟨⟨_, by rw [List.append_assoc]⟩, Registry.wellFormed_put hregistry hw⟩

/-- A call on another target leaves the view alone. -/
theorem view_callAt_of_ne (hh : h.Records old) (ht : t.target ≠ τ) :
    (h.callAt t).1.view τ = h.view τ := by
  obtain ⟨r, new, rfl, -⟩ := hh.exists_eq
  cases hw : t.call.write? with
  | none => rw [callAt_of_no_write hw]
  | some w =>
    have hne : Target.ofWrite w ≠ τ := Target.ofCommand_of_write hw ▸ ht
    have htold : (r.eventOf? t.heard w).toList.filter (·.concerns τ) = [] := by
      rw [List.filter_eq_nil_iff]
      intro e he
      simp [Registry.concerns_eventOf? (Option.mem_toList.1 he) hne]
    rw [callAt_of_write hw]
    simp only [view, events, Registry.held_put_of_ne hne, List.filter_append, htold,
      List.append_nil]

/-- What a call makes of the view of its target depends on nothing else. -/
theorem view_callAt_congr (hh : h.Records old) (hh' : h'.Records old)
    (hview : h.view t.target = h'.view t.target) :
    (h.callAt t).1.view t.target = (h'.callAt t).1.view t.target := by
  obtain ⟨r, new, rfl, -⟩ := hh.exists_eq
  obtain ⟨r', new', rfl, -⟩ := hh'.exists_eq
  cases hw : t.call.write? with
  | none => rwa [callAt_of_no_write hw, callAt_of_no_write hw]
  | some w =>
    have htarget : t.target = .ofWrite w := Target.ofCommand_of_write hw
    rw [htarget] at hview ⊢
    obtain ⟨hheld, hevents⟩ := Prod.mk.inj hview
    rw [callAt_of_write hw, callAt_of_write hw]
    simp only [view, events] at hevents ⊢
    rw [Registry.held_put r r' w, Registry.eventOf?_eq hheld, List.filter_append, hevents,
      ← List.filter_append]

theorem view_callsAt_reordered {n : ℕ} {calls : Fin n → TimedCommand} {σ : Equiv.Perm (Fin n)}
    (hh : h.Records old)
    (hσ : ∀ i j, i < j → (calls (σ i)).target = (calls (σ j)).target → σ i < σ j) (τ : Target) :
    (Run.after callAt h (List.ofFn (calls ∘ σ))).view τ =
      (Run.after callAt h (List.ofFn calls)).view τ := by
  classical
  refine Run.view_reordered (P := Records old) (p := fun t => decide (t.target = τ))
    (fun h t hh => hh.callAt t) ?_ ?_ hh ?_
  · intro h t hh ht
    exact view_callAt_of_ne hh (of_decide_eq_false ht)
  · intro h h' t hh hh' ht hview
    obtain rfl : t.target = τ := of_decide_eq_true ht
    exact view_callAt_congr hh hh' hview
  · intro i j hij hi hj
    exact hσ i j hij ((of_decide_eq_true hi).trans (of_decide_eq_true hj).symm)

end Host

/-- Calls on a registry with a recorder may be put in any order that keeps the calls on each target
in theirs. Nothing that anybody can ask for afterwards, no answer and no event is different, except
that events about different targets come in another order. -/
theorem calls_commute_across_targets {r : Registry} (hr : r.Reachable) (old : List Event) {n : ℕ}
    (calls : Fin n → TimedCommand) (σ : Equiv.Perm (Fin n))
    (hσ : ∀ i j, i < j → (calls (σ i)).target = (calls (σ j)).target → σ i < σ j) :
    let h : Host := ⟨r, .recorder old⟩
    let final := Run.after Host.callAt h (List.ofFn calls)
    let final' := Run.after Host.callAt h (List.ofFn (calls ∘ σ))
    let answers := Run.answers Host.callAt h (List.ofFn calls)
    let answers' := Run.answers Host.callAt h (List.ofFn (calls ∘ σ))
    final'.registry.records.Perm final.registry.records ∧
    (∀ wallet, Registry.find? wallet final'.registry.records =
      Registry.find? wallet final.registry.records) ∧
    final'.registry.next = final.registry.next ∧ final'.registry.admin = final.registry.admin ∧
    (∀ i : Fin n, ∃ accepted,
      answers'[i.val]? = some (.ok accepted) ∧ answers[(σ i).val]? = some (.ok accepted)) ∧
    ∃ new new', final.observer = .recorder (old ++ new) ∧
      final'.observer = .recorder (old ++ new') ∧
      (∀ wallet, new'.filter (Event.isAbout wallet) = new.filter (Event.isAbout wallet)) ∧
      new'.filter (·.kind = .contractUpgraded) = new.filter (·.kind = .contractUpgraded) := by
  intro h final final' answers answers'
  have hstart : h.Records old := ⟨⟨[], by simp [h]⟩, hr.wellFormed⟩
  have hfinal : final.Records old :=
    Run.after_invariant Host.callAt (fun h t _ hh => hh.callAt t) hstart
  have hfinal' : final'.Records old :=
    Run.after_invariant Host.callAt (fun h t _ hh => hh.callAt t) hstart
  have hview : ∀ τ, final'.view τ = final.view τ := Host.view_callsAt_reordered hstart hσ
  have hheld : ∀ τ, final'.registry.held τ = final.registry.held τ :=
    fun τ => (Prod.mk.inj (hview τ)).1
  have hfind : ∀ wallet, Registry.find? wallet final'.registry.records =
      Registry.find? wallet final.registry.records :=
    fun wallet => Sum.inl.inj (hheld (.wallet (.text wallet)))
  obtain ⟨new, hnew⟩ := hfinal.observer
  obtain ⟨new', hnew'⟩ := hfinal'.observer
  have hevents : ∀ τ, new'.filter (·.concerns τ) = new.filter (·.concerns τ) := by
    intro τ
    have hboth := (Prod.mk.inj (hview τ)).2
    simp only [Host.events, hnew, hnew', List.filter_append] at hboth
    exact List.append_cancel_left hboth
  refine ⟨Registry.perm_of_find? hfinal'.registry.distinct hfinal.registry.distinct hfind, hfind,
    Sum.inr.inj (hheld .next), Sum.inr.inj (hheld .admin), ?_, new, new', hnew, hnew',
    fun wallet => hevents (.wallet (.text wallet)), hevents .next⟩
  intro i
  refine ⟨(calls (σ i)).call.write?.isSome, ?_, ?_⟩
  · simp [answers', Host.answers_callsAt]
  · simp [answers, Host.answers_callsAt]

/-- A wallet is written, then another one, then the first one again. -/
def crossedCalls (first second : String) : Fin 3 → TimedCommand :=
  ![⟨.int 1, .int 2, .setStatus (.text first) (.status .active) (.int 10)⟩,
    ⟨.int 3, .int 4, .setStatus (.text second) (.status .review) (.int 20)⟩,
    ⟨.int 5, .int 6, .setStatus (.text first) (.status .blocked) (.int 0)⟩]

theorem calls_commute_across_targets_crossed :
    let first := Address.repeating 'F'
    let second := Address.repeating 'S'
    let calls := crossedCalls first second
    let σ : Equiv.Perm (Fin 3) := Equiv.swap 0 1
    let h : Host := ⟨{ admin := Address.repeating 'A' }, .recorder []⟩
    let final := Run.after Host.callAt h (List.ofFn calls)
    let final' := Run.after Host.callAt h (List.ofFn (calls ∘ σ))
    h.registry.Reachable ∧
    (∀ i j, i < j → (calls (σ i)).target = (calls (σ j)).target → σ i < σ j) ∧
    final'.registry.records.Perm final.registry.records ∧
    ∃ new new', final.observer = .recorder new ∧ final'.observer = .recorder new' ∧
      new'.filter (Event.isAbout first) = new.filter (Event.isAbout first) ∧
      new'.filter (Event.isAbout second) = new.filter (Event.isAbout second) := by
  intro first second calls σ h final final'
  have haddress : IsAddress h.registry.admin := Address.isAddress_repeating (by decide)
  have hreachable : h.registry.Reachable :=
    .create (by rw [Registry.create_text, if_pos haddress])
  have hne : first ≠ second := by decide +kernel
  have hσ : ∀ i j, i < j → (calls (σ i)).target = (calls (σ j)).target → σ i < σ j := by
    intro i j hij htarget
    fin_cases i <;> fin_cases j <;>
      simp_all [calls, crossedCalls, σ, TimedCommand.target, Target.ofCommand, Equiv.swap_apply_def,
        Ne.symm hne]
  obtain ⟨hperm, -, -, -, -, new, new', hnew, hnew', habout, -⟩ :=
    calls_commute_across_targets hreachable [] calls σ hσ
  exact ⟨hreachable, hσ, hperm, new, new', hnew, hnew', habout first, habout second⟩

end WalletTrust
