import WalletTrust.Proofs.Registry.Call
import Mathlib.Data.List.Forall2

/-!
# The log of a recorder

A recorder that hears the clock of its registry keeps one event for each accepted status and each
accepted pointer. The events of a wallet form a chain, each link of which names the status that it
replaces, and the events written over the first state of a registry give its last one.
-/

namespace WalletTrust

/-- The call of a command at a time that the clock does tell. -/
def Call.timely (t : Value × Command) : Call := ⟨some t.1, t.2⟩

theorem Call.stalls_timely (t : Value × Command) : (timely t).stalls = false := by
  unfold stalls
  split <;> simp_all [timely]

theorem Call.answer_timely (t : Value × Command) :
    (timely t).answer = .ok (timely t).write?.isSome := by
  simp [answer, stalls_timely]

/-- The status that a write gives to a wallet. -/
def Write.statusFor? (wallet : String) : Write → Option Status
  | .record w status _ _ => if w = wallet then some status else none
  | _ => none

def Write.isTold : Write → Bool
  | .admin _ => false
  | _ => true

def writesOf (calls : List (Value × Command)) : List Write :=
  calls.filterMap fun t => (Call.timely t).write?

/-- The timely calls that observers are told of. -/
def toldCalls (calls : List (Value × Command)) : List (Value × Command) :=
  calls.filter fun t => (Call.timely t).write?.any Write.isTold

namespace Event

/-- An event tells a call: it has the arguments and the time of it, and no more. -/
def Tells (e : Event) (t : Value × Command) : Prop :=
  match t.2 with
  | .setStatus wallet status score =>
    e.wallet = wallet ∧ e.status = status ∧ e.trustScore = score ∧ e.emittedAt = t.1 ∧
      e.contractAddress = .null ∧ e.kind ≠ .contractUpgraded
  | .setNextContract address =>
    e = { kind := .contractUpgraded, contractAddress := address, emittedAt := t.1 }
  | .transferAdmin _ => False

def isAbout (wallet : String) (e : Event) : Bool :=
  match e.wallet with
  | .text w => w == wallet
  | _ => false

/-- An event of a wallet that had a status before. -/
def Follows (old : Value) (e : Event) : Prop :=
  (old = .status .unknown ∧ e.kind = .registered ∧ e.oldStatus = .null) ∨
    (old ≠ .status .unknown ∧ e.kind = .statusChanged ∧ e.oldStatus = old)

/-- Events each of which follows the status that the one before it tells. -/
def Chained : Value → List Event → Prop
  | _, [] => True
  | old, e :: rest => e.Follows old ∧ Chained e.status rest

/-- The kinds of events of a wallet that is registered at first and changed ever after. -/
def registeredOnce : Nat → List EventKind
  | 0 => []
  | n + 1 => .registered :: List.replicate n .statusChanged

private theorem Chained.kinds_of_known {old : Value} {es : List Event} (h : Chained old es)
    (hold : old ≠ .status .unknown) (hes : ∀ e ∈ es, e.status ≠ .status .unknown) :
    es.map (·.kind) = List.replicate es.length .statusChanged := by
  induction es generalizing old with
  | nil => rfl
  | cons e es ih =>
    obtain ⟨hfollows, hrest⟩ := h
    have hkind : e.kind = .statusChanged := by
      rcases hfollows with ⟨hunknown, -⟩ | ⟨-, hkind, -⟩
      · exact absurd hunknown hold
      · exact hkind
    have htail := ih hrest (hes e List.mem_cons_self)
      fun e' he' => hes e' (List.mem_cons_of_mem e he')
    simp [hkind, htail, List.replicate_succ]

private theorem Chained.kinds {es : List Event} (h : Chained (.status .unknown) es)
    (hes : ∀ e ∈ es, e.status ≠ .status .unknown) : es.map (·.kind) = registeredOnce es.length := by
  cases es with
  | nil => rfl
  | cons e es =>
    obtain ⟨hfollows, hrest⟩ := h
    have hkind : e.kind = .registered := by
      rcases hfollows with ⟨-, hkind, -⟩ | ⟨hknown, -⟩
      · exact hkind
      · exact absurd rfl hknown
    have htail := hrest.kinds_of_known (hes e List.mem_cons_self)
      fun e' he' => hes e' (List.mem_cons_of_mem e he')
    simp [hkind, htail, registeredOnce]

end Event

namespace Registry

/-- The registry with an event written over it. -/
def replay (r : Registry) (e : Event) : Registry :=
  match e.kind, e.wallet, e.contractAddress with
  | .contractUpgraded, _, .text address => { r with next := address }
  | .contractUpgraded, _, _ => r
  | _, .text wallet, _ =>
    { r with records := write wallet ⟨e.status, e.trustScore, e.emittedAt⟩ r.records }
  | _, _, _ => r

/-- The event that a recorder keeps of a written status. -/
def statusEvent (r : Registry) (wallet : String) (status : Status) (score : Int) (now : Value) :
    Event :=
  .ofNotice (r.statusNotice wallet status (.int score)) now

/-- The event that a recorder keeps of a write, if it is told of it. -/
def eventOf? (r : Registry) (now : Value) (w : Write) : Option Event :=
  (r.noticeOf w).map (Event.ofNotice · now)

def eventsOf : Registry → List (Value × Command) → List Event
  | _, [] => []
  | r, t :: rest =>
    match (Call.timely t).write? with
    | some w => (r.eventOf? t.1 w).toList ++ eventsOf (r.put w) rest
    | none => eventsOf r rest

@[simp] theorem eventOf?_record (r : Registry) (now time : Value) (wallet : String)
    (status : Status) (score : Int) :
    r.eventOf? now (.record wallet status score time) =
      some (r.statusEvent wallet status score now) := rfl

@[simp] theorem eventOf?_next (r : Registry) (now : Value) (address : String) :
    r.eventOf? now (.next address) =
      some { kind := .contractUpgraded, contractAddress := .text address, emittedAt := now } := rfl

@[simp] theorem eventOf?_admin (r : Registry) (now : Value) (address : String) :
    r.eventOf? now (.admin address) = none := rfl

theorem statusNotice_of_unknown {r : Registry} {wallet : String}
    (h : r.statusOf wallet = .status .unknown) (status : Status) (score : Value) :
    r.statusNotice wallet status score = .registered (.text wallet) (.status status) score := by
  simp only [statusNotice, h]

theorem statusNotice_of_known {r : Registry} {wallet : String}
    (h : r.statusOf wallet ≠ .status .unknown) (status : Status) (score : Value) :
    r.statusNotice wallet status score =
      .statusChanged (.text wallet) (r.statusOf wallet) (.status status) score := by
  unfold statusNotice
  split
  · rename_i hunknown
    exact absurd hunknown h
  · rfl

/-- The fields of a status event that do not depend on what was before. -/
theorem statusEvent_fields (r : Registry) (wallet : String) (status : Status) (score : Int)
    (now : Value) :
    let e := r.statusEvent wallet status score now
    e.wallet = .text wallet ∧ e.status = .status status ∧ e.trustScore = .int score ∧
      e.emittedAt = now ∧ e.contractAddress = .null ∧ e.kind ≠ .contractUpgraded := by
  by_cases h : r.statusOf wallet = .status .unknown
  · simp [statusEvent, statusNotice_of_unknown h, Event.ofNotice]
  · simp [statusEvent, statusNotice_of_known h, Event.ofNotice]

@[simp] theorem status_statusEvent (r : Registry) (wallet : String) (status : Status) (score : Int)
    (now : Value) : (r.statusEvent wallet status score now).status = .status status :=
  (r.statusEvent_fields wallet status score now).2.1

@[simp] theorem isAbout_statusEvent (other : String) (r : Registry) (wallet : String)
    (status : Status) (score : Int) (now : Value) :
    (r.statusEvent wallet status score now).isAbout other = (wallet == other) := by
  have hwallet := (r.statusEvent_fields wallet status score now).1
  simp only [Event.isAbout, hwallet]

theorem statusEvent_follows (r : Registry) (wallet : String) (status : Status) (score : Int)
    (now : Value) : (r.statusEvent wallet status score now).Follows (r.statusOf wallet) := by
  by_cases h : r.statusOf wallet = .status .unknown
  · exact .inl ⟨h, by simp [statusEvent, statusNotice_of_unknown h, Event.ofNotice]⟩
  · exact .inr ⟨h, by simp [statusEvent, statusNotice_of_known h, Event.ofNotice]⟩

theorem statusOf_withStatus (r : Registry) (wallet other : String) (status : Status)
    (score now : Value) :
    (r.withStatus wallet status score now).statusOf other =
      if wallet = other then .status status else r.statusOf other := by
  by_cases h : wallet = other <;> simp [statusOf, withStatus, find?_write, h]

private theorem replay_statusEvent (s r : Registry) (wallet : String) (status : Status)
    (score : Int) (now : Value) :
    s.replay (r.statusEvent wallet status score now) =
      s.withStatus wallet status (.int score) now := by
  by_cases h : r.statusOf wallet = .status .unknown
  · simp [statusEvent, statusNotice_of_unknown h, Event.ofNotice, replay, withStatus]
  · simp [statusEvent, statusNotice_of_known h, Event.ofNotice, replay, withStatus]

private theorem statusOf_put (wallet : String) (r : Registry) (w : Write) :
    (r.put w).statusOf wallet =
      ((w.statusFor? wallet).map Value.status).getD (r.statusOf wallet) := by
  cases w with
  | record other status score now =>
    by_cases h : other = wallet <;> simp [put, statusOf_withStatus, Write.statusFor?, h]
  | next address => rfl
  | admin address => rfl

theorem told_recorder (r : Registry) (now : Value) (w : Write) (events : List Event) :
    Host.told (.same (some now)) (r.noticeOf w) (.recorder events) =
      .recorder (events ++ (r.eventOf? now w).toList) := by
  cases hn : r.noticeOf w with
  | none => simp [Host.told, eventOf?, hn]
  | some n =>
    simp [Host.told, Observer.receive, Observer.record, Clocks.same, Clock.read, eventOf?, hn]

/-- A recorder after timely calls, and the registry that it watched. -/
theorem after_recorded_calls (r : Registry) (old : List Event) (calls : List (Value × Command)) :
    Run.after Host.call ⟨r, .recorder old⟩ (calls.map Call.timely) =
      ⟨(writesOf calls).foldl put r, .recorder (old ++ r.eventsOf calls)⟩ := by
  induction calls generalizing r old with
  | nil => simp [writesOf, eventsOf]
  | cons t calls ih =>
    rw [List.map_cons, Run.after_cons]
    cases hw : (Call.timely t).write? with
    | none =>
      rw [Host.call_of_no_write hw, ih]
      simp [writesOf, eventsOf, hw]
    | some w =>
      have hobserver : Host.told (.same (Call.timely t).clock) (r.noticeOf w) (.recorder old) =
          .recorder (old ++ (r.eventOf? t.1 w).toList) := r.told_recorder t.1 w old
      rw [Host.call_of_write hw, hobserver, ih]
      simp [writesOf, eventsOf, hw]

theorem eventsOf_tell (r : Registry) (calls : List (Value × Command)) :
    List.Forall₂ Event.Tells (r.eventsOf calls) (toldCalls calls) := by
  induction calls generalizing r with
  | nil => exact .nil
  | cons t calls ih =>
    obtain ⟨now, command⟩ := t
    cases hw : (Call.timely (now, command)).write? with
    | none => simpa [eventsOf, toldCalls, hw] using ih r
    | some w =>
      have hrest := ih (r.put w)
      simp only [eventsOf, toldCalls, hw, List.filter_cons, Option.any_some]
      generalize hc : Call.timely (now, command) = c at hw
      cases Call.writes_of_write? hw with
      | record haddress hscore =>
        cases hc
        exact .cons (r.statusEvent_fields _ _ _ now) hrest
      | next haddress =>
        cases hc
        exact .cons rfl hrest
      | admin haddress => exact hrest

/-- The events about a wallet tell the statuses that were written for it. -/
theorem eventsOf_statuses (wallet : String) (r : Registry) (calls : List (Value × Command)) :
    ((r.eventsOf calls).filter (Event.isAbout wallet)).map (·.status) =
      ((writesOf calls).filterMap (Write.statusFor? wallet)).map Value.status := by
  induction calls generalizing r with
  | nil => rfl
  | cons t calls ih =>
    cases hw : (Call.timely t).write? with
    | none => simpa [eventsOf, writesOf, hw] using ih r
    | some w =>
      have hrest := ih (r.put w)
      simp only [eventsOf, writesOf, hw, List.filterMap_cons] at hrest ⊢
      cases w with
      | record other status score now =>
        by_cases h : other = wallet
        · simpa [Write.statusFor?, h] using hrest
        · simpa [Write.statusFor?, h] using hrest
      | next address => simpa [Event.isAbout, Write.statusFor?] using hrest
      | admin address => simpa [Write.statusFor?] using hrest

theorem eventsOf_chained (wallet : String) (r : Registry) (calls : List (Value × Command)) :
    Event.Chained (r.statusOf wallet) ((r.eventsOf calls).filter (Event.isAbout wallet)) := by
  induction calls generalizing r with
  | nil => trivial
  | cons t calls ih =>
    cases hw : (Call.timely t).write? with
    | none => simpa [eventsOf, hw] using ih r
    | some w =>
      have hrest := ih (r.put w)
      rw [statusOf_put] at hrest
      simp only [eventsOf, hw]
      cases w with
      | record other status score now =>
        have hfollows := r.statusEvent_follows other status score t.1
        by_cases h : other = wallet
        · subst h
          simp only [Write.statusFor?, if_true, Option.map_some, Option.getD_some] at hrest
          simpa [Event.Chained] using And.intro hfollows hrest
        · simpa [Write.statusFor?, h] using hrest
      | next address => simpa [Event.isAbout, Write.statusFor?] using hrest
      | admin address => simpa [Write.statusFor?] using hrest

/-- Events written over the records and the pointer of a registry give those that the calls leave
there, whoever the administrator is meanwhile. -/
theorem replay_eventsOf {r s : Registry} (hs : s.records = r.records ∧ s.next = r.next)
    (calls : List (Value × Command)) :
    ((r.eventsOf calls).foldl replay s).records = ((writesOf calls).foldl put r).records ∧
      ((r.eventsOf calls).foldl replay s).next = ((writesOf calls).foldl put r).next := by
  induction calls generalizing r s with
  | nil => exact hs
  | cons t calls ih =>
    obtain ⟨now, command⟩ := t
    cases hw : (Call.timely (now, command)).write? with
    | none => simpa [eventsOf, writesOf, hw] using ih hs
    | some w =>
      simp only [eventsOf, writesOf, hw, List.filterMap_cons, List.foldl_append, List.foldl_cons]
      refine ih ?_
      generalize hc : Call.timely (now, command) = c at hw
      cases Call.writes_of_write? hw with
      | record haddress hscore =>
        cases hc
        have hreplay := s.replay_statusEvent r
        simp only [statusEvent] at hreplay
        simp [eventOf?, noticeOf, hreplay, put, withStatus, hs.1, hs.2]
      | next haddress => simp [eventOf?, noticeOf, Event.ofNotice, replay, put, hs.1]
      | admin haddress => simpa [eventOf?, noticeOf, put] using hs

end Registry

/-- The recorder of a registry and the calls of it agree: one event for each told call, a chain of
statuses for each wallet, and a log that replays to the present state. -/
theorem recorded_events_replay (r : Registry) (old : List Event) (calls : List (Value × Command)) :
    ∃ new : List Event,
      let final := Run.after Host.call ⟨r, .recorder old⟩ (calls.map Call.timely)
      final.observer = .recorder (old ++ new) ∧
      Run.answers Host.call ⟨r, .recorder old⟩ (calls.map Call.timely) =
        calls.map (fun t => .ok (Call.timely t).write?.isSome) ∧
      List.Forall₂ Event.Tells new (toldCalls calls) ∧
      (∀ wallet, Event.Chained (r.statusOf wallet) (new.filter (Event.isAbout wallet))) ∧
      (∀ wallet, Registry.find? wallet r.records = none →
        let given := (writesOf calls).filterMap (Write.statusFor? wallet)
        .unknown ∉ given →
          (new.filter (Event.isAbout wallet)).map (·.kind) = Event.registeredOnce given.length) ∧
      { new.foldl Registry.replay r with admin := final.registry.admin } = final.registry := by
  refine ⟨r.eventsOf calls, ?_⟩
  have hafter := r.after_recorded_calls old calls
  intro final
  refine ⟨by simp [final, hafter], by simp [Host.answers_calls, Call.answer_timely],
    r.eventsOf_tell calls, fun wallet => r.eventsOf_chained wallet calls,
    ?_, ?_⟩
  · intro wallet habsent given hgiven
    have hstatuses := r.eventsOf_statuses wallet calls
    have hchain := r.eventsOf_chained wallet calls
    have hunknown : r.statusOf wallet = .status .unknown := by simp [Registry.statusOf, habsent]
    rw [hunknown] at hchain
    have hlength : ((r.eventsOf calls).filter (Event.isAbout wallet)).length = given.length := by
      simpa using congrArg List.length hstatuses
    rw [← hlength]
    refine hchain.kinds ?_
    intro e he hstatus
    have hmem : e.status ∈ given.map Value.status := hstatuses ▸ List.mem_map_of_mem he
    obtain ⟨status, hstatus', heq⟩ := List.mem_map.1 hmem
    rw [hstatus, Value.status.injEq] at heq
    exact hgiven (heq ▸ hstatus')
  · obtain ⟨hrecords, hnext⟩ := Registry.replay_eventsOf (s := r) ⟨rfl, rfl⟩ calls
    simp [final, hafter, hrecords, hnext]

/-- A blocked wallet becomes unknown and is registered again; another one is new. -/
def relapse : List (Value × Command) :=
  let known := Value.text (Address.repeating 'K')
  let new := Value.text (Address.repeating 'N')
  [(.int 1, .setStatus known (.status .unknown) (.int 0)),
    (.int 2, .setStatus known (.status .active) (.int 10)),
    (.int 3, .setStatus new (.status .active) (.int 20)),
    (.int 4, .setStatus new (.status .review) (.bool true)),
    (.int 5, .setStatus new (.status .blocked) (.int 0))]

theorem recorded_events_replay_relapse :
    let known := Address.repeating 'K'
    let new := Address.repeating 'N'
    let r : Registry := ⟨Address.repeating 'A', "", [(known, ⟨.status .blocked, .int 0, .int 0⟩)]⟩
    ∃ events, (Run.after Host.call ⟨r, .recorder []⟩ (relapse.map Call.timely)).observer =
        .recorder events ∧
      Event.Chained (.status .blocked) (events.filter (Event.isAbout known)) ∧
      (events.filter (Event.isAbout new)).map (·.kind) = [.registered, .statusChanged] := by
  intro known new r
  obtain ⟨events, hobserver, -, -, hchained, honce, -⟩ := recorded_events_replay r [] relapse
  have hknown : IsAddress known := Address.isAddress_repeating (by decide)
  have hnew : IsAddress new := Address.isAddress_repeating (by decide)
  have hne : known ≠ new := by decide +kernel
  have hgiven : (writesOf relapse).filterMap (Write.statusFor? new) = [.active, .blocked] := by
    simp only [known, new] at hknown hnew hne ⊢
    simp [relapse, writesOf, Call.timely, Call.write?, Write.statusFor?, hknown,
      hnew, hne]
  have hchain := hchained known
  have hkinds := honce new (by simp [r, Registry.find?, hne])
  simp only [hgiven] at hkinds
  refine ⟨events, hobserver, ?_, hkinds (by simp)⟩
  simpa [r, Registry.statusOf, Registry.find?] using hchain

end WalletTrust
