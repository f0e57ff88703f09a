import WalletTrust.Proofs.Observer.Settling
import WalletTrust.Proofs.Outcome
import WalletTrust.Proofs.Run

/-!
# Calls of a registry

A call is a command with the reading of the clock that goes along with it. Whether a call is
accepted, and what it then writes, is read off the call alone. Performing a command does exactly
that: everything else a host answers or tells follows from the write.
-/

namespace WalletTrust

/-- Texts of exactly 60 letters from A to Z. -/
def IsAddress (s : String) : Prop := s.toList.length = 60 ∧ ∀ c ∈ s.toList, 'A' ≤ c ∧ c ≤ 'Z'

instance (s : String) : Decidable (IsAddress s) := inferInstanceAs (Decidable (_ ∧ _))

theorem Address.isValid_iff {s : String} : isValid s = true ↔ IsAddress s := by
  simp [isValid, IsAddress, isLetter, length]

theorem Address.ofValue?_text (s : String) :
    ofValue? (.text s) = if IsAddress s then some s else none := by
  simp only [ofValue?, isValid_iff]

/-- The address that repeats a letter. -/
def Address.repeating (letter : Char) : String := String.ofList (List.replicate 60 letter)

theorem Address.isAddress_repeating {letter : Char} (h : 'A' ≤ letter ∧ letter ≤ 'Z') :
    IsAddress (repeating letter) := by
  refine ⟨by simp [repeating], ?_⟩
  intro c hc
  simp only [repeating, String.toList_ofList, List.mem_replicate] at hc
  exact hc.2 ▸ h

theorem Score.isValid_int (n : Int) : isValid (.int n) = decide (0 ≤ n ∧ n ≤ 100) := by
  simp [isValid, inRange]

structure Call where
  clock : Clock
  command : Command

/-- What an accepted call writes. -/
inductive Write where
  | record (wallet : String) (status : Status) (score : Int) (now : Value)
  | next (address : String)
  | admin (address : String)

namespace Call

/-- The write of a call, if it is accepted. Only a record needs the clock. -/
def write? (c : Call) : Option Write :=
  match c.command, c.clock with
  | .setStatus (.text wallet) (.status status) (.int score), some now =>
    if IsAddress wallet ∧ 0 ≤ score ∧ score ≤ 100 then some (.record wallet status score now)
    else none
  | .setNextContract (.text address), _ =>
    if IsAddress address then some (.next address) else none
  | .transferAdmin (.text address), _ =>
    if IsAddress address then some (.admin address) else none
  | _, _ => none

/-- Whether the clock fails a call that has everything else in order. -/
def stalls (c : Call) : Bool :=
  match c.command, c.clock with
  | .setStatus (.text wallet) (.status _) (.int score), none =>
    decide (IsAddress wallet ∧ 0 ≤ score ∧ score ≤ 100)
  | _, _ => false

def answer (c : Call) : Except Failure Bool :=
  if c.stalls then .error .clockFailed else .ok c.write?.isSome

/-- What an accepted call looks like, and what it writes. -/
inductive Writes : Call → Write → Prop
  | record {wallet : String} {status : Status} {score : Int} {now : Value}
      (hw : IsAddress wallet) (hs : 0 ≤ score ∧ score ≤ 100) :
      Writes ⟨some now, .setStatus (.text wallet) (.status status) (.int score)⟩
        (.record wallet status score now)
  | next {clock : Clock} {address : String} (ha : IsAddress address) :
      Writes ⟨clock, .setNextContract (.text address)⟩ (.next address)
  | admin {clock : Clock} {address : String} (ha : IsAddress address) :
      Writes ⟨clock, .transferAdmin (.text address)⟩ (.admin address)

theorem writes_of_write? {c : Call} {w : Write} (h : c.write? = some w) : Writes c w := by
  obtain ⟨clock, command⟩ := c
  revert h
  fun_cases write? ⟨clock, command⟩ with
  | case1 wallet status score now hclock hcommand hsound =>
    rintro ⟨⟩
    cases hclock
    cases hcommand
    exact .record hsound.1 hsound.2
  | case3 address hcommand ha =>
    rintro ⟨⟩
    cases hcommand
    exact .next ha
  | case5 address hcommand ha =>
    rintro ⟨⟩
    cases hcommand
    exact .admin ha
  | _ => rintro ⟨⟩

theorem stalls_of_write {c : Call} {w : Write} (h : c.write? = some w) : c.stalls = false := by
  cases writes_of_write? h <;> rfl

theorem write?_of_stalls {c : Call} (h : c.stalls = true) : c.write? = none := by
  cases hw : c.write? with
  | none => rfl
  | some w => cases h.symm.trans (stalls_of_write hw)

end Call

namespace Registry

def put (r : Registry) : Write → Registry
  | .record wallet status score now => r.withStatus wallet status (.int score) now
  | .next address => { r with next := address }
  | .admin address => { r with admin := address }

def noticeOf (r : Registry) : Write → Option Notice
  | .record wallet status score _ => some (r.statusNotice wallet status (.int score))
  | .next address => some (.contractUpgraded (.text address))
  | .admin _ => none

/-- The outcome of a call that its clock does not fail. -/
def commitOf (r : Registry) (c : Call) : Commit := ⟨c.write?.isSome, c.write?.bind r.noticeOf⟩

def afterCall (r : Registry) (c : Call) : Registry := c.write?.elim r r.put

/-- What becomes of a call, apart from what is logged about it. -/
def Settles (r : Registry) (c : Call) (e : Effect Registry Commit) : Prop :=
  e.answer = (if c.stalls then .error .clockFailed else .ok (r.commitOf c)) ∧
    e.state = r.afterCall c

private theorem settles_reject {r : Registry} {c : Call} (hwrite : c.write? = none)
    (hstalls : c.stalls = false) (entry : Log.Entry) : r.Settles c (reject entry r) := by
  simp [Settles, reject, hstalls, commitOf, afterCall, hwrite]

private theorem settles_setStatus (r : Registry) (clock : Clock) (wallet status score : Value) :
    r.Settles ⟨clock, .setStatus wallet status score⟩ (r.setStatus clock wallet status score) := by
  cases wallet with
  | text wallet =>
    by_cases hw : IsAddress wallet
    · cases score with
      | int score =>
        by_cases hs : 0 ≤ score ∧ score ≤ 100
        · simp only [setStatus, Address.ofValue?_text, hw, Score.isValid_int, hs, and_self,
            decide_true, if_true]
          cases status with
          | status status =>
            cases clock <;> simp [writeStatus, Settles, hw, hs, Call.stalls, Call.write?, commitOf,
              afterCall, put, noticeOf, Clock.read]
          | _ => refine settles_reject ?_ ?_ _ <;> simp [Call.write?, Call.stalls]
        · simp only [setStatus, Address.ofValue?_text, hw, Score.isValid_int, hs, decide_false,
            if_true, Bool.false_eq_true, if_false]
          cases status <;> cases clock <;> refine settles_reject ?_ ?_ _ <;>
            simp only [Call.write?, Call.stalls, hs, and_false, if_false, decide_false]
      | _ =>
        simp only [setStatus, Address.ofValue?_text, hw, if_true, Score.isValid, Bool.false_eq_true]
        cases status <;> refine settles_reject ?_ ?_ _ <;> simp [Call.write?, Call.stalls]
    · simp only [setStatus, Address.ofValue?_text, hw, if_false]
      cases status <;> cases score <;> cases clock <;> refine settles_reject ?_ ?_ _ <;>
        simp [Call.write?, Call.stalls, hw]
  | _ => refine settles_reject ?_ ?_ _ <;> simp [Call.write?, Call.stalls]

/-- What performing a command does, in terms of the write of the call. -/
theorem settles_perform (r : Registry) (c : Call) :
    r.Settles c (r.perform c.clock c.command) := by
  obtain ⟨clock, command⟩ := c
  cases command with
  | setStatus wallet status score => exact r.settles_setStatus clock wallet status score
  | setNextContract address =>
    cases address with
    | text address =>
      by_cases h : IsAddress address <;>
        simp [Settles, perform, setNextContract, Address.ofValue?_text, h, Call.stalls, Call.write?,
          commitOf, afterCall, put, noticeOf, reject]
    | _ => refine settles_reject ?_ ?_ _ <;> simp [Call.write?, Call.stalls]
  | transferAdmin address =>
    cases address with
    | text address =>
      by_cases h : IsAddress address <;>
        simp [Settles, perform, transferAdmin, Address.ofValue?_text, h, Call.stalls, Call.write?,
          commitOf, afterCall, put, noticeOf, reject]
    | _ => refine settles_reject ?_ ?_ _ <;> simp [Call.write?, Call.stalls]

theorem perform_state (r : Registry) (c : Call) :
    (r.perform c.clock c.command).state = r.afterCall c := (r.settles_perform c).2

end Registry

namespace Host

/-- What a call leaves of a host: what it leaves of the registry, and the observer that was told. -/
def afterCall (h : Host) (c : Call) (heard : Clocks) : Host :=
  ⟨h.registry.afterCall c, told heard (c.write?.bind h.registry.noticeOf) h.observer⟩

/-- A host carries out a command on its registry, and only then informs its observer. -/
theorem perform_spec (h : Host) (c : Call) (heard : Clocks) :
    (h.perform c.clock c.command heard).outcome = (h.afterCall c heard, c.answer) := by
  obtain ⟨hanswer, hstate⟩ := h.registry.settles_perform c
  rw [perform, Process.bind_apply, onRegistry, Process.on_apply]
  generalize h.registry.perform c.clock c.command = e at hanswer hstate ⊢
  obtain ⟨answer, r, log⟩ := e
  obtain rfl : r = h.registry.afterCall c := hstate
  by_cases hs : c.stalls = true
  · obtain rfl : answer = .error .clockFailed := by simpa [hs] using hanswer
    simp [Effect.outcome, afterCall, Call.answer, hs, Call.write?_of_stalls hs, told]
  · obtain rfl : answer = .ok (h.registry.commitOf c) := by simpa [hs] using hanswer
    simp [Effect.outcome, afterCall, Call.answer, hs, inform_spec, Registry.commitOf]

theorem perform_answer (h : Host) (c : Call) (heard : Clocks) :
    (h.perform c.clock c.command heard).answer = c.answer :=
  congrArg Prod.snd (h.perform_spec c heard)

theorem perform_state (h : Host) (c : Call) (heard : Clocks) :
    (h.perform c.clock c.command heard).state = h.afterCall c heard :=
  congrArg Prod.fst (h.perform_spec c heard)

/-- Only a call that writes something changes a host. -/
theorem afterCall_of_no_write {c : Call} (hw : c.write? = none) (h : Host) (heard : Clocks) :
    h.afterCall c heard = h := by
  simp [afterCall, Registry.afterCall, hw, told]

theorem afterCall_of_write {c : Call} {w : Write} (hw : c.write? = some w) (h : Host)
    (heard : Clocks) :
    h.afterCall c heard = ⟨h.registry.put w, told heard (h.registry.noticeOf w) h.observer⟩ := by
  simp [afterCall, Registry.afterCall, hw]

/-- A command that is rejected or fails has changed nothing, not even what observers keep. -/
theorem perform_unchanged {h : Host} {clock : Clock} {command : Command} {heard : Clocks}
    (hnot : (h.perform clock command heard).answer ≠ .ok true) :
    (h.perform clock command heard).state = h := by
  rw [h.perform_answer ⟨clock, command⟩] at hnot
  rw [h.perform_state ⟨clock, command⟩]
  refine afterCall_of_no_write ?_ h heard
  cases hw : (Call.mk clock command).write? with
  | none => rfl
  | some w => exact absurd (by simp [Call.answer, Call.stalls_of_write hw, hw]) hnot

def call (h : Host) (c : Call) : Host × Except Failure Bool :=
  (h.perform c.clock c.command).outcome

theorem call_of_write {c : Call} {w : Write} (hw : c.write? = some w) (h : Host) :
    h.call c =
      (⟨h.registry.put w, told (.same c.clock) (h.registry.noticeOf w) h.observer⟩, .ok true) := by
  rw [call, perform_spec, afterCall_of_write hw]
  simp [Call.answer, Call.stalls_of_write hw, hw]

theorem call_of_no_write {c : Call} (hw : c.write? = none) (h : Host) :
    h.call c = (h, c.answer) := by rw [call, perform_spec, afterCall_of_no_write hw]

theorem call_answer (h : Host) (c : Call) : (h.call c).2 = c.answer := h.perform_answer c _

/-- A registry after calls depends on the writes of the calls alone. -/
theorem registry_after_calls (h : Host) (calls : List Call) :
    (Run.after call h calls).registry =
      (calls.filterMap Call.write?).foldl Registry.put h.registry := by
  induction calls generalizing h with
  | nil => rfl
  | cons c calls ih =>
    rw [Run.after_cons, ih]
    cases hw : c.write? with
    | none => simp [call_of_no_write hw, hw]
    | some w => simp [call_of_write hw, hw]

theorem answers_calls (h : Host) (calls : List Call) :
    Run.answers call h calls = calls.map Call.answer :=
  Run.answers_eq_map call call_answer h calls

end Host
end WalletTrust
