import WalletTrust.Proofs.Authority.GuardedCall
import WalletTrust.Proofs.Json.Obstacles
import WalletTrust.Proofs.Registry.Reachable

/-!
# Refused callers

A caller who is turned away is shortened and written to the log before anything else is looked at.
Names of any length and short collections can be shortened, and are told that they may not make the
call if they can be written as well. Numbers and long collections cannot be shortened, so that all
they are told is the failure of this attempt.
-/

namespace WalletTrust

open Json (Obstacle)

namespace Address

inductive IsShort : Value → Prop
  | empty {caller : Value} (h : caller.isEmpty = true) : IsShort caller
  | named {caller : Value} (h : IsCaller caller) : IsShort caller
  | bytes {data : List UInt8} (h : data.length ≤ 16) : IsShort (.bytes data)
  | list {items : List Value} (h : items.length ≤ 16) : IsShort (.list items)
  | tuple {items : List Value} (h : items.length ≤ 16) : IsShort (.tuple items)
  | map {entries : List (Value × Value)} (h : entries.length ≤ 16) : IsShort (.map entries)

/-- Why other callers cannot be shortened: they have no length, or nothing can be appended. -/
def shorteningFault : Value → Failure
  | .bytes _ => .noAppend "bytes"
  | .list _ => .noAppend "list"
  | .tuple _ => .noAppend "tuple"
  | .map _ => .noKey "slice"
  | v => .noLength v.kind

private theorem check_of_isEmpty {caller : Value} (h : caller.isEmpty = true) :
    Json.check caller = .ok () := by
  cases caller with
  | int n =>
    obtain rfl : n = 0 := by simpa [Value.isEmpty] using h
    exact Json.check_int_zero
  | list items | tuple items =>
    obtain rfl : items = [] := by simpa [Value.isEmpty] using h
    rfl
  | map entries =>
    obtain rfl : entries = [] := by simpa [Value.isEmpty] using h
    rfl
  | _ => rfl

/-- A caller in short can be written if and only if it could be written at length. -/
theorem abbreviateCaller_of_isShort {caller : Value} (h : IsShort caller) :
    ∃ shown, abbreviateCaller caller = .ok shown ∧ Json.check shown = Json.check caller := by
  by_cases hempty : caller.isEmpty = true
  · exact ⟨_, if_pos hempty, (check_of_isEmpty hempty).symm⟩
  · cases h with
    | empty hempty' => exact absurd hempty' hempty
    | named hcaller =>
      obtain ⟨shown, hshown, hcheck⟩ := abbreviateCaller_of_isCaller hcaller
      refine ⟨shown, hshown, hcheck.trans ?_⟩
      cases hcaller <;> rfl
    | bytes hlength | list hlength | tuple hlength | map hlength =>
      exact ⟨_, (if_neg hempty).trans (if_pos hlength), rfl⟩

private theorem abbreviateCaller_of_not_isShort {caller : Value} (h : ¬ IsShort caller) :
    abbreviateCaller caller = .error (shorteningFault caller) := by
  have hfull : ¬ caller.isEmpty = true := fun hempty => h (.empty hempty)
  unfold abbreviateCaller
  rw [if_neg hfull]
  cases caller with
  | text s => exact absurd (.named (.text s)) h
  | broken points => exact absurd (.named (.broken points)) h
  | status s => exact absurd (.named (.status s)) h
  | bytes data => exact if_neg fun hshort => h (.bytes hshort)
  | list items => exact if_neg fun hshort => h (.list hshort)
  | tuple items => exact if_neg fun hshort => h (.tuple hshort)
  | map entries => exact if_neg fun hshort => h (.map hshort)
  | _ => rfl

end Address

open Address (IsShort shorteningFault)

namespace Authority

private theorem refuse_of_isShort {caller : Value} (h : IsShort caller) (operation : String) :
    (refuse caller operation).answer =
      Json.check caller >>= fun _ => .error (.unauthorized caller (.text operation)) := by
  obtain ⟨shown, hshown, hcheck⟩ := Address.abbreviateCaller_of_isShort h
  rw [refuse_answer, hshown, ← hcheck]
  rfl

theorem refuse_of_not_isShort {caller : Value} (h : ¬ IsShort caller) (operation : String) :
    (refuse caller operation).answer = .error (shorteningFault caller) := by
  rw [refuse_answer, Address.abbreviateCaller_of_not_isShort h]
  rfl

/-- What a refused caller is told: that it may not make a call, or else why it cannot be logged. -/
theorem refuse_eq_error (caller : Value) (operation : String) :
    ∃ f, (refuse caller operation).answer = .error f ∧
      (IsShort caller → (∀ obstacle, ¬ Obstacle caller obstacle) →
        f = .unauthorized caller (.text operation)) ∧
      (IsShort caller → (∃ obstacle, Obstacle caller obstacle) → Obstacle caller f) ∧
      (¬ IsShort caller → f = shorteningFault caller) := by
  by_cases hshort : IsShort caller
  · rw [refuse_of_isShort hshort]
    cases hcheck : Json.check caller with
    | ok _ =>
      exact ⟨_, rfl, fun _ _ => rfl, fun _ ⟨_, hobstacle⟩ => absurd hcheck hobstacle.check_ne_ok,
        absurd hshort⟩
    | error f =>
      have hobstacle := Json.obstacle_of_check caller hcheck
      exact ⟨f, rfl, fun _ hnone => absurd hobstacle (hnone f), fun _ _ => hobstacle, absurd hshort⟩
  · exact ⟨_, refuse_of_not_isShort hshort operation, fun habsent => absurd habsent hshort,
      fun habsent => absurd habsent hshort, fun _ => rfl⟩

end Authority

/-- All that comes of a call whose caller is turned away is the refusal. -/
theorem Host.performAs_of_refused {h : Host} {a : Authority} {caller : Value}
    (hrefused : a.permits h.registry caller = .ok false) (clock : Clock) (command : Command)
    (heard : Clocks) {f : Failure}
    (hrefusal : (Authority.refuse caller command.operation).answer = .error f) :
    (h.performAs a clock caller command heard).outcome = (h, .error f) := by
  refine performAs_of_error ?_ clock heard
  rw [Authority.require_answer, hrefused]
  exact hrefusal

/-- A caller whom the authority turns away leaves the registry and all recorded events as they are.
If it can be shortened and written it is told what it may not do, and otherwise only why it cannot
be. Nothing of this depends on what the command holds or on the clock. -/
theorem refused_callers_change_nothing {h : Host} {a : Authority} {caller : Value}
    (hrefused : a.permits h.registry caller = .ok false) (operation : String) :
    ∃ f, (∀ (clock : Clock) (heard : Clocks) (command : Command), command.operation = operation →
        (h.performAs a clock caller command heard).outcome = (h, .error f)) ∧
      (IsShort caller → (∀ obstacle, ¬ Obstacle caller obstacle) →
        f = .unauthorized caller (.text operation)) ∧
      (IsShort caller → (∃ obstacle, Obstacle caller obstacle) → Obstacle caller f) ∧
      (¬ IsShort caller → f = shorteningFault caller) := by
  obtain ⟨f, hrefusal, htold⟩ := Authority.refuse_eq_error caller operation
  refine ⟨f, ?_, htold⟩
  rintro clock heard command rfl
  exact Host.performAs_of_refused hrefused clock command heard hrefusal

/-- A host with a recorder, as it is put up for an administrator. -/
def Host.putUp : Host := ⟨{ admin := Address.repeating 'A' }, .recorder []⟩

theorem Host.create_putUp :
    Registry.create (.text (Address.repeating 'A')) = .ok putUp.registry := by
  have hadmin : IsAddress (Address.repeating 'A') := Address.isAddress_repeating (by decide)
  rw [Registry.create_text, if_pos hadmin]
  rfl

/-- A caller in a list is told that it may not transfer anything, one under a name that is no string
is told of the name, and a list of too many callers that nothing can be appended to it. -/
theorem refused_callers_change_nothing_listed :
    let refusal := fun caller : Value =>
      (Host.putUp.performAs .admin none caller (.transferAdmin .null)).outcome
    let caller : Value := .list [.text (Address.repeating 'A')]
    let entry : Value := .map [(.bytes [107], .int 1)]
    let callers : Value := .list (List.replicate 17 .null)
    Authority.admin.permits Host.putUp.registry caller = .ok false ∧
      refusal caller = (Host.putUp, .error (.unauthorized caller (.text "transfer_admin"))) ∧
      Authority.admin.permits Host.putUp.registry entry = .ok false ∧
      (∃ f, refusal entry = (Host.putUp, .error f) ∧ Obstacle entry f) ∧
      Authority.admin.permits Host.putUp.registry callers = .ok false ∧
      refusal callers = (Host.putUp, .error (.noAppend "list")) := by
  intro refusal caller entry callers
  have hcaller : Authority.admin.permits Host.putUp.registry caller = .ok false := rfl
  have hentry : Authority.admin.permits Host.putUp.registry entry = .ok false := rfl
  have hcallers : Authority.admin.permits Host.putUp.registry callers = .ok false := rfl
  refine ⟨hcaller, ?_, hentry, ?_, hcallers, ?_⟩
  · obtain ⟨f, houtcome, htold, -, -⟩ := refused_callers_change_nothing hcaller "transfer_admin"
    have hwritten : ∀ obstacle, ¬ Obstacle caller obstacle := by
      intro obstacle hobstacle
      exact hobstacle.check_ne_ok rfl
    rw [← htold (.list (by decide)) hwritten]
    exact houtcome none _ _ rfl
  · obtain ⟨f, houtcome, -, htold, -⟩ := refused_callers_change_nothing hentry "transfer_admin"
    exact ⟨f, houtcome none _ _ rfl,
      htold (.map (by decide)) ⟨_, .name List.mem_cons_self (by decide)⟩⟩
  · obtain ⟨f, houtcome, -, -, htold⟩ := refused_callers_change_nothing hcallers "transfer_admin"
    have hlong : ¬ IsShort (.list (List.replicate 17 .null)) := by
      intro h
      cases h with
      | empty h => cases h
      | named h => cases h
      | list h => exact absurd h (by decide)
    obtain rfl : f = .noAppend "list" := htold hlong
    exact houtcome none _ _ rfl

theorem number_is_refused_for_its_length :
    let command : Command := .setStatus (.text "bad") (.status .active) (.int 500)
    Host.putUp.registry.Reachable ∧
      Authority.admin.permits Host.putUp.registry (.int 5) = .ok false ∧
      (Host.putUp.performAs .admin none (.int 5) command).answer = .error (.noLength "int") := by
  intro command
  refine ⟨.create Host.create_putUp, ?_, ?_⟩
  · simp [Authority.permits, Registry.isAdmin, Value.same, Value.sameAtom, Value.integer?,
      Value.string?]
  · rfl

end WalletTrust
