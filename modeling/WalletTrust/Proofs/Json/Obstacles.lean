import WalletTrust.Proofs.Outcome

/-!
# What keeps a value from being written

Wherever it stands in a value, an integer of too many digits cannot be written, and neither can an
entry whose name is no string, number, truth value or null. Nothing else is in the way: a value
without such an obstacle has a document.
-/

namespace WalletTrust.Json

/-- The kinds of values that cannot be the name of an entry. -/
def namelessKinds : List String := ["bytes", "list", "tuple", "dict"]

/-- Integers of more digits than are written. -/
def IsLong (n : Int) : Prop := Nat.pow 10 Text.digitLimit ≤ n.natAbs

/-- A failure that something in a value gives rise to when it is written. -/
inductive Obstacle : Value → Failure → Prop
  | integer {n : Int} (h : IsLong n) : Obstacle (.int n) .integerTooLong
  | item {items : List Value} {v : Value} {f : Failure} (hv : v ∈ items) (h : Obstacle v f) :
      Obstacle (.list items) f
  | place {items : List Value} {v : Value} {f : Failure} (hv : v ∈ items) (h : Obstacle v f) :
      Obstacle (.tuple items) f
  | name {entries : List (Value × Value)} {k v : Value} (he : (k, v) ∈ entries)
      (h : k.kind ∈ namelessKinds) : Obstacle (.map entries) (.noEntryName k.kind)
  | integerName {entries : List (Value × Value)} {n : Int} {v : Value} (he : (.int n, v) ∈ entries)
      (h : IsLong n) : Obstacle (.map entries) .integerTooLong
  | value {entries : List (Value × Value)} {k v : Value} {f : Failure} (he : (k, v) ∈ entries)
      (h : Obstacle v f) : Obstacle (.map entries) f

private theorem isWritable_int {n : Int} : (Value.int n).isWritable = true ↔ ¬ IsLong n := by
  rw [Value.isWritable, decide_eq_true_eq, IsLong, Nat.not_le]

private theorem checkInteger_of_isLong {n : Int} (h : IsLong n) :
    checkInteger n = .error .integerTooLong := by
  rw [checkInteger, if_neg (fun hshort => isWritable_int.1 hshort h)]

theorem check_int_zero : check (.int 0) = .ok () := by
  have hshort : (Value.int 0).isWritable = true := by decide +kernel
  rw [check, checkInteger, if_pos hshort]

private theorem checkInteger_eq_error {n : Int} {f : Failure} (h : checkInteger n = .error f) :
    IsLong n ∧ f = .integerTooLong := by
  by_cases hlong : IsLong n
  · rw [checkInteger_of_isLong hlong] at h
    exact ⟨hlong, (Except.error.inj h).symm⟩
  · rw [checkInteger, if_pos (isWritable_int.2 hlong)] at h
    cases h

private theorem checkName_of_nameless {k : Value} (h : k.kind ∈ namelessKinds) :
    checkName k = .error (.noEntryName k.kind) := by
  cases k with
  | bytes data | list items | tuple items | map entries => rfl
  | _ => simp [Value.kind, namelessKinds] at h

private theorem obstacle_of_checkName {entries : List (Value × Value)} {k v : Value} {f : Failure}
    (he : (k, v) ∈ entries) (h : checkName k = .error f) : Obstacle (.map entries) f := by
  cases k with
  | int n =>
    obtain ⟨hlong, rfl⟩ := checkInteger_eq_error h
    exact .integerName he hlong
  | bytes data | list items | tuple items | map entries =>
    cases h
    exact .name he (by simp [Value.kind, namelessKinds])
  | _ => cases h

/-- Parts that are checked one after the other fail where one of them does. -/
private theorem bind_eq_error {x y : Except Failure Unit} {f : Failure}
    (h : (x >>= fun _ => y) = .error f) : x = .error f ∨ y = .error f := by
  cases x with
  | error e => exact .inl h
  | ok _ => exact .inr h

mutual
/-- A value that cannot be written has an obstacle in it. -/
theorem obstacle_of_check : ∀ (v : Value) {f : Failure}, check v = .error f → Obstacle v f
  | .int n => by
    intro h
    rw [check] at h
    obtain ⟨hlong, rfl⟩ := checkInteger_eq_error h
    exact .integer hlong
  | .list items => by
    intro h
    obtain ⟨v, hv, hobstacle⟩ := obstacle_of_checkItems items h
    exact .item hv hobstacle
  | .tuple items => by
    intro h
    obtain ⟨v, hv, hobstacle⟩ := obstacle_of_checkItems items h
    exact .place hv hobstacle
  | .map entries => fun h => obstacle_of_checkEntries entries (fun _ he => he) h
  | .null | .bool _ | .float _ | .text _ | .broken _ | .bytes _ | .status _ => nofun

private theorem obstacle_of_checkItems : ∀ (items : List Value) {f : Failure},
    checkItems items = .error f → ∃ v ∈ items, Obstacle v f
  | [] => nofun
  | v :: rest => by
    intro h
    rcases bind_eq_error h with hfirst | hrest
    · exact ⟨v, List.mem_cons_self, obstacle_of_check v hfirst⟩
    · obtain ⟨w, hw, hobstacle⟩ := obstacle_of_checkItems rest hrest
      exact ⟨w, List.mem_cons_of_mem v hw, hobstacle⟩

private theorem obstacle_of_checkEntries : ∀ (entries : List (Value × Value))
    {all : List (Value × Value)} {f : Failure}, (∀ entry ∈ entries, entry ∈ all) →
      checkEntries entries = .error f → Obstacle (.map all) f
  | [] => nofun
  | (k, v) :: rest => by
    intro hall h
    obtain ⟨hfirst, hrest⟩ := List.forall_mem_cons.1 hall
    rcases bind_eq_error h with hname | hbehind
    · exact obstacle_of_checkName hfirst hname
    rcases bind_eq_error hbehind with hvalue | hentries
    · exact .value hfirst (obstacle_of_check v hvalue)
    · exact obstacle_of_checkEntries rest hrest hentries
end

private theorem checkItems_eq_ok {items : List Value} (h : checkItems items = .ok ()) :
    ∀ v ∈ items, check v = .ok () := by
  induction items with
  | nil => nofun
  | cons v rest ih =>
    obtain ⟨_, hfirst, hrest⟩ := bind_ok h
    exact List.forall_mem_cons.2 ⟨hfirst, ih hrest⟩

private theorem checkEntries_eq_ok {entries : List (Value × Value)}
    (h : checkEntries entries = .ok ()) :
    ∀ entry ∈ entries, checkName entry.1 = .ok () ∧ check entry.2 = .ok () := by
  induction entries with
  | nil => nofun
  | cons entry rest ih =>
    obtain ⟨_, hname, hbehind⟩ := bind_ok h
    obtain ⟨_, hvalue, hrest⟩ := bind_ok hbehind
    exact List.forall_mem_cons.2 ⟨⟨hname, hvalue⟩, ih hrest⟩

/-- What has an obstacle in it cannot be written. -/
theorem Obstacle.check_ne_ok {v : Value} {f : Failure} (h : Obstacle v f) : check v ≠ .ok () := by
  induction h with
  | integer hlong => exact fun hok => nomatch (checkInteger_of_isLong hlong).symm.trans hok
  | item hv _ ih | place hv _ ih => exact fun hok => ih (checkItems_eq_ok hok _ hv)
  | name he hkind =>
    exact fun hok =>
      nomatch (checkName_of_nameless hkind).symm.trans (checkEntries_eq_ok hok _ he).1
  | integerName he hlong =>
    exact fun hok =>
      nomatch (checkInteger_of_isLong hlong).symm.trans (checkEntries_eq_ok hok _ he).1
  | value he _ ih => exact fun hok => ih (checkEntries_eq_ok hok _ he).2

/-- Obstacles are no failures of the domain. -/
theorem Obstacle.code?_eq_none {v : Value} {f : Failure} (h : Obstacle v f) : f.code? = none := by
  induction h with
  | item _ _ ih | place _ _ ih | value _ _ ih => exact ih
  | _ => rfl

end WalletTrust.Json
