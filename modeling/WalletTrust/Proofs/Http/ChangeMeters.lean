import WalletTrust.Proofs.Binary64.Integers
import WalletTrust.Proofs.Http.Complaint
import WalletTrust.Proofs.Http.Refinement
import WalletTrust.Proofs.Meters.Tally

/-!
# Changes that are counted

Where only the administrator may change the registry, the meters account for the replies to requests
for a change: each reply that tells an outcome is counted once, under the operation and the outcome,
and each change that could not be saved is counted as well. The number of wallets that the meters
show is the one of the registry.
-/

namespace WalletTrust.Http

open Meters (Labels)

/-- Whether a field of the document that a reply carries says no. -/
def Reply.denies (r : Reply) (name : String) : Bool :=
  match r.field? name with
  | some (.bool b) => !b
  | _ => false

/-- The outcome of a change that a reply tells, if it tells one. -/
def Reply.outcome? (r : Reply) : Option String :=
  if r.status = 200 then some "success"
  else if r.status = 403 then some "unauthorized"
  else if r.status = 400 ∧ r.denies "success" then some "rejected"
  else none

/-- Whether a reply tells that a change was accepted but not saved. -/
def Reply.tellsLoss (r : Reply) : Bool := r.status = 200 ∧ r.denies "persisted"

/-- The labels under which a reply to a request of an operation is counted. -/
def changeLabels? (operation? : Option String) (r : Reply) : Option Labels :=
  match operation?, r.outcome? with
  | some operation, some outcome => some [Text.toPoints operation, Text.toPoints outcome]
  | _, _ => none

/-- The labels under which a reply to a request of an operation is counted as a change that could
not be saved. -/
def lossLabels? (operation? : Option String) (r : Reply) : Option Labels :=
  if r.tellsLoss then operation?.map fun operation => [Text.toPoints operation] else none

namespace Reply

/-- A complaint has the status of a rejection at most, and then it says nothing of success. -/
theorem IsComplaint.outcome? {r : Reply} (h : r.IsComplaint) : r.outcome? = none := by
  have hdenies : r.denies "success" = false := by rw [denies, h.isPlain.success]
  cases h with
  | problems problems =>
    rcases status_problemReply problems with hstatus | hstatus <;> simp [Reply.outcome?, hstatus]
  | unreadable =>
    unfold Reply.outcome?
    rw [hdenies]
    rfl
  | anonymous => rfl

theorem IsComplaint.tellsLoss {r : Reply} (h : r.IsComplaint) : r.tellsLoss = false := by
  have hdenies : r.denies "persisted" = false := by rw [denies, h.isPlain.persisted]
  simp [Reply.tellsLoss, hdenies]

end Reply

namespace Service

/-- A service for administrators only whose meters show the number of its wallets, with a store or
without one. -/
structure Shows (stored : Bool) (s : Service) : Prop where
  authority : s.authority = .admin
  stored : s.store?.isSome = stored
  wallets : s.meters.wallets = walletCount s.host

/-- What a reply to a request of an operation does to the meters of changes. -/
structure Accounts (stored : Bool) (operation? : Option String) (before after : Service)
    (reply : Reply) : Prop where
  shows : after.Shows stored
  mutations : after.meters.mutations =
    before.meters.mutations.tally (changeLabels? operation? reply)
  losses : after.meters.saveFailures =
    before.meters.saveFailures.tally (if stored then lossLabels? operation? reply else none)

variable {stored : Bool} {s : Service}

end Service

open Service (exchange walletCount)

end WalletTrust.Http
