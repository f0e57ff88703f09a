import WalletTrust.Binary64.Basic
import WalletTrust.Text.Unicode

/-!
# Meters of the service

Counters and a histogram have one child for each combination of label values that was used; children
stand in the order of their first use. Any string of code points is a label value.
-/

namespace WalletTrust

namespace Meters

/-- The values of the labels of a child, in the order of the names of the labels. -/
abbrev Labels := List Text.Points

/-- Children by the values of their labels. -/
abbrev Family (α : Type) := List (Labels × α)

/-- Changes a child, which starts from a given state when its labels are used for the first time. -/
def Family.update {α : Type} (start : α) (f : α → α) (labels : Labels) :
    Family α → Family α
  | [] => [(labels, f start)]
  | (ls, child) :: rest =>
    if ls = labels then (ls, f child) :: rest else (ls, child) :: Family.update start f labels rest

/-- The state of a child, or the given one if its labels were never used. -/
def Family.get {α : Type} (start : α) (labels : Labels) : Family α → α
  | [] => start
  | (ls, child) :: rest => if ls = labels then child else Family.get start labels rest

theorem Family.get_update {α : Type} (start : α) (f : α → α) (labels other : Labels)
    (family : Family α) :
    Family.get start other (Family.update start f labels family) =
      if labels = other then f (Family.get start labels family)
      else Family.get start other family := by
  induction family with
  | nil => simp [update, get]
  | cons entry rest ih =>
    obtain ⟨ls, child⟩ := entry
    by_cases h : ls = labels
    · subst h; by_cases h' : ls = other <;> simp [update, get, h']
    · by_cases h' : labels = other
      · subst h'; simp [update, get, h, ih]
      · by_cases h'' : ls = other
        · subst h''; simp [update, get, h, h']
        · simp [update, get, h, h', h'', ih]

abbrev Counter := Family Nat

def Counter.increment (labels : Labels) (c : Counter) : Counter :=
  Family.update 0 (· + 1) labels c

/-- Upper bounds of the buckets of durations, in thousandths. -/
def bounds : List Nat := [1, 5, 10, 25, 50, 100, 250, 500, 1000]

/-- The upper bounds as doubles; nothing is greater than the last one. -/
def bucketBounds : List Binary64 :=
  bounds.map (Binary64.ofDecimal false · (-3)) ++ [.infinite false]

/-- Observations by bucket, and their sum. -/
structure Histogram where
  counts : List Nat := bucketBounds.map fun _ => 0
  sum : Binary64 := .zero false

/-- Counts an observation in the first bucket that holds it. What is no number is in none. -/
def countIn (x : Binary64) : List Binary64 → List Nat → List Nat
  | bound :: bounds, n :: counts =>
    if x.le bound then (n + 1) :: counts else n :: countIn x bounds counts
  | _, counts => counts

def Histogram.observe (x : Binary64) (h : Histogram) : Histogram :=
  { counts := countIn x bucketBounds h.counts, sum := h.sum.add x }

end Meters

structure Meters where
  requests : Meters.Counter := []
  durations : Meters.Family Meters.Histogram := []
  mutations : Meters.Counter := []
  saveFailures : Meters.Counter := []
  wallets : Binary64 := .zero false
  deriving Inhabited

namespace Meters

def observeRequest (m : Meters) (method endpoint status : Text.Points) (duration : Binary64) :
    Meters :=
  { m with
    requests := m.requests.increment [method, endpoint, status]
    durations := Family.update {} (Histogram.observe duration) [method, endpoint] m.durations }

def recordMutation (m : Meters) (operation outcome : Text.Points) : Meters :=
  { m with mutations := m.mutations.increment [operation, outcome] }

def recordSaveFailure (m : Meters) (operation : Text.Points) : Meters :=
  { m with saveFailures := m.saveFailures.increment [operation] }

def setWallets (m : Meters) (count : Binary64) : Meters := { m with wallets := count }

end Meters
end WalletTrust
