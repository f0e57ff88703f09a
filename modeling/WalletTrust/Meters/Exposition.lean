import WalletTrust.Binary64.Text
import WalletTrust.Failure
import WalletTrust.Meters.Basic

/-!
# Exposition of meters

The text form in which meters are scraped: families in a fixed order, each with its help and its
type, then a line for each sample. Labels are sorted by their names.
-/

namespace WalletTrust.Meters

def escapedLabel (value : Text.Points) : Text.Points :=
  value.flatMap fun point =>
    if point = 0x5c then [0x5c, 0x5c] else if point = 0xa then Text.toPoints "\\n"
    else if point = 0x22 then [0x5c, 0x22] else [point]

def labelPoints (name : String) (value : Text.Points) : Text.Points :=
  Text.toPoints (name ++ "=\"") ++ escapedLabel value ++ [0x22]

/-- Labels in braces, sorted by name; none without labels. -/
def labelText (labels : List (String × Text.Points)) : Text.Points :=
  let sorted := labels.mergeSort fun a b => a.1 ≤ b.1
  if sorted.isEmpty then []
  else Text.toPoints "\x7b" ++
    List.intercalate [0x2c] (sorted.map fun (name, value) => labelPoints name value) ++
    Text.toPoints "\x7d"

def sample (name : String) (labels : List (String × Text.Points)) (value : Binary64) :
    Text.Points :=
  Text.toPoints name ++ labelText labels ++ Text.toPoints (" " ++ value.exposition)

def ofNat (n : Nat) : Binary64 := .ofInt n

def header (name help type : String) : List Text.Points :=
  [Text.toPoints ("# HELP " ++ name ++ " " ++ help),
    Text.toPoints ("# TYPE " ++ name ++ " " ++ type)]

def counterLines (name help : String) (labels : List String) (c : Counter) : List Text.Points :=
  header name help "counter" ++ c.map fun (values, n) => sample name (labels.zip values) (ofNat n)

def cumulative (total : Nat) : List Nat → List Nat
  | [] => []
  | n :: rest => (total + n) :: cumulative (total + n) rest

/-- The samples of one histogram: each bucket counts what is at most its bound. -/
def histogramSamples (name : String) (labels : List (String × Text.Points)) (h : Histogram) :
    List Text.Points :=
  let counts := cumulative 0 h.counts
  (bucketBounds.zip counts).map (fun (bound, n) =>
      sample (name ++ "_bucket") (("le", Text.toPoints bound.exposition) :: labels) (ofNat n)) ++
    [sample (name ++ "_count") labels (ofNat (counts.getLast?.getD 0)),
      sample (name ++ "_sum") labels h.sum]

def histogramLines (name help : String) (labels : List String) (family : Family Histogram) :
    List Text.Points :=
  header name help "histogram" ++
    family.flatMap fun (values, h) => histogramSamples name (labels.zip values) h

def lines (m : Meters) : List Text.Points :=
  counterLines "turboauth_http_requests_total" "Total HTTP requests"
      ["method", "endpoint", "status"] m.requests ++
    histogramLines "turboauth_http_request_duration_seconds" "HTTP request duration in seconds"
      ["method", "endpoint"] m.durations ++
    counterLines "turboauth_registry_mutations_total" "Registry mutations by operation and outcome"
      ["operation", "outcome"] m.mutations ++
    counterLines "turboauth_registry_save_failures_total"
      "Snapshot saves that failed after a committed mutation" ["operation"] m.saveFailures ++
    header "turboauth_registered_wallets" "Wallets present in the registry" "gauge" ++
    [sample "turboauth_registered_wallets" [] m.wallets]

/-- The text of all lines, unless a label holds half of a surrogate pair, which no text does. -/
def page (m : Meters) : Except Failure String :=
  match Text.ofPoints? (m.lines.flatMap (· ++ [0xa])) with
  | some text => .ok text
  | none => .error .notEncodable

end WalletTrust.Meters
