import WalletTrust.Failure

/-!
# Items of a value

Strings have their characters for items, bytes their numbers, and objects the names of their
entries.
-/

namespace WalletTrust.Value

def items (v : Value) : Except Failure (List Value) :=
  match v with
  | .list items => .ok items
  | .tuple items => .ok items
  | .map entries => .ok (entries.map (·.1))
  | .text s => .ok ((Text.toPoints s).map fun point => ofPoints [point])
  | .status s => .ok ((Text.toPoints s.name).map fun point => ofPoints [point])
  | .broken points => .ok (points.map fun point => ofPoints [point])
  | .bytes data => .ok (data.map fun byte => .int byte.toNat)
  | _ => .error (.noItems v.kind)

end WalletTrust.Value
