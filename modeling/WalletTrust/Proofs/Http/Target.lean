import Mathlib.Data.List.TakeWhile
import WalletTrust.Http.Target
import WalletTrust.Proofs.Text.Encoding

/-!
# Texts in targets

Any text can be asked for in the path of a target if its bytes are escaped. What is read of such a
path is the text again, because the bytes of every character are read as this character.
-/

namespace WalletTrust.Text

theorem hexValue?_hexDigit : ∀ n < 16, hexValue? (hexDigit n).toUpper.toNat = some n := by decide

theorem isPlain_hexDigit :
    ∀ n < 16, (hexDigit n).toUpper.toNat < 0x80 ∧ (hexDigit n).toUpper.toNat ≠ 0x3f := by decide

theorem byteEscape_eq (byte : Nat) :
    byteEscape byte = ['%', (hexDigit (byte / 16 % 16)).toUpper, (hexDigit (byte % 16)).toUpper] :=
  rfl

private theorem unescaped_byteEscape {byte : Nat} (h : byte < 0x100) (rest : List Nat) :
    unescaped ((byteEscape byte).map Char.toNat ++ rest) = byte :: unescaped rest := by
  have hhigh := hexValue?_hexDigit (byte / 16 % 16) (by omega)
  have hlow := hexValue?_hexDigit (byte % 16) (by omega)
  have hpercent : Char.toNat '%' = 0x25 := rfl
  have hbyte : byte / 16 % 16 * 16 + byte % 16 = byte := by omega
  simp only [byteEscape_eq, List.map_cons, List.map_nil, List.cons_append, List.nil_append,
    hpercent, unescaped, hhigh, hlow, hbyte]

private theorem unescaped_escapes {bytes : List Nat} (h : ∀ byte ∈ bytes, byte < 0x100) :
    unescaped ((bytes.flatMap byteEscape).map Char.toNat) = bytes := by
  induction bytes with
  | nil => rfl
  | cons byte bytes ih =>
    have hfirst := h byte List.mem_cons_self
    have hrest := ih fun b hb => h b (List.mem_cons_of_mem byte hb)
    rw [List.flatMap_cons, List.map_append, unescaped_byteEscape hfirst, hrest]

/-- What is no percent sign stands for itself. -/
theorem unescaped_append {points : List Nat} (h : ∀ point ∈ points, point ≠ 0x25)
    (rest : List Nat) : unescaped (points ++ rest) = points ++ unescaped rest := by
  induction points with
  | nil => rfl
  | cons point points ih =>
    have hfirst := h point List.mem_cons_self
    rw [List.cons_append, unescaped, ih fun p hp => h p (List.mem_cons_of_mem point hp),
      List.cons_append]
    rintro a b rest rfl
    exact absurd rfl hfirst

private theorem percentDecodedFrom_ascii {points : Points} (h : ∀ point ∈ points, point < 0x80)
    (read : Points) :
    percentDecodedFrom read points = utf8ReplacedFrom 0 (unescaped (read.reverse ++ points)) := by
  induction points generalizing read with
  | nil => rw [percentDecodedFrom, List.append_nil]
  | cons point points ih =>
    rw [percentDecodedFrom, if_pos (h point List.mem_cons_self),
      ih fun p hp => h p (List.mem_cons_of_mem point hp), List.reverse_cons, List.append_assoc,
      List.singleton_append]

def percentEncoded (s : String) : String := String.ofList ((utf8 s).flatMap byteEscape)

private theorem unescaped_percentEncoded (s : String) :
    unescaped (toPoints (percentEncoded s)) = utf8 s := by
  rw [toPoints, percentEncoded, String.toList_ofList]
  refine unescaped_escapes fun byte hbyte => ?_
  obtain ⟨c, -, hbyte⟩ := List.mem_flatMap.1 hbyte
  exact lt_of_mem_utf8Bytes (toNat_lt c) hbyte

private theorem isPlain_percentEncoded {s : String} {point : Nat}
    (h : point ∈ toPoints (percentEncoded s)) :
    point < 0x80 ∧ point ≠ 0x3f := by
  rw [toPoints, percentEncoded, String.toList_ofList, List.mem_map] at h
  obtain ⟨c, hc, rfl⟩ := h
  obtain ⟨byte, -, hc⟩ := List.mem_flatMap.1 hc
  simp only [byteEscape_eq, List.mem_cons, List.not_mem_nil, or_false] at hc
  rcases hc with rfl | rfl | rfl
  · decide
  · exact isPlain_hexDigit _ (Nat.mod_lt _ (by decide))
  · exact isPlain_hexDigit _ (Nat.mod_lt _ (by decide))

end WalletTrust.Text

namespace WalletTrust.Http

open Text

/-- Characters that stand for themselves in a path and do not end it. -/
def isPlainChar (c : Char) : Bool := c.toNat < 0x80 && c.toNat != 0x25 && c.toNat != 0x3f

/-- A path that goes on with any text at all can be asked for. -/
theorem pathOf_percentEncoded {base : String} (hbase : base.toList.all isPlainChar = true)
    (s : String) : pathOf (base ++ percentEncoded s) = base ++ s := by
  have hchars : ∀ c ∈ base.toList, c.toNat < 0x80 ∧ c.toNat ≠ 0x25 ∧ c.toNat ≠ 0x3f := by
    simpa [isPlainChar, and_assoc] using hbase
  have hpoints : ∀ point ∈ toPoints base, point < 0x80 ∧ point ≠ 0x25 ∧ point ≠ 0x3f := by
    intro point hpoint
    obtain ⟨c, hc, rfl⟩ := List.mem_map.1 hpoint
    exact hchars c hc
  have hplain : ∀ point ∈ toPoints (base ++ percentEncoded s), point < 0x80 ∧ point ≠ 0x3f := by
    intro point hpoint
    rw [toPoints_append, List.mem_append] at hpoint
    rcases hpoint with hpoint | hpoint
    · exact ⟨(hpoints point hpoint).1, (hpoints point hpoint).2.2⟩
    · exact isPlain_percentEncoded hpoint
  have hpath : (toPoints (base ++ percentEncoded s)).takeWhile (· != 0x3f) =
      toPoints (base ++ percentEncoded s) :=
    List.takeWhile_eq_self_iff.2 fun point hpoint => bne_iff_ne.2 (hplain point hpoint).2
  have hbytes : unescaped (toPoints (base ++ percentEncoded s)) = utf8 (base ++ s) := by
    rw [toPoints_append, unescaped_append fun point hpoint => (hpoints point hpoint).2.1,
      unescaped_percentEncoded, utf8_append, utf8_ascii fun c hc => (hchars c hc).1]
  rw [pathOf, hpath, percentDecoded, percentDecodedFrom_ascii fun point hpoint =>
    (hplain point hpoint).1, List.reverse_nil, List.nil_append, hbytes, utf8ReplacedFrom_utf8,
    ofPoints_toPoints]

end WalletTrust.Http
