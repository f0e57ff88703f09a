import WalletTrust.Proofs.Text.Encoding
import WalletTrust.Text.Raw

/-!
# Raw bytes and back

A text of characters comes back from its bytes as it was. Whatever bytes are read, the text can be
written again, and it has a character of code zero only if there is a zero among the bytes.
-/

namespace WalletTrust.Text

/-- A code point that has bytes, none of which is zero. -/
structure IsHeld (point : Nat) : Prop where
  pos : 0 < point
  lt : point < 0x110000
  carries : isSurrogate point = true → carriesByte point = true

def Held (points : Points) : Prop := ∀ point ∈ points, IsHeld point

theorem isHeld_iff {point : Nat} : IsHeld point ↔ 0 < point ∧ point < 0x110000 ∧
    (isSurrogate point = true → carriesByte point = true) :=
  ⟨fun h => ⟨h.pos, h.lt, h.carries⟩, fun ⟨hpos, hlt, hcarries⟩ => ⟨hpos, hlt, hcarries⟩⟩

instance (point : Nat) : Decidable (IsHeld point) := decidable_of_iff _ isHeld_iff.symm

instance (points : Points) : Decidable (Held points) :=
  inferInstanceAs (Decidable (∀ point ∈ points, IsHeld point))

theorem isHeld_toNat {c : Char} (h : c ≠ '\x00') : IsHeld c.toNat where
  pos := by
    refine Nat.pos_of_ne_zero fun hzero => h ?_
    rw [← Char.ofNat_toNat c, hzero]
  lt := toNat_lt c
  carries hsurrogate := by
    rw [isSurrogate_toNat] at hsurrogate
    cases hsurrogate

/-! ## Writing -/

theorem carriesByte_iff {point : Nat} :
    carriesByte point = true ↔ 0xdc80 ≤ point ∧ point ≤ 0xdcff := by
  simp only [carriesByte, Bool.and_eq_true, decide_eq_true_eq]
  rfl

theorem isSurrogate_of_carriesByte {point : Nat} (h : carriesByte point = true) :
    isSurrogate point = true := by
  rw [carriesByte_iff] at h
  simp only [isSurrogate, Bool.and_eq_true, decide_eq_true_eq]
  omega

private theorem rawBytes?_toNat (c : Char) : rawBytes? c.toNat = some (utf8Bytes c.toNat) := by
  have hsingle := isSurrogate_toNat c
  have hcarries : carriesByte c.toNat = false := by
    rw [← Bool.not_eq_true] at hsingle ⊢
    exact mt isSurrogate_of_carriesByte hsingle
  simp [rawBytes?, hcarries, hsingle]

theorem bytesOf?_toPoints (s : String) : bytesOf? (toPoints s) = some (utf8 s) := by
  unfold bytesOf? toPoints utf8
  have hpoints : (s.toList.map Char.toNat).mapM rawBytes? =
      some (s.toList.map fun c => utf8Bytes c.toNat) := by
    induction s.toList with
    | nil => rfl
    | cons c cs ih => simp [List.mapM_cons, rawBytes?_toNat, ih]
  rw [hpoints, List.flatMap]
  rfl

/-- Bytes that are neither zero nor too large. -/
def ProperBytes (bytes : List Nat) : Prop := ∀ b ∈ bytes, 0 < b ∧ b < 0x100

private theorem properBytes_utf8Bytes {point : Nat} (hpos : 0 < point) (hlt : point < 0x110000) :
    ProperBytes (utf8Bytes point) := by
  intro b hb
  refine ⟨?_, lt_of_mem_utf8Bytes hlt hb⟩
  unfold utf8Bytes at hb
  split at hb
  · rw [List.mem_singleton] at hb
    omega
  · split at hb
    · simp only [List.mem_cons, List.not_mem_nil, or_false] at hb
      omega
    · split at hb <;> simp only [List.mem_cons, List.not_mem_nil, or_false] at hb <;> omega

private theorem exists_rawBytes? {point : Nat} (h : IsHeld point) :
    ∃ bytes, rawBytes? point = some bytes ∧ ProperBytes bytes := by
  unfold rawBytes?
  split
  · rename_i hcarries
    refine ⟨_, rfl, ?_⟩
    rw [carriesByte_iff] at hcarries
    intro b hb
    rw [List.mem_singleton.1 hb, rawOffset]
    omega
  · rename_i hcarries
    rw [if_neg fun hsurrogate => hcarries (h.carries hsurrogate)]
    exact ⟨_, rfl, properBytes_utf8Bytes h.pos h.lt⟩

theorem exists_bytesOf? {points : Points} (h : Held points) :
    ∃ bytes, bytesOf? points = some bytes ∧ ProperBytes bytes := by
  induction points with
  | nil => exact ⟨[], rfl, nofun⟩
  | cons point points ih =>
    obtain ⟨hpoint, hpoints⟩ := List.forall_mem_cons.1 h
    obtain ⟨first, hfirst, hproper⟩ := exists_rawBytes? hpoint
    obtain ⟨rest, hrest, hproperRest⟩ := ih hpoints
    obtain ⟨parts, hparts, rfl⟩ := Option.map_eq_some_iff.1 hrest
    refine ⟨first ++ parts.flatten, ?_, List.forall_mem_append.2 ⟨hproper, hproperRest⟩⟩
    simp [bytesOf?, List.mapM_cons, hfirst, hparts]

/-! ## Reading -/

theorem ofBytesFrom_skip (skipped rest : List Nat) :
    ofBytesFrom skipped.length (skipped ++ rest) = ofBytesFrom 0 rest := by
  induction skipped with
  | nil => rfl
  | cons b skipped ih => exact ih

theorem ofBytesFrom_utf8Bytes (c : Char) (rest : List Nat) :
    ofBytesFrom 0 (utf8Bytes c.toNat ++ rest) = c.toNat :: ofBytesFrom 0 rest := by
  obtain ⟨lead, more, hbytes, hunit⟩ := firstUnit_utf8Bytes c rest
  rw [hbytes, List.cons_append, ofBytesFrom, hunit]
  exact congrArg _ (ofBytesFrom_skip more rest)

/-- A text of characters is read back as it was. -/
theorem ofBytes_utf8 (s : String) : ofBytes (utf8 s) = toPoints s := by
  unfold ofBytes utf8 toPoints
  induction s.toList with
  | nil => rfl
  | cons c cs ih => rw [List.flatMap_cons, ofBytesFrom_utf8Bytes, ih, List.map_cons]

private theorem continuation_point {n value length point k : Nat} {range : Nat × Nat}
    {rest : List Nat} (h : continuation (n + 1) range value length rest = .point point k) :
    ∃ b more, rest = b :: more ∧ range.1 ≤ b ∧ b ≤ range.2 ∧
      continuation n (0x80, 0xbf) (value * 64 + (b - 0x80)) (length + 1) more = .point point k := by
  obtain ⟨low, high⟩ := range
  cases rest with
  | nil => cases h
  | cons b more =>
    rw [continuation] at h
    split at h
    · rename_i hrange
      exact ⟨b, more, rfl, hrange.1, hrange.2, h⟩
    · cases h

/-- The bytes of a malformed part behind its first one are no characters on their own. -/
theorem continuation_malformed {n value length k : Nat} {range : Nat × Nat} {rest : List Nat}
    (hrange : 0x80 ≤ range.1) (h : continuation n range value length rest = .malformed k) :
    ∃ j, k = length + j ∧ ∀ b ∈ rest.take j, 0x80 ≤ b := by
  induction n generalizing value length range rest with
  | zero => cases h
  | succ n ih =>
    obtain ⟨low, high⟩ := range
    cases rest with
    | nil =>
      cases h
      exact ⟨0, rfl, by simp⟩
    | cons b more =>
      rw [continuation] at h
      split at h
      · rename_i hb
        obtain ⟨j, rfl, hbytes⟩ := ih (by decide) h
        refine ⟨j + 1, by omega, ?_⟩
        rw [List.take_succ_cons]
        exact List.forall_mem_cons.2 ⟨Nat.le_trans hrange hb.1, hbytes⟩
      · cases h
        exact ⟨0, rfl, by simp⟩

/-- The second byte is a byte that goes on, and a narrower range keeps short forms, pairs of
surrogates and points above the last one out. -/
theorem secondRange_bounds (lead : Nat) :
    0x80 ≤ (secondRange false lead).1 ∧ (secondRange false lead).2 ≤ 0xbf ∧
      (lead = 0xe0 → 0xa0 ≤ (secondRange false lead).1) ∧
      (lead = 0xed → (secondRange false lead).2 ≤ 0x9f) ∧
      (lead = 0xf0 → 0x90 ≤ (secondRange false lead).1) ∧
      (lead = 0xf4 → (secondRange false lead).2 ≤ 0x8f) := by
  unfold secondRange
  split
  · simp only
    omega
  · split
    · simp only
      omega
    · rename_i hed
      have hother : lead ≠ 0xed := fun heq => hed ⟨heq, rfl⟩
      split
      · simp only
        omega
      · split
        · simp only
          omega
        · simp only
          omega

/-- The lead byte of a character of several bytes, with its bits. -/
theorem leadOf?_some {b n bits : Nat} (h : leadOf? b = some (n, bits)) :
    n = 0 ∧ b = bits ∧ b < 0x80 ∨ n = 1 ∧ b = 0xc0 + bits ∧ 2 ≤ bits ∧ bits < 0x20 ∨
      n = 2 ∧ b = 0xe0 + bits ∧ bits < 0x10 ∨ n = 3 ∧ b = 0xf0 + bits ∧ bits ≤ 4 := by
  unfold leadOf? at h
  split at h
  · cases h
    omega
  · split at h
    · cases h
      omega
    · split at h
      · cases h
        omega
      · split at h
        · cases h
          omega
        · cases h

private theorem firstUnit_point {b point k : Nat} {rest : List Nat} (hb : 0 < b)
    (h : firstUnit false b rest = .point point k) :
    0 < point ∧ point < 0x110000 ∧ isSurrogate point = false := by
  unfold firstUnit at h
  split at h
  · cases h
  · rename_i n bits hlead
    simp only [isSurrogate, Bool.and_eq_false_iff, decide_eq_false_iff_not]
    obtain ⟨rfl, rfl, hlt⟩ | ⟨rfl, rfl, hlow, hhigh⟩ | ⟨rfl, rfl, hbits⟩ | ⟨rfl, rfl, hbits⟩ :=
      leadOf?_some hlead
    · simp only [continuation, Unit8.point.injEq] at h
      omega
    · obtain ⟨b₁, more, rfl, hlow₁, hhigh₁, h⟩ := continuation_point h
      simp only [continuation, Unit8.point.injEq] at h
      have hrange := secondRange_bounds (0xc0 + bits)
      omega
    · obtain ⟨b₁, more, rfl, hlow₁, hhigh₁, h⟩ := continuation_point h
      obtain ⟨b₂, more, rfl, hlow₂, hhigh₂, h⟩ := continuation_point h
      simp only [continuation, Unit8.point.injEq] at h
      have hrange := secondRange_bounds (0xe0 + bits)
      omega
    · obtain ⟨b₁, more, rfl, hlow₁, hhigh₁, h⟩ := continuation_point h
      obtain ⟨b₂, more, rfl, hlow₂, hhigh₂, h⟩ := continuation_point h
      obtain ⟨b₃, more, rfl, hlow₃, hhigh₃, h⟩ := continuation_point h
      simp only [continuation, Unit8.point.injEq] at h
      have hrange := secondRange_bounds (0xf0 + bits)
      omega

/-- The bytes of a malformed part are no characters on their own. -/
theorem firstUnit_malformed {b k : Nat} {rest : List Nat}
    (h : firstUnit false b rest = .malformed k) :
    ∃ j, k = j + 1 ∧ ∀ byte ∈ b :: rest.take j, 0x80 ≤ byte := by
  unfold firstUnit at h
  split at h
  · rename_i hlead
    cases h
    refine ⟨0, rfl, ?_⟩
    rw [List.take_zero, List.forall_mem_singleton]
    refine Nat.le_of_not_lt fun hb => ?_
    rw [leadOf?_ascii hb] at hlead
    cases hlead
  · rename_i n bits hlead
    obtain ⟨j, rfl, hrest⟩ := continuation_malformed (secondRange_bounds b).1 h
    refine ⟨j, Nat.add_comm 1 j, List.forall_mem_cons.2 ⟨?_, hrest⟩⟩
    refine Nat.le_of_not_lt fun hb => ?_
    rw [leadOf?_ascii hb] at hlead
    cases hlead
    cases h

theorem isHeld_carried {byte : Nat} (hlow : 0x80 ≤ byte) (hhigh : byte < 0x100) :
    IsHeld (rawOffset + byte) := by
  have hoffset : rawOffset = 0xdc00 := rfl
  refine ⟨by omega, by omega, fun _ => carriesByte_iff.2 ?_⟩
  omega

/-- Whatever bytes are read, the text can be written again. -/
theorem held_ofBytesFrom {bytes : List Nat} (h : ProperBytes bytes) (skip : Nat) :
    Held (ofBytesFrom skip bytes) := by
  induction bytes generalizing skip with
  | nil => cases skip <;> nofun
  | cons b rest ih =>
    obtain ⟨hb, hrest⟩ := List.forall_mem_cons.1 h
    cases skip with
    | succ skip => exact ih hrest skip
    | zero =>
      rw [ofBytesFrom]
      split
      · rename_i point k hunit
        obtain ⟨hpos, hlt, hsingle⟩ := firstUnit_point hb.1 hunit
        refine List.forall_mem_cons.2 ⟨⟨hpos, hlt, fun hsurrogate => ?_⟩, ih hrest _⟩
        rw [hsingle] at hsurrogate
        cases hsurrogate
      · rename_i k hunit
        obtain ⟨j, rfl, hbytes⟩ := firstUnit_malformed hunit
        refine List.forall_mem_append.2 ⟨?_, ih hrest _⟩
        intro point hpoint
        rw [List.take_succ_cons] at hpoint
        obtain ⟨byte, hbyte, rfl⟩ := List.mem_map.1 hpoint
        have htaken : byte ∈ b :: rest := List.mem_of_mem_take (i := j + 1) hbyte
        exact isHeld_carried (hbytes byte hbyte) (h byte htaken).2

end WalletTrust.Text
