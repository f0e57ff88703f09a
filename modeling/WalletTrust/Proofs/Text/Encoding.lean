import WalletTrust.Text.Unicode

/-!
# Encoded characters

The bytes of a character are one unit, which is read as this character whatever follows it.
-/

namespace WalletTrust.Text

theorem toNat_lt (c : Char) : c.toNat < 0x110000 := by
  have hvalid := c.valid
  simp only [UInt32.isValidChar, Nat.isValidChar] at hvalid
  simp only [Char.toNat]
  omega

theorem leadOf?_ascii {b : Nat} (h : b < 0x80) : leadOf? b = some (0, b) := by
  rw [leadOf?, if_pos h]

theorem leadOf?_two {bits : Nat} (hlow : 2 ≤ bits) (hhigh : bits < 0x20) :
    leadOf? (0xc0 + bits) = some (1, bits) := by
  rw [leadOf?, if_neg (by omega), if_pos (by omega), Nat.add_sub_cancel_left]

theorem leadOf?_three {bits : Nat} (h : bits < 0x10) : leadOf? (0xe0 + bits) = some (2, bits) := by
  rw [leadOf?, if_neg (by omega), if_neg (by omega), if_pos (by omega), Nat.add_sub_cancel_left]

theorem leadOf?_four {bits : Nat} (h : bits ≤ 4) : leadOf? (0xf0 + bits) = some (3, bits) := by
  rw [leadOf?, if_neg (by omega), if_neg (by omega), if_neg (by omega), if_pos (by omega),
    Nat.add_sub_cancel_left]

theorem secondRange_two {bits : Nat} (h : bits < 0x20) :
    secondRange false (0xc0 + bits) = (0x80, 0xbf) := by
  rw [secondRange, if_neg (by omega), if_neg (by omega), if_neg (by omega), if_neg (by omega)]

/-- The second of three bytes lies in the range that the first leaves to it, because the point is
neither below the points of three bytes nor half of a pair. -/
theorem secondRange_three {bits next : Nat} (hbits : bits < 0x10) (hnext : next < 0x40)
    (hlong : 0x20 ≤ bits * 64 + next) (hpair : bits = 0xd → next < 0x20) :
    (secondRange false (0xe0 + bits)).1 ≤ 0x80 + next ∧
      0x80 + next ≤ (secondRange false (0xe0 + bits)).2 := by
  unfold secondRange
  split
  · simp only
    omega
  · split
    · simp only
      omega
    · rw [if_neg (by omega), if_neg (by omega)]
      simp only
      omega

/-- The second of four bytes, whose point is neither below the points of four bytes nor above the
last point. -/
theorem secondRange_four {bits next : Nat} (hnext : next < 0x40)
    (hlong : 0x10 ≤ bits * 64 + next) (hlast : bits * 64 + next < 0x110) :
    (secondRange false (0xf0 + bits)).1 ≤ 0x80 + next ∧
      0x80 + next ≤ (secondRange false (0xf0 + bits)).2 := by
  rw [secondRange, if_neg (by omega), if_neg (by omega)]
  split
  · simp only
    omega
  · split <;> simp only <;> omega

theorem firstUnit_of_leadOf? {b n bits : Nat} (h : leadOf? b = some (n, bits)) (rest : List Nat) :
    firstUnit false b rest = continuation n (secondRange false b) bits 1 rest := by
  rw [firstUnit, h]

private theorem continuation_next {n bits length next : Nat} {range : Nat × Nat} (rest : List Nat)
    (h : range.1 ≤ 0x80 + next ∧ 0x80 + next ≤ range.2) :
    continuation (n + 1) range bits length ((0x80 + next) :: rest) =
      continuation n (0x80, 0xbf) (bits * 64 + next) (length + 1) rest := by
  obtain ⟨low, high⟩ := range
  rw [continuation, if_pos h, Nat.add_sub_cancel_left]

/-- The bytes of a character are one unit, whatever follows them. -/
theorem firstUnit_utf8Bytes (c : Char) (rest : List Nat) :
    ∃ lead more, utf8Bytes c.toNat = lead :: more ∧
      firstUnit false lead (more ++ rest) = .point c.toNat (more.length + 1) := by
  have hlast := toNat_lt c
  have hpair : ¬ (0xd800 ≤ c.toNat ∧ c.toNat ≤ 0xdfff) := by
    simpa [isSurrogate] using isSurrogate_toNat c
  generalize c.toNat = point at hlast hpair
  have hnext : ∀ n : Nat, 0x80 ≤ 0x80 + n % 64 ∧ 0x80 + n % 64 ≤ 0xbf := by omega
  unfold utf8Bytes
  split
  · rename_i h
    refine ⟨_, _, rfl, ?_⟩
    rw [firstUnit_of_leadOf? (leadOf?_ascii h)]
    rfl
  · split
    · have hlead : leadOf? (0xc0 + point / 64) = some (1, point / 64) :=
        leadOf?_two (by omega) (by omega)
      have hpoint : point / 64 * 64 + point % 64 = point := by omega
      refine ⟨_, _, rfl, ?_⟩
      rw [firstUnit_of_leadOf? hlead, secondRange_two (by omega), List.singleton_append,
        continuation_next rest (hnext point), hpoint]
      rfl
    · split
      · have hlead : leadOf? (0xe0 + point / 4096) = some (2, point / 4096) :=
          leadOf?_three (by omega)
        have hpoint : (point / 4096 * 64 + point / 64 % 64) * 64 + point % 64 = point := by omega
        refine ⟨_, _, rfl, ?_⟩
        rw [firstUnit_of_leadOf? hlead, List.cons_append, List.singleton_append,
          continuation_next _ (secondRange_three (by omega) (by omega) (by omega) (by omega)),
          continuation_next rest (hnext point), hpoint]
        rfl
      · have hlead : leadOf? (0xf0 + point / 262144) = some (3, point / 262144) :=
          leadOf?_four (by omega)
        have hpoint : ((point / 262144 * 64 + point / 4096 % 64) * 64 + point / 64 % 64) * 64 +
          point % 64 = point := by omega
        refine ⟨_, _, rfl, ?_⟩
        rw [firstUnit_of_leadOf? hlead, List.cons_append, List.cons_append, List.singleton_append,
          continuation_next _ (secondRange_four (by omega) (by omega) (by omega)),
          continuation_next _ (hnext (point / 64)), continuation_next rest (hnext point), hpoint]
        rfl

theorem utf8ReplacedFrom_skip (skipped rest : List Nat) :
    utf8ReplacedFrom skipped.length (skipped ++ rest) = utf8ReplacedFrom 0 rest := by
  induction skipped with
  | nil => rfl
  | cons b skipped ih => exact ih

theorem utf8ReplacedFrom_utf8Bytes (c : Char) (rest : List Nat) :
    utf8ReplacedFrom 0 (utf8Bytes c.toNat ++ rest) = c.toNat :: utf8ReplacedFrom 0 rest := by
  obtain ⟨lead, more, hbytes, hunit⟩ := firstUnit_utf8Bytes c rest
  rw [hbytes, List.cons_append, utf8ReplacedFrom, hunit]
  exact congrArg _ (utf8ReplacedFrom_skip more rest)

/-- Encoded text is read as it was. -/
theorem utf8ReplacedFrom_utf8 (s : String) : utf8ReplacedFrom 0 (utf8 s) = toPoints s := by
  unfold utf8 toPoints
  induction s.toList with
  | nil => rfl
  | cons c cs ih => rw [List.flatMap_cons, utf8ReplacedFrom_utf8Bytes, ih, List.map_cons]

theorem lt_of_mem_utf8Bytes {point byte : Nat} (hpoint : point < 0x110000)
    (h : byte ∈ utf8Bytes point) : byte < 0x100 := by
  unfold utf8Bytes at h
  split at h
  · simp only [List.mem_singleton] at h
    omega
  · split at h
    · simp only [List.mem_cons, List.not_mem_nil, or_false] at h
      omega
    · split at h <;> simp only [List.mem_cons, List.not_mem_nil, or_false] at h <;> omega

theorem utf8_append (s t : String) : utf8 (s ++ t) = utf8 s ++ utf8 t := by
  simp [utf8]

theorem utf8_ascii {s : String} (h : ∀ c ∈ s.toList, c.toNat < 0x80) : utf8 s = toPoints s := by
  unfold utf8 toPoints
  generalize s.toList = cs at h
  induction cs with
  | nil => rfl
  | cons c cs ih =>
    have hfirst : utf8Bytes c.toNat = [c.toNat] := if_pos (h c List.mem_cons_self)
    rw [List.flatMap_cons, hfirst, ih fun d hd => h d (List.mem_cons_of_mem c hd), List.map_cons]
    rfl

theorem ofPoints_toPoints (s : String) : ofPoints (toPoints s) = s := by
  simp [ofPoints, toPoints, Function.comp_def, Char.ofNat_toNat]

end WalletTrust.Text
