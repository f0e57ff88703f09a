import WalletTrust.Proofs.Json.RoundTrip

/-!
# Documents are one line of plain characters

Whatever a document holds, it is written in printable characters of ASCII, so it has no line feed.
-/

namespace WalletTrust.Json

def IsPlain (c : Char) : Prop := 0x20 ≤ c.toNat ∧ c.toNat < 0x7f

instance (c : Char) : Decidable (IsPlain c) := inferInstanceAs (Decidable (_ ∧ _))

theorem isPlain_of_all {cs : List Char} (h : cs.all (fun c => decide (IsPlain c)) = true) :
    ∀ c ∈ cs, IsPlain c := by
  simpa using h

theorem isPlain_hexDigit : ∀ n < 16, IsPlain (Text.hexDigit n) := by decide

private theorem isPlain_unitEscape (unit : Nat) : ∀ c ∈ unitEscape unit, IsPlain c := by
  have hdigit : ∀ n, IsPlain (Text.hexDigit (n % 16)) := fun n =>
    isPlain_hexDigit _ (Nat.mod_lt n (by decide))
  rw [unitEscape, hexadecimal_four]
  simp only [List.forall_mem_cons, hdigit, List.not_mem_nil, false_imp_iff, implies_true, and_true]
  decide

theorem isPlain_ofNat : ∀ point < 0x7f, 0x20 ≤ point → IsPlain (Char.ofNat point) := by
  decide +kernel

private theorem isPlain_escaped (point : Nat) : ∀ c ∈ escaped point, IsPlain c := by
  unfold escaped
  split_ifs with _ _ _ _ _ _ _ hplain
  iterate 7 exact isPlain_of_all rfl
  · intro c hc
    rw [List.mem_singleton.1 hc]
    exact isPlain_ofNat point hplain.2 hplain.1
  · exact isPlain_unitEscape point
  · intro c hc
    rcases List.mem_append.1 hc with hc | hc
    · exact isPlain_unitEscape _ c hc
    · exact isPlain_unitEscape _ c hc

private theorem isPlain_quotedText (s : String) : ∀ c ∈ quotedText s, IsPlain c := by
  intro c hc
  simp only [quotedText, quoted, List.cons_append, List.mem_cons, List.mem_append,
    List.mem_flatMap, List.not_mem_nil, or_false] at hc
  rcases hc with rfl | ⟨point, -, hpoint⟩ | rfl
  · decide
  · exact isPlain_escaped point c hpoint
  · decide

theorem isPlain_separator : ∀ c ∈ [',', ' '], IsPlain c := isPlain_of_all rfl

private theorem isPlain_joined {parts : List (List Char)}
    (h : ∀ part ∈ parts, ∀ c ∈ part, IsPlain c) :
    ∀ c ∈ joined [',', ' '] parts, IsPlain c := by
  induction parts with
  | nil => nofun
  | cons one parts ih =>
    obtain ⟨hone, hparts⟩ := List.forall_mem_cons.1 h
    cases parts with
    | nil => exact hone
    | cons other parts =>
      intro c hc
      simp only [joined, List.append_assoc, List.mem_append] at hc
      rcases hc with hc | hc | hc
      · exact hone c hc
      · exact isPlain_separator c hc
      · exact ih hparts c hc

private theorem isPlain_toString (n : Int) : ∀ c ∈ (toString n).toList, IsPlain c := by
  intro c hc
  rw [toList_toString] at hc
  rcases List.mem_append.1 hc with hsign | hdigits
  · split at hsign
    · rw [List.mem_singleton.1 hsign]
      decide
    · cases hsign
  · have hdigit := isDigit_of_mem hdigits
    simp only [isDigit, Bool.and_eq_true, decide_eq_true_eq] at hdigit
    rw [IsPlain]
    omega

/-- A document is written in plain characters, whatever strings it holds. -/
theorem isPlain_chars {v : Value} (h : IsDocument v) : ∀ c ∈ chars v, IsPlain c := by
  induction h with
  | null => exact isPlain_of_all rfl
  | bool b => cases b <;> exact isPlain_of_all rfl
  | int h => exact isPlain_toString _
  | text s => exact isPlain_quotedText s
  | @list items h ih =>
    have hparts : ∀ part ∈ items.map chars, ∀ c ∈ part, IsPlain c := by
      intro part hpart
      obtain ⟨v, hv, rfl⟩ := List.mem_map.1 hpart
      exact ih v hv
    intro c hc
    simp only [chars, itemChars_eq_map, List.cons_append, List.mem_cons, List.mem_append,
      List.not_mem_nil, or_false] at hc
    rcases hc with rfl | hc | rfl
    · decide
    · exact isPlain_joined hparts c hc
    · decide
  | @map entries hnames h ih =>
    have hparts : ∀ part ∈ entries.map namedChars, ∀ c ∈ part, IsPlain c := by
      intro part hpart c hc
      obtain ⟨entry, hentry, rfl⟩ := List.mem_map.1 hpart
      simp only [namedChars, List.mem_append, List.mem_cons] at hc
      rcases hc with hc | rfl | rfl | hc
      · exact isPlain_quotedText entry.1 c hc
      · decide
      · decide
      · exact ih entry hentry c hc
    intro c hc
    simp only [chars, entryChars_named, List.cons_append, List.mem_cons, List.mem_append,
      List.not_mem_nil, or_false] at hc
    rcases hc with rfl | hc | rfl
    · decide
    · exact isPlain_joined hparts c hc
    · decide

end WalletTrust.Json
