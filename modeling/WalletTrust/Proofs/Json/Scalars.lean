import Mathlib.Data.List.TakeWhile
import WalletTrust.Json.Reader
import WalletTrust.Json.Writer
import WalletTrust.Proofs.Text.Encoding

/-!
# Strings and integers in documents

What is written for a string or an integer is read as that string or integer, whatever follows it.
Characters beyond the first plane are written as two escapes, which the reader joins again.
-/

namespace WalletTrust.Json

/-- Written characters as the reader takes them. -/
def points (cs : List Char) : List Nat := cs.map Char.toNat

@[simp] theorem points_nil : points [] = [] := rfl

@[simp] theorem points_cons (c : Char) (cs : List Char) : points (c :: cs) = c.toNat :: points cs :=
  rfl

@[simp] theorem points_append (cs ds : List Char) : points (cs ++ ds) = points cs ++ points ds :=
  List.map_append

@[simp] theorem length_points (cs : List Char) : (points cs).length = cs.length :=
  List.length_map _

/-- Something was read, and something is left. -/
def Reads {α : Type} (r : Except Fault (α × Source)) (a : α) (rest : List Nat) : Prop :=
  ∃ position, r = .ok (a, ⟨position, rest⟩)

/-! ## Strings -/

theorem hexValue?_digit : ∀ n < 16, Text.hexValue? (Text.hexDigit n).toNat = some n := by decide

theorem hexadecimal_four (unit : Nat) : Text.hexadecimal 4 unit =
    [Text.hexDigit (unit / 4096 % 16), Text.hexDigit (unit / 256 % 16),
      Text.hexDigit (unit / 16 % 16), Text.hexDigit (unit % 16)] := by
  simp [Text.hexadecimal, Nat.div_div_eq_div_mul]

/-- Four digits are read if something follows them. -/
theorem unit?_hexadecimal {unit : Nat} (h : unit < 0x10000) (next : Nat) (rest : List Nat) :
    unit? (points (Text.hexadecimal 4 unit) ++ next :: rest) = some unit := by
  have hdigit : ∀ n, Text.hexValue? (Text.hexDigit (n % 16)).toNat = some (n % 16) :=
    fun n => hexValue?_digit _ (Nat.mod_lt n (by decide))
  simp only [hexadecimal_four, points_cons, points_nil, List.cons_append, List.nil_append, unit?,
    hdigit, Option.bind_eq_bind, Option.bind_some, Option.some.injEq]
  omega

private theorem stringRest_skip (start : Nat) (read : List Written) (skipped rest : List Nat)
    (position : Nat) : stringRest start read skipped.length position (skipped ++ rest) =
      stringRest start read 0 (position + skipped.length) rest := by
  induction skipped generalizing position with
  | nil => rfl
  | cons p skipped ih =>
    rw [List.length_cons, List.cons_append, stringRest, ih]
    congr 1
    omega

theorem stringRest_unitEscape {unit : Nat} (h : unit < 0x10000) (start position : Nat)
    (read : List Written) (next : Nat) (rest : List Nat) :
    stringRest start read 0 position (points (unitEscape unit) ++ next :: rest) =
      stringRest start (.escaped unit :: read) 0 (position + 6) (next :: rest) := by
  have hskip := stringRest_skip start (.escaped unit :: read)
    (0x75 :: points (Text.hexadecimal 4 unit)) (next :: rest) (position + 1)
  have hlength : (0x75 :: points (Text.hexadecimal 4 unit)).length = 5 := by
    simp [hexadecimal_four]
  rw [hlength] at hskip
  have hunit := unit?_hexadecimal h next rest
  have hbackslash : Char.toNat '\\' = 0x5c := rfl
  have hletter : Char.toNat 'u' = 0x75 := rfl
  simp only [unitEscape, points_cons, List.cons_append, hbackslash, hletter, stringRest, hunit]
  exact hskip

/-- Written characters that are read as one code point, whatever was read before. -/
def Yields (cs : List Char) (point : Nat) : Prop :=
  ∀ start position read next rest, ∃ units position',
    stringRest start read 0 position (points cs ++ next :: rest) =
        stringRest start (units ++ read) 0 position' (next :: rest) ∧
      ∀ before, joinUnits (units ++ before) = point :: joinUnits before

private theorem yields_short {letter : Char} {point : Nat} (hletter : letter.toNat ≠ 0x75)
    (h : shortEscape? letter.toNat = some point) : Yields ['\\', letter] point := by
  intro start position read next rest
  refine ⟨[.plain point], position + 2, ?_, fun before => rfl⟩
  have hbackslash : Char.toNat '\\' = 0x5c := rfl
  simp only [points_cons, points_nil, List.cons_append, List.nil_append, hbackslash]
  rw [stringRest]
  · simp only [h, stringRest]
    rfl
  · exact hletter

theorem yields_plain {c : Char} (hlow : 0x20 ≤ c.toNat) (hquote : c.toNat ≠ 0x22)
    (hbackslash : c.toNat ≠ 0x5c) : Yields [c] c.toNat := by
  intro start position read next rest
  refine ⟨[.plain c.toNat], position + 1, ?_, fun before => rfl⟩
  simp [stringRest, hquote, hbackslash, Nat.not_lt.2 hlow]

private theorem yields_unit {point : Nat} (hbound : point < 0x10000)
    (hsingle : Text.isSurrogate point = false) : Yields (unitEscape point) point := by
  intro start position read next rest
  refine ⟨[.escaped point], position + 6, stringRest_unitEscape hbound _ _ _ _ _, ?_⟩
  have hlow : Text.isLowSurrogate point = false := by
    simp only [Text.isSurrogate, Text.isLowSurrogate, Bool.and_eq_false_iff,
      decide_eq_false_iff_not] at hsingle ⊢
    omega
  intro before
  cases before with
  | nil => rfl
  | cons written before =>
    cases written with
    | plain _ => rfl
    | escaped _ => simp [joinUnits, hlow]

private theorem yields_pair {point : Nat} (hlow : 0x10000 ≤ point) (hhigh : point < 0x110000) :
    Yields (unitEscape (0xd800 + (point - 0x10000) / 0x400) ++
      unitEscape (0xdc00 + (point - 0x10000) % 0x400)) point := by
  intro start position read next rest
  refine ⟨[.escaped (0xdc00 + (point - 0x10000) % 0x400),
    .escaped (0xd800 + (point - 0x10000) / 0x400)], position + 6 + 6, ?_, ?_⟩
  · rw [points_append, List.append_assoc]
    have hsecond : ∃ b more, points (unitEscape (0xdc00 + (point - 0x10000) % 0x400)) ++
        next :: rest = b :: more := ⟨_, _, rfl⟩
    obtain ⟨b, more, hmore⟩ := hsecond
    rw [hmore, stringRest_unitEscape (by omega), ← hmore, stringRest_unitEscape (by omega)]
    rfl
  · intro before
    have hpair : Text.isHighSurrogate (0xd800 + (point - 0x10000) / 0x400) &&
        Text.isLowSurrogate (0xdc00 + (point - 0x10000) % 0x400) := by
      simp only [Text.isHighSurrogate, Text.isLowSurrogate, Bool.and_eq_true, decide_eq_true_eq]
      omega
    have hjoin : Text.joinSurrogates (0xd800 + (point - 0x10000) / 0x400)
        (0xdc00 + (point - 0x10000) % 0x400) = point := by
      unfold Text.joinSurrogates
      omega
    simp only [List.cons_append, List.nil_append, joinUnits, hpair, hjoin, if_true]

/-- Every character is read as itself, however it is written. -/
theorem yields_escaped (c : Char) : Yields (escaped c.toNat) c.toNat := by
  have hbound := Text.toNat_lt c
  have hsingle := Text.isSurrogate_toNat c
  have hchar : Char.ofNat c.toNat = c := Char.ofNat_toNat c
  unfold escaped
  split_ifs with hquote hbackslash hback htab hfeed hform hreturn hplain hplane
  · rw [hquote]
    exact yields_short (by decide) rfl
  · rw [hbackslash]
    exact yields_short (by decide) rfl
  · rw [hback]
    exact yields_short (by decide) rfl
  · rw [htab]
    exact yields_short (by decide) rfl
  · rw [hfeed]
    exact yields_short (by decide) rfl
  · rw [hform]
    exact yields_short (by decide) rfl
  · rw [hreturn]
    exact yields_short (by decide) rfl
  · rw [hchar]
    exact yields_plain hplain.1 hquote hbackslash
  · exact yields_unit hplane hsingle
  · exact yields_pair (Nat.not_lt.1 hplane) hbound

theorem stringRest_escaped (cs : List Char) (start position : Nat) (read : List Written)
    (next : Nat) (rest : List Nat) : ∃ units position',
      stringRest start read 0 position (points ((cs.map Char.toNat).flatMap escaped) ++
          next :: rest) =
        stringRest start (units ++ read) 0 position' (next :: rest) ∧
      ∀ before, joinUnits (units ++ before) = (cs.map Char.toNat).reverse ++ joinUnits before := by
  induction cs generalizing position read with
  | nil => exact ⟨[], position, rfl, fun before => rfl⟩
  | cons c cs ih =>
    -- something always follows, since a closing quote does
    have hnext : ∃ b more, points ((cs.map Char.toNat).flatMap escaped) ++ next :: rest =
        b :: more := by
      cases points ((cs.map Char.toNat).flatMap escaped) with
      | nil => exact ⟨_, _, rfl⟩
      | cons b more => exact ⟨_, _, rfl⟩
    obtain ⟨b, more, hmore⟩ := hnext
    obtain ⟨first, position₁, hfirst, hjoinFirst⟩ := yields_escaped c start position read b more
    obtain ⟨units, position₂, hunits, hjoin⟩ := ih position₁ (first ++ read)
    refine ⟨units ++ first, position₂, ?_, ?_⟩
    · rw [List.map_cons, List.flatMap_cons, points_append, List.append_assoc, hmore, hfirst,
        ← hmore, hunits, List.append_assoc]
    · intro before
      rw [List.append_assoc, hjoin, hjoinFirst, List.map_cons, List.reverse_cons, List.append_assoc,
        List.singleton_append]

/-- What is written for a string is read as this string. -/
theorem string_quotedText (s : String) (position : Nat) (rest : List Nat) :
    Reads (string ⟨position, points (quotedText s) ++ rest⟩) (Text.toPoints s) rest := by
  obtain ⟨units, position', hunits, hjoin⟩ :=
    stringRest_escaped s.toList position (position + 1) [] 0x22 rest
  have hquote : Char.toNat '"' = 0x22 := rfl
  have hread := hjoin []
  simp only [List.append_nil, joinUnits] at hread hunits
  refine ⟨position' + 1, ?_⟩
  simp only [string, quotedText, quoted, Text.toPoints, points_append, points_cons, points_nil,
    hquote, List.cons_append, List.append_assoc, List.nil_append, List.tail_cons, hunits,
    stringRest, if_true, hread, List.reverse_reverse]

/-! ## Integers -/

/-- What may follow an integer, which goes on as long as there are digits. -/
def Ends (rest : List Nat) : Prop :=
  ∀ point ∈ rest.head?, point = 0x2c ∨ point = 0x5d ∨ point = 0x7d

theorem Ends.nil : Ends [] := by simp [Ends]

theorem Ends.cons {point : Nat} (h : point = 0x2c ∨ point = 0x5d ∨ point = 0x7d)
    (rest : List Nat) : Ends (point :: rest) := by
  simpa [Ends] using h

private theorem Ends.not {p : Nat → Prop} {rest : List Nat} (h : Ends rest) (hcomma : ¬ p 0x2c)
    (hbracket : ¬ p 0x5d) (hbrace : ¬ p 0x7d) : ∀ point ∈ rest.head?, ¬ p point := by
  intro point hpoint
  rcases h point hpoint with rfl | rfl | rfl
  · exact hcomma
  · exact hbracket
  · exact hbrace

private theorem takeWhile_append_of_head? {p : Nat → Bool} {taken rest : List Nat}
    (htaken : ∀ point ∈ taken, p point = true) (hrest : ∀ point ∈ rest.head?, ¬ p point = true) :
    (taken ++ rest).takeWhile p = taken := by
  rw [List.takeWhile_append_of_pos htaken]
  cases rest with
  | nil => simp
  | cons point rest =>
    have hpoint : ¬ p point = true := hrest point rfl
    simp [hpoint]

theorem run_append {p : Nat → Bool} {taken rest : List Nat} (position : Nat)
    (htaken : ∀ point ∈ taken, p point = true) (hrest : ∀ point ∈ rest.head?, ¬ p point = true) :
    Source.run p ⟨position, taken ++ rest⟩ = (taken, ⟨position + taken.length, rest⟩) := by
  simp [Source.run, takeWhile_append_of_head? htaken hrest]

theorem isDigit_of_mem {n : Nat} {c : Char} (h : c ∈ Nat.toDigits 10 n) :
    isDigit c.toNat = true := by
  have hdigit := Nat.isDigit_of_mem_toDigits (by decide) (by decide) h
  simp only [Char.isDigit, Bool.and_eq_true, decide_eq_true_eq] at hdigit
  simp only [isDigit, Bool.and_eq_true, decide_eq_true_eq]
  exact ⟨hdigit.1, hdigit.2⟩

/-- Only zero is written with a zero in front. -/
theorem head_toDigits {n : Nat} (h : 0 < n) : ∃ c cs, Nat.toDigits 10 n = c :: cs ∧ c ≠ '0' := by
  induction n using Nat.strongRecOn with
  | _ n ih =>
    rw [Nat.toDigits_eq_if (by decide)]
    split
    · refine ⟨_, [], rfl, ?_⟩
      rw [ne_eq, Nat.digitChar_eq_zero]
      omega
    · obtain ⟨c, cs, hdigits, hc⟩ := ih (n / 10) (by omega) (by omega)
      exact ⟨c, cs ++ [(n % 10).digitChar], by rw [hdigits, List.cons_append], hc⟩

private theorem ofDigits_toDigits (n : Nat) :
    Text.ofDigits ((points (Nat.toDigits 10 n)).map (· - 0x30)) = n := by
  have hread : Nat.ofDigitChars 10 (Nat.toDigits 10 n) 0 = n := Nat.ofDigitChars_ten_toDigits
  rw [Nat.ofDigitChars_eq_foldl] at hread
  rw [Text.ofDigits, points, List.map_map, List.foldl_map]
  exact hread

private theorem integerDigits_toDigits (n position : Nat) {rest : List Nat} (h : Ends rest) :
    ∃ position', integerDigits ⟨position, points (Nat.toDigits 10 n) ++ rest⟩ =
      some (points (Nat.toDigits 10 n), ⟨position', rest⟩) := by
  have hend := h.not (p := fun point => isDigit point = true) (by decide) (by decide) (by decide)
  have hdigit : ∀ point ∈ points (Nat.toDigits 10 n), isDigit point = true := by
    intro point hpoint
    obtain ⟨c, hc, rfl⟩ := List.mem_map.1 hpoint
    exact isDigit_of_mem hc
  have hrun := run_append position hdigit hend
  rcases Nat.eq_zero_or_pos n with rfl | hpos
  · exact ⟨position + 1, rfl⟩
  · obtain ⟨c, cs, hdigits, hc⟩ := head_toDigits hpos
    refine ⟨position + (points (Nat.toDigits 10 n)).length, ?_⟩
    rw [hdigits] at hrun ⊢
    have hzero : c.toNat ≠ 0x30 := fun heq => hc (Char.toNat_inj.1 heq)
    rw [points_cons, List.cons_append] at hrun ⊢
    unfold integerDigits
    simp only
    split
    · rename_i heq
      exact absurd (List.cons.inj heq).1 hzero
    · rw [hrun]

private theorem fractionDigits_of_ends {s : Source} (h : Ends s.rest) :
    fractionDigits s = ([], s) := by
  unfold fractionDigits
  split
  · rename_i heq
    rw [heq] at h
    simp [Ends] at h
  · rfl

private theorem exponentPart_of_ends {s : Source} (h : Ends s.rest) :
    exponentPart s = (none, s) := by
  unfold exponentPart
  split
  · rename_i mark rest heq
    rw [heq] at h
    have hmark : ¬ (mark = 0x65 ∨ mark = 0x45) := by
      rcases h mark rfl with rfl | rfl | rfl <;> decide
    rw [if_neg hmark]
  · rfl

/-- The sign of an integer and the digits behind it. -/
theorem toList_toString (n : Int) : (toString n).toList =
    (if n < 0 then ['-'] else []) ++ Nat.toDigits 10 n.natAbs := by
  rw [Int.toString_eq_repr, Int.repr_eq_if]
  split
  · rename_i h
    have habs : n.toNat = n.natAbs := by omega
    rw [if_neg (by omega), Nat.toList_repr, habs, List.nil_append]
  · rename_i h
    have habs : (-n).toNat = n.natAbs := by omega
    rw [if_pos (by omega), String.toList_append, Nat.toList_repr, habs]
    rfl

private theorem number_of_digits (start : Source) {s : Source} {n : Nat} (negative : Bool)
    (hsign : (start.rest.head? == some 0x2d) = negative)
    (hdigits : integerDigits (if negative then start.drop 1 else start) =
      some (points (Nat.toDigits 10 n), s))
    (hlength : (Nat.toDigits 10 n).length ≤ Text.digitLimit) (h : Ends s.rest) :
    number start = .ok (.int (if negative then -(n : Int) else n), s) := by
  have hshort : ¬ Text.digitLimit < (points (Nat.toDigits 10 n)).length := by
    rw [length_points]
    omega
  have hvalue : Text.ofDigits ((points (Nat.toDigits 10 n) ++ []).map (· - 0x30)) = n := by
    rw [List.append_nil, ofDigits_toDigits]
  unfold number
  simp only [hsign, hdigits, fractionDigits_of_ends h, exponentPart_of_ends h, hvalue, hshort]
  rfl

/-- An integer is read as itself, if its digits are not too many. -/
theorem number_toString {n : Int} (hn : (Nat.toDigits 10 n.natAbs).length ≤ Text.digitLimit)
    (position : Nat) {rest : List Nat} (h : Ends rest) :
    Reads (number ⟨position, points (toString n).toList ++ rest⟩) (.int n) rest := by
  rw [toList_toString]
  by_cases hsign : n < 0
  · obtain ⟨position', hread⟩ := integerDigits_toDigits n.natAbs (position + 1) h
    have hminus : -(n.natAbs : Int) = n := by omega
    rw [if_pos hsign]
    refine ⟨position', ?_⟩
    exact (number_of_digits ⟨position, 0x2d :: (points (Nat.toDigits 10 n.natAbs) ++ rest)⟩ true
      rfl hread hn h).trans (by rw [if_pos rfl, hminus])
  · obtain ⟨position', hread⟩ := integerDigits_toDigits n.natAbs position h
    obtain ⟨c, cs, hdigits⟩ :=
      List.exists_cons_of_ne_nil (Nat.toDigits_ne_nil (b := 10) (n := n.natAbs))
    have hc : c.toNat ≠ 0x2d := by
      have hdigit := isDigit_of_mem (n := n.natAbs) (by rw [hdigits]; exact List.mem_cons_self)
      rintro heq
      rw [heq] at hdigit
      exact absurd hdigit (by decide)
    have hplus : (n.natAbs : Int) = n := by omega
    refine ⟨position', ?_⟩
    rw [if_neg hsign, List.nil_append,
      number_of_digits _ false (by simp [hdigits, hc]) hread hn h, if_neg (by decide),
      hplus]

end WalletTrust.Json
