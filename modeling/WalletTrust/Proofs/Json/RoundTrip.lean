import WalletTrust.Proofs.Json.Scalars
import WalletTrust.Proofs.Log.Record

/-!
# Documents are read as they were written

A document is read as the value that it was written for, if its lists and objects are not nested
deeper than the reader allows.
-/

namespace WalletTrust.Json

/-- The values that a document can hold. Names in an object differ, and an integer has no more
digits than are read. -/
inductive IsDocument : Value → Prop
  | null : IsDocument .null
  | bool (b : Bool) : IsDocument (.bool b)
  | int {n : Int} (h : (Nat.toDigits 10 n.natAbs).length ≤ Text.digitLimit) : IsDocument (.int n)
  | text (s : String) : IsDocument (.text s)
  | list {items : List Value} (h : ∀ v ∈ items, IsDocument v) : IsDocument (.list items)
  | map {entries : List (String × Value)} (hnames : (entries.map (·.1)).Nodup)
      (h : ∀ entry ∈ entries, IsDocument entry.2) : IsDocument (.map (entries.map named))

private theorem checkItems_of_check {items : List Value} (h : ∀ v ∈ items, check v = .ok ()) :
    checkItems items = .ok () := by
  induction items with
  | nil => rfl
  | cons v items ih =>
    obtain ⟨hv, hitems⟩ := List.forall_mem_cons.1 h
    rw [checkItems, hv, ih hitems]
    rfl

private theorem checkEntries_of_check {entries : List (String × Value)}
    (h : ∀ entry ∈ entries, check entry.2 = .ok ()) :
    checkEntries (entries.map named) = .ok () := by
  induction entries with
  | nil => rfl
  | cons entry entries ih =>
    obtain ⟨hentry, hentries⟩ := List.forall_mem_cons.1 h
    rw [List.map_cons, named, checkEntries, hentry, ih hentries]
    rfl

/-- Nothing in such a value keeps its document from being written. -/
theorem check_of_isDocument {v : Value} (h : IsDocument v) : check v = .ok () := by
  induction h with
  | int h =>
    have hsmall := (Nat.length_toDigits_le_iff (by decide) (by decide)).1 h
    rw [check, checkInteger, Value.isWritable, Nat.pow_eq, decide_eq_true hsmall, if_pos rfl]
  | list _ ih => exact checkItems_of_check ih
  | map _ _ ih => exact checkEntries_of_check ih
  | _ => rfl

mutual
/-- How deep lists and objects are nested in a value. -/
def nesting : Value → Nat
  | .list items => nestingIn items + 1
  | .tuple items => nestingIn items + 1
  | .map entries => nestingOf entries + 1
  | _ => 0

def nestingIn : List Value → Nat
  | [] => 0
  | v :: rest => max (nesting v) (nestingIn rest)

def nestingOf : List (Value × Value) → Nat
  | [] => 0
  | (_, v) :: rest => max (nesting v) (nestingOf rest)
end

/-! ## What a document starts with -/

theorem skipBlanks_cons {point : Nat} (h : isBlank point = false) (position : Nat)
    (rest : List Nat) :
    (Source.mk position (point :: rest)).skipBlanks = ⟨position, point :: rest⟩ := by
  simp [Source.skipBlanks, Source.run, h]

theorem skipBlanks_space {point : Nat} (h : isBlank point = false) (position : Nat)
    (rest : List Nat) : (Source.mk position (0x20 :: point :: rest)).skipBlanks =
      ⟨position + 1, point :: rest⟩ := by
  have hspace : isBlank 0x20 = true := by decide
  simp [Source.skipBlanks, Source.run, h, hspace]

theorem skipBlanks_nil (position : Nat) : (Source.mk position []).skipBlanks = ⟨position, []⟩ := by
  simp [Source.skipBlanks, Source.run]

/-- The first character of a document tells it from what may stand in its place. -/
structure Opens (point : Nat) : Prop where
  blank : isBlank point = false
  bracket : point ≠ 0x5d
  brace : point ≠ 0x7d

theorem Opens.of_isDigit {point : Nat} (h : isDigit point = true) : Opens point := by
  simp only [isDigit, Bool.and_eq_true, decide_eq_true_eq] at h
  refine ⟨?_, by omega, by omega⟩
  simp only [isBlank, Bool.or_eq_false_iff, beq_eq_false_iff_ne]
  omega

/-- An integer starts with a sign or a digit, and has a digit behind a sign. -/
theorem points_toString (n : Int) : ∃ first more, points (toString n).toList = first :: more ∧
    (isDigit first = true ∨ first = 0x2d ∧ ∃ second others, more = second :: others ∧
      isDigit second = true) := by
  obtain ⟨c, cs, hdigits⟩ :=
    List.exists_cons_of_ne_nil (Nat.toDigits_ne_nil (b := 10) (n := n.natAbs))
  have hc : isDigit c.toNat = true :=
    isDigit_of_mem (n := n.natAbs) (by rw [hdigits]; exact List.mem_cons_self)
  rw [toList_toString, hdigits]
  by_cases hsign : n < 0
  · rw [if_pos hsign]
    exact ⟨_, _, rfl, .inr ⟨rfl, _, _, rfl, hc⟩⟩
  · rw [if_neg hsign]
    exact ⟨_, _, rfl, .inl hc⟩

theorem exists_opens {v : Value} (h : IsDocument v) :
    ∃ first more, points (chars v) = first :: more ∧ Opens first := by
  cases h with
  | null => exact ⟨_, _, rfl, by decide, by decide, by decide⟩
  | bool b => cases b <;> exact ⟨_, _, rfl, by decide, by decide, by decide⟩
  | int h =>
    rename_i n
    obtain ⟨first, more, hfirst, hdigit | ⟨rfl, -⟩⟩ := points_toString n
    · exact ⟨first, more, hfirst, .of_isDigit hdigit⟩
    · exact ⟨_, more, hfirst, by decide, by decide, by decide⟩
  | text s => exact ⟨_, _, rfl, by decide, by decide, by decide⟩
  | list h => exact ⟨_, _, rfl, by decide, by decide, by decide⟩
  | map hnames h => exact ⟨_, _, rfl, by decide, by decide, by decide⟩

/-- No constant starts like an integer. -/
theorem constant?_toString (n : Int) (position : Nat) (rest : List Nat) :
    constant? ⟨position, points (toString n).toList ++ rest⟩ = none := by
  obtain ⟨first, more, hfirst, hdigit⟩ := points_toString n
  have hnone : ∀ entry ∈ constants,
      entry.1.isPrefixOf (points (toString n).toList ++ rest) = false := by
    rw [hfirst, List.cons_append]
    rcases hdigit with hdigit | ⟨rfl, second, others, rfl, hdigit⟩ <;>
      simp only [isDigit, Bool.and_eq_true, decide_eq_true_eq] at hdigit <;>
      simp only [constants, word, Text.toPoints, List.forall_mem_cons] <;>
      simp [List.isPrefixOf] <;> omega
  rw [constant?, List.find?_eq_none.2 fun entry hentry =>
    Bool.eq_false_iff.1 (hnone entry hentry)]
  rfl

/-! ## Lists and objects -/

theorem ofPoints_toPoints (s : String) : Value.ofPoints (Text.toPoints s) = .text s := by
  rw [Value.ofPoints, Text.ofPoints?_toPoints]

private theorem nesting_le_nestingIn {v : Value} {items : List Value} (h : v ∈ items) :
    nesting v ≤ nestingIn items := by
  induction items with
  | nil => cases h
  | cons w items ih =>
    rw [nestingIn]
    rcases List.mem_cons.1 h with rfl | hrest
    · exact Nat.le_max_left _ _
    · exact (ih hrest).trans (Nat.le_max_right _ _)

private theorem nesting_le_nestingOf {entry : String × Value} {entries : List (String × Value)}
    (h : entry ∈ entries) : nesting entry.2 ≤ nestingOf (entries.map named) := by
  induction entries with
  | nil => cases h
  | cons other entries ih =>
    rw [List.map_cons, named, nestingOf]
    rcases List.mem_cons.1 h with rfl | hrest
    · exact Nat.le_max_left _ _
    · exact (ih hrest).trans (Nat.le_max_right _ _)

/-- What is written for a value is read as this value, wherever it stands. -/
def IsRead (v : Value) : Prop :=
  ∀ limit fuel depth position rest, (chars v).length ≤ fuel → depth + nesting v ≤ limit →
    Ends rest →
    Reads (value limit fuel depth ⟨position, points (chars v) ++ rest⟩) v rest

theorem points_joined (one : List Char) {first : Nat} {more : List Nat}
    (h : points one = first :: more) (others : List (List Char)) :
    ∃ rest, points (joined [',', ' '] (one :: others)) = first :: rest := by
  cases others with
  | nil => exact ⟨more, h⟩
  | cons other others =>
    refine ⟨more ++ points ([',', ' '] ++ joined [',', ' '] (other :: others)), ?_⟩
    rw [joined, List.append_assoc, points_append, h, List.cons_append]
    nofun

theorem points_joined_cons (one other : List Char) (others : List (List Char)) :
    points (joined [',', ' '] (one :: other :: others)) =
      points one ++ 0x2c :: 0x20 :: points (joined [',', ' '] (other :: others)) := by
  simp [joined]

/-- Fuel for several parts is enough for the first of them, and one less for the others. -/
theorem fuel_joined {one other : List Char} {others : List (List Char)} {fuel : Nat}
    (h : (joined [',', ' '] (one :: other :: others)).length < fuel + 1) :
    one.length ≤ fuel ∧ (joined [',', ' '] (other :: others)).length < fuel := by
  have hlength := congrArg List.length (points_joined_cons one other others)
  simp only [List.length_append, List.length_cons, length_points] at hlength
  omega

section Steps

variable {limit fuel depth position : Nat} {s : Source} {v : Value} {rest : List Nat}

theorem elements_last {read : List Value}
    (h : value limit fuel depth s = .ok (v, ⟨position, 0x5d :: rest⟩)) :
    elements limit (fuel + 1) depth read s = .ok ((v :: read).reverse, ⟨position + 1, rest⟩) := by
  rw [elements, h]
  simp [bind, Except.bind, skipBlanks_cons, isBlank, Source.drop]

private theorem elements_more {read : List Value} {first : Nat} {more : List Nat}
    (h : value limit fuel depth s = .ok (v, ⟨position, 0x2c :: 0x20 :: first :: more⟩))
    (hfirst : isBlank first = false) : elements limit (fuel + 1) depth read s =
      elements limit fuel depth (v :: read) ⟨position + 1 + 1, first :: more⟩ := by
  have hcomma : isBlank 0x2c = false := by decide
  rw [elements, h]
  simp [bind, Except.bind, skipBlanks_cons hcomma, skipBlanks_space hfirst, Source.drop]

/-- A quoted name, a colon and a value come next. -/
def HasEntry (limit fuel depth : Nat) (s : Source) (entry : String × Value) (s' : Source) : Prop :=
  ∃ position first more, s.rest.head? = some 0x22 ∧ isBlank first = false ∧
    string s = .ok (Text.toPoints entry.1, ⟨position, 0x3a :: 0x20 :: first :: more⟩) ∧
    value limit fuel depth ⟨position + 1 + 1, first :: more⟩ = .ok (entry.2, s')

variable {entry : String × Value}

private theorem members_last {read : List (Value × Value)}
    (h : HasEntry limit fuel depth s entry ⟨position, 0x7d :: rest⟩) :
    members limit (fuel + 1) depth read s =
      .ok (Value.setField (.text entry.1) entry.2 read, ⟨position + 1, rest⟩) := by
  obtain ⟨position', first, more, hquote, hfirst, hkey, hvalue⟩ := h
  have hcolon : isBlank 0x3a = false := by decide
  have hbrace : isBlank 0x7d = false := by decide
  rw [members, hkey]
  simp [bind, Except.bind, hquote, skipBlanks_cons hcolon, skipBlanks_cons hbrace,
    skipBlanks_space hfirst, Source.drop, hvalue, ofPoints_toPoints]

private theorem members_more {read : List (Value × Value)} {next : Nat} {others : List Nat}
    (h : HasEntry limit fuel depth s entry ⟨position, 0x2c :: 0x20 :: next :: others⟩)
    (hnext : isBlank next = false) : members limit (fuel + 1) depth read s =
      members limit fuel depth (Value.setField (.text entry.1) entry.2 read)
        ⟨position + 1 + 1, next :: others⟩ := by
  obtain ⟨position', first, more, hquote, hfirst, hkey, hvalue⟩ := h
  have hcolon : isBlank 0x3a = false := by decide
  have hcomma : isBlank 0x2c = false := by decide
  rw [members, hkey]
  simp [bind, Except.bind, hquote, skipBlanks_cons hcolon, skipBlanks_cons hcomma,
    skipBlanks_space hfirst, skipBlanks_space hnext, Source.drop, hvalue, ofPoints_toPoints]

theorem value_list {first : Nat} {more : List Nat} {items : List Value} {s' : Source}
    (hlimit : depth ≠ limit) (hfirst : Opens first)
    (h : elements limit fuel (depth + 1) [] ⟨position + 1, first :: more⟩ = .ok (items, s')) :
    value limit (fuel + 1) depth ⟨position, 0x5b :: first :: more⟩ = .ok (.list items, s') := by
  simp [value, hlimit, Source.drop, skipBlanks_cons hfirst.blank, hfirst.bracket, h, Except.map]

theorem value_map {first : Nat} {more : List Nat} {entries : List (Value × Value)} {s' : Source}
    (hlimit : depth ≠ limit) (hfirst : Opens first)
    (h : members limit fuel (depth + 1) [] ⟨position + 1, first :: more⟩ = .ok (entries, s')) :
    value limit (fuel + 1) depth ⟨position, 0x7b :: first :: more⟩ = .ok (.map entries, s') := by
  simp [value, hlimit, Source.drop, skipBlanks_cons hfirst.blank, hfirst.brace, h, Except.map]

theorem value_list_nil (hlimit : depth ≠ limit) :
    value limit (fuel + 1) depth ⟨position, 0x5b :: 0x5d :: rest⟩ =
      .ok (.list [], ⟨position + 1 + 1, rest⟩) := by
  have hbracket : isBlank 0x5d = false := by decide
  simp [value, hlimit, Source.drop, skipBlanks_cons hbracket]

theorem value_map_nil (hlimit : depth ≠ limit) :
    value limit (fuel + 1) depth ⟨position, 0x7b :: 0x7d :: rest⟩ =
      .ok (.map [], ⟨position + 1 + 1, rest⟩) := by
  have hbrace : isBlank 0x7d = false := by decide
  simp [value, hlimit, Source.drop, skipBlanks_cons hbrace]

end Steps

/-- Elements are read up to the closing bracket. -/
theorem reads_elements {items : List Value} (hne : items ≠ [])
    (h : ∀ v ∈ items, IsDocument v ∧ IsRead v) {limit depth : Nat}
    (hdepth : ∀ v ∈ items, depth + nesting v ≤ limit) {fuel : Nat}
    (hfuel : (joined [',', ' '] (items.map chars)).length < fuel) (read : List Value)
    (position : Nat) (rest : List Nat) :
    Reads (elements limit fuel depth read
      ⟨position, points (joined [',', ' '] (items.map chars)) ++ 0x5d :: rest⟩)
      (read.reverse ++ items) rest := by
  -- the last element ends at the bracket, every other one at a comma
  induction items generalizing fuel position read with
  | nil => exact absurd rfl hne
  | cons v items ih =>
    obtain ⟨⟨hv, hread⟩, hitems⟩ := List.forall_mem_cons.1 h
    obtain ⟨hdepthFirst, hdepthRest⟩ := List.forall_mem_cons.1 hdepth
    obtain ⟨fuel, rfl⟩ : ∃ more, fuel = more + 1 := ⟨fuel - 1, by omega⟩
    cases items with
    | nil =>
      obtain ⟨position', hvalue⟩ := hread limit fuel depth position (0x5d :: rest)
        (Nat.lt_succ_iff.1 hfuel) hdepthFirst (.cons (by decide) _)
      refine ⟨position' + 1, ?_⟩
      rw [List.map_cons, List.map_nil, joined, elements_last hvalue, List.reverse_cons]
    | cons w items =>
      obtain ⟨first, more, hw, hopens⟩ := exists_opens (hitems w List.mem_cons_self).1
      obtain ⟨others, hothers⟩ := points_joined (chars w) hw (items.map chars)
      obtain ⟨hfuelFirst, hfuelRest⟩ := fuel_joined hfuel
      rw [List.map_cons] at ih
      rw [List.map_cons, List.map_cons, points_joined_cons, hothers, List.append_assoc]
      obtain ⟨position', hvalue⟩ := hread limit fuel depth position
        (0x2c :: 0x20 :: first :: (others ++ 0x5d :: rest)) hfuelFirst hdepthFirst
        (.cons (by decide) _)
      obtain ⟨last, helements⟩ := ih (by nofun) hitems hdepthRest hfuelRest (v :: read)
        (position' + 1 + 1)
      refine ⟨last, (elements_more hvalue hopens.blank).trans ?_⟩
      rw [hothers] at helements
      simpa using helements

theorem itemChars_eq_map (items : List Value) : itemChars items = items.map chars := by
  induction items with
  | nil => rfl
  | cons v items ih => rw [itemChars, ih, List.map_cons]

def namedChars (entry : String × Value) : List Char :=
  quotedText entry.1 ++ ':' :: ' ' :: chars entry.2

theorem entryChars_named (entries : List (String × Value)) :
    entryChars (entries.map named) = entries.map namedChars := by
  induction entries with
  | nil => rfl
  | cons entry entries ih =>
    rw [List.map_cons, List.map_cons, ← ih]
    rfl

private theorem hasEntry {entry : String × Value} (hentry : IsDocument entry.2 ∧ IsRead entry.2)
    {limit fuel depth : Nat} (hfuel : (namedChars entry).length ≤ fuel)
    (hdepth : depth + nesting entry.2 ≤ limit) (position : Nat) (rest : List Nat)
    (hrest : Ends rest) : ∃ position', HasEntry limit fuel depth
      ⟨position, points (namedChars entry) ++ rest⟩ entry ⟨position', rest⟩ := by
  obtain ⟨hv, hread⟩ := hentry
  obtain ⟨first, more, hfirst, hopens⟩ := exists_opens hv
  obtain ⟨middle, hkey⟩ := string_quotedText entry.1 position
    (0x3a :: 0x20 :: (points (chars entry.2) ++ rest))
  obtain ⟨last, hvalue⟩ := hread limit fuel depth (middle + 1 + 1) rest
    (by simp only [namedChars, List.length_append, List.length_cons] at hfuel; omega) hdepth hrest
  rw [hfirst, List.cons_append] at hkey hvalue
  refine ⟨last, middle, first, more ++ rest, rfl, hopens.blank, ?_, hvalue⟩
  rw [← hkey, namedChars, points_append, points_cons, points_cons, hfirst, List.append_assoc]
  rfl

/-- Entries are read up to the closing brace. Each goes to the end, because its name is new. -/
theorem reads_members {entries : List (String × Value)} (hne : entries ≠ [])
    (h : ∀ entry ∈ entries, IsDocument entry.2 ∧ IsRead entry.2) {limit depth : Nat}
    (hdepth : ∀ entry ∈ entries, depth + nesting entry.2 ≤ limit) {fuel : Nat}
    (hfuel : (joined [',', ' '] (entries.map namedChars)).length < fuel)
    (read : List (String × Value)) (hnames : ((read ++ entries).map (·.1)).Nodup)
    (position : Nat) (rest : List Nat) :
    Reads (members limit fuel depth (read.map named)
      ⟨position, points (joined [',', ' '] (entries.map namedChars)) ++ 0x7d :: rest⟩)
      ((read ++ entries).map named) rest := by
  induction entries generalizing fuel position read with
  | nil => exact absurd rfl hne
  | cons entry entries ih =>
    obtain ⟨hentry, hentries⟩ := List.forall_mem_cons.1 h
    obtain ⟨hdepthFirst, hdepthRest⟩ := List.forall_mem_cons.1 hdepth
    obtain ⟨fuel, rfl⟩ : ∃ more, fuel = more + 1 := ⟨fuel - 1, by omega⟩
    have hnew : entry.1 ∉ read.map (·.1) := by
      rw [List.map_append, List.map_cons] at hnames
      exact fun hmem => (List.disjoint_of_nodup_append hnames) hmem List.mem_cons_self
    have hset := setField_named hnew entry.2
    cases entries with
    | nil =>
      obtain ⟨position', hlast⟩ := hasEntry hentry (Nat.lt_succ_iff.1 hfuel) hdepthFirst position
        (0x7d :: rest) (.cons (by decide) _)
      refine ⟨position' + 1, ?_⟩
      rw [List.map_cons, List.map_nil, joined, members_last hlast, hset]
    | cons other entries =>
      obtain ⟨others, hothers⟩ := points_joined (namedChars other) rfl
        (entries.map namedChars)
      obtain ⟨hfuelFirst, hfuelRest⟩ := fuel_joined hfuel
      rw [List.map_cons] at ih
      rw [List.map_cons, List.map_cons, points_joined_cons, hothers, List.append_assoc]
      obtain ⟨position', hmore⟩ := hasEntry hentry hfuelFirst hdepthFirst position
        (0x2c :: 0x20 :: 0x22 :: (others ++ 0x7d :: rest)) (.cons (by decide) _)
      obtain ⟨last, hmembers⟩ := ih (by nofun) hentries hdepthRest hfuelRest
        (read ++ [entry]) (by simpa using hnames) (position' + 1 + 1)
      refine ⟨last, (members_more hmore (by decide)).trans ?_⟩
      rw [hothers] at hmembers
      rw [hset]
      simpa using hmembers

/-! ## Documents -/

/-- A document is not empty, so that there is fuel for a step. -/
theorem exists_fuel {v : Value} (h : IsDocument v) {fuel : Nat} (hfuel : (chars v).length ≤ fuel) :
    ∃ more, fuel = more + 1 := by
  obtain ⟨first, more, hchars, -⟩ := exists_opens h
  have hlength := congrArg List.length hchars
  rw [length_points, List.length_cons] at hlength
  exact ⟨fuel - 1, by omega⟩

theorem value_scalar {first : Nat} (hquote : first ≠ 0x22) (hbrace : first ≠ 0x7b)
    (hbracket : first ≠ 0x5b) (limit fuel depth position : Nat) (rest : List Nat) :
    value limit (fuel + 1) depth ⟨position, first :: rest⟩ =
      match constant? ⟨position, first :: rest⟩ with
      | some found => .ok found
      | none => number ⟨position, first :: rest⟩ := by
  rw [value]
  split
  · cases ‹_›
  · exact absurd (List.cons.inj ‹_›).1 hquote
  · exact absurd (List.cons.inj ‹_›).1 hbrace
  · exact absurd (List.cons.inj ‹_›).1 hbracket
  · rfl

private theorem isRead_constant {v : Value} (hv : IsDocument v) {first : Nat} {more : List Nat}
    (hchars : points (chars v) = first :: more)
    (hfirst : first ≠ 0x22 ∧ first ≠ 0x7b ∧ first ≠ 0x5b)
    (h : ∀ position rest, ∃ position',
      constant? ⟨position, points (chars v) ++ rest⟩ = some (v, ⟨position', rest⟩)) : IsRead v := by
  intro limit fuel depth position rest hfuel hdepth hrest
  obtain ⟨fuel, rfl⟩ := exists_fuel hv hfuel
  obtain ⟨position', hconstant⟩ := h position rest
  refine ⟨position', ?_⟩
  rw [hchars, List.cons_append] at hconstant ⊢
  rw [value_scalar hfirst.1 hfirst.2.1 hfirst.2.2, hconstant]

private theorem isRead_int {n : Int} (hn : (Nat.toDigits 10 n.natAbs).length ≤ Text.digitLimit) :
    IsRead (.int n) := by
  intro limit fuel depth position rest hfuel hdepth hrest
  obtain ⟨first, more, hchars, hdigit⟩ := points_toString n
  obtain ⟨fuel, rfl⟩ := exists_fuel (.int hn) hfuel
  have hfirst : first ≠ 0x22 ∧ first ≠ 0x7b ∧ first ≠ 0x5b := by
    rcases hdigit with hdigit | ⟨rfl, -⟩
    · simp only [isDigit, Bool.and_eq_true, decide_eq_true_eq] at hdigit
      omega
    · decide
  have hconstant := constant?_toString n position rest
  obtain ⟨position', hnumber⟩ := number_toString hn position hrest
  refine ⟨position', ?_⟩
  rw [chars]
  rw [hchars, List.cons_append] at hconstant hnumber ⊢
  rw [value_scalar hfirst.1 hfirst.2.1 hfirst.2.2, hconstant, hnumber]

private theorem isRead_text (s : String) : IsRead (.text s) := by
  intro limit fuel depth position rest hfuel hdepth hrest
  obtain ⟨position', hstring⟩ := string_quotedText s position rest
  have hquote : ∃ more, points (quotedText s) ++ rest = 0x22 :: more := ⟨_, rfl⟩
  obtain ⟨more, hmore⟩ := hquote
  obtain ⟨fuel, rfl⟩ := exists_fuel (.text s) hfuel
  refine ⟨position', ?_⟩
  rw [chars]
  rw [hmore] at hstring ⊢
  simp only [value, hstring, Except.map, ofPoints_toPoints]

private theorem points_list (items : List Value) (rest : List Nat) :
    points (chars (.list items)) ++ rest =
      0x5b :: (points (joined [',', ' '] (items.map chars)) ++ 0x5d :: rest) := by
  have hopen : Char.toNat '[' = 0x5b := rfl
  have hclose : Char.toNat ']' = 0x5d := rfl
  simp [chars, itemChars_eq_map, hopen, hclose]

private theorem points_map (entries : List (String × Value)) (rest : List Nat) :
    points (chars (.map (entries.map named))) ++ rest =
      0x7b :: (points (joined [',', ' '] (entries.map namedChars)) ++ 0x7d :: rest) := by
  have hopen : Char.toNat '\x7b' = 0x7b := rfl
  have hclose : Char.toNat '\x7d' = 0x7d := rfl
  simp [chars, entryChars_named, hopen, hclose]

private theorem isRead_list {items : List Value} (h : ∀ v ∈ items, IsDocument v ∧ IsRead v) :
    IsRead (.list items) := by
  intro limit fuel depth position rest hfuel hdepth hrest
  rw [nesting] at hdepth
  have hlimit : depth ≠ limit := by omega
  obtain ⟨fuel, rfl⟩ := exists_fuel (.list fun v hv => (h v hv).1) hfuel
  rw [points_list]
  cases items with
  | nil => exact ⟨_, value_list_nil hlimit⟩
  | cons v items =>
    obtain ⟨first, more, hv, hopens⟩ := exists_opens (h v List.mem_cons_self).1
    obtain ⟨others, hothers⟩ := points_joined (chars v) hv (items.map chars)
    rw [chars, itemChars_eq_map, List.length_append, List.length_cons,
      List.length_singleton] at hfuel
    have hshallow : ∀ w ∈ v :: items, depth + 1 + nesting w ≤ limit := by
      intro w hw
      have hin := nesting_le_nestingIn hw
      omega
    obtain ⟨last, helements⟩ := reads_elements (by nofun) h hshallow
      (Nat.lt_of_succ_lt_succ hfuel) [] (position + 1) rest
    rw [List.map_cons, hothers, List.cons_append] at helements
    rw [List.map_cons, hothers, List.cons_append]
    exact ⟨last, value_list hlimit hopens helements⟩

private theorem isRead_map {entries : List (String × Value)} (hnames : (entries.map (·.1)).Nodup)
    (h : ∀ entry ∈ entries, IsDocument entry.2 ∧ IsRead entry.2) :
    IsRead (.map (entries.map named)) := by
  intro limit fuel depth position rest hfuel hdepth hrest
  rw [nesting] at hdepth
  have hlimit : depth ≠ limit := by omega
  obtain ⟨fuel, rfl⟩ := exists_fuel (.map hnames fun entry hentry => (h entry hentry).1) hfuel
  rw [points_map]
  cases entries with
  | nil => exact ⟨_, value_map_nil hlimit⟩
  | cons entry entries =>
    obtain ⟨others, hothers⟩ := points_joined (namedChars entry) rfl
      (entries.map namedChars)
    have hopens : Opens (Char.toNat '"') := ⟨by decide, by decide, by decide⟩
    rw [chars, entryChars_named, List.length_append, List.length_cons, List.length_singleton]
      at hfuel
    have hshallow : ∀ other ∈ entry :: entries, depth + 1 + nesting other.2 ≤ limit := by
      intro other hother
      have hin := nesting_le_nestingOf hother
      omega
    obtain ⟨last, hmembers⟩ := reads_members (by nofun) h hshallow
      (Nat.lt_of_succ_lt_succ hfuel) [] hnames (position + 1) rest
    rw [List.map_cons, hothers, List.cons_append] at hmembers
    rw [List.map_cons, hothers, List.cons_append]
    exact ⟨last, value_map hlimit hopens hmembers⟩

private theorem isRead {v : Value} (h : IsDocument v) : IsRead v := by
  induction h with
  | null => exact isRead_constant .null rfl (by decide) fun position rest => ⟨_, rfl⟩
  | bool b =>
    cases b with
    | false => exact isRead_constant (.bool _) rfl (by decide) fun position rest => ⟨_, rfl⟩
    | true => exact isRead_constant (.bool _) rfl (by decide) fun position rest => ⟨_, rfl⟩
  | int h => exact isRead_int h
  | text s => exact isRead_text s
  | list h ih => exact isRead_list fun v hv => ⟨h v hv, ih v hv⟩
  | map hnames h ih => exact isRead_map hnames fun entry hentry => ⟨h entry hentry, ih entry hentry⟩

/-- A document is read as the value that it was written for. -/
theorem readWithin_write {v : Value} (h : IsDocument v) {limit : Nat} (hlimit : nesting v ≤ limit) :
    readWithin limit (Text.toPoints (write v)) = .ok v := by
  obtain ⟨first, more, hchars, hopens⟩ := exists_opens h
  obtain ⟨last, hvalue⟩ := isRead h limit ((chars v).length + 1) 0 0 [] (by omega) (by omega) .nil
  have hpoints : Text.toPoints (write v) = points (chars v) := by
    rw [Text.toPoints, write, String.toList_ofList, points]
  rw [List.append_nil] at hvalue
  rw [readWithin, hpoints, length_points]
  rw [hchars] at hvalue ⊢
  rw [skipBlanks_cons hopens.blank, hvalue]
  simp [bind, Except.bind, skipBlanks_nil]

end WalletTrust.Json
