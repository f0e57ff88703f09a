import Mathlib.Data.List.Basic
import Mathlib.Data.Option.Basic
import WalletTrust.Environment.File

/-!
# Characters of an environment file

What a file assigns is made of its own characters and of what escapes stand for. None of them is of
code zero unless the file has such a character, and no name is empty.
-/

namespace WalletTrust.Environment.File

def Clean (s : List Char) : Prop := ∀ c ∈ s, c ≠ '\x00'

namespace Clean

variable {s t : List Char} {c : Char}

theorem of_subset (h : Clean s) (hsub : t ⊆ s) : Clean t := fun c hc => h c (hsub hc)

theorem cons_iff : Clean (c :: s) ↔ c ≠ '\x00' ∧ Clean s := List.forall_mem_cons

theorem head (h : Clean (c :: s)) : c ≠ '\x00' := (cons_iff.1 h).1

theorem tail (h : Clean (c :: s)) : Clean s := (cons_iff.1 h).2

theorem cons (hc : c ≠ '\x00') (h : Clean s) : Clean (c :: s) := cons_iff.2 ⟨hc, h⟩

theorem nil : Clean [] := nofun

theorem drop (h : Clean s) (n : Nat) : Clean (s.drop n) := h.of_subset (List.drop_subset n s)

theorem takeWhile (h : Clean s) (p : Char → Bool) : Clean (s.takeWhile p) :=
  h.of_subset (List.takeWhile_subset p)

theorem dropWhile (h : Clean s) (p : Char → Bool) : Clean (s.dropWhile p) :=
  h.of_subset (List.dropWhile_subset p)

theorem stripEnd (h : Clean s) : Clean (Text.stripEnd s) := by
  intro c hc
  rw [Text.stripEnd, List.mem_reverse] at hc
  exact h c (List.mem_reverse.1 (List.dropWhile_subset _ hc))

private theorem unifyLines (h : Clean s) : Clean (File.unifyLines s) := by
  fun_induction File.unifyLines s with
  | case1 => exact h
  | case2 rest ih => exact .cons (by decide) (ih h.tail.tail)
  | case3 rest _ ih => exact .cons (by decide) (ih h.tail)
  | case4 c rest _ _ ih => exact .cons h.head (ih h.tail)

theorem unmarked (h : Clean s) : Clean (File.unmarked s) := by
  unfold File.unmarked
  split
  · exact h.tail
  · exact h

theorem skipInline (h : Clean s) : Clean (File.skipInline s) := h.dropWhile _

private theorem skipExport (h : Clean s) : Clean (File.skipExport s) := by
  have hrest := (h.drop 6).skipInline
  unfold File.skipExport
  split
  · simp only
    split
    · exact hrest
    · exact h
  · exact h

theorem nextLine (h : Clean s) : Clean (File.nextLine s) := (h.drop _).drop 1

private theorem skipComment (h : Clean s) : Clean (File.skipComment s) := by
  have hrest := h.skipInline
  unfold File.skipComment
  split
  · rename_i heq
    rw [heq] at hrest
    exact hrest.tail.drop _
  · exact h

private theorem lineEnd? (h : Clean s) (hend : File.lineEnd? s = some t) : Clean t := by
  have hrest := h.skipInline
  unfold File.lineEnd? at hend
  split at hend
  · cases hend
    exact nil
  · rename_i heq
    rw [heq] at hrest
    cases hend
    exact hrest.tail
  · cases hend

private theorem uncommented (h : Clean s) (afterBlank : Bool) :
    Clean (File.uncommented afterBlank s) := by
  induction s generalizing afterBlank with
  | nil => exact h
  | cons c s ih =>
    unfold File.uncommented
    split
    · exact nil
    · exact .cons h.head (ih h.tail _)

private theorem quotedText {quote : Char} {text rest : List Char} (h : Clean s)
    (hread : File.quotedText quote s = some (text, rest)) : Clean text ∧ Clean rest := by
  fun_induction File.quotedText quote s generalizing text with
  | case1 => cases hread
  | case2 c s ih =>
    obtain ⟨⟨text', rest'⟩, hread', heq⟩ := Option.map_eq_some_iff.1 hread
    cases heq
    obtain ⟨htext, hrest⟩ := ih h.tail.tail hread'
    exact ⟨.cons h.head (.cons h.tail.head htext), hrest⟩
  | case3 s _ =>
    cases hread
    exact ⟨nil, h.tail⟩
  | case4 c s _ _ ih =>
    obtain ⟨⟨text', rest'⟩, hread', heq⟩ := Option.map_eq_some_iff.1 hread
    cases heq
    obtain ⟨htext, hrest⟩ := ih h.tail hread'
    exact ⟨.cons h.head htext, hrest⟩

private theorem escapeIn {quote d : Char} (h : escapeIn quote c = some d) : d ≠ '\x00' := by
  unfold File.escapeIn at h
  split at h
  · split at h
    · rename_i hc
      cases h
      rcases hc with rfl | rfl <;> decide
    · cases h
  · split at h <;> cases h <;> decide

private theorem unescape (quote : Char) (h : Clean s) : Clean (File.unescape quote s) := by
  fun_induction File.unescape quote s with
  | case1 c s d hescape ih => exact .cons (escapeIn hescape) (ih h.tail.tail)
  | case2 c s _ ih => exact .cons h.head (ih h.tail)
  | case3 c s _ ih => exact .cons h.head (ih h.tail)
  | case4 => exact nil

private theorem value {text rest : List Char} (h : Clean s)
    (hread : File.value s = some (text, rest)) :
    Clean text ∧ Clean rest := by
  have hskip := h.skipInline
  unfold File.value at hread
  split at hread
  · cases hread
    exact ⟨nil, nil⟩
  · rename_i heq
    rw [heq] at hskip
    cases hread
    exact ⟨nil, hskip⟩
  · rename_i c s' _ heq
    rw [heq] at hskip
    split at hread
    · obtain ⟨⟨text', rest'⟩, hread', heq'⟩ := Option.map_eq_some_iff.1 hread
      cases heq'
      obtain ⟨htext, hrest⟩ := hskip.tail.quotedText hread'
      exact ⟨htext.unescape _, hrest⟩
    · cases hread
      exact ⟨((hskip.takeWhile _).uncommented _).stripEnd, hskip.drop _⟩

end Clean

/-- A binding as a file without characters of code zero has it. -/
structure IsSound (b : Binding) : Prop where
  name_ne_nil : b.1.toList ≠ []
  name : Clean b.1.toList
  value : ∀ v, b.2 = some v → Clean v.toList

private theorem key_named {s name rest : List Char} (h : Clean s)
    (hkey : key s = .named name rest) :
    name ≠ [] ∧ Clean name ∧ Clean rest := by
  unfold key at hkey
  split at hkey
  · cases hkey
  · rename_i s
    simp only at hkey
    split at hkey
    · rename_i hname hrest
      cases hkey
      have hclean := h.tail.takeWhile (· != '\'')
      have hdrop := h.tail.drop (s.takeWhile (· != '\'')).length
      rw [hrest] at hdrop
      refine ⟨?_, hclean, hdrop.tail⟩
      rw [hname]
      nofun
    · cases hkey
  · simp only at hkey
    split at hkey
    · cases hkey
    · rename_i hname
      cases hkey
      refine ⟨?_, h.takeWhile _, h.drop _⟩
      simpa using hname

/-- What stands behind a name: a value, nothing, or a quote that is not closed. -/
theorem clean_assigned {s rest : List Char} {v : Option String}
    (hread : (match s with
      | '=' :: rest => (value rest).map fun (v, rest) => (some (String.ofList v), rest)
      | _ => some (none, s)) = some (v, rest)) (h : Clean s) :
    (∀ text, v = some text → Clean text.toList) ∧ Clean rest := by
  split at hread
  · obtain ⟨⟨text, rest'⟩, hvalue, heq⟩ := Option.map_eq_some_iff.1 hread
    cases heq
    obtain ⟨htext, hrest⟩ := h.tail.value hvalue
    refine ⟨?_, hrest⟩
    rintro _ ⟨⟩
    rwa [String.toList_ofList]
  · cases hread
    exact ⟨nofun, h⟩

private theorem isSound_of_binding {s rest : List Char} {found : Option Binding} (h : Clean s)
    (hread : binding s = (found, rest)) : (∀ b ∈ found, IsSound b) ∧ Clean rest := by
  unfold binding at hread
  split at hread
  · cases hread
    exact ⟨nofun, h.skipExport.nextLine⟩
  · cases hread
    exact ⟨nofun, h.skipExport.nextLine⟩
  · rename_i name behind hkey
    obtain ⟨hne, hname, hbehind⟩ := key_named h.skipExport hkey
    simp only at hread
    split at hread
    · cases hread
      exact ⟨nofun, hbehind.skipInline.nextLine⟩
    · rename_i v after hassigned
      obtain ⟨hvalue, hafter⟩ := clean_assigned hassigned hbehind.skipInline
      split at hread
      · rename_i next hend
        cases hread
        refine ⟨?_, hafter.skipComment.lineEnd? hend⟩
        rintro _ ⟨⟩
        refine ⟨?_, ?_, hvalue⟩
        · rwa [String.toList_ofList]
        · rwa [String.toList_ofList]
      · cases hread
        exact ⟨nofun, hafter.skipComment.nextLine⟩

private theorem isSound_bindingsFrom {s : List Char} (h : Clean s) (fuel : Nat) :
    ∀ b ∈ bindingsFrom fuel s, IsSound b := by
  induction fuel generalizing s with
  | zero => nofun
  | succ fuel ih =>
    have hskip := h.dropWhile Text.isBlank
    unfold bindingsFrom
    split
    · nofun
    · obtain ⟨hfound, hrest⟩ := isSound_of_binding hskip rfl
      intro b hb
      rcases List.mem_append.1 hb with hb | hb
      · exact hfound b (Option.mem_toList.1 hb)
      · exact ih hrest b hb

/-- The names and values of a file are free of characters of code zero if the file is. -/
theorem isSound_bindings {text : String} (h : Clean text.toList) :
    ∀ b ∈ bindings text, IsSound b :=
  isSound_bindingsFrom h.unmarked.unifyLines _

end WalletTrust.Environment.File
