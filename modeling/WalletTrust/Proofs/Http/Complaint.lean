import WalletTrust.Http.Service
import WalletTrust.Proofs.Outcome

/-!
# Complaints about a body

A complaint shows the value that it is about. It can be sent unless the value holds bytes, an
infinite number or none, or half of a surrogate pair.
-/

namespace WalletTrust.Http

/-- What is wrong with a body is told, unless that cannot be sent. -/
theorem Reply.status_problemReply (problems : List Problem) :
    let reply := Service.problemReply problems
    reply.status = 422 ∨ reply.status = 500 := by
  unfold Service.problemReply Service.documentReply
  split
  · split
    · exact .inl rfl
    · exact .inr rfl
  · exact .inr rfl

/-- What is true of no text and of no part of a value is true of no part of another. -/
def Quiets (v w : Value) : Prop :=
  ∀ p : Value → Bool, (∀ s, p (.text s) = false) → anyPart p v = false → anyPart p w = false

theorem exists_shown_same {v : Value} (h : shown v = .ok v) : ∃ w, shown v = .ok w ∧ Quiets v w :=
  ⟨v, h, fun _ _ hquiet => hquiet⟩

mutual
/-- A value without bytes is shown, and showing it brings nothing in but texts. -/
theorem exists_shown : ∀ {v : Value}, anyPart isBytes v = false →
    ∃ w, shown v = .ok w ∧ Quiets v w
  | .bytes _, h => by simp [anyPart, isBytes] at h
  | .list items, h => by
    obtain ⟨ws, hws, hquiet⟩ : ∃ ws, shownList items = .ok ws ∧ _ := exists_shownList h
    exact ⟨.list ws, by rw [shown, hws]; rfl, hquiet⟩
  | .tuple items, h => by
    obtain ⟨ws, hws, hquiet⟩ : ∃ ws, shownList items = .ok ws ∧ _ := exists_shownList h
    exact ⟨.list ws, by rw [shown, hws]; rfl, hquiet⟩
  | .map entries, h => by
    obtain ⟨es, hes, hquiet⟩ : ∃ es, shownEntries entries = .ok es ∧ _ := exists_shownEntries h
    exact ⟨.map es, by rw [shown, hes]; rfl, hquiet⟩
  | .status s, _ => ⟨.text s.name, by rw [shown], fun p hp _ => hp s.name⟩
  | .null, _ => exists_shown_same (by simp [shown])
  | .bool b, _ => exists_shown_same (by simp [shown])
  | .int n, _ => exists_shown_same (by simp [shown])
  | .float x, _ => exists_shown_same (by simp [shown])
  | .text s, _ => exists_shown_same (by simp [shown])
  | .broken points, _ => exists_shown_same (by simp [shown])

theorem exists_shownList : ∀ {vs : List Value}, anyIn isBytes vs = false →
    ∃ ws, shownList vs = .ok ws ∧ ∀ p : Value → Bool, (∀ s, p (.text s) = false) →
      anyIn p vs = false → anyIn p ws = false
  | [], _ => ⟨[], by rw [shownList], fun _ _ h => h⟩
  | v :: vs, h => by
    rw [anyIn, Bool.or_eq_false_iff] at h
    obtain ⟨w, hw, hfirst⟩ := exists_shown h.1
    obtain ⟨ws, hws, hrest⟩ := exists_shownList h.2
    refine ⟨w :: ws, by rw [shownList, hw, hws]; rfl, ?_⟩
    intro p hp hquiet
    rw [anyIn, Bool.or_eq_false_iff] at hquiet ⊢
    exact ⟨hfirst p hp hquiet.1, hrest p hp hquiet.2⟩

theorem exists_shownEntries : ∀ {entries : List (Value × Value)}, anyEntry isBytes entries = false →
    ∃ es, shownEntries entries = .ok es ∧ ∀ p : Value → Bool, (∀ s, p (.text s) = false) →
      anyEntry p entries = false → anyEntry p es = false
  | [], _ => ⟨[], by rw [shownEntries], fun _ _ h => h⟩
  | (k, v) :: entries, h => by
    rw [anyEntry, Bool.or_eq_false_iff, Bool.or_eq_false_iff] at h
    obtain ⟨w, hw, hfirst⟩ := exists_shown h.1.2
    obtain ⟨es, hes, hrest⟩ := exists_shownEntries h.2
    by_cases hk : isHidden k = true
    · refine ⟨es, by rw [shownEntries, if_pos hk, hes], ?_⟩
      intro p hp hquiet
      rw [anyEntry, Bool.or_eq_false_iff] at hquiet
      exact hrest p hp hquiet.2
    · refine ⟨(k, w) :: es, by rw [shownEntries, if_neg hk, hw, hes]; rfl, ?_⟩
      intro p hp hquiet
      rw [anyEntry, Bool.or_eq_false_iff, Bool.or_eq_false_iff] at hquiet ⊢
      exact ⟨⟨hquiet.1.1, hfirst p hp hquiet.1.2⟩, hrest p hp hquiet.2⟩
end

/-- A value that an answer can hold as it is shown. -/
structure IsSendable (v : Value) : Prop where
  bytes : anyPart isBytes v = false
  numbers : anyPart isUnwritable v = false
  texts : anyPart isBrokenText v = false

theorem isSendable_texts (texts : List String) : IsSendable (.list (texts.map .text)) := by
  have hnone : ∀ p : Value → Bool, (∀ s, p (.text s) = false) →
      anyPart p (.list (texts.map .text)) = false := by
    intro p hp
    rw [anyPart]
    induction texts with
    | nil => rfl
    | cons s texts ih => simp [anyIn, anyPart, hp, ih]
  exact ⟨hnone _ fun _ => rfl, hnone _ fun _ => rfl, hnone _ fun _ => rfl⟩

namespace IsSendable

variable {v : Value}

theorem writable (h : IsSendable v) : Http.writable v = .ok v := by
  simp [Http.writable, h.bytes, h.numbers, h.texts]

theorem exists_shown (h : IsSendable v) : ∃ w, shown v = .ok w ∧ IsSendable w := by
  obtain ⟨w, hw, hquiet⟩ := Http.exists_shown h.bytes
  exact ⟨w, hw, hquiet _ (fun _ => rfl) h.bytes, hquiet _ (fun _ => rfl) h.numbers,
    hquiet _ (fun _ => rfl) h.texts⟩

/-- A document with one problem in it, which is about a field. -/
theorem detail (h : IsSendable v) (kind : Problem.Kind) (name : String) :
    IsSendable (.map [(.text "detail",
      .list [.map { kind, place := [.text name], input := v : Problem }.fields])]) := by
  have hnone : ∀ p : Value → Bool, (∀ s, p (.text s) = false) → anyPart p v = false →
      anyPart p (.map [(.text "detail",
        .list [.map { kind, place := [.text name], input := v : Problem }.fields])]) = false := by
    intro p hp hv
    simp [anyPart, anyIn, anyEntry, Problem.fields, hp, hv]
  exact ⟨hnone _ (fun _ => rfl) h.bytes, hnone _ (fun _ => rfl) h.numbers,
    hnone _ (fun _ => rfl) h.texts⟩

/-- A problem with a field is told as such if the value of the field can be sent. -/
theorem status_problemReply (h : IsSendable v) (kind : Problem.Kind) (name : String) :
    (Service.problemReply [{ kind, place := [.text name], input := v }]).status = 422 := by
  obtain ⟨w, hw, hsendable⟩ := h.exists_shown
  have hshown : Service.shownProblems [{ kind, place := [.text name], input := v }] =
      .ok [.map { kind, place := [.text name], input := w : Problem }.fields] := by
    simp only [Service.shownProblems, hw]
    rfl
  simp only [Service.problemReply, hshown, Service.documentReply,
    (hsendable.detail kind name).writable, Reply.document]

end IsSendable
end WalletTrust.Http
