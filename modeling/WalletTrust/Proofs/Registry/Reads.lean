import WalletTrust.Proofs.Obtainable
import WalletTrust.Session.Basic

/-!
# Reads of a registry

A look-up checks an address before it looks, while membership and size count whatever is there. In a
registry that there can be they tell the same, because all of its wallets have addresses. A batch
reads each of its wallets once.
-/

namespace WalletTrust

def Snapshot.keys (s : Snapshot) : List Value := s.records.map (·.1)

namespace Value

/-- Strings: texts, those with halves of surrogate pairs in them, and statuses for their names. -/
inductive IsString : Value → Prop
  | text (s : String) : IsString (.text s)
  | broken (points : Text.Points) : IsString (.broken points)
  | status (s : Status) : IsString (.status s)

theorem IsString.unkeyable?_eq {v : Value} (h : v.IsString) : v.unkeyable? = none := by
  cases h <;> simp [unkeyable?]

private theorem unkeyableIn?_of_strings {vs : List Value} (h : ∀ v ∈ vs, v.IsString) :
    unkeyableIn? vs = none := by
  induction vs with
  | nil => simp [unkeyableIn?]
  | cons v vs ih =>
    have hv := (h v List.mem_cons_self).unkeyable?_eq
    have hvs := ih fun w hw => h w (List.mem_cons_of_mem v hw)
    simp [unkeyableIn?, hv, hvs]

/-- No status is named by an address, so that only its text equals an address. -/
theorem same_address_iff {s : String} (hs : WalletTrust.IsAddress s) {v : Value} :
    (text s).same v = true ↔ v = .text s := by
  cases v with
  | text t =>
    simp only [same, sameAtom, integer?, string?, beq_iff_eq, Value.text.injEq]
    exact eq_comm
  | status t =>
    have ht : s ≠ t.name := fun h => t.not_isAddress_name (h ▸ hs)
    simp [same, sameAtom, integer?, string?, ht]
  | _ => simp [same, sameAtom, integer?, string?]

/-- The keys of a list of values: each value where it comes first, in the order of the list. -/
inductive FirstOccurrences : List Value → List Value → Prop
  | nil : FirstOccurrences [] []
  | again {vs keys : List Value} {v : Value} (h : FirstOccurrences vs keys)
      (hv : ∃ w ∈ vs, w.same v = true) : FirstOccurrences (vs ++ [v]) keys
  | first {vs keys : List Value} {v : Value} (h : FirstOccurrences vs keys)
      (hv : ∀ w ∈ vs, w.same v = false) : FirstOccurrences (vs ++ [v]) (keys ++ [v])

private theorem distinct_concat (vs : List Value) (v : Value) :
    distinct (vs ++ [v]) =
      if vs.any (·.same v) then distinct vs else distinct vs ++ [v] := by
  induction vs with
  | nil => rfl
  | cons w vs ih =>
    rw [List.cons_append, distinct, ih]
    by_cases hvs : vs.any (·.same v) = true
    · rw [if_pos hvs, if_pos (by rw [List.any_cons, hvs, Bool.or_true]), distinct]
    · by_cases hw : w.same v = true
      · rw [if_neg hvs, if_pos (by rw [List.any_cons, hw, Bool.true_or]), List.filter_append,
          distinct]
        simp [hw]
      · rw [if_neg hvs, if_neg (by simp [hw, hvs]), List.filter_append, distinct]
        simp [hw]

private theorem firstOccurrences_distinct (vs : List Value) :
    FirstOccurrences vs (distinct vs) := by
  induction vs using List.reverseRecOn with
  | nil => exact .nil
  | append_singleton vs v ih =>
    rw [distinct_concat]
    split
    · rename_i hv
      exact .again ih (List.any_eq_true.1 hv)
    · rename_i hv
      refine .first ih fun w hw => ?_
      rw [Bool.not_eq_true, List.any_eq_false] at hv
      exact Bool.eq_false_iff.2 (hv w hw)

private theorem mem_of_mem_distinct {vs : List Value} {v : Value} (h : v ∈ distinct vs) :
    v ∈ vs := by
  induction vs with
  | nil => exact h
  | cons w vs ih =>
    rw [distinct, List.mem_cons, List.mem_filter] at h
    rcases h with rfl | ⟨h, -⟩
    · exact List.mem_cons_self
    · exact List.mem_cons_of_mem w (ih h)

private theorem mem_distinct_texts {wallets : List String} {wallet : String}
    (h : wallet ∈ wallets) :
    text wallet ∈ distinct (wallets.map text) := by
  induction wallets with
  | nil => cases h
  | cons w wallets ih =>
    rw [List.map_cons, distinct, List.mem_cons, List.mem_filter]
    by_cases hw : wallet = w
    · exact .inl (congrArg text hw)
    · have hother : (text w).same (text wallet) = false :=
        Bool.eq_false_iff.2 fun hsame => hw (same_text.1 hsame)
      exact .inr ⟨ih ((List.mem_cons.1 h).resolve_left hw), by rw [hother]; rfl⟩

/-- What is kept under texts is found under each of them. -/
theorem find?_texts {α : Type} {vs : List Value} (hvs : ∀ v ∈ vs, ∃ s, v = text s) (f : Value → α)
    {wallet : String} (h : text wallet ∈ vs) :
    (vs.map fun v => (v, f v)).find? (·.1.same (text wallet)) =
      some (text wallet, f (text wallet)) := by
  induction vs with
  | nil => cases h
  | cons v vs ih =>
    obtain ⟨s, rfl⟩ := hvs v List.mem_cons_self
    rw [List.map_cons, List.find?_cons]
    by_cases hs : wallet = s
    · rw [hs, same_text.2 rfl]
    · have hother : (text s).same (text wallet) = false :=
        Bool.eq_false_iff.2 fun hsame => hs (same_text.1 hsame)
      have hrest : text wallet ∈ vs :=
        (List.mem_cons.1 h).resolve_left fun heq => hs (Value.text.inj heq)
      simp only [hother]
      exact ih (fun w hw => hvs w (List.mem_cons_of_mem _ hw)) hrest

end Value

namespace Registry

/-- What looking a value up comes to: its record, or the default record with the reason for it. -/
inductive Finds (r : Registry) (v : Value) : Lookup → Prop
  | found {record : Record} (hv : v.IsAddress) (h : (v, record) ∈ r.snapshot.records) :
      Finds r v ⟨.ok, record⟩
  | unseen (hv : v.IsAddress) (h : v ∉ r.snapshot.keys) : Finds r v ⟨.notFound, {}⟩
  | malformed (hv : ¬ v.IsAddress) (h : v ∉ r.snapshot.keys) : Finds r v ⟨.invalidAddress, {}⟩

theorem mem_records_snapshot {r : Registry} {v : Value} {record : Record} :
    (v, record) ∈ r.snapshot.records ↔
      ∃ wallet, v = .text wallet ∧ (wallet, record) ∈ r.records := by
  constructor
  · intro h
    obtain ⟨⟨wallet, kept⟩, hmem, heq⟩ := List.mem_map.1 h
    cases heq
    exact ⟨wallet, rfl, hmem⟩
  · rintro ⟨wallet, rfl, hmem⟩
    exact List.mem_map.2 ⟨(wallet, record), hmem, rfl⟩

theorem mem_keys_snapshot {r : Registry} {v : Value} :
    v ∈ r.snapshot.keys ↔ ∃ wallet, v = .text wallet ∧ wallet ∈ wallets r.records := by
  constructor
  · intro h
    obtain ⟨⟨key, record⟩, hmem, rfl⟩ := List.mem_map.1 h
    obtain ⟨wallet, rfl, hrecord⟩ := mem_records_snapshot.1 hmem
    exact ⟨wallet, rfl, List.mem_map.2 ⟨(wallet, record), hrecord, rfl⟩⟩
  · rintro ⟨wallet, rfl, hmem⟩
    obtain ⟨⟨other, record⟩, hrecord, rfl⟩ := List.mem_map.1 hmem
    exact List.mem_map.2 ⟨(.text other, record), mem_records_snapshot.2 ⟨other, rfl, hrecord⟩, rfl⟩

theorem WellFormed.isAddress_of_mem {r : Registry} (hr : r.WellFormed) {wallet : String}
    (h : wallet ∈ wallets r.records) : IsAddress wallet := by
  obtain ⟨entry, hentry, rfl⟩ := List.mem_map.1 h
  exact (hr.records entry hentry).wallet

theorem WellFormed.isAddress_of_key {r : Registry} (hr : r.WellFormed) {v : Value}
    (h : v ∈ r.snapshot.keys) : v.IsAddress := by
  obtain ⟨wallet, rfl, hwallet⟩ := mem_keys_snapshot.1 h
  exact ⟨wallet, rfl, hr.isAddress_of_mem hwallet⟩

/-- The one account of a look-up that everything else is read off. -/
theorem WellFormed.finds_lookup {r : Registry} (hr : r.WellFormed) (v : Value) :
    r.Finds v (r.lookup v) := by
  unfold lookup
  cases hv : Address.ofValue? v with
  | none =>
    have haddress : ¬ v.IsAddress := by
      rintro ⟨wallet, rfl, hwallet⟩
      rw [Address.ofValue?_text, if_pos hwallet] at hv
      cases hv
    exact .malformed haddress (mt hr.isAddress_of_key haddress)
  | some wallet =>
    obtain ⟨rfl, hvalid⟩ := Address.ofValue?_eq_some_iff.1 hv
    have haddress : (Value.text wallet).IsAddress := ⟨wallet, rfl, Address.isValid_iff.1 hvalid⟩
    simp only
    cases hfind : find? wallet r.records with
    | none =>
      refine .unseen haddress fun hkey => ?_
      obtain ⟨other, heq, hmem⟩ := mem_keys_snapshot.1 hkey
      cases heq
      exact find?_eq_none_iff.1 hfind hmem
    | some record =>
      have hmem := (find?_eq_some_iff hr.distinct).1 hfind
      exact .found haddress (mem_records_snapshot.2 ⟨wallet, rfl, hmem⟩)

/-- Membership looks at the records as they are and finds what a look-up finds. -/
theorem WellFormed.contains_eq {r : Registry} (hr : r.WellFormed) {v : Value} (hv : v.IsString) :
    r.contains v = .ok (r.lookup v).found := by
  have hany : (r.records.any fun entry => (Value.text entry.1).same v) = true ↔
      v ∈ r.snapshot.keys := by
    rw [mem_keys_snapshot, List.any_eq_true]
    constructor
    · rintro ⟨⟨wallet, record⟩, hmem, hsame⟩
      have hwallet : wallet ∈ wallets r.records := List.mem_map.2 ⟨(wallet, record), hmem, rfl⟩
      exact ⟨wallet, (Value.same_address_iff (hr.isAddress_of_mem hwallet)).1 hsame, hwallet⟩
    · rintro ⟨wallet, rfl, hwallet⟩
      obtain ⟨entry, hmem, rfl⟩ := List.mem_map.1 hwallet
      exact ⟨entry, hmem, (Value.same_address_iff (hr.isAddress_of_mem hwallet)).2 rfl⟩
  have hfinds := hr.finds_lookup v
  generalize r.lookup v = l at hfinds ⊢
  rw [contains, hv.unkeyable?_eq]
  refine congrArg Except.ok (Bool.eq_iff_iff.2 (hany.trans ?_))
  cases hfinds with
  | found haddress h => exact iff_of_true (List.mem_map.2 ⟨_, h, rfl⟩) rfl
  | unseen haddress h => exact iff_of_false h Bool.false_ne_true
  | malformed haddress h => exact iff_of_false h Bool.false_ne_true

private theorem WellFormed.record_unique {r : Registry} (hr : r.WellFormed) {v : Value}
    {record record' : Record} (h : (v, record) ∈ r.snapshot.records)
    (h' : (v, record') ∈ r.snapshot.records) : record = record' := by
  obtain ⟨wallet, rfl, hmem⟩ := mem_records_snapshot.1 h
  obtain ⟨other, heq, hmem'⟩ := mem_records_snapshot.1 h'
  cases heq
  have hfind := (find?_eq_some_iff hr.distinct).2 hmem
  exact Option.some.inj (hfind.symm.trans ((find?_eq_some_iff hr.distinct).2 hmem'))

/-- What the answer to a look-up tells of a value, next to the snapshot of the registry. -/
structure Agrees (r : Registry) (v : Value) (l : Lookup) : Prop where
  found : l.found = true ↔ l.outcome = .ok
  key : l.outcome = .ok ↔ v ∈ r.snapshot.keys
  malformed : l.outcome = .invalidAddress ↔ ¬ v.IsAddress
  unseen : l.outcome = .notFound ↔ v.IsAddress ∧ v ∉ r.snapshot.keys
  stored : ∀ record, (v, record) ∈ r.snapshot.records ↔ l.found = true ∧ l.record = record
  unstored : l.found = false → l.record = {}

theorem Finds.agrees {r : Registry} (hr : r.WellFormed) {v : Value} {l : Lookup}
    (h : r.Finds v l) : r.Agrees v l := by
  have habsent : v ∉ r.snapshot.keys → ∀ record, (v, record) ∉ r.snapshot.records :=
    fun hv record hmem => hv (List.mem_map.2 ⟨_, hmem, rfl⟩)
  cases h with
  | found hv hrecord =>
    have hkey : v ∈ r.snapshot.keys := List.mem_map.2 ⟨_, hrecord, rfl⟩
    refine ⟨by simp [Lookup.found], by simp [hkey], by simp [hv], by simp [hkey], ?_, nofun⟩
    intro record
    constructor
    · exact fun hmem => ⟨rfl, hr.record_unique hrecord hmem⟩
    · rintro ⟨-, rfl⟩
      exact hrecord
  | unseen hv hkey =>
    exact ⟨by simp [Lookup.found], by simp [hkey], by simp [hv], by simp [hv, hkey],
      fun record => iff_of_false (habsent hkey record) (by simp [Lookup.found]), fun _ => rfl⟩
  | malformed hv hkey =>
    exact ⟨by simp [Lookup.found], by simp [hkey], by simp [hv], by simp [hv],
      fun record => iff_of_false (habsent hkey record) (by simp [Lookup.found]), fun _ => rfl⟩

theorem lookup_of_not_isString {v : Value} (h : ¬ v.IsString) (r : Registry) :
    r.lookup v = ⟨.invalidAddress, {}⟩ := by
  cases v with
  | text s => exact absurd (.text s) h
  | _ => rfl

/-- A batch of strings reads each of them once, where it is first asked for. -/
theorem recordsOf_strings (r : Registry) {vs : List Value} (h : ∀ v ∈ vs, v.IsString) :
    r.recordsOf vs = .ok ((Value.distinct vs).map fun v => (v, r.recordOf v)) := by
  simp only [recordsOf, Value.unkeyableIn?_of_strings h]

theorem recordsIn_strings (r : Registry) {vs : List Value} (h : ∀ v ∈ vs, v.IsString) :
    r.recordsIn (.list vs) = .ok ((Value.distinct vs).map fun v => (v, r.recordOf v)) :=
  r.recordsOf_strings h

/-- Each text of a batch is found among those that the batch reads. -/
theorem find?_distinct_texts (r : Registry) (wallets : List String) {wallet : String}
    (h : wallet ∈ wallets) :
    ((Value.distinct (wallets.map .text)).map fun v => (v, r.recordOf v)).find?
      (·.1.same (.text wallet)) = some (.text wallet, r.recordOf (.text wallet)) := by
  refine Value.find?_texts (fun v hv => ?_) r.recordOf (Value.mem_distinct_texts h)
  obtain ⟨w, -, rfl⟩ := List.mem_map.1 (Value.mem_of_mem_distinct hv)
  exact ⟨w, rfl⟩

end Registry

/-- The reads that a session offers on a registry behind an authority, and what is read. -/
inductive Session.Reads (r : Registry) : Session.Action → Except Failure Session.Result → Prop
  | recordOf (v : Value) : Reads r (.recordOf v) (.ok (.record (r.recordOf v)))
  | lookup (v : Value) : Reads r (.lookup v) (.ok (.lookup (r.lookup v)))
  | recordsOf (vs : Value) : Reads r (.recordsOf vs) ((r.recordsIn vs).map .records)
  | admin : Reads r .admin (.ok (.text r.admin))
  | next : Reads r .next (.ok (.text r.next))

/-- No authority is asked about a read. -/
theorem Session.step_reads {r : Registry} {s : Session} (hr : s.registry? = some r)
    {action : Session.Action} {result : Except Failure Session.Result}
    (h : Session.Reads r action result) (heard : Clocks) :
    s.step action heard = ⟨s, result, []⟩ := by
  cases h <;> simp only [step, onRegistry, hr, read]

/-- The reads of every registry that there can be agree with one another and with its snapshot. -/
theorem registry_reads_agree {r : Registry} (hr : r.Obtainable) :
    (∀ v : Value, r.Agrees v (r.lookup v) ∧ r.recordOf v = (r.lookup v).record ∧
      (v.IsString → r.contains v = .ok (r.lookup v).found) ∧
      (¬ v.IsString → r.lookup v = ⟨.invalidAddress, {}⟩)) ∧
      (∀ vs : List Value, (∀ v ∈ vs, v.IsString) → ∃ keys, Value.FirstOccurrences vs keys ∧
        r.recordsIn (.list vs) = .ok (keys.map fun v => (v, r.recordOf v))) ∧
      r.snapshot.keys.Nodup ∧ r.size = r.snapshot.keys.length ∧
      ∀ (s : Session) (authority : Authority) (heard : Clocks) (action : Session.Action)
        (result : Except Failure Session.Result), s.registry? = some r →
        Session.Reads r action result →
          ({ s with authority }.step action heard).result = result := by
  have hwf := hr.reachable.wellFormed
  refine ⟨?_, ?_, ?_, ?_, ?_⟩
  · intro v
    exact ⟨(hwf.finds_lookup v).agrees hwf, rfl, hwf.contains_eq,
      fun hv => Registry.lookup_of_not_isString hv r⟩
  · intro vs hvs
    exact ⟨Value.distinct vs, Value.firstOccurrences_distinct vs, r.recordsIn_strings hvs⟩
  · have hkeys : r.snapshot.keys = (Registry.wallets r.records).map Value.text := by
      simp [Snapshot.keys, Registry.snapshot, Registry.wallets]
    rw [hkeys]
    exact hwf.distinct.map fun _ _ => Value.text.inj
  · simp [Registry.size, Snapshot.keys, Registry.snapshot]
  · intro s authority heard action result hs hreads
    exact congrArg Session.Step.result
      (Session.step_reads (s := { s with authority }) hs hreads heard)

theorem registry_reads_agree_patchy :
    let kept : Value := .text (Address.repeating 'D')
    let asked : List Value := [kept, .text "", kept]
    Registry.patched.contains kept = .ok true ∧
      Registry.patched.recordOf kept = { status := .status .active, trustScore := .int 50 } ∧
      (∃ keys, Value.FirstOccurrences asked keys ∧ Registry.patched.recordsIn (.list asked) =
        .ok (keys.map fun v => (v, Registry.patched.recordOf v))) ∧
      ({ registry? := some Registry.patched, authority := .undecided : Session }.step
        .admin).result = .ok (.text (Address.repeating 'A')) := by
  intro kept asked
  obtain ⟨hreads, hbatches, -, -, hpublic⟩ :=
    registry_reads_agree (.restore Registry.isProper_patchy Registry.restore_patchy)
  obtain ⟨hagrees, hrecord, hcontains, -⟩ := hreads kept
  have hstored : (kept, { status := .status .active, trustScore := .int 50 }) ∈
      Registry.patched.snapshot.records := by
    simp [Registry.patched, Registry.snapshot, kept]
  obtain ⟨hfound, hkept⟩ := (hagrees.stored _).1 hstored
  refine ⟨?_, hrecord.trans hkept, hbatches asked ?_, ?_⟩
  · rw [hcontains (.text _), hfound]
  · intro v hv
    simp only [asked, List.mem_cons, List.not_mem_nil, or_false] at hv
    rcases hv with rfl | rfl | rfl <;> exact .text _
  · exact hpublic { registry? := some Registry.patched } .undecided _ .admin _ rfl .admin

end WalletTrust
