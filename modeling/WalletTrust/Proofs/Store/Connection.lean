import WalletTrust.Proofs.Outcome
import WalletTrust.Store.Basic

/-!
# Connections to a database

A connection that is tried may make a file, but it changes neither the tables that are found nor
whether they may be changed. Tables that are put where some could be found are found there.
-/

namespace WalletTrust

open Store (Access Content Place Tables)

namespace Disk

theorem hasModel_of_contentAt {d : Disk} {place : Place} {a : Access} {content : Content}
    (h : d.contentAt place a = .ok content) : d.hasModel a = true := by
  by_cases hm : d.hasModel a = true
  · exact hm
  · simp [contentAt, hm] at h

private theorem hasModel_set {d : Disk} {a : Access} (h : d.hasModel a = true) (place : Place)
    (content : Content) : (d.set place content).hasModel a = true := by
  unfold hasModel at h ⊢
  cases hmodel : a.model? with
  | none => rfl
  | some path =>
    rw [hmodel] at h
    by_cases hp : place = .file path
    · simp [get?_set, hp]
    · simpa [get?_set, hp] using h

theorem contentAt_set {d : Disk} {a : Access} (h : d.hasModel a = true) (place : Place)
    (content : Content) : (d.set place content).contentAt place a = .ok content := by
  simp [contentAt, hasModel_set h, get?_set]

private theorem contentAt_touch (d : Disk) (place : Place) (a : Access) :
    (d.touch place a).contentAt place a = d.contentAt place a := by
  unfold touch
  split
  · rename_i content h
    rw [contentAt_set (hasModel_of_contentAt h), h]
  · rfl

/-- A file that is not there yet may be changed as far as its connection may change anything. -/
theorem isWritable_touch (d : Disk) (place : Place) (a : Access) :
    (d.touch place a).isWritable place a = d.isWritable place a := by
  unfold touch
  split
  · rename_i content h
    have hmodel := hasModel_of_contentAt h
    cases place with
    | cache name file =>
      cases hget : d.get? (.cache name file) with
      | some present =>
        simp only [contentAt, hmodel, hget, Bool.not_true, Bool.false_eq_true, if_false,
          Except.ok.injEq] at h
        subst h
        simp [isWritable, get?_set, hget]
      | none =>
        cases hcreates : a.creates with
        | false => simp [contentAt, hmodel, hget, hcreates] at h
        | true =>
          simp only [contentAt, hmodel, hget, hcreates, Bool.not_true, Bool.false_eq_true, if_false,
            if_true, Except.ok.injEq] at h
          subst h
          cases hw : a.writable <;> simp [isWritable, get?_set, hget, hw, Content.fresh]
    | _ => rfl
  · rfl

theorem set_set (d : Disk) (place : Place) (first second : Content) :
    (d.set place first).set place second = d.set place second := by
  simp [set, List.filter_filter]

private theorem isWritable_set_tables {d : Disk} {place : Place} {a : Access}
    (h : d.isWritable place a = true) (t : Tables) :
    (d.set place (.tables t)).isWritable place a = true := by
  cases place with
  | cache name file => simp [isWritable, get?_set]
  | _ => exact h

end Disk

namespace Store

@[simp] theorem touched_location (s : Store) : s.touched.location = s.location := by
  unfold touched
  split <;> rfl

@[simp] theorem touched_fault? (s : Store) : s.touched.fault? = s.fault? := by
  unfold touched
  split <;> rfl

theorem content_touched (s : Store) : s.touched.content = s.content := by
  unfold content touched
  cases hl : s.location with
  | shared place access => simp only [Disk.contentAt_touch]
  | own usable writable => simp only [hl]
  | unreachable f => simp only [hl]

theorem found_of_sound {s : Store} (h : s.fault? = none) : s.found = s.content := by
  rw [found, strike, h]
  rfl

theorem found_touched (s : Store) : s.touched.found = s.found := by
  unfold found strike
  rw [touched_fault?, content_touched]

theorem isWritable_touched (s : Store) : s.touched.isWritable = s.isWritable := by
  unfold isWritable touched
  cases hl : s.location with
  | shared place access => simp only [Disk.isWritable_touch]
  | own usable writable => simp only [hl]
  | unreachable f => simp only [hl]

@[simp] theorem put_location (s : Store) (tables? : Option Tables) :
    (s.put tables?).location = s.location := by
  unfold put
  split <;> rfl

@[simp] theorem put_fault? (s : Store) (tables? : Option Tables) :
    (s.put tables?).fault? = s.fault? := by
  unfold put
  split <;> rfl

theorem put_put (s : Store) (first? second? : Option Tables) :
    (s.put first?).put second? = s.put second? := by
  unfold put
  cases hl : s.location with
  | own usable writable => simp only
  | shared place access => simp only [Disk.set_set]
  | unreachable f => simp only [hl]

private theorem content_put {s : Store} {found? : Option Tables} (h : s.content = .ok found?)
    (tables? : Option Tables) : (s.put tables?).content = .ok tables? := by
  unfold content at h
  cases hl : s.location with
  | own usable writable => simp only [content, put, hl]
  | shared place access =>
    simp only [hl] at h
    obtain ⟨content, hcontent, -⟩ := bind_ok h
    have hset := Disk.contentAt_set (Disk.hasModel_of_contentAt hcontent) place (.ofTables? tables?)
    simp only [Store.content, put, hl, hset]
    exact Content.tables?_ofTables? tables?
  | unreachable f =>
    rw [hl] at h
    cases h

theorem found_put {s : Store} {found? : Option Tables} (h : s.found = .ok found?)
    (tables? : Option Tables) : (s.put tables?).found = .ok tables? := by
  obtain ⟨_, hstrike, hcontent⟩ := bind_ok h
  have hstill : (s.put tables?).strike 0 = .ok () := by rwa [strike, put_fault?]
  rw [found, hstill, content_put hcontent]
  rfl

theorem isWritable_put {s : Store} (h : s.isWritable = true) (t : Tables) :
    (s.put (some t)).isWritable = true := by
  unfold isWritable at h
  cases hl : s.location with
  | own usable writable => simpa only [isWritable, put, hl] using h
  | shared place access =>
    simp only [hl] at h
    simp only [isWritable, put, hl, Content.ofTables?]
    exact Disk.isWritable_set_tables h t
  | unreachable f =>
    rw [hl] at h
    cases h

/-- A database with these tables, which may be changed, and a driver that does not give up. -/
structure Offers (s : Store) (t : Tables) : Prop where
  found : s.found = .ok (some t)
  writable : s.isWritable = true
  sound : s.fault? = none

theorem Offers.touched {s : Store} {t : Tables} (h : s.Offers t) : s.touched.Offers t := by
  refine ⟨?_, ?_, ?_⟩
  · rw [found_touched, h.found]
  · rw [isWritable_touched, h.writable]
  · rw [touched_fault?, h.sound]

theorem Offers.put {s : Store} {old : Tables} (h : s.Offers old) (t : Tables) :
    (s.put (some t)).Offers t := by
  refine ⟨found_put h.found _, isWritable_put h.writable t, ?_⟩
  rw [put_fault?, h.sound]

theorem tables_of_found {s : Store} {t : Tables} (h : s.found = .ok (some t)) :
    s.tables = .ok t := by simp [tables, h, bind, Except.bind]

theorem found_of_tables {s : Store} {t : Tables} (h : s.tables = .ok t) :
    s.found = .ok (some t) := by
  obtain ⟨found?, hfound, ht⟩ := bind_ok h
  cases found? with
  | none => cases ht
  | some found =>
    cases ht
    exact hfound

/-- The database of a store that another store can reach as well. -/
def IsShared (s : Store) : Prop := ∃ place access, s.location = .shared place access

theorem touched_own? (s : Store) : s.touched.own? = s.own? := by
  unfold touched
  split <;> rfl

theorem tables_eq_ok {s : Store} {t t' : Tables} (hfound : s.found = .ok (some t))
    (h : s.tables = .ok t') : t' = t := by
  rw [tables_of_found hfound] at h
  exact (Except.ok.inj h).symm

theorem isWritable_of_checkWritable {s : Store} (h : s.checkWritable = .ok ()) :
    s.isWritable = true := by
  unfold checkWritable at h
  split at h
  · assumption
  · cases h

theorem checkWritable_of_isWritable {s : Store} (h : s.isWritable = true) :
    s.checkWritable = .ok () := if_pos h

private theorem write_eq_ok {s s' : Store} {tables? : Option Tables}
    (h : (s.write tables?).outcome = (s', .ok ())) : s' = s.put tables? := by
  rw [write, Process.bind_apply, Process.query_apply] at h
  cases hcheck : s.checkWritable with
  | error f =>
    rw [hcheck] at h
    cases h
  | ok _ =>
    rw [hcheck] at h
    exact (congrArg Prod.fst h).symm

/-- Tables are created only where none are found. -/
theorem created_eq_ok {s s' : Store} (h : s.created.outcome = (s', .ok ())) :
    ∃ found?, s.found = .ok found? ∧ s'.found = .ok (some (found?.getD {})) ∧
      s'.location = s.location ∧ s'.fault? = s.fault? := by
  rw [created, Process.bind_apply, Process.query_apply] at h
  cases hfound : s.found with
  | error f =>
    rw [hfound] at h
    cases h
  | ok found? =>
    rw [hfound] at h
    refine ⟨found?, rfl, ?_⟩
    cases found? with
    | some t =>
      cases h
      exact ⟨hfound, rfl, rfl⟩
    | none =>
      rw [write_eq_ok h]
      exact ⟨found_put hfound _, put_location s _, put_fault? s _⟩

theorem created_of_found {s : Store} {t : Tables} (h : s.found = .ok (some t)) :
    s.created.outcome = (s, .ok ()) := by
  rw [created, Process.bind_apply, Process.query_apply, h]
  rfl

theorem initialise_outcome (s : Store) : s.initialise.outcome = s.created.outcome := by
  unfold initialise
  rw [Process.bind_apply, Process.rescue_apply]
  obtain ⟨answer, state, log⟩ := s.created
  cases answer <;> rfl

end Store
end WalletTrust
