import WalletTrust.Proofs.Store.Connection

/-!
# Transactions

The statements of a transaction change the tables of a database and nothing else of its store, so
that rolling back leaves the store as it was at the start, wherever the transaction came to an end.
A transaction that is committed has carried out all of its statements on the tables that it found.
-/

namespace WalletTrust.Store

/-! ## What statements leave -/

/-- A store on the same database, whose content may be another one. -/
def SameDatabase (s s' : Store) : Prop := ∃ disk own?, s' = { s with disk, own? }

namespace SameDatabase

theorem refl (s : Store) : s.SameDatabase s := ⟨s.disk, s.own?, rfl⟩

private theorem put (s : Store) (tables? : Option Tables) : s.SameDatabase (s.put tables?) := by
  unfold Store.put
  split
  · exact ⟨s.disk, tables?, rfl⟩
  · exact ⟨_, s.own?, rfl⟩
  · exact refl s

theorem trans {s s' s'' : Store} (h : s.SameDatabase s') (h' : s'.SameDatabase s'') :
    s.SameDatabase s'' := by
  obtain ⟨disk, own?, rfl⟩ := h
  obtain ⟨disk', own?', rfl⟩ := h'
  exact ⟨disk', own?', rfl⟩

theorem fault?_eq {s s' : Store} (h : s.SameDatabase s') : s'.fault? = s.fault? := by
  obtain ⟨disk, own?, rfl⟩ := h
  rfl

theorem rolledBack_eq {s s' : Store} (h : s.SameDatabase s') : rolledBack s s' = s := by
  obtain ⟨disk, own?, rfl⟩ := h
  rfl

end SameDatabase

/-- An operation that leaves a store on its database, whether it fails or not. -/
def Stays {α : Type} (x : Process Store α) : Prop := ∀ s : Store, s.SameDatabase (x s).state

namespace Stays

variable {α β : Type}

theorem pure (a : α) : Stays (Pure.pure a) := fun s => .refl s

theorem ask (op : Store → Logged α) : Stays (Process.ask op) := fun s => .refl s

theorem bind {x : Process Store α} {f : α → Process Store β} (hx : Stays x)
    (hf : ∀ a, Stays (f a)) : Stays (x >>= f) := by
  intro s
  have hfirst := hx s
  rw [Process.bind_apply]
  generalize x s = e at hfirst ⊢
  obtain ⟨answer, left, log⟩ := e
  cases answer with
  | error f => exact hfirst
  | ok a => exact hfirst.trans (hf a left)

theorem put (tables? : Option Tables) : Stays (Process.modify (·.put tables?)) :=
  fun s => .put s tables?

end Stays

theorem stays_execute (statement : Statement) : Stays (execute statement) := by
  unfold execute
  refine .bind (.ask _) fun t => .bind (.ask _) fun _ => .bind (.ask _) fun t' => ?_
  exact .put (some t')

theorem stays_carryOut (position : Nat) (statements : List Statement) :
    Stays (carryOut position statements) := by
  induction statements generalizing position with
  | nil => exact .pure position
  | cons statement rest ih =>
    exact .bind (.ask _) fun _ => .bind (stays_execute statement) fun _ => ih (position + 1)

theorem stays_replace (snapshot : Snapshot) : Stays (replace snapshot) := by
  unfold replace
  refine .bind (stays_carryOut 0 _) fun position => .bind (.ask _) fun statuses => ?_
  exact .bind (stays_carryOut position _) fun position => .ask _

/-- Whatever a transaction had done when it failed, it leaves what was there at the start. -/
theorem transaction_of_error {α : Type} {x : Process Store α} (hx : Stays x) {s : Store}
    {f : Failure} (hf : (x s).answer = .error f) : (s.transaction x).outcome = (s, .error f) := by
  have hleft := (hx s).rolledBack_eq
  unfold transaction
  generalize x s = e at hf hleft ⊢
  obtain ⟨answer, left, log⟩ := e
  cases hf
  simp only [Effect.rescue_error, Process.bind_apply, Process.modify_apply, Effect.andThen_ok,
    Process.fail_apply]
  exact congrArg (·, Except.error f) hleft

private theorem transaction_of_ok {α : Type} {x : Process Store α} {s : Store} {a : α}
    (ha : (x s).answer = .ok a) : (s.transaction x).outcome = (x s).outcome := by
  unfold transaction
  generalize x s = e at ha ⊢
  obtain ⟨answer, left, log⟩ := e
  cases ha
  rfl

/-! ## What statements make of tables -/

namespace Tables

def afterAll (t : Tables) (statements : List Statement) : Except Failure Tables :=
  statements.foldlM after t

theorem afterAll_cons (t : Tables) (statement : Statement) (rest : List Statement) :
    t.afterAll (statement :: rest) = t.after statement >>= fun t => t.afterAll rest := rfl

/-- Adds the rows of records with the names of their statuses, in their order. -/
def addRecords : Tables → List ((Value × Record) × Value) → Except Failure Tables
  | t, [] => .ok t
  | t, ((wallet, record), status) :: rest => do
    let row ← rowOf wallet status record.trustScore record.updatedAt
    let t ← t.addRow row
    addRecords t rest

/-- The tables that hold exactly a snapshot. The properties are written before the rows. -/
def ofSnapshot (s : Snapshot) : Except Failure Tables := do
  let statuses ← namedStatuses s.records
  let admin ← propertyOf (.text adminKey) (orEmpty s.admin)
  let next ← propertyOf (.text nextKey) (orEmpty s.next)
  addRecords ((Tables.putProperty {} admin).putProperty next) (s.records.zip statuses)

private theorem fst_of_propertyOf {key : String} {v : Value} {entry : Cell × Cell}
    (h : propertyOf (.text key) v = .ok entry) : entry.1 = .text key := by
  obtain ⟨_, hkey, h⟩ := bind_ok h
  obtain ⟨_, -, h⟩ := bind_ok h
  obtain ⟨_, hcell, h⟩ := bind_ok h
  obtain ⟨_, -, h⟩ := bind_ok h
  cases hkey
  cases hcell
  cases h
  rfl

private theorem afterAll_insertRows (t : Tables) (entries : List ((Value × Record) × Value)) :
    t.afterAll (entries.map fun ((wallet, record), status) =>
      .insertRow wallet status record.trustScore record.updatedAt) = addRecords t entries := by
  induction entries generalizing t with
  | nil => rfl
  | cons entry rest ih =>
    obtain ⟨⟨wallet, record⟩, status⟩ := entry
    rw [List.map_cons, afterAll_cons, addRecords, after, bind_assoc]
    congr 1
    funext row
    congr 1
    funext t
    exact ih t

theorem adminKey_ne_nextKey : adminKey ≠ nextKey := by decide

/-- The statements that insert a snapshot make its tables of empty ones. -/
theorem afterAll_insertions (s : Snapshot) (statuses : List Value) :
    ({} : Tables).afterAll (insertions s statuses) = (do
      let admin ← propertyOf (.text adminKey) (orEmpty s.admin)
      let next ← propertyOf (.text nextKey) (orEmpty s.next)
      addRecords ((Tables.putProperty {} admin).putProperty next) (s.records.zip statuses)) := by
  have hsecond : ∀ {admin next}, propertyOf (.text adminKey) (orEmpty s.admin) = .ok admin →
      propertyOf (.text nextKey) (orEmpty s.next) = .ok next →
      (Tables.putProperty {} admin).addProperty next =
        .ok ((Tables.putProperty {} admin).putProperty next) := by
    intro admin next hadmin hnext
    have hne : admin.1 ≠ next.1 := by
      rw [fst_of_propertyOf hadmin, fst_of_propertyOf hnext]
      exact fun h => adminKey_ne_nextKey (Cell.text.inj h)
    simp [addProperty, putProperty, hne]
  simp only [insertions, afterAll_cons, after]
  cases hadmin : propertyOf (.text adminKey) (orEmpty s.admin) with
  | error f => rfl
  | ok admin =>
    cases hnext : propertyOf (.text nextKey) (orEmpty s.next) with
    | error f => rfl
    | ok next =>
      show ((Tables.putProperty {} admin).addProperty next >>= _) = _
      rw [hsecond hadmin hnext]
      exact afterAll_insertRows _ _

theorem ofSnapshot_eq (s : Snapshot) :
    ofSnapshot s = namedStatuses s.records >>= fun statuses =>
      ({} : Tables).afterAll (insertions s statuses) := by
  unfold ofSnapshot
  congr 1
  funext statuses
  rw [afterAll_insertions]

end Tables

/-! ## Transactions that are committed -/

private theorem execute_eq_ok {s left : Store} {statement : Statement}
    (h : (s.execute statement).outcome = (left, .ok ())) :
    ∃ t t', s.found = .ok (some t) ∧ s.isWritable = true ∧ t.after statement = .ok t' ∧
      left = s.put (some t') := by
  obtain ⟨t, ht, h⟩ := Process.query_bind_ok h
  obtain ⟨_, hcheck, h⟩ := Process.query_bind_ok h
  obtain ⟨t', ht', h⟩ := Process.query_bind_ok h
  exact ⟨t, t', found_of_tables ht, isWritable_of_checkWritable hcheck, ht',
    (congrArg Prod.fst h).symm⟩

/-- Statements of which none fails leave what they make of the tables that the first one finds. -/
theorem carryOut_eq_ok {s left : Store} {position last : Nat} {statement : Statement}
    {rest : List Statement}
    (h : (s.carryOut position (statement :: rest)).outcome = (left, .ok last)) :
    ∃ t t', s.found = .ok (some t) ∧ s.isWritable = true ∧
      t.afterAll (statement :: rest) = .ok t' ∧ left = s.put (some t') := by
  induction rest generalizing s position statement with
  | nil =>
    obtain ⟨_, -, h⟩ := Process.query_bind_ok h
    obtain ⟨_, mid, hfirst, h⟩ := Process.bind_ok h
    obtain rfl : mid = left := congrArg Prod.fst h
    obtain ⟨t, t', hfound, hwritable, ht', hleft⟩ := execute_eq_ok hfirst
    refine ⟨t, t', hfound, hwritable, ?_, hleft⟩
    rw [Tables.afterAll_cons, ht']
    rfl
  | cons next rest ih =>
    obtain ⟨_, -, h⟩ := Process.query_bind_ok h
    obtain ⟨_, mid, hfirst, hrest⟩ := Process.bind_ok h
    obtain ⟨t, first, hfound, hwritable, hafter, rfl⟩ := execute_eq_ok hfirst
    obtain ⟨found, t', hnow, -, hlast, rfl⟩ := ih hrest
    obtain rfl : first = found := by
      rw [found_put hfound] at hnow
      exact Option.some.inj (Except.ok.inj hnow)
    refine ⟨t, t', hfound, hwritable, ?_, put_put _ _ _⟩
    rw [Tables.afterAll_cons, hafter]
    exact hlast

/-- A replacement that is committed puts the tables of the snapshot where others were found. -/
theorem replace_eq_ok {s left : Store} {snapshot : Snapshot}
    (h : (s.replace snapshot).outcome = (left, .ok ())) :
    ∃ old t, s.found = .ok (some old) ∧ s.isWritable = true ∧
      Tables.ofSnapshot snapshot = .ok t ∧ left = s.put (some t) := by
  obtain ⟨_, mid, hdeleted, h⟩ := Process.bind_ok h
  obtain ⟨old, empty, hold, hwritable, hempty, rfl⟩ := carryOut_eq_ok hdeleted
  obtain rfl : {} = empty := Except.ok.inj hempty
  obtain ⟨statuses, hstatuses, h⟩ := Process.query_bind_ok h
  obtain ⟨_, mid, hinserted, h⟩ := Process.bind_ok h
  obtain ⟨found, t, hnow, -, ht, rfl⟩ := carryOut_eq_ok hinserted
  obtain rfl : {} = found := by
    rw [found_put hold] at hnow
    exact Option.some.inj (Except.ok.inj hnow)
  refine ⟨old, t, hold, hwritable, ?_, (congrArg Prod.fst h).symm.trans (put_put _ _ _)⟩
  rw [Tables.ofSnapshot_eq, hstatuses]
  exact ht

theorem strike_of_sound {s : Store} (h : s.fault? = none) (position : Nat) :
    s.strike position = .ok () := by rw [strike, h]

private theorem Offers.execute {s : Store} {t : Tables} (h : s.Offers t) (statement : Statement) :
    s.execute statement = match t.after statement with
      | .ok t' => ⟨.ok (), s.put (some t'), []⟩
      | .error f => ⟨.error f, s, []⟩ := by
  simp only [Store.execute, Process.bind_apply, Process.query_apply, tables_of_found h.found,
    checkWritable_of_isWritable h.writable, Effect.andThen_ok, Process.ofExcept_apply]
  cases t.after statement <;> rfl

private theorem Offers.carryOut_answer {s : Store} {t : Tables} (h : s.Offers t) (position : Nat)
    (statements : List Statement) : (s.carryOut position statements).answer =
      (t.afterAll statements).map fun _ => position + statements.length := by
  induction statements generalizing s t position with
  | nil => rfl
  | cons statement rest ih =>
    simp only [carryOut, Process.bind_apply, Process.query_apply, strike_of_sound h.sound,
      Effect.andThen_ok, h.execute, Tables.afterAll_cons]
    cases hafter : t.after statement with
    | error f => rfl
    | ok t' =>
      have hrest := ih (h.put t') (position + 1)
      rw [Nat.add_right_comm, Nat.add_assoc] at hrest
      exact hrest

/-- Where tables may be changed and the driver does not give up, only the snapshot can be at fault
if it does not replace them. -/
theorem Offers.replace_answer {s : Store} {old : Tables} (h : s.Offers old) (snapshot : Snapshot) :
    (s.replace snapshot).answer = (Tables.ofSnapshot snapshot).map fun _ => () := by
  have hdeleted := h.carryOut_answer 0 [.deleteRows, .deleteProperties]
  have hleft : (s.carryOut 0 [.deleteRows, .deleteProperties]).state = s.put (some {}) := by
    obtain ⟨_, t, _, _, ht, hleft⟩ := carryOut_eq_ok (Prod.ext rfl hdeleted)
    obtain rfl : {} = t := Except.ok.inj ht
    exact hleft
  unfold replace
  rw [Process.bind_answer, hdeleted, hleft, Tables.ofSnapshot_eq]
  show ((Process.ofExcept _ >>= _) _).answer = _
  rw [Process.bind_answer, Process.ofExcept_apply]
  cases Tables.namedStatuses snapshot.records with
  | error f => rfl
  | ok statuses =>
    show ((carryOut 2 (insertions snapshot statuses) >>= _) _).answer =
      (({} : Tables).afterAll (insertions snapshot statuses)).map _
    rw [Process.bind_answer, (h.put {}).carryOut_answer]
    cases ({} : Tables).afterAll (insertions snapshot statuses) with
    | error f => rfl
    | ok t =>
      -- the driver has not given up on the commit either
      have hsame := (stays_carryOut 2 (insertions snapshot statuses) (s.put (some {}))).fault?_eq
      exact strike_of_sound (hsame.trans (h.put {}).sound) _

/-! ## Saving -/

theorem saveSnapshot_outcome (s : Store) (snapshot : Snapshot) :
    (s.saveSnapshot snapshot).outcome = (s.transaction (replace snapshot)).outcome := by
  unfold saveSnapshot
  rw [Process.bind_apply]
  generalize s.transaction (replace snapshot) = e
  obtain ⟨answer, left, log⟩ := e
  cases answer <;> rfl

theorem saveSnapshot_of_error {s : Store} {snapshot : Snapshot} {f : Failure}
    (hf : (s.replace snapshot).answer = .error f) :
    (s.saveSnapshot snapshot).outcome = (s, .error f) :=
  (s.saveSnapshot_outcome snapshot).trans (transaction_of_error (stays_replace snapshot) hf)

theorem saveSnapshot_of_ok {s : Store} {snapshot : Snapshot}
    (hok : (s.replace snapshot).answer = .ok ()) :
    ∃ old t, s.found = .ok (some old) ∧ s.isWritable = true ∧
      Tables.ofSnapshot snapshot = .ok t ∧
      (s.saveSnapshot snapshot).outcome = (s.put (some t), .ok ()) := by
  obtain ⟨old, t, hold, hwritable, ht, hleft⟩ := replace_eq_ok (Prod.ext rfl hok)
  refine ⟨old, t, hold, hwritable, ht, ?_⟩
  rw [saveSnapshot_outcome, transaction_of_ok hok]
  exact Prod.ext hleft hok

/-- Saving a snapshot fails and leaves the store as it was, or it replaces the tables that were
found. -/
theorem saveSnapshot_cases (s : Store) (snapshot : Snapshot) :
    (∃ f, (s.saveSnapshot snapshot).outcome = (s, .error f)) ∨
      ∃ old t, s.found = .ok (some old) ∧ s.isWritable = true ∧
        Tables.ofSnapshot snapshot = .ok t ∧
        (s.saveSnapshot snapshot).outcome = (s.put (some t), .ok ()) := by
  cases hanswer : (s.replace snapshot).answer with
  | error f => exact .inl ⟨f, saveSnapshot_of_error hanswer⟩
  | ok _ => exact .inr (saveSnapshot_of_ok hanswer)

theorem saveSnapshot_eq_ok {s left : Store} {snapshot : Snapshot}
    (h : (s.saveSnapshot snapshot).outcome = (left, .ok ())) :
    ∃ old t, s.found = .ok (some old) ∧ s.isWritable = true ∧
      Tables.ofSnapshot snapshot = .ok t ∧ left = s.put (some t) := by
  rcases s.saveSnapshot_cases snapshot with ⟨f, hf⟩ | ⟨old, t, hold, hwritable, ht, hok⟩
  · cases h.symm.trans hf
  · exact ⟨old, t, hold, hwritable, ht, congrArg Prod.fst (h.symm.trans hok)⟩

theorem Offers.saveSnapshot_of_ok {s : Store} {old t : Tables} (h : s.Offers old)
    {snapshot : Snapshot} (ht : Tables.ofSnapshot snapshot = .ok t) :
    (s.saveSnapshot snapshot).outcome = (s.put (some t), .ok ()) := by
  have hanswer := h.replace_answer snapshot
  rw [ht] at hanswer
  obtain ⟨_, t', _, _, ht', hok⟩ := Store.saveSnapshot_of_ok hanswer
  obtain rfl : t = t' := Except.ok.inj (ht.symm.trans ht')
  exact hok

theorem Offers.saveSnapshot_of_error {s : Store} {old : Tables} (h : s.Offers old)
    {snapshot : Snapshot} {f : Failure} (hf : Tables.ofSnapshot snapshot = .error f) :
    (s.saveSnapshot snapshot).outcome = (s, .error f) := by
  refine Store.saveSnapshot_of_error ?_
  rw [h.replace_answer, hf]
  rfl

end WalletTrust.Store
