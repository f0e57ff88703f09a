import WalletTrust.Host
import WalletTrust.Proofs.Json.Obstacles
import WalletTrust.Proofs.Log.Record

/-!
# Failures of observers are settled

Whatever an observer fails with is shown by a string, and a report that holds strings alone can be
written. Calling the hook of an observer for a notice therefore always comes to an end that is
reported, so that a fan-out passes a notice on to all of its children and never fails itself. The
proofs are by induction over the tree, where all that is not a fan-out is a leaf.
-/

namespace WalletTrust

/-! ## Failures that can be shown -/

namespace Value

private theorem isWritable_ofPoints (points : Text.Points) :
    (ofPoints points).isWritable = true := by
  unfold ofPoints
  split <;> rfl

end Value

/-- Only failures of the domain have messages that were handed over as values. -/
theorem Failure.shown_of_code? {f : Failure} (h : f.code? = none) :
    f.shown = .ok f.message.displayed := by
  cases f with
  | general | invalidAddress | invalidStatus | unauthorized => cases h
  | observerFailed message => exact if_pos (Value.isWritable_ofPoints message)
  | noAttribute kind member => exact if_pos (Value.isWritable_ofPoints _)
  | _ => exact if_pos rfl

/-- An operation that does not fail with a failure of the domain. -/
def IsForeign {α : Type} (x : Except Failure α) : Prop := ∀ f, x = .error f → f.code? = none

namespace IsForeign

variable {α β : Type}

private theorem ok (a : α) : IsForeign (.ok a) := nofun

private theorem error {f : Failure} (h : f.code? = none) :
    IsForeign (.error f : Except Failure α) := by
  rintro _ ⟨⟩
  exact h

private theorem bind {x : Except Failure α} {f : α → Except Failure β} (hx : IsForeign x)
    (hf : ∀ a, IsForeign (f a)) : IsForeign (x >>= f) := by
  cases x with
  | error e => exact error (hx e rfl)
  | ok a => exact hf a

private theorem map {x : Except Failure α} (hx : IsForeign x) (f : α → β) :
    IsForeign (x.map f) := by
  cases x with
  | error e => exact error (hx e rfl)
  | ok a => exact ok _

end IsForeign

theorem Log.Entry.isForeign_check (e : Entry) : IsForeign e.check := by
  refine .map (.map ?_ _) _
  intro f hf
  exact (Json.obstacle_of_check _ hf).code?_eq_none

namespace Observer

private theorem isForeign_nameOf (v : Value) : IsForeign (Status.nameOf v) := by
  cases v with
  | status s => exact .ok _
  | _ => exact .error rfl

private theorem isForeign_journalEntry (n : Notice) : IsForeign (journalEntry n) := by
  cases n with
  | registered wallet status score => exact .bind (isForeign_nameOf status) fun _ => .ok _
  | statusChanged wallet old new score =>
    exact .bind (isForeign_nameOf old) fun _ => .bind (isForeign_nameOf new) fun _ => .ok _
  | contractUpgraded address => exact .ok _

private theorem isForeign_writeJournal (n : Notice) : IsForeign (writeJournal n).answer := by
  unfold writeJournal
  cases h : journalEntry n with
  | error f => exact .error (isForeign_journalEntry n f h)
  | ok e =>
    show IsForeign (Logged.report e).answer
    unfold Logged.report
    cases hcheck : e.check with
    | ok _ => exact .ok _
    | error f => exact .error (e.isForeign_check f hcheck)

/-! ## Calling a hook -/

def isFanOut : Observer → Bool
  | .fanOut _ => true
  | _ => false

theorem byLeaves {P : Observer → Prop} (leaf : ∀ o, o.isFanOut = false → P o)
    (fanOut : ∀ children, (∀ child ∈ children, P child) → P (.fanOut children)) : ∀ o, P o
  | .fanOut children => fanOut children fun child _ => byLeaves leaf fanOut child
  | .silent => leaf _ rfl
  | .journal => leaf _ rfl
  | .recorder _ => leaf _ rfl
  | .faulty _ _ _ => leaf _ rfl
  | .custom _ _ _ => leaf _ rfl
  | .nobody => leaf _ rfl

/-- The report of an observer that failed in a hook with something that can be shown. -/
def report (o : Observer) (source : Log.Source) (event hook : String) (f : Failure) : Log.Entry :=
  { source, level := .error, event
    fields := [("hook", .text hook), ("notifier", .text o.label), ("error", f.message.displayed)] }

private theorem check_report (o : Observer) (source : Log.Source) (event hook : String)
    (f : Failure) : (o.report source event hook f).check = .ok () := by
  have hfree : Log.AreFree (o.report source event hook f).fields :=
    ⟨by simp [report], by simp [report, Log.reservedNames]⟩
  rw [Log.Entry.check_eq hfree]
  simp only [report, List.map_cons, List.map_nil, Json.named, Json.checkEntries, Json.checkName,
    Json.check, Value.displayed, Json.check_ofPoints]
  rfl

/-- A failure that can be shown is reported, and goes no further. -/
theorem settled_of_error (o : Observer) (source : Log.Source) (event hook : String)
    {reaction : Effect Observer Unit} {f : Failure} (hf : reaction.answer = .error f)
    (hforeign : f.code? = none) :
    o.settled source event (.text hook) reaction =
      ⟨.ok (), reaction.state, reaction.log ++ [o.report source event hook f]⟩ := by
  have hentry :
      o.failureEntry source event (.text hook) f = .ok (o.report source event hook f) := by
    rw [failureEntry, Failure.shown_of_code? hforeign]
    rfl
  have hreport : (Logged.ofExcept (o.failureEntry source event (.text hook) f) >>=
      Logged.report) = .tell [o.report source event hook f] := by
    rw [hentry]
    show (Logged.ofExcept (.ok (o.report source event hook f))).andThen Logged.report = _
    simp only [Logged.ofExcept, Logged.andThen, Logged.report, check_report]
    rfl
  obtain ⟨answer, state, log⟩ := reaction
  cases hf
  simp [settled, hreport, Logged.tell]

theorem settled_of_ok (o : Observer) (source : Log.Source) (event : String) (hook : Value)
    {reaction : Effect Observer Unit} (h : reaction.answer = .ok ()) :
    o.settled source event hook reaction = reaction := by
  obtain ⟨answer, state, log⟩ := reaction
  cases h
  rfl

private theorem isForeign_record (clock : Clock) (n : Notice) (keep : List Event → Observer)
    (events : List Event) : IsForeign (record clock n keep events).answer := by
  cases clock with
  | some now => exact .ok _
  | none => exact .error rfl

private theorem answer_receiveAll (n : Notice) {children : List Observer}
    (ih : ∀ child ∈ children, ∀ clocks, IsForeign (child.receive clocks n).answer)
    (clocks : Clocks) (position : Nat) :
    (receiveAll clocks n position children).answer = .ok () := by
  induction children generalizing position with
  | nil => rfl
  | cons child rest ihrest =>
    obtain ⟨hchild, hrest⟩ := List.forall_mem_cons.1 ih
    have hsettled : (child.settledChild (.text n.kind.hook)
        (child.receive (clocks.child position) n)).answer = .ok () := by
      cases hfirst : (child.receive (clocks.child position) n).answer with
      | ok _ => rw [settledChild, settled_of_ok child _ _ _ hfirst, hfirst]
      | error f => rw [settledChild, settled_of_error child _ _ _ hfirst (hchild _ f hfirst)]
    rw [receiveAll, joined, hsettled]
    exact ihrest hrest (position + 1)

/-- No observer fails with a failure of the domain. -/
theorem isForeign_receive (clocks : Clocks) (n : Notice) (o : Observer) :
    IsForeign (o.receive clocks n).answer := by
  induction o using byLeaves generalizing clocks with
  | leaf o hleaf =>
    cases o with
    | fanOut children => cases hleaf
    | silent => exact .ok _
    | journal => exact isForeign_writeJournal n
    | recorder events => exact isForeign_record _ n .recorder events
    | faulty hooks message events =>
      rw [receive]
      split
      · exact .error rfl
      · exact isForeign_record _ n (.faulty hooks message) events
    | custom name memory respond =>
      rw [receive]
      cases respond (clocks []) n memory with
      | mk memory message? =>
        cases message? with
        | none => exact .ok _
        | some message => exact .error rfl
    | nobody => exact .error rfl
  | fanOut children ih =>
    show IsForeign (receiveAll clocks n 0 children).answer
    rw [answer_receiveAll n (fun child hchild clocks => ih child hchild clocks)]
    exact .ok _

theorem answer_fanOut (clocks : Clocks) (n : Notice) (children : List Observer) :
    ((fanOut children).receive clocks n).answer = .ok () :=
  answer_receiveAll n (fun child _ clocks => isForeign_receive clocks n child) clocks 0

/-- The failure that an observer reacts to a notice with, if it does. -/
def failure? (o : Observer) (clocks : Clocks) (n : Notice) : Option Failure :=
  match (o.receive clocks n).answer with
  | .ok _ => none
  | .error f => some f

/-- An observer that hears of a notice is left as it is after that, whether it failed or not, and a
failure is added to what it logged. -/
theorem settled_receive (o : Observer) (source : Log.Source) (event : String) (clocks : Clocks)
    (n : Notice) :
    o.settled source event (.text n.kind.hook) (o.receive clocks n) =
      ⟨.ok (), (o.receive clocks n).state, (o.receive clocks n).log ++
        ((o.failure? clocks n).map (o.report source event n.kind.hook)).toList⟩ := by
  unfold failure?
  cases h : (o.receive clocks n).answer with
  | ok _ =>
    rw [settled_of_ok o source event _ h]
    simp [← h]
  | error f =>
    rw [settled_of_error o source event _ h (isForeign_receive clocks n o f h)]
    rfl

end Observer

/-! ## Informing an observer -/

namespace Host

/-- An observer after a notice, if there is one. -/
def told (heard : Clocks) (notice? : Option Notice) (o : Observer) : Observer :=
  match notice? with
  | some n => (o.receive heard n).state
  | none => o

def toldLog (heard : Clocks) (notice? : Option Notice) (o : Observer) : List Log.Entry :=
  match notice? with
  | some n => (o.receive heard n).log ++
      ((o.failure? heard n).map (o.report .registry "notifier_failed" n.kind.hook)).toList
  | none => []

/-- Informing an observer never fails, and changes nothing but the observer. -/
theorem inform_spec (h : Host) (heard : Clocks) (notice? : Option Notice) :
    h.inform heard notice? =
      ⟨.ok (), { h with observer := told heard notice? h.observer },
        toldLog heard notice? h.observer⟩ := by
  cases notice? with
  | none => rfl
  | some n =>
    simp only [inform, onObserver, Observer.settled_receive]
    rfl

end Host
end WalletTrust
