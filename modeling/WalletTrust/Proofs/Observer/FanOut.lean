import WalletTrust.Proofs.Registry.Call
import WalletTrust.Session.HookCall

/-!
# Fan-outs keep their leaves apart

Each leaf of a tree of observers hears what it would hear on its own, whatever becomes of the
others. A leaf that fails is reported once, by the fan-out that it is a child of, and a fan-out
itself never fails. The proofs are by induction over the tree, where all that is not a fan-out is a
leaf.
-/

namespace WalletTrust

/-- The clocks of the observer that a path leads to. -/
def Clocks.below (clocks : Clocks) (path : List Nat) : Clocks := fun rest => clocks (path ++ rest)

/-- A notice, and the clocks that are heard with it. -/
structure Delivery where
  clocks : Clocks
  notice : Notice

namespace Delivery

/-- The delivery as it gets to the observer that a path leads to. -/
def below (d : Delivery) (path : List Nat) : Delivery := ⟨d.clocks.below path, d.notice⟩

/-- The event that the recorder at a path keeps of a delivery, unless the hook is one that it fails
in or its clock does. -/
def kept? (d : Delivery) (path : List Nat) (hooks : List String) : Option Event :=
  if d.notice.kind.hook ∈ hooks then none else (d.clocks path).map (Event.ofNotice d.notice)

private theorem filterMap_kept?_below (calls : List Delivery) (path : List Nat)
    (hooks : List String) :
    (calls.map (·.below path)).filterMap (·.kept? [] hooks) =
      calls.filterMap (·.kept? path hooks) := by
  rw [List.filterMap_map]
  congr 1
  funext d
  simp [kept?, below, Clocks.below]

end Delivery

namespace Observer

mutual
/-- The leaves of an observer from left to right, each with the positions that lead to it. -/
def leaves : Observer → List (List Nat × Observer)
  | .fanOut children => leavesFrom 0 children
  | o => [([], o)]

def leavesFrom (position : Nat) : List Observer → List (List Nat × Observer)
  | [] => []
  | child :: rest =>
    (leaves child).map (Prod.map (position :: ·) id) ++ leavesFrom (position + 1) rest
end

/-- What becomes of an observer that receives a delivery, and what its hook does otherwise. -/
def hear (o : Observer) (d : Delivery) : Observer × Logged Unit :=
  let reaction := o.receive d.clocks d.notice
  (reaction.state, ⟨reaction.answer, reaction.log⟩)

/-- The report of a leaf that fails below a fan-out. -/
def childReport? (d : Delivery) (leaf : List Nat × Observer) : Option Log.Entry :=
  (leaf.2.failure? (d.clocks.below leaf.1) d.notice).map
    (leaf.2.report .observer "notifier_child_failed" d.notice.kind.hook)

def rootReport? (o : Observer) (d : Delivery) : Option Log.Entry :=
  (o.failure? d.clocks d.notice).map (o.report .registry "notifier_failed" d.notice.kind.hook)

variable {o : Observer}

private theorem leaves_of_leaf (h : o.isFanOut = false) : o.leaves = [([], o)] := by
  cases o with
  | fanOut children => cases h
  | _ => rfl

private theorem hear_recorder (events : List Event) (d : Delivery) :
    (hear (.recorder events) d).1 = .recorder (events ++ (d.kept? [] []).toList) ∧
      (hear (.recorder events) d).2.log = [] := by
  cases hclock : d.clocks [] <;>
    simp [hear, receive, record, Clock.read, hclock, Delivery.kept?]

private theorem hear_faulty (hooks : List String) (message : Text.Points) (events : List Event)
    (d : Delivery) :
    (hear (.faulty hooks message events) d).1 =
        .faulty hooks message (events ++ (d.kept? [] hooks).toList) ∧
      (hear (.faulty hooks message events) d).2.log = [] := by
  by_cases hhook : d.notice.kind.hook ∈ hooks
  · simp [hear, receive, hhook, Delivery.kept?]
  · cases hclock : d.clocks [] <;>
      simp [hear, receive, hhook, record, Clock.read, hclock, Delivery.kept?]

private theorem isFanOut_hear (o : Observer) (d : Delivery) :
    (o.hear d).1.isFanOut = o.isFanOut := by
  cases o with
  | recorder events => rw [(hear_recorder events d).1]; rfl
  | faulty hooks message events => rw [(hear_faulty hooks message events d).1]; rfl
  | _ => rfl

/-- A fan-out goes on after each of its children, which is left as it would be on its own. -/
private theorem receiveAll_cons (d : Delivery) (position : Nat) (child : Observer)
    (rest : List Observer) :
    let inner := d.below [position]
    let others := receiveAll d.clocks d.notice (position + 1) rest
    receiveAll d.clocks d.notice position (child :: rest) =
      ⟨others.answer, (child.hear inner).1 :: others.state,
        (child.hear inner).2.log ++ (childReport? d ([position], child)).toList ++ others.log⟩ := by
  intro inner others
  rw [receiveAll, settledChild, settled_receive]
  rfl

section Leaves

/-- A leaf after it has heard of a delivery on its own. -/
def alone (d : Delivery) (leaf : List Nat × Observer) : List Nat × Observer :=
  (leaf.1, (leaf.2.hear (d.below leaf.1)).1)

private theorem leavesFrom_receiveAll (d : Delivery) {children : List Observer}
    (ih : ∀ child ∈ children, ∀ d, (child.hear d).1.leaves = child.leaves.map (alone d))
    (position : Nat) :
    leavesFrom position (receiveAll d.clocks d.notice position children).state =
      (leavesFrom position children).map (alone d) := by
  induction children generalizing position with
  | nil => rfl
  | cons child rest ihrest =>
    obtain ⟨hchild, hrest⟩ := List.forall_mem_cons.1 ih
    -- The paths of the leaves of a child start at the child, those of the child itself below it.
    have hpaths : (child.leaves.map (alone (d.below [position]))).map
        (Prod.map (position :: ·) id) =
        (child.leaves.map (Prod.map (position :: ·) id)).map (alone d) := by
      rw [List.map_map, List.map_map]
      rfl
    rw [receiveAll_cons, leavesFrom, leavesFrom, List.map_append, ← hpaths, hchild,
      ihrest hrest (position + 1)]

private theorem leaves_hear (o : Observer) (d : Delivery) :
    (o.hear d).1.leaves = o.leaves.map (alone d) := by
  induction o using byLeaves generalizing d with
  | leaf o hleaf =>
    have hstays : (o.hear d).1.isFanOut = false := by rw [isFanOut_hear, hleaf]
    rw [leaves_of_leaf hstays, leaves_of_leaf hleaf]
    rfl
  | fanOut children ih => exact leavesFrom_receiveAll d ih 0

private theorem isFanOut_after (o : Observer) (calls : List Delivery) :
    (Run.after hear o calls).isFanOut = o.isFanOut :=
  Run.after_invariant hear (P := fun o' => o'.isFanOut = o.isFanOut)
    (fun o' d _ h => (o'.isFanOut_hear d).trans h) rfl

theorem leaves_after (o : Observer) (calls : List Delivery) :
    (Run.after hear o calls).leaves =
      o.leaves.map fun leaf =>
        (leaf.1, Run.after hear leaf.2 (calls.map (·.below leaf.1))) := by
  induction calls generalizing o with
  | nil => simp
  | cons d calls ih =>
    rw [Run.after_cons, ih, leaves_hear, List.map_map]
    rfl

private theorem recorder_after (events : List Event) (calls : List Delivery) :
    Run.after hear (.recorder events) calls =
      .recorder (events ++ calls.filterMap (·.kept? [] [])) :=
  Run.after_collect hear (fun events d => (hear_recorder events d).1) events calls

private theorem faulty_after (hooks : List String) (message : Text.Points) (events : List Event)
    (calls : List Delivery) :
    Run.after hear (.faulty hooks message events) calls =
      .faulty hooks message (events ++ calls.filterMap (·.kept? [] hooks)) :=
  Run.after_collect hear (fun events d => (hear_faulty hooks message events d).1) events calls

end Leaves

section Reports

variable {p : Log.Entry → Bool}

/-- Only the entries of journals are logged by leaves. -/
private theorem journalEntry_of_logged {d : Delivery} {e : Log.Entry} (hleaf : o.isFanOut = false)
    (he : e ∈ (o.hear d).2.log) : journalEntry d.notice = .ok e := by
  cases o with
  | fanOut children => cases hleaf
  | journal =>
    have he : e ∈ (writeJournal d.notice).log := he
    unfold writeJournal at he
    cases hentry : journalEntry d.notice with
    | error f => simp [hentry, Logged.ofExcept] at he
    | ok entry =>
      rw [hentry] at he
      have he : e ∈ (Logged.report entry).log := he
      unfold Logged.report at he
      split at he
      · rw [List.mem_singleton.1 he]
      · cases he
  | recorder events => rw [(hear_recorder events d).2] at he; cases he
  | faulty hooks message events => rw [(hear_faulty hooks message events d).2] at he; cases he
  | _ => cases he

private theorem childReport?_fanOut (d : Delivery) (children : List Observer) (path : List Nat) :
    childReport? d (path, .fanOut children) = none := by
  rw [childReport?, failure?, answer_fanOut]
  rfl

private theorem filter_receiveAll_log (d : Delivery) {children : List Observer}
    (ih : ∀ child ∈ children, ∀ d : Delivery,
      ((child.hear d).2.log ++ (childReport? d ([], child)).toList).filter p =
        (child.leaves.filterMap (childReport? d)).filter p)
    (position : Nat) :
    (receiveAll d.clocks d.notice position children).log.filter p =
      ((leavesFrom position children).filterMap (childReport? d)).filter p := by
  induction children generalizing position with
  | nil => rfl
  | cons child rest ihrest =>
    obtain ⟨hchild, hrest⟩ := List.forall_mem_cons.1 ih
    have hpaths : (child.leaves.map (Prod.map (position :: ·) id)).filterMap (childReport? d) =
        child.leaves.filterMap (childReport? (d.below [position])) := by
      rw [List.filterMap_map]
      rfl
    have hfirst : ((child.hear (d.below [position])).2.log ++
        (childReport? d ([position], child)).toList).filter p = _ := hchild (d.below [position])
    rw [receiveAll_cons, List.filter_append, hfirst, ihrest hrest (position + 1), leavesFrom,
      List.filterMap_append, List.filter_append, hpaths]

/-- An observer, leaf or not, logs what the journals below it keep and the reports of the leaves
below it, if its own failure is reported as that of a child. -/
private theorem filter_child_log (hp : ∀ n e, journalEntry n = .ok e → p e = false)
    (o : Observer) (d : Delivery) :
    ((o.hear d).2.log ++ (childReport? d ([], o)).toList).filter p =
      (o.leaves.filterMap (childReport? d)).filter p := by
  induction o using byLeaves generalizing d with
  | leaf o hleaf =>
    have hlog : (o.hear d).2.log.filter p = [] := by
      rw [List.filter_eq_nil_iff]
      intro e he
      simp [hp _ _ (journalEntry_of_logged hleaf he)]
    rw [leaves_of_leaf hleaf, List.filter_append, hlog, List.nil_append]
    cases h : childReport? d ([], o) <;> simp [h]
  | fanOut children ih =>
    rw [childReport?_fanOut, Option.toList_none, List.append_nil]
    exact filter_receiveAll_log d ih 0

private theorem filter_hear_log (hp : ∀ n e, journalEntry n = .ok e → p e = false)
    (hfanOut : o.isFanOut = true) (d : Delivery) :
    (o.hear d).2.log.filter p = (o.leaves.filterMap (childReport? d)).filter p := by
  cases o with
  | fanOut children =>
    have hlog := filter_child_log hp (.fanOut children) d
    rwa [childReport?_fanOut, Option.toList_none, List.append_nil] at hlog
  | _ => cases hfanOut

/-- The events of a journal are about wallets and the pointer. -/
private theorem event_of_journalEntry {n : Notice} {e : Log.Entry} (h : journalEntry n = .ok e) :
    e.event = "wallet_registered" ∨ e.event = "wallet_status_changed" ∨
      e.event = "contract_upgraded" := by
  cases n with
  | registered wallet status score =>
    obtain ⟨name, -, h⟩ := bind_ok h
    cases h
    exact .inl rfl
  | statusChanged wallet old new score =>
    obtain ⟨oldName, -, h⟩ := bind_ok h
    obtain ⟨newName, -, h⟩ := bind_ok h
    cases h
    exact .inr (.inl rfl)
  | contractUpgraded address =>
    cases h
    exact .inr (.inr rfl)

/-- A fan-out reports the leaves below it, once each, and nothing else. -/
theorem childFailures_hear (hfanOut : o.isFanOut = true) (d : Delivery) :
    (o.hear d).2.log.filter (·.event = "notifier_child_failed") =
      o.leaves.filterMap (childReport? d) := by
  have hjournal : ∀ n e, journalEntry n = .ok e →
      decide (e.event = "notifier_child_failed") = false := by
    intro n e he
    rcases event_of_journalEntry he with h | h | h <;> simp [h]
  rw [filter_hear_log hjournal hfanOut, List.filter_eq_self]
  intro e he
  obtain ⟨leaf, -, hleaf⟩ := List.mem_filterMap.1 he
  obtain ⟨f, -, rfl⟩ := Option.map_eq_some_iff.1 hleaf
  rfl

private theorem failure?_of_fanOut (hfanOut : o.isFanOut = true) (d : Delivery) :
    o.failure? d.clocks d.notice = none := by
  cases o with
  | fanOut children => rw [failure?, answer_fanOut]
  | _ => cases hfanOut

theorem answer_of_fanOut (hfanOut : o.isFanOut = true) (d : Delivery) :
    (o.hear d).2.answer = .ok () := by
  cases o with
  | fanOut children => exact answer_fanOut d.clocks d.notice children
  | _ => cases hfanOut

/-- Nothing that an observer logs looks like the report of a registry about it. -/
theorem rootFailures_hear (o : Observer) (d : Delivery) :
    (o.hear d).2.log.filter (·.event = "notifier_failed") = [] := by
  have hjournal : ∀ n e, journalEntry n = .ok e → decide (e.event = "notifier_failed") = false := by
    intro n e he
    rcases event_of_journalEntry he with h | h | h <;> simp [h]
  cases hleaf : o.isFanOut with
  | false =>
    rw [List.filter_eq_nil_iff]
    intro e he
    simp [hjournal _ _ (journalEntry_of_logged hleaf he)]
  | true =>
    rw [filter_hear_log hjournal hleaf, List.filter_eq_nil_iff]
    intro e he
    obtain ⟨leaf, -, hleaf⟩ := List.mem_filterMap.1 he
    obtain ⟨f, -, rfl⟩ := Option.map_eq_some_iff.1 hleaf
    simp [report]

end Reports
end Observer

/-- What observers are told of a command, if they are told of it. -/
def Registry.announced? (r : Registry) (clock : Clock) (command : Command) : Option Notice :=
  (r.perform clock command).answer.toOption.bind Commit.notice?

/-- A registry logs a rejection, a transfer or nothing on its own. -/
private theorem Registry.rootFailures_perform (r : Registry) (clock : Clock) (command : Command) :
    (r.perform clock command).log.filter (·.event = "notifier_failed") = [] := by
  cases command with
  | setStatus wallet status score =>
    simp only [perform, setStatus]
    cases Address.ofValue? wallet with
    | none => rfl
    | some wallet =>
      cases Score.isValid score with
      | false => rfl
      | true =>
        cases status with
        | status status => cases clock <;> rfl
        | _ => rfl
  | setNextContract address =>
    simp only [perform, setNextContract]
    cases Address.ofValue? address <;> rfl
  | transferAdmin address =>
    simp only [perform, transferAdmin]
    cases Address.ofValue? address <;> rfl

private theorem Host.rootFailures_toldLog (heard : Clocks) (notice? : Option Notice)
    (o : Observer) :
    (toldLog heard notice? o).filter (·.event = "notifier_failed") =
      (notice?.bind fun n => o.rootReport? ⟨heard, n⟩).toList := by
  cases notice? with
  | none => rfl
  | some n =>
    have hown : ((o.receive heard n).log).filter (·.event = "notifier_failed") = [] :=
      o.rootFailures_hear ⟨heard, n⟩
    have hreport : (o.rootReport? ⟨heard, n⟩).toList.filter (·.event = "notifier_failed") =
        (o.rootReport? ⟨heard, n⟩).toList := by
      rw [List.filter_eq_self]
      intro e he
      obtain ⟨f, -, rfl⟩ := Option.map_eq_some_iff.1 (Option.mem_toList.1 he)
      rfl
    rw [toldLog, List.filter_append, hown]
    exact hreport

/-- A registry reports its observer if that fails, and no other one. -/
theorem Host.rootFailures_perform (h : Host) (clock : Clock) (command : Command) (heard : Clocks) :
    (h.perform clock command heard).log.filter (·.event = "notifier_failed") =
      ((h.registry.announced? clock command).bind fun n =>
        h.observer.rootReport? ⟨heard, n⟩).toList := by
  have hown := h.registry.rootFailures_perform clock command
  rw [perform, Process.bind_apply, onRegistry, Process.on_apply, Registry.announced?]
  generalize h.registry.perform clock command = e at hown ⊢
  obtain ⟨answer, r, log⟩ := e
  cases answer with
  | error f => exact hown
  | ok commit => simp [inform_spec, hown, rootFailures_toldLog, Except.toOption]

def Notice.arguments : Notice → List Value
  | .registered wallet status score => [wallet, status, score]
  | .statusChanged wallet old new score => [wallet, old, new, score]
  | .contractUpgraded address => [address]

private theorem EventKind.ofHook?_hook (kind : EventKind) : ofHook? kind.hook = some kind := by
  cases kind <;> decide

namespace Session

private theorem callOf_hook (o : Observer) (n : Notice) :
    callOf o n.kind.hook n.arguments = (checkHook o n.kind.hook).map fun _ => .notify n := by
  have hcheck : (signatureOf o n.kind.hook (parameters n.kind)).check n.arguments.length =
      .ok () := by
    cases n <;> rfl
  rw [callOf, EventKind.ofHook?_hook]
  cases checkHook o n.kind.hook with
  | error f => rfl
  | ok _ =>
    simp only [hcheck]
    cases n <;> rfl

private theorem performCall_of_leaf {o : Observer} (hleaf : o.isFanOut = false) (clock : Clock)
    (hook : Value) (args : List Value) :
    performCall clock hook args o =
      (Process.ofExcept (hookCall o hook args) >>= HookCall.perform clock) o := by
  cases o with
  | fanOut children => cases hleaf
  | _ => rfl

/-- A hook that is called by its name, with all that it takes, receives that as a notice. -/
theorem performCall_hook (clock : Clock) (n : Notice) (o : Observer) :
    performCall clock (.text n.kind.hook) n.arguments o = o.receive (.same clock) n := by
  have hcall : hookCall o (.text n.kind.hook) n.arguments = _ := callOf_hook o n
  cases hleaf : o.isFanOut with
  | true =>
    cases o with
    | fanOut children =>
      rw [performCall, hcall]
      rfl
    | _ => cases hleaf
  | false =>
    have hpass : checkHook o n.kind.hook = .ok () →
        performCall clock (.text n.kind.hook) n.arguments o = o.receive (.same clock) n := by
      intro hcheck
      rw [performCall_of_leaf hleaf, hcall, hcheck]
      rfl
    cases o with
    | faulty hooks message events =>
      by_cases hhook : n.kind.hook ∈ hooks
      · rw [performCall_of_leaf hleaf, hcall]
        simp [checkHook, Observer.receive, hhook, Except.map]
      · exact hpass (if_neg hhook)
    | fanOut children => cases hleaf
    | nobody => rfl
    | _ => exact hpass rfl

end Session

/-- Whatever notices a tree of observers received, each leaf of it is as it would be on its own, so
that recorders have kept what they were able to. A fan-out never fails, and reports those leaves
that do, from left to right; a registry reports its observer itself, which is then no fan-out. -/
theorem fan_out_isolates_failures (o : Observer) (calls : List Delivery) :
    let final := Run.after Observer.hear o calls
    final.leaves = o.leaves.map (fun leaf =>
      (leaf.1, Run.after Observer.hear leaf.2 (calls.map (·.below leaf.1)))) ∧
    (∀ path events, (path, .recorder events) ∈ o.leaves →
      (path, .recorder (events ++ calls.filterMap (·.kept? path []))) ∈ final.leaves) ∧
    (∀ path hooks message events, (path, .faulty hooks message events) ∈ o.leaves →
      (path, .faulty hooks message (events ++ calls.filterMap (·.kept? path hooks))) ∈
        final.leaves) ∧
    (o.isFanOut = true → ∀ d, (final.hear d).2.answer = .ok () ∧
      (final.hear d).2.log.filter (·.event = "notifier_child_failed") =
        final.leaves.filterMap (Observer.childReport? d)) ∧
    ∀ (r : Registry) (clock : Clock) (command : Command) (heard : Clocks),
      let h : Host := ⟨r, final⟩
      let reports := (h.perform clock command heard).log.filter (·.event = "notifier_failed")
      reports = ((r.announced? clock command).bind fun n =>
        final.rootReport? ⟨heard, n⟩).toList ∧
      (o.isFanOut = true → reports = []) := by
  intro final
  have hkind : final.isFanOut = o.isFanOut := o.isFanOut_after calls
  have hleaves := o.leaves_after calls
  have hleaf : ∀ path leaf, (path, leaf) ∈ o.leaves →
      (path, Run.after Observer.hear leaf (calls.map (·.below path))) ∈ final.leaves := by
    intro path leaf hmem
    rw [hleaves]
    exact List.mem_map_of_mem hmem
  refine ⟨hleaves, ?_, ?_, ?_, ?_⟩
  · intro path events hmem
    have hkept := hleaf path _ hmem
    rwa [Observer.recorder_after, Delivery.filterMap_kept?_below] at hkept
  · intro path hooks message events hmem
    have hkept := hleaf path _ hmem
    rwa [Observer.faulty_after, Delivery.filterMap_kept?_below] at hkept
  · intro hfanOut d
    rw [← hkind] at hfanOut
    exact ⟨Observer.answer_of_fanOut hfanOut d, Observer.childFailures_hear hfanOut d⟩
  · intro r clock command heard h reports
    have hreports := h.rootFailures_perform clock command heard
    refine ⟨hreports, ?_⟩
    intro hfanOut
    rw [← hkind] at hfanOut
    have hnone : ∀ d, final.rootReport? d = none := by
      intro d
      rw [Observer.rootReport?, Observer.failure?_of_fanOut hfanOut]
      rfl
    simp [reports, hreports, h, hnone]

/-- Three kinds of leaves that can fail on two levels, with an empty fan-out and a recorder. -/
def mixedTree : Observer :=
  .fanOut [.faulty ["on_registered"] (Text.toPoints "sink down") [],
    .fanOut [.recorder [], .fanOut [], .journal], .recorder []]

/-- A wallet that cannot be written reaches the journal while one of the clocks fails. -/
def oddRegistration : Delivery where
  clocks path := if path = [1, 0] then none else some (.int 7)
  notice := .registered (.map [(.bytes [107], .int 1)]) (.status .active) (.int 5)

theorem fan_out_isolates_failures_mixed :
    let final := Run.after Observer.hear mixedTree [oddRegistration]
    mixedTree.isFanOut = true ∧
    ([2], .recorder [.ofNotice oddRegistration.notice (.int 7)]) ∈ final.leaves ∧
    (final.hear oddRegistration).2.answer = .ok () ∧
    ((final.hear oddRegistration).2.log.filter (·.event = "notifier_child_failed")).map (·.fields) =
      [[("hook", .text "on_registered"), ("notifier", .text "Broken"),
          ("error", .text "sink down")],
        [("hook", .text "on_registered"), ("notifier", .text "RecordingNotifier"),
          ("error", .text "clock failed")],
        [("hook", .text "on_registered"), ("notifier", .text "LoggingNotifier"),
          ("error", .text "keys must be str, int, float, bool or None, not bytes")]] := by
  intro final
  obtain ⟨-, hrecorders, -, hfanOut, -⟩ := fan_out_isolates_failures mixedTree [oddRegistration]
  obtain ⟨hanswer, hlog⟩ := hfanOut rfl oddRegistration
  have hmem : ([2], .recorder []) ∈ mixedTree.leaves := by
    simp [mixedTree, Observer.leaves, Observer.leavesFrom]
  refine ⟨rfl, hrecorders [2] [] hmem, hanswer, ?_⟩
  rw [hlog]
  rfl

end WalletTrust
