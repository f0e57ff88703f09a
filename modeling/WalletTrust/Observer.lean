import WalletTrust.Event
import WalletTrust.Process

/-!
# Observers of a registry

Observers receive a notice after each change. A fan-out passes a notice on to all of its children: a
child that fails is logged and the others still receive the notice. Failures of observers are those
that the program goes on from.
-/

namespace WalletTrust

/-- The clocks that recorders hear, each by the positions that lead to its recorder through
fan-outs. -/
abbrev Clocks := List Nat → Clock

namespace Clocks

def same (clock : Clock) : Clocks := fun _ => clock

/-- The clocks of the child at a position. -/
def child (clocks : Clocks) (position : Nat) : Clocks := fun path => clocks (position :: path)

end Clocks

inductive Observer where
  /-- Ignores every notice. -/
  | silent
  /-- Logs every notice. -/
  | journal
  /-- Keeps every notice, stamped with the time of its clock. -/
  | recorder (events : List Event)
  /-- A recorder that fails in some of its hooks instead of keeping a notice. -/
  | faulty (hooks : List String) (message : Text.Points) (events : List Event)
  /-- Does what it likes with a notice and with what it remembers. Where it fails, it is known by a
  string. -/
  | custom (name : String) (memory : Value)
      (respond : Clock → Notice → Value → Value × Option Text.Points)
  | fanOut (children : List Observer)
  /-- Nobody, where an observer should be: no notice can be delivered. -/
  | nobody
  deriving Inhabited

namespace Observer

def label : Observer → String
  | .silent => "Notifier"
  | .journal => "LoggingNotifier"
  | .recorder _ => "RecordingNotifier"
  | .faulty _ _ _ => "Broken"
  | .custom name _ _ => name
  | .fanOut _ => "CompositeNotifier"
  | .nobody => "NoneType"

def journalEntry (n : Notice) : Except Failure Log.Entry := do
  let (event, fields) ← match n with
    | .registered wallet status score => do
      let status ← Status.nameOf status
      pure ("wallet_registered",
        [("wallet_id", wallet), ("status", status), ("trust_score", score)])
    | .statusChanged wallet old new score => do
      let old ← Status.nameOf old
      let new ← Status.nameOf new
      pure ("wallet_status_changed",
        [("wallet_id", wallet), ("old_status", old), ("new_status", new), ("trust_score", score)])
    | .contractUpgraded address => pure ("contract_upgraded", [("next_contract", address)])
  .ok { source := .observer, level := .info, event, fields }

/-- Logs a notice. The values in it may be such that no entry can be made or written. -/
def writeJournal (n : Notice) : Logged Unit := Logged.ofExcept (journalEntry n) >>= Logged.report

/-- The report of an observer that failed in a hook. It shows the failure, which must have a string
for this. -/
def failureEntry (o : Observer) (source : Log.Source) (event : String) (hook : Value)
    (f : Failure) : Except Failure Log.Entry :=
  f.shown.map fun error =>
    { source, level := .error, event
      fields := [("hook", hook), ("notifier", .text o.label), ("error", error)] }

/-- What becomes of an observer whose hook was called. A failure in it is reported and otherwise
ignored, unless the report cannot be made or written. -/
def settled (o : Observer) (source : Log.Source) (event : String) (hook : Value)
    (reaction : Effect Observer Unit) : Effect Observer Unit :=
  reaction.rescue fun f => .ask fun _ =>
    Logged.ofExcept (o.failureEntry source event hook f) >>= Logged.report

def settledChild (child : Observer) (hook : Value) (reaction : Effect Observer Unit) :
    Effect Observer Unit :=
  child.settled .observer "notifier_child_failed" hook reaction

/-- The children of a fan-out after the first of them, and then the others, were called. -/
def joined (first : Effect Observer Unit) (rest : List Observer)
    (others : Effect (List Observer) Unit) : Effect (List Observer) Unit :=
  match first.answer with
  | .ok () => ⟨others.answer, first.state :: others.state, first.log ++ others.log⟩
  | .error f => ⟨.error f, first.state :: rest, first.log⟩

/-- A recorder, which `keep` makes from its events, after a notice. -/
def record (clock : Clock) (n : Notice) (keep : List Event → Observer) (events : List Event) :
    Effect Observer Unit :=
  match clock.read with
  | .ok now => ⟨.ok (), keep (events ++ [Event.ofNotice n now]), []⟩
  | .error f => ⟨.error f, keep events, []⟩

mutual
def receive (clocks : Clocks) (n : Notice) : Observer → Effect Observer Unit
  | .silent => ⟨.ok (), .silent, []⟩
  | .journal => ⟨(writeJournal n).answer, .journal, (writeJournal n).log⟩
  | .recorder events => record (clocks []) n .recorder events
  | .faulty hooks message events =>
    if n.kind.hook ∈ hooks then ⟨.error (.observerFailed message), .faulty hooks message events, []⟩
    else record (clocks []) n (.faulty hooks message) events
  | .custom name memory respond =>
    let (memory, message?) := respond (clocks []) n memory
    ⟨message?.elim (.ok ()) fun message => .error (.observerFailed message),
      .custom name memory respond, []⟩
  | .fanOut children => (receiveAll clocks n 0 children).within .fanOut
  | .nobody => ⟨.error (.noAttribute (label .nobody) (.text n.kind.hook)), .nobody, []⟩

def receiveAll (clocks : Clocks) (n : Notice) (position : Nat) :
    List Observer → Effect (List Observer) Unit
  | [] => ⟨.ok (), [], []⟩
  | child :: rest =>
    joined (child.settledChild (.text n.kind.hook) (receive (clocks.child position) n child)) rest
      (receiveAll clocks n (position + 1) rest)
end

mutual
def recordings : Observer → List (List Event)
  | .recorder events => [events]
  | .faulty _ _ events => [events]
  | .fanOut children => recordingsOf children
  | _ => []

def recordingsOf : List Observer → List (List Event)
  | [] => []
  | child :: rest => recordings child ++ recordingsOf rest
end

mutual
def cleared : Observer → Observer
  | .recorder _ => .recorder []
  | .faulty hooks message _ => .faulty hooks message []
  | .fanOut children => .fanOut (clearedAll children)
  | o => o

def clearedAll : List Observer → List Observer
  | [] => []
  | child :: rest => cleared child :: clearedAll rest
end

end Observer
end WalletTrust
