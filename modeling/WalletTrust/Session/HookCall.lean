import WalletTrust.Arguments
import WalletTrust.Observer

/-!
# Hooks called by name

A hook of an observer may be called directly, with any values, and so may its other operations. The
call fails before the observer is reached if there is no such operation or if the values are not as
many as it takes. A hook in which an observer fails takes anything. A fan-out can be asked to call
whatever its children have under a name.
-/

namespace WalletTrust.Session

inductive HookCall where
  | notify (n : Notice)
  /-- To forget what it recorded. -/
  | clear
  /-- To tell the kinds of the events that it recorded. -/
  | kinds
  /-- To tell the time. -/
  | time
  /-- To call a hook of each of its children. -/
  | passOn (hook : Value) (args : List Value)

def parameters : EventKind → List String
  | .registered => ["wallet", "status", "trust_score"]
  | .statusChanged => ["wallet", "old_status", "new_status", "trust_score"]
  | .contractUpgraded => ["contract_address"]

/-- The kind of observer whose hooks an observer has: a faulty one is a recorder otherwise. -/
def hookOwner : Observer → String
  | .faulty _ _ _ => "RecordingNotifier"
  | o => o.label

def signatureOf (o : Observer) (name : String) (parameters : List String) : Signature :=
  { call := hookOwner o ++ "." ++ name, parameters }

/-- Goes through unless an observer fails in a hook of that name. Nobody has any hooks. -/
def checkHook (o : Observer) (hook : String) : Except Failure Unit :=
  match o with
  | .nobody => .error (.noAttribute o.label (.text hook))
  | .faulty hooks message _ => if hook ∈ hooks then .error (.observerFailed message) else .ok ()
  | _ => .ok ()

def bareCall (o : Observer) (name : String) (args : List Value) (call : HookCall) :
    Except Failure HookCall :=
  ((signatureOf o name []).check args.length).map fun _ => call

def recorderCall (o : Observer) (name : String) (args : List Value) : Except Failure HookCall :=
  match name with
  | "clear" => bareCall o name args .clear
  | "kinds" => bareCall o name args .kinds
  | "_clock" => bareCall o name args .time
  | "events" => .error (.noCall "list")
  | name => .error (.noAttribute o.label (.text name))

def fanOutCall (o : Observer) (name : String) (args : List Value) : Except Failure HookCall :=
  match name, args with
  | "_dispatch", hook :: args => .ok (.passOn hook args)
  | "_dispatch", [] => .error (.arguments ((signatureOf o name ["hook"]).lackMessage ["hook"]))
  | "notifiers", _ => .error (.noCall "list")
  | name, _ => .error (.noAttribute o.label (.text name))

/-- A call of something else than a hook. -/
def otherCall (o : Observer) (name : String) (args : List Value) : Except Failure HookCall :=
  match o with
  | .recorder _ => recorderCall o name args
  | .faulty _ _ _ => recorderCall o name args
  | .fanOut _ => fanOutCall o name args
  | o => .error (.noAttribute o.label (.text name))

def callOf (o : Observer) (hook : String) (args : List Value) : Except Failure HookCall := do
  checkHook o hook
  match EventKind.ofHook? hook with
  | none => otherCall o hook args
  | some kind => do
    (signatureOf o hook (parameters kind)).check args.length
    match kind, args with
    | .registered, [wallet, status, score] => .ok (.notify (.registered wallet status score))
    | .statusChanged, [wallet, old, new, score] =>
      .ok (.notify (.statusChanged wallet old new score))
    | .contractUpgraded, [address] => .ok (.notify (.contractUpgraded address))
    | _, _ => .error (.noAttribute o.label (.text hook))

def hookCall (o : Observer) (hook : Value) (args : List Value) : Except Failure HookCall :=
  match hook with
  | .text name => callOf o name args
  | .status s => callOf o s.name args
  | .broken _ => .error (.noAttribute o.label hook)
  | hook => .error (.noName hook.kind)

/-- Carries out a call on an observer, if its children have no part in it. -/
def HookCall.perform (clock : Clock) : HookCall → Process Observer Unit
  | .notify n => fun o => o.receive (.same clock) n
  | .clear => .modify Observer.cleared
  | .time => .ofExcept (clock.read.map fun _ => ())
  | _ => pure ()

mutual
def performCall (clock : Clock) (hook : Value) (args : List Value) : Observer → Effect Observer Unit
  | .fanOut children => match hookCall (.fanOut children) hook args with
    | .ok (.passOn hook args) => (performCalls clock hook args children).within .fanOut
    | .ok call => call.perform clock (.fanOut children)
    | .error f => ⟨.error f, .fanOut children, []⟩
  | o => (Process.ofExcept (hookCall o hook args) >>= HookCall.perform clock) o

def performCalls (clock : Clock) (hook : Value) (args : List Value) :
    List Observer → Effect (List Observer) Unit
  | [] => ⟨.ok (), [], []⟩
  | child :: rest =>
    Observer.joined (child.settledChild hook (performCall clock hook args child)) rest
      (performCalls clock hook args rest)
end

end WalletTrust.Session
