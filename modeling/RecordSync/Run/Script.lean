import RecordSync.Run.Worker

/-! Surroundings that follow a script: a clock that moves only when it is set,
faults laid on chosen calls, and records at which the worker is told to stop. -/

namespace RecordSync.Run

open RecordSync.Calendar RecordSync.Record

/-- The kinds of call that a script can make fail. -/
inductive CallKind where
  | read
  | write
  | delete
  | recordFailure
  | surrender
  | clearAttempts
  deriving DecidableEq, Repr

/-- The fault that a call meets. -/
inductive Mishap where
  | busy
  | race
  | feed
  deriving DecidableEq, Repr

/-- Which records a rule is for. -/
inductive Scope where
  | record (externalId : String)
  | any
  deriving DecidableEq, Repr

/-- The next calls of a kind in a scope that fail, `times` of them. -/
structure Rule where
  kind : CallKind
  scope : Scope
  times : Nat
  mishap : Mishap
  deriving DecidableEq, Repr

structure Script where
  clock : Instant
  cancelled : Bool
  stopAt : List String
  rules : List Rule

/-- A call that a script knows: its kind and its record. A call that is about no
record has the empty id. -/
structure ScriptedCall where
  kind : CallKind
  entity : Entity
  externalId : String
  deriving DecidableEq, Repr

def Call.scripted? : Call → Option ScriptedCall
  | .read entity externalId => some ⟨.read, entity, externalId⟩
  | .write entity externalId => some ⟨.write, entity, externalId⟩
  | .delete entity externalId => some ⟨.delete, entity, externalId⟩
  | .recordFailure entity externalId => some ⟨.recordFailure, entity, externalId.getD ""⟩
  | .surrender entity externalId => some ⟨.surrender, entity, externalId.getD ""⟩
  | .clearAttempts entity => some ⟨.clearAttempts, entity, ""⟩
  | _ => none

def ScriptedCall.fault (call : ScriptedCall) : Mishap → SyncFault
  | .busy => .store .locked
  | .race => .constraint call.entity call.externalId (.reported "injected race")
  | .feed => .feed (.reported "injected")

namespace Script

def start (clock : Instant) : Script := ⟨clock, false, [], []⟩

/-- Lays down a rule in place of the one for the same calls. -/
def lay (script : Script) (rule : Rule) : Script :=
  { script with
    rules := rule :: script.rules.filter fun other =>
      other.kind != rule.kind || other.scope != rule.scope }

/-- A rule that still has a call to fail. -/
def rule? (script : Script) (kind : CallKind) (scope : Scope) : Option Rule :=
  script.rules.find? fun rule => rule.kind == kind && rule.scope == scope && 0 < rule.times

/-- Meets a call: a record at which to stop is noticed first, then a rule for
the record itself comes before one for any. -/
def meet (script : Script) (call : ScriptedCall) : Option SyncFault × Script :=
  let script :=
    if script.stopAt.contains call.externalId then { script with cancelled := true } else script
  match (script.rule? call.kind (.record call.externalId)).or (script.rule? call.kind .any) with
  | some rule =>
    (some (call.fault rule.mishap), script.lay { rule with times := rule.times - 1 })
  | none => (none, script)

end Script

/-- The surroundings of a scripted worker. Waiting takes no time. -/
def scripted : Surroundings Script where
  now script := (script.clock, script)
  cancelled script := (script.cancelled, script)
  meet call script :=
    match call.scripted? with
    | some call => script.meet call
    | none => (none, script)
  wait _ script := script

end RecordSync.Run
