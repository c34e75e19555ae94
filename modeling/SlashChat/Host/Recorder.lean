import SlashChat.Host

/-!
# The recording host

A host that keeps every call in order instead of delivering it, and the notes beside them.  The
main fact, `events_perform`, is that the record grows by exactly the calls among the acts.
-/

set_option autoImplicit false

namespace SlashChat

/-- A host that records what it is asked to do. -/
structure Recorder where
  nickname : String
  events : Array HostEvent := #[]
  notes : Array Note := #[]
deriving Repr, Inhabited

namespace Recorder

/-- The record after one act. -/
def receive (host : Recorder) : Act → Recorder
  | .call event => { host with events := host.events.push event }
  | .note note => { host with notes := host.notes.push note }

instance : Host Recorder where
  nickname := Recorder.nickname
  receive := receive
  nickname_receive host act := by cases act <;> rfl

/-- The notices shown to the local user, in order. -/
def displayed (host : Recorder) : List String :=
  host.events.toList.filterMap fun
    | .display message => some message
    | .send _ => none

/-- The messages delivered to the contact, in order. -/
def sent (host : Recorder) : List String :=
  host.events.toList.filterMap fun
    | .send message => some message
    | .display _ => none

/-- The recorder with nothing recorded. -/
def clear (host : Recorder) : Recorder := { nickname := host.nickname }

/-- A recorder's record grows by exactly the calls among the acts it receives. -/
theorem events_perform (host : Recorder) (acts : List Act) :
    (Host.perform host acts).events.toList = host.events.toList ++ Act.events acts := by
  induction acts generalizing host with
  | nil => simp [Act.events]
  | cons act acts ih =>
    rw [Host.perform_cons, ih]
    cases act <;> simp [Host.receive, receive, Act.events, Act.event?, List.filterMap_cons]

end Recorder

end SlashChat
