import Mathlib.Data.List.Basic
import Mathlib.Tactic.Lemma
import TnsClient.Client.Answers

set_option autoImplicit false

/-!
# Runs of a client

A run is whatever events befall a new client, in any order. Each event is a moment of the run: the
client that it finds, the event itself and the step it comes to. All that is said of a run is said
of the list of its moments, which grows at its end.

## Main definitions

* `TnsClient.Event` — what can happen to a client; `TnsClient.Client.react` — the step it comes to.
* `TnsClient.Client.after` — the client behind some events.
* `TnsClient.Moment`, `TnsClient.Client.moments` — the moments of a run.
* `TnsClient.sampleLogon`, `TnsClient.Client.sample` — a logon that succeeds, for runs on it.

## Main results

* `TnsClient.Client.moments_append`, `TnsClient.Client.after_append` — a run goes on where the
  events before have left the client.
-/

namespace TnsClient

/-- What can happen to a client. -/
inductive Event where
  /-- The transport is open. -/
  | opened
  /-- A message has come. -/
  | message (message : ServerMessage)
  /-- A caller submits a task. -/
  | submit (task : Task)
  /-- A caller cancels a task. -/
  | cancel (id : TaskId)
  /-- The next task may be started. -/
  | next
  /-- Something has failed for good. -/
  | fail (error : ClientError)
  /-- The transport is gone. -/
  | lost
  /-- The caller of a handle stops waiting. -/
  | abandon (handle : Handle)
  /-- A temporary large object is no longer needed. -/
  | releaseLob (locator : Bytes)
  /-- What is to be cleaned up goes out with a request. -/
  | takeCleanup

/-- What the server sends so that its password hash, of the older kind, can be proved. -/
def sampleChallenge : SessionData :=
  ⟨[("AUTH_VFR_DATA", ⟨"00", 0x1B25⟩),
    ("AUTH_SESSKEY", ⟨"00112233445566778899AABBCCDDEEFF00112233445566778899AABBCCDDEEFF", 0⟩),
    ("AUTH_PBKDF2_CSK_SALT", ⟨"00", 0⟩), ("AUTH_PBKDF2_SDER_COUNT", ⟨"1", 0⟩)]⟩

/-- A negotiation and a logon that succeed, with a server that does not mark the ends of answers. -/
def sampleLogon : List Event :=
  [.opened, .message (.accept ⟨315, 0, 0, 8192, 0⟩),
    .message (.serverInfo { version := 6, banner := "", charset := 873 }), .message .dataTypes,
    .message (.authParameters sampleChallenge), .message (.status ⟨0, 0⟩),
    .message (.authParameters .empty), .message (.status ⟨0, 0⟩)]

/-- The handles that an event brings. -/
def Event.handles : Event → List Handle
  | submit task => task.handles
  | _ => []

namespace Client

/-- What an event comes to. -/
def react (client : Client) : Event → Step
  | .opened => client.opened
  | .message message => client.handle message
  | .submit task => (client.submit task).step
  | .cancel id => (client.cancel id).2
  | .next => client.startNext
  | .fail error => client.fail error
  | .lost => client.lost
  | .abandon handle => (client.abandon handle).idle
  | .releaseLob locator => (client.releaseLob locator).idle
  | .takeCleanup => client.takeCleanup.2.idle

/-- The client behind some events. -/
def after (client : Client) (events : List Event) : Client :=
  events.foldl (fun client event => (client.react event).client) client

/-- A client with an empty password, which draws zeros only and keeps one cursor open. -/
def sample : Client :=
  new ⟨"scott", ⟨[]⟩, none, .none, .byPool, ⟨"", "", "", 0, ""⟩⟩ ⟨fun _ => 0, 0⟩ 1

end Client

/-- A moment of a run. -/
structure Moment where
  /-- The client that the event finds. -/
  before : Client
  /-- The event. -/
  event : Event

/-- What the event of a moment comes to. -/
def Moment.step (moment : Moment) : Client.Step := moment.before.react moment.event

namespace Client

/-- The moments of a run. -/
def moments (client : Client) : List Event → List Moment
  | [] => []
  | event :: events => ⟨client, event⟩ :: (client.react event).client.moments events

variable (client : Client)

@[simp] lemma after_nil : client.after [] = client := rfl

@[simp] lemma after_cons (event : Event) (events : List Event) :
    client.after (event :: events) = (client.react event).client.after events := rfl

lemma after_append (events more : List Event) :
    client.after (events ++ more) = (client.after events).after more := by
  simp [after, List.foldl_append]

@[simp] lemma after_concat (events : List Event) (event : Event) :
    client.after (events ++ [event]) = ((client.after events).react event).client := by
  rw [after_append]
  rfl

@[simp] lemma moments_nil : client.moments [] = [] := rfl

lemma moments_append (events more : List Event) :
    client.moments (events ++ more) =
      client.moments events ++ (client.after events).moments more := by
  induction events generalizing client with
  | nil => rfl
  | cons event events ih => simp [moments, ih]

@[simp] lemma moments_concat (events : List Event) (event : Event) :
    client.moments (events ++ [event]) =
      client.moments events ++ [⟨client.after events, event⟩] := by
  rw [moments_append]
  rfl

/-- What has come before a moment of a run, and what comes after it, are runs as well. -/
lemma moments_eq_append {client : Client} {events : List Event} {past rest : List Moment}
    {moment : Moment} (h : client.moments events = past ++ moment :: rest) :
    ∃ earlier later, events = earlier ++ moment.event :: later ∧
      past = client.moments earlier ∧ moment.before = client.after earlier ∧
      rest = moment.step.client.moments later := by
  induction past generalizing client events with
  | nil =>
    cases events with
    | nil => simp at h
    | cons event later =>
      obtain ⟨rfl, rfl⟩ := List.cons.inj h
      exact ⟨[], later, rfl, rfl, rfl, rfl⟩
  | cons first past ih =>
    cases events with
    | nil => simp at h
    | cons event events =>
      obtain ⟨rfl, htail⟩ := List.cons.inj h
      obtain ⟨earlier, later, rfl, rfl, hbefore, rfl⟩ := ih htail
      exact ⟨event :: earlier, later, rfl, rfl, hbefore, rfl⟩

/-- A moment finds what the moment before it has left. -/
lemma before_of_moments_eq {client : Client} {events : List Event} {past rest : List Moment}
    {moment next : Moment} (h : client.moments events = past ++ moment :: next :: rest) :
    next.before = moment.step.client := by
  obtain ⟨-, later, -, -, -, hlater⟩ := moments_eq_append h
  cases later with
  | nil => cases hlater
  | cons event later =>
    obtain ⟨rfl, -⟩ := List.cons.inj hlater
    rfl

end Client

end TnsClient
