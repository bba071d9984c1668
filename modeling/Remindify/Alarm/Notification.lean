/-
# Alarm.Notification -- the notification centre

`UNUserNotificationCenter` works off the calls it gets in their order, some time
after they were made; a request replaces the one with its identifier.  The time of
a request is kept as it was asked for: one that has passed has fired, or never will,
and is not pending any more.

`outlook` is what will be requested once every call is worked off.  A call changes
it at once, and working a call off does not change it.
-/
import Mathlib.Data.List.Basic

namespace Remindify.Alarm

set_option autoImplicit false

/-- A `UNNotificationRequest`: its identifier and the minute its calendar trigger
matches. -/
structure NotificationRequest where
  identifier : String
  trigger : Nat
  deriving DecidableEq, Repr

/-- The calls the app makes. -/
inductive Call where
  | add (request : NotificationRequest)
  | removePendingNotificationRequests (identifiers : List String)
  deriving DecidableEq, Repr

/-- The trigger requested for an identifier, if any. -/
abbrev Requests := String → Option Nat

def Requests.apply (requests : Requests) : Call → Requests
  | .add request => fun identifier =>
      if identifier = request.identifier then some request.trigger else requests identifier
  | .removePendingNotificationRequests identifiers => fun identifier =>
      if identifier ∈ identifiers then none else requests identifier

structure NotificationCenter where
  requests : Requests
  /-- calls not worked off, oldest first -/
  calls : List Call

namespace NotificationCenter

def empty : NotificationCenter := ⟨fun _ => none, []⟩

def call (center : NotificationCenter) (call : Call) : NotificationCenter :=
  { center with calls := center.calls ++ [call] }

/-- The call a completion makes, if it makes one. -/
def perform (center : NotificationCenter) : Option Call → NotificationCenter
  | some call => center.call call
  | none => center

/-- The oldest call is worked off. -/
def work (center : NotificationCenter) : Option NotificationCenter :=
  match center.calls with
  | call :: calls => some ⟨center.requests.apply call, calls⟩
  | [] => none

/-- The requests once every call is worked off. -/
def outlook (center : NotificationCenter) : Requests :=
  center.calls.foldl Requests.apply center.requests

/-- A request is pending until its minute. -/
def pending (center : NotificationCenter) (now : Nat) (identifier : String) : Option Nat :=
  (center.requests identifier).filter fun trigger => decide (now < trigger)

variable (center : NotificationCenter)

@[simp] theorem outlook_empty : empty.outlook = fun _ => none := rfl

@[simp] theorem outlook_call (call : Call) :
    (center.call call).outlook = center.outlook.apply call := by
  simp [outlook, NotificationCenter.call, List.foldl_append]

theorem outlook_work {center center' : NotificationCenter} (worked : center.work = some center') :
    center'.outlook = center.outlook := by
  unfold work at worked
  split at worked
  · rename_i call calls waiting
    cases worked
    simp [outlook, waiting]
  · cases worked

theorem outlook_of_idle (idle : center.calls = []) : center.outlook = center.requests := by
  simp [outlook, idle]

theorem pending_eq_some {center : NotificationCenter} {now trigger : Nat} {identifier : String} :
    center.pending now identifier = some trigger ↔
      center.requests identifier = some trigger ∧ now < trigger := by
  simp [pending, Option.filter_eq_some_iff]

end NotificationCenter

end Remindify.Alarm
