/-
# Alarm.Foreground -- an alarm that comes due while the app is in front

`AddReminderViewController` is the only delegate the notification centre is ever given:
its `viewDidLoad` sets itself, and the centre refers to it weakly.  Its `willPresent`
looks for the identifier `alarmNotification`; the Edit screen schedules every alarm
under the identifier of its document.

`Foreground` is the device with the Add controllers that came and went, and what became
of the alarms that came due in front.

* `named_step`: every request, pending or on its way, is named after a document;
* `presented_iff`: an alarm is presented exactly while the Add controller loaded last
  lives;
* `throughout_shown_iff`: no alarm that comes due in front is ever recognised;
* `dueAlarm_unrecognised`: a run in which one does.
-/
import Remindify.Alarm.DeviceInvariant

namespace Remindify.Add

open Remindify.Alarm

set_option autoImplicit false

inductive PresentationOption where
  | alert
  | sound
  | badge
  deriving DecidableEq, Repr

/-- What `willPresent` does: whether it plays the alarm sound, what `isAlarmRinging` is
then, and what it hands to its completion handler. -/
structure Reaction where
  plays : Bool
  isAlarmRinging : Bool
  options : List PresentationOption
  deriving DecidableEq, Repr

/-- `userNotificationCenter(_:willPresent:withCompletionHandler:)`. -/
def willPresent (isAlarmRinging : Bool) (request : NotificationRequest) : Reaction :=
  let options := [.alert, .sound, .badge]
  if request.identifier = "alarmNotification" then
    { plays := true, isAlarmRinging := true, options }
  else { plays := false, isAlarmRinging, options }

end Remindify.Add

namespace Remindify.Alarm

open Remindify.Theory
open Remindify.Network

set_option autoImplicit false

/-- An Add controller, and whether it is still alive. -/
structure Adder where
  isAlarmRinging : Bool
  alive : Bool
  deriving DecidableEq, Repr

/-- An alarm that came due in front, and what the delegate did, if there was one. -/
structure Handled where
  request : NotificationRequest
  reaction : Option Add.Reaction
  deriving DecidableEq, Repr

structure Foreground where
  device : Device
  adders : List Adder
  /-- the delegate of the notification centre, which may be gone -/
  delegate : Option Nat
  handled : List Handled

namespace Foreground

/-- `viewDidLoad` of a new Add controller. -/
def openAdd (foreground : Foreground) : Foreground :=
  { foreground with
    adders := foreground.adders ++ [⟨false, true⟩]
    delegate := some foreground.adders.length }

/-- The delegate, unless it is gone. -/
def liveDelegate (foreground : Foreground) : Option (Nat × Adder) :=
  match foreground.delegate with
  | some index =>
      match foreground.adders[index]? with
      | some adder => if adder.alive then some (index, adder) else none
      | none => none
  | none => none

/-- The centre asks its delegate; without one it shows nothing. -/
def present (foreground : Foreground) (request : NotificationRequest) : Foreground :=
  match foreground.liveDelegate with
  | some (index, adder) =>
      let reaction := Add.willPresent adder.isAlarmRinging request
      { foreground with
        adders :=
          foreground.adders.set index { adder with isAlarmRinging := reaction.isAlarmRinging }
        handled := foreground.handled ++ [⟨request, some reaction⟩] }
  | none => { foreground with handled := foreground.handled ++ [⟨request, none⟩] }

/-- A request that has come due is pending no more. -/
def removeDue (foreground : Foreground) (identifier : String) : Foreground :=
  let center := foreground.device.center
  let requests := center.requests.apply (.removePendingNotificationRequests [identifier])
  { foreground with device := { foreground.device with center := { center with requests } } }

end Foreground

inductive Foreground.Event where
  | device (event : Alarm.Event)
  | openAdd
  /-- an Add controller is popped and released -/
  | leaveAdd (adder : Nat)
  /-- the minute of a pending request has come, with the app in front or not -/
  | due (identifier : String) (inForeground : Bool)

namespace Foreground

def step (parse : String → Option Nat) (foreground : Foreground) :
    Foreground.Event → Option Foreground
  | .device event =>
      (Alarm.step parse foreground.device event).map fun device => { foreground with device }
  | .openAdd => some foreground.openAdd
  | .leaveAdd index =>
      match foreground.adders[index]? with
      | some adder =>
          some { foreground with
            adders := foreground.adders.set index { adder with alive := false } }
      | none => none
  | .due identifier inForeground =>
      match foreground.device.center.requests identifier with
      | some trigger =>
          if trigger = foreground.device.now then
            let foreground := foreground.removeDue identifier
            if inForeground then some (foreground.present ⟨identifier, trigger⟩)
            else some foreground
          else none
      | none => none

/-- The app at launch, before any Add screen. -/
def launched (store : Store) (session : Option User) (now : Nat) : Foreground :=
  { device := launch store session now, adders := [], delegate := none, handled := [] }

def machine (parse : String → Option Nat) : Machine Foreground Foreground.Event where
  init foreground := ∃ store session now, foreground = launched store session now
  step := step parse

/-- **Foreground alarms are recognised and shown**: a delegate was installed, it played
the sound and set `isAlarmRinging`, and it asked for the notification to be presented. -/
def Shown (foreground : Foreground) : Prop :=
  ∀ handled ∈ foreground.handled, ∃ reaction, handled.reaction = some reaction ∧
    reaction.plays = true ∧ reaction.isAlarmRinging = true ∧ reaction.options ≠ []

/-- The condition on an event: no alarm comes due in front. -/
def NotDue : Foreground → Foreground.Event → Prop
  | _, .due _ inForeground => inForeground = false
  | _, _ => True

end Foreground

/-! ## Names -/

/-- A request named after a document. -/
def Named (identifier : String) : Prop := ∃ documentID, identifier = alarm documentID

/-- Every request is, pending or on its way. -/
structure NotificationCenter.AllNamed (center : NotificationCenter) : Prop where
  requests : ∀ identifier trigger, center.requests identifier = some trigger → Named identifier
  calls : ∀ request, Call.add request ∈ center.calls → Named request.identifier

/-- No document's alarm is called `alarmNotification`. -/
theorem Named.unrecognised {identifier : String} (named : Named identifier) :
    identifier ≠ "alarmNotification" := by
  rintro rfl
  obtain ⟨documentID, same⟩ := named
  have letters := congrArg String.toList same
  rw [alarm, String.toList_append] at letters
  cases letters

section Named

variable {center center' : NotificationCenter}

theorem allNamed_empty : NotificationCenter.empty.AllNamed where
  requests identifier trigger asked := by cases asked
  calls request member := by cases member

theorem NotificationCenter.AllNamed.work (named : center.AllNamed)
    (worked : center.work = some center') : center'.AllNamed := by
  unfold NotificationCenter.work at worked
  split at worked
  · rename_i call calls waiting
    cases worked
    refine ⟨fun identifier trigger asked => ?_, fun request member =>
      named.calls request (waiting ▸ List.mem_cons_of_mem _ member)⟩
    cases call with
    | add request =>
        simp only [Requests.apply] at asked
        split at asked
        · rename_i same
          exact same ▸ named.calls request (waiting ▸ List.mem_cons_self ..)
        · exact named.requests identifier trigger asked
    | removePendingNotificationRequests identifiers =>
        simp only [Requests.apply] at asked
        split at asked
        · cases asked
        · exact named.requests identifier trigger asked
  · cases worked

theorem NotificationCenter.AllNamed.perform (named : center.AllNamed) {call : Option Call}
    (asked : ∀ request, call = some (.add request) → Named request.identifier) :
    (center.perform call).AllNamed := by
  cases call with
  | none => exact named
  | some call =>
      refine ⟨named.requests, fun request member => ?_⟩
      rcases List.mem_append.1 member with old | new
      · exact named.calls request old
      · exact asked request (by rw [List.mem_singleton.1 new])

/-- What a completion requests is named after its document. -/
theorem requested_named {parse : String → Option Nat} {device : Device} {answer : Answer}
    {request : NotificationRequest} (asked : device.requested parse answer = some (.add request)) :
    Named request.identifier := by
  unfold Device.requested at asked
  split at asked
  · rename_i documentID data write error
    split at asked
    · obtain ⟨trigger, -, same⟩ := Option.map_eq_some_iff.1 asked
      cases same
      exact ⟨documentID, rfl⟩
    · cases asked
  · cases asked
  · cases asked

theorem center_of_saveEditor (device : Device) (index : Nat) (editor : Editor) :
    (device.saveEditor index editor).center = device.center := by
  unfold Device.saveEditor
  split
  · dsimp only
    split <;> rfl
  · rfl

theorem center_of_addReminder (device : Device) (screen : Add.Screen) :
    (device.addReminder screen).center = device.center := by
  unfold Device.addReminder
  split
  · split <;> rfl
  · rfl

theorem center_of_edit {device device' : Device} {index : Nat} {change : Edit.Screen → Edit.Screen}
    (moved : device.edit index change = some device') : device'.center = device.center := by
  unfold Device.edit at moved
  split at moved
  · cases moved
    rfl
  · cases moved

theorem center_of_swipeDelete {device device' : Device} {row : Nat}
    (moved : device.swipeDelete row = some device') : device'.center = device.center := by
  unfold Device.swipeDelete at moved
  split at moved
  · split at moved
    · cases moved
      rfl
    · cases moved
      rfl
  · cases moved

/-- **Where the calls come from**: the centre works them off, or a completion makes one. -/
theorem center_of_step {parse : String → Option Nat} {device device' : Device} {event : Event}
    (sound : Sound device) (moved : step parse device event = some device') :
    device'.center = device.center ∨ device.center.work = some device'.center ∨
      ∃ answer answers, device'.center =
        device.center.perform ({ device with answers }.requested parse answer) := by
  cases event with
  | addReminder screen =>
      cases moved
      exact Or.inl (center_of_addReminder device screen)
  | didSelectRow row =>
      simp only [step] at moved
      split at moved
      · cases moved
        exact Or.inl rfl
      · cases moved
  | typeTitle | typeDescription | pickDate => exact Or.inl (center_of_edit moved)
  | saveEditor index =>
      simp only [step] at moved
      split at moved
      · cases moved
        exact Or.inl (center_of_saveEditor device index _)
      · cases moved
  | leaveEditor index =>
      simp only [step] at moved
      split at moved
      · cases moved
        exact Or.inl rfl
      · cases moved
  | swipeDelete row => exact Or.inl (center_of_swipeDelete moved)
  | process index newID refused =>
      simp only [step] at moved
      split at moved
      · obtain ⟨documentID, error, processed⟩ := processed_of_process moved
        exact Or.inl processed.center
      · cases moved
  | answer =>
      obtain ⟨answer, answers, -, completed⟩ := completed_of_answer sound moved
      exact Or.inr (Or.inr ⟨answer, answers, completed.center⟩)
  | snapshot ownerId =>
      simp only [step] at moved
      split at moved
      · split at moved
        · cases moved
          exact Or.inl rfl
        · cases moved
      · cases moved
  | work =>
      obtain ⟨center, worked, rfl⟩ := Option.map_eq_some_iff.1 moved
      exact Or.inr (Or.inl worked)
  | remoteUpdate reminder =>
      simp only [step] at moved
      split at moved
      · split at moved
        · cases moved
          exact Or.inl rfl
        · cases moved
      · cases moved
  | tick | remoteDelete | signIn | signOut =>
      cases moved
      exact Or.inl rfl

theorem named_step {parse : String → Option Nat} {device device' : Device} {event : Event}
    (sound : Sound device) (named : device.center.AllNamed)
    (moved : step parse device event = some device') : device'.center.AllNamed := by
  rcases center_of_step sound moved with same | worked | ⟨answer, answers, called⟩
  · exact same ▸ named
  · exact named.work worked
  · rw [called]
    exact named.perform fun request asked => requested_named asked

end Named

/-! ## Runs with an alarm due -/

namespace Foreground

/-- What every reachable state satisfies. -/
structure Invariant (foreground : Foreground) : Prop where
  sound : Sound foreground.device
  named : foreground.device.center.AllNamed
  /-- the delegate is the Add controller loaded last -/
  last : foreground.delegate =
    if foreground.adders = [] then none else some (foreground.adders.length - 1)

section Step

variable {parse : String → Option Nat} {foreground foreground' : Foreground}

theorem invariant_launched (store : Store) (session : Option User) (now : Nat) :
    Invariant (launched store session now) where
  sound := sound_launch store session now
  named := allNamed_empty
  last := rfl

/-- Removing a request leaves names as they are. -/
theorem AllNamed.removed {center : NotificationCenter} (named : center.AllNamed)
    (identifier : String) :
    { center with
      requests := center.requests.apply
        (.removePendingNotificationRequests [identifier]) }.AllNamed where
  requests other trigger asked := by
    simp only [Requests.apply] at asked
    split at asked
    · cases asked
    · exact named.requests other trigger asked
  calls := named.calls

theorem present_device (request : NotificationRequest) :
    (foreground.present request).device = foreground.device := by
  unfold present
  split <;> rfl

theorem present_last {request : NotificationRequest}
    (last : foreground.delegate =
      if foreground.adders = [] then none else some (foreground.adders.length - 1)) :
    (foreground.present request).delegate =
      if (foreground.present request).adders = [] then none
      else some ((foreground.present request).adders.length - 1) := by
  unfold present
  split
  · simpa using last
  · exact last

theorem invariant_step {event : Foreground.Event} (invariant : Invariant foreground)
    (moved : step parse foreground event = some foreground') : Invariant foreground' := by
  cases event with
  | device event =>
      obtain ⟨device', stepped, rfl⟩ := Option.map_eq_some_iff.1 moved
      exact ⟨(effect_of_step invariant.sound stepped).2,
        named_step invariant.sound invariant.named stepped, invariant.last⟩
  | openAdd =>
      cases moved
      refine ⟨invariant.sound, invariant.named, ?_⟩
      simp [openAdd]
  | leaveAdd index =>
      simp only [step] at moved
      split at moved
      · cases moved
        refine ⟨invariant.sound, invariant.named, ?_⟩
        simpa using invariant.last
      · cases moved
  | due identifier inForeground =>
      simp only [step] at moved
      split at moved
      · split at moved
        · have removed : Invariant (foreground.removeDue identifier) :=
            ⟨{ invariant.sound with }, AllNamed.removed invariant.named identifier,
              invariant.last⟩
          split at moved
          · cases moved
            refine ⟨?_, ?_, present_last removed.last⟩
            · rw [present_device]
              exact removed.sound
            · rw [present_device]
              exact removed.named
          · cases moved
            exact removed
        · cases moved
      · cases moved

/-- The delegate, if it lives. -/
theorem liveDelegate_isSome_iff (invariant : Invariant foreground) :
    foreground.liveDelegate.isSome = true ↔
      ∃ adder, foreground.adders.getLast? = some adder ∧ adder.alive = true := by
  unfold liveDelegate
  rw [invariant.last, List.getLast?_eq_getElem?]
  by_cases empty : foreground.adders = []
  · simp [empty]
  · simp only [empty, if_false]
    cases foreground.adders[foreground.adders.length - 1]? with
    | none => simp
    | some adder => cases alive : adder.alive <;> simp [alive]

/-- **What becomes of an alarm that comes due in front**: it is handled, without the
sound, and presented if and only if there is a delegate. -/
theorem handled_due (invariant : Invariant foreground) {identifier : String}
    (moved : step parse foreground (.due identifier true) = some foreground') :
    ∃ handled, foreground'.handled = foreground.handled ++ [handled] ∧
      (∀ reaction, handled.reaction = some reaction → reaction.plays = false) ∧
      (handled.reaction.isSome = true ↔ foreground.liveDelegate.isSome = true) := by
  simp only [step, if_true] at moved
  split at moved
  · rename_i trigger asked
    split at moved
    · cases moved
      have other := (invariant.named.requests identifier trigger asked).unrecognised
      have same : (foreground.removeDue identifier).liveDelegate = foreground.liveDelegate := rfl
      unfold present
      rw [same]
      cases foreground.liveDelegate with
      | none => exact ⟨_, rfl, by simp, by simp⟩
      | some live =>
          refine ⟨_, rfl, ?_, by simp⟩
          intro reaction given
          cases given
          simp only [Add.willPresent, if_neg other]
    · cases moved
  · cases moved

/-- **When an alarm is presented in front**: exactly while the Add controller loaded
last is alive. -/
theorem presented_iff (reached : (machine parse).Reachable foreground) {identifier : String}
    (moved : step parse foreground (.due identifier true) = some foreground') :
    (∃ handled reaction, foreground'.handled = foreground.handled ++ [handled] ∧
      handled.reaction = some reaction) ↔
        ∃ adder, foreground.adders.getLast? = some adder ∧ adder.alive = true := by
  have invariant : Invariant foreground :=
    reached.invariant (I := Invariant)
      (by
        rintro _ ⟨store, session, now, rfl⟩
        exact invariant_launched store session now)
      (fun _ _ _ _ invariant _ moved => invariant_step invariant moved)
  obtain ⟨handled, appended, -, presented⟩ := handled_due invariant moved
  rw [← liveDelegate_isSome_iff invariant, ← presented, Option.isSome_iff_exists]
  constructor
  · rintro ⟨other, reaction, same, given⟩
    rw [appended] at same
    cases List.append_cancel_left same
    exact ⟨reaction, given⟩
  · rintro ⟨reaction, given⟩
    exact ⟨handled, reaction, appended, given⟩

/-- **One event** keeps every alarm shown exactly when none comes due in front. -/
theorem shown_step_iff {event : Foreground.Event} (invariant : Invariant foreground)
    (shown : Shown foreground) (moved : step parse foreground event = some foreground') :
    Shown foreground' ↔ NotDue foreground event := by
  cases event with
  | device event =>
      obtain ⟨device', stepped, rfl⟩ := Option.map_eq_some_iff.1 moved
      exact ⟨fun _ => trivial, fun _ => shown⟩
  | openAdd =>
      cases moved
      exact ⟨fun _ => trivial, fun _ => shown⟩
  | leaveAdd index =>
      simp only [step] at moved
      split at moved
      · cases moved
        exact ⟨fun _ => trivial, fun _ => shown⟩
      · cases moved
  | due identifier inForeground =>
      cases inForeground with
      | true =>
          obtain ⟨handled, appended, silent, -⟩ := handled_due invariant moved
          refine ⟨fun shown' => ?_, fun never => nomatch never⟩
          obtain ⟨reaction, given, plays, -, -⟩ :=
            shown' handled (by rw [appended]; simp)
          rw [silent reaction given] at plays
          cases plays
      | false =>
          simp only [step] at moved
          split at moved
          · split at moved
            · cases moved
              exact ⟨fun _ => rfl, fun _ => shown⟩
            · cases moved
          · cases moved

end Step

/-- **When foreground alarms are recognised and shown.**  In every run, of Add and Edit
screens coming and going and alarms being scheduled, removed and presented, it holds
throughout if and only if no alarm ever comes due in front. -/
theorem throughout_shown_iff (parse : String → Option Nat) (store : Store)
    (session : Option User) (now : Nat) (es : List Foreground.Event) :
    (machine parse).Throughout Shown (launched store session now) es ↔
      (machine parse).RunOk NotDue (launched store session now) es :=
  Machine.throughout_iff_runOk (M := machine parse) (I := Invariant) (P := Shown)
    (fun _ _ _ invariant _ moved _ => invariant_step invariant moved)
    (fun _ _ _ invariant shown moved => shown_step_iff invariant shown moved)
    (invariant_launched store session now) (fun _ member => nomatch member) es

/-- The minute before Ann's alarm, which she sets from an Edit screen; then she opens an
Add screen. -/
def waitInFront : List Foreground.Event :=
  editAndWait.map .device ++ [.openAdd, .device .tick, .due (alarm "d1") true]

/-- Her app as the alarm comes due. -/
def inFront : Foreground :=
  let launch := launched oneReminder (some ⟨"ann", none⟩) 1087475579
  ((machine wallClock).run launch
    (editAndWait.map .device ++ [.openAdd, .device .tick])).getD launch

/-- The Add screen is there, and presents the alarm. -/
theorem inFront_presented :
    ∃ foreground handled reaction,
      step wallClock inFront (.due (alarm "d1") true) = some foreground ∧
        foreground.handled = inFront.handled ++ [handled] ∧ handled.reaction = some reaction := by
  have ran : (machine wallClock).run
      (launched oneReminder (some ⟨"ann", none⟩) 1087475579)
      (editAndWait.map .device ++ [.openAdd, .device .tick]) = some inFront := rfl
  have moved : step wallClock inFront (.due (alarm "d1") true) = some _ := rfl
  obtain ⟨handled, reaction, appended, given⟩ :=
    (presented_iff (Machine.reachable_of_run ⟨_, _, _, rfl⟩ ran) moved).2 ⟨⟨false, true⟩, rfl, rfl⟩
  exact ⟨_, handled, reaction, moved, appended, given⟩

/-- It does not know the alarm. -/
theorem dueAlarm_unrecognised :
    ¬ ∀ (parse : String → Option Nat) (foreground : Foreground),
      (machine parse).Reachable foreground → Shown foreground := by
  intro always
  have ran : (machine wallClock).run
      (launched oneReminder (some ⟨"ann", none⟩) 1087475579) waitInFront = some _ := rfl
  have shown := always wallClock _ (Machine.reachable_of_run ⟨_, _, _, rfl⟩ ran)
  obtain ⟨reaction, given, plays, -, -⟩ := shown _ (List.mem_singleton_self _)
  cases given
  cases plays

end Foreground

end Remindify.Alarm
