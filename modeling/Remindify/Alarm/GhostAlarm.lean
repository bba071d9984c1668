/-
# Alarm.GhostAlarm -- when every pending alarm is of a reminder that stands

Pending requests live outside the app, and one handler removes one: the completion of
a swipe-delete on this device.  A log-out, a deletion or an update by another device,
and an edit answered to a dead controller leave the request as it was.

* `no_ghost_alarm`: when each of these finds no alarm it would leave behind, every
  pending request is of a live document of the current user, for its stored date;
* `logout_leaves_alarm`: an alarm outlives the session.
-/
import Remindify.Alarm.DeviceInvariant

namespace Remindify.Alarm

open Remindify.Theory
open Remindify.Network

set_option autoImplicit false

/-- The document is live, the current user's, and stored with this date. -/
def Stands (parse : String → Option Nat) (device : Device) (d : DocumentID) (trigger : Nat) :
    Prop :=
  ∃ data user, device.store.lookup d = some data ∧ device.session = some user ∧
    data.lookup "ownerId" = some (.string user.uid) ∧
    device.storedTrigger parse d = some trigger

/-- Every pending request is of a document that stands. -/
def NoGhostAlarm (parse : String → Option Nat) (device : Device) : Prop :=
  ∀ identifier trigger, device.center.pending device.now identifier = some trigger →
    ∃ d, identifier = alarm d ∧ Stands parse device d trigger

/-- The alarm requested for the document, if it is to come, is of one that stands. -/
def Founded (parse : String → Option Nat) (device : Device) (d : DocumentID) : Prop :=
  ∀ trigger, device.center.outlook (alarm d) = some trigger → device.now < trigger →
    Stands parse device d trigger

/-- The condition on an answer that leaves its document without calls under way. -/
def Answer.KeepsUp (parse : String → Option Nat) (device : Device) (answer : Answer) : Prop :=
  match answer.write, answer.error with
  | .delete _, none => True
  | .update index reminder _ _, none =>
      match device.editors[index]?, reminder.date.bind parse with
      | some ⟨_, true⟩, some trigger =>
          device.now < trigger → Stands parse device answer.documentID trigger
      | _, _ => Founded parse device answer.documentID
  | _, _ => Founded parse device answer.documentID

/-- The condition on an event: it leaves no alarm behind.  Calls of this device still
under way about the document excuse it. -/
def KeepsUp (parse : String → Option Nat) (device : Device) : Event → Prop
  | .answer =>
      ∀ answer answers, device.answers = answer :: answers →
        ¬ { device with answers }.Busy answer.documentID → answer.KeepsUp parse device
  | .remoteUpdate reminder =>
      ∀ d, reminder.documentID = some d → ¬ device.Busy d →
        ∀ trigger, device.center.outlook (alarm d) = some trigger → device.now < trigger →
          reminder.date.bind parse = some trigger
  | .remoteDelete d =>
      ¬ device.Busy d →
        ∀ trigger, device.center.outlook (alarm d) = some trigger → trigger ≤ device.now
  | .signIn user =>
      ∀ d, ¬ device.Busy d →
        ∀ trigger, device.center.outlook (alarm d) = some trigger → device.now < trigger →
          ∃ data, device.store.lookup d = some data ∧
            data.lookup "ownerId" = some (.string user.uid)
  | .signOut =>
      ∀ d, ¬ device.Busy d →
        ∀ trigger, device.center.outlook (alarm d) = some trigger → trigger ≤ device.now
  | _ => True

/-! ## The invariant -/

/-- What holds along a run that meets the condition. -/
structure Kept (parse : String → Option Nat) (device : Device) : Prop where
  sound : Sound device
  named : ∀ identifier trigger, device.center.outlook identifier = some trigger →
    ∃ d, identifier = alarm d
  founded : ∀ d, device.Busy d ∨ Founded parse device d

section Step

variable {parse : String → Option Nat} {device device' : Device} {event : Event}

theorem Stands.congr {d : DocumentID} {trigger : Nat} (stands : Stands parse device d trigger)
    (store : device'.store.lookup d = device.store.lookup d)
    (session : device'.session = device.session) : Stands parse device' d trigger := by
  obtain ⟨data, user, found, signedIn, owner, stored⟩ := stands
  exact ⟨data, user, store.trans found, session.trans signedIn, owner,
    (storedTrigger_congr store).trans stored⟩

theorem Founded.congr {d : DocumentID} (founded : Founded parse device d)
    (store : device'.store.lookup d = device.store.lookup d)
    (session : device'.session = device.session) (now : device.now ≤ device'.now)
    (outlook : device'.center.outlook (alarm d) = device.center.outlook (alarm d)) :
    Founded parse device' d := by
  intro trigger asked future
  rw [outlook] at asked
  exact (founded trigger asked (Nat.lt_of_le_of_lt now future)).congr store session

/-- Another device updates the document and keeps the date of its alarm. -/
theorem Founded.updated {d : DocumentID} {reminder : ReminderModel} {old : Fields}
    (founded : Founded parse device d) (found : device.store.lookup d = some old)
    (date : ∀ trigger, device.center.outlook (alarm d) = some trigger → device.now < trigger →
      reminder.date.bind parse = some trigger) :
    Founded parse
      (device.setStore (device.store.insert d (FirebaseService.updateData reminder ∪ old))) d := by
  intro trigger asked future
  obtain ⟨data, user, found', signedIn, owner, -⟩ := founded trigger asked future
  rw [found] at found'
  cases found'
  have stored : (device.store.insert d (FirebaseService.updateData reminder ∪ old)).lookup d =
      some (FirebaseService.updateData reminder ∪ old) := AList.lookup_insert _
  refine ⟨_, user, stored, signedIn, ?_, ?_⟩
  · rw [union_lookup, FirebaseService.updateData_ownerId, Option.none_or]
    exact owner
  · simp only [Device.storedTrigger, Device.setStore, stored, Option.bind_some, union_lookup,
      FirebaseService.updateData_date, Option.some_or, Value.asString_ofOptional]
    exact date trigger asked future

/-- A completion requests alarms of documents only. -/
theorem named_perform {answer : Answer}
    (named : ∀ identifier trigger, device.center.outlook identifier = some trigger →
      ∃ d, identifier = alarm d) (identifier : String) (trigger : Nat)
    (asked : (device.center.perform (device.requested parse answer)).outlook identifier =
      some trigger) : ∃ d, identifier = alarm d := by
  cases requested : device.requested parse answer with
  | none =>
      rw [requested] at asked
      exact named identifier trigger asked
  | some call =>
      rw [requested] at asked
      simp only [NotificationCenter.perform, NotificationCenter.outlook_call] at asked
      cases call with
      | add request =>
          simp only [Requests.apply] at asked
          split at asked
          · rename_i same
            unfold Device.requested at requested
            split at requested
            · split at requested
              · obtain ⟨t, -, made⟩ := Option.map_eq_some_iff.1 requested
                cases made
                exact ⟨_, same⟩
              · cases requested
            · cases requested
            · cases requested
          · exact named identifier trigger asked
      | removePendingNotificationRequests identifiers =>
          simp only [Requests.apply] at asked
          split at asked
          · cases asked
          · exact named identifier trigger asked

/-- **An answer that keeps up** leaves a founded alarm, or none. -/
theorem founded_of_keepsUp {answer : Answer} {answers : List Answer}
    (about : ∀ d, answer.write.documentID = some d → answer.documentID = d)
    (completed : Completed parse { device with answers } answer device')
    (keepsUp : answer.KeepsUp parse device) : Founded parse device' answer.documentID := by
  have store : device'.store.lookup answer.documentID = device.store.lookup answer.documentID := by
    rw [completed.store]
  have silent : { device with answers }.requested parse answer = none →
      Founded parse device answer.documentID → Founded parse device' answer.documentID := by
    intro none_ founded
    refine founded.congr store completed.session completed.now.ge ?_
    rw [completed.center, none_]
    rfl
  obtain ⟨write, documentID, error⟩ := answer
  cases error with
  | some error => exact silent (by cases write <;> rfl) (by cases write <;> exact keepsUp)
  | none =>
      cases write with
      | add reminder data => exact silent rfl keepsUp
      | delete id =>
          obtain rfl : documentID = id := about id rfl
          intro trigger asked future
          rw [completed.center] at asked
          simp [Device.requested, NotificationCenter.perform, Requests.apply] at asked
      | update index reminder id data =>
          obtain rfl : documentID = id := about id rfl
          simp only [Answer.KeepsUp] at keepsUp
          split at keepsUp
          · rename_i screen trigger at_ parsed
            intro asked_ asked future
            rw [completed.center] at asked
            simp only [Device.requested, at_, parsed, Option.map_some, NotificationCenter.perform,
              NotificationCenter.outlook_call, Requests.apply, if_true, Option.some.injEq] at asked
            subst asked
            have now : device'.now = device.now := completed.now
            exact (keepsUp (now ▸ future)).congr store completed.session
          · rename_i misses
            refine silent ?_ keepsUp
            simp only [Device.requested]
            split
            · rename_i screen at_
              cases parsed : reminder.date.bind parse with
              | none => rfl
              | some trigger => exact absurd parsed (misses screen trigger at_)
            · rfl

/-- Calls under way stay under way, and what is founded without any stays founded. -/
theorem Kept.of_idle (kept : Kept parse device) (sound' : Sound device')
    (outlook : device'.center.outlook = device.center.outlook)
    (busy : ∀ d, device.Busy d → device'.Busy d)
    (founded : ∀ d, ¬ device.Busy d → Founded parse device d → Founded parse device' d) :
    Kept parse device' := by
  refine ⟨sound', outlook ▸ kept.named, fun d => ?_⟩
  by_cases waiting : device.Busy d
  · exact Or.inl (busy d waiting)
  · exact Or.inr (founded d waiting ((kept.founded d).resolve_left waiting))

/-- **Every step that meets the condition keeps the alarms founded.** -/
theorem kept_step (kept : Kept parse device) (met : KeepsUp parse device event)
    (moved : step parse device event = some device') : Kept parse device' := by
  obtain ⟨effect, sound'⟩ := effect_of_step kept.sound moved
  have frame : Framed device device' → Kept parse device' := by
    intro framed
    refine kept.of_idle sound' framed.outlook (fun _ => framed.busy) fun d _ founded => ?_
    exact founded.congr (by rw [framed.store]) framed.session framed.now.ge
      (by rw [framed.outlook])
  cases effect with
  | framed framed asked => exact frame framed
  | swiped framed => exact frame framed
  | ticked =>
      exact kept.of_idle sound' rfl (fun _ busy => busy) fun _ _ founded =>
        founded.congr rfl rfl (Nat.le_succ _) rfl
  | @processed index newID refused error documentID write _ at_ processed =>
      refine ⟨sound', processed.center ▸ kept.named, fun d => ?_⟩
      by_cases here : d = documentID
      · exact Or.inl (processed.busy at_ (Or.inr here))
      · rcases kept.founded d with busy | founded
        · exact Or.inl (processed.busy at_ (Or.inl busy))
        · exact Or.inr (founded.congr (processed.others d here) processed.session processed.now.ge
            (by rw [processed.center]))
  | @answered answer answers _ oldest completed =>
      obtain ⟨-, about⟩ := kept.sound.answers answer (oldest ▸ List.mem_cons_self ..)
      refine ⟨sound', completed.center ▸ named_perform kept.named, fun d => ?_⟩
      by_cases here : d = answer.documentID
      · subst here
        by_cases busy : { device with answers }.Busy answer.documentID
        · left
          rcases busy with writing | waiting
          · exact Or.inl (completed.writes ▸ writing)
          · exact Or.inr (completed.answers ▸ waiting)
        · exact Or.inr (founded_of_keepsUp about completed (met answer answers oldest busy))
      · rcases kept.founded d with busy | founded
        · exact Or.inl (completed.busy oldest here busy)
        · refine Or.inr (founded.congr (by rw [completed.store]) completed.session
            completed.now.ge ?_)
          rw [completed.center]
          exact requested_other about here
  | @updated reminder documentID old id found =>
      refine kept.of_idle sound' rfl (fun _ busy => busy) fun d busy founded => ?_
      by_cases here : d = documentID
      · subst here
        exact founded.updated found (met d id busy)
      · exact founded.congr (AList.lookup_insert_ne here) rfl le_rfl rfl
  | @deleted documentID =>
      refine kept.of_idle sound' rfl (fun _ busy => busy) fun d busy founded => ?_
      by_cases here : d = documentID
      · subst here
        intro trigger asked future
        exact absurd future (Nat.not_lt.2 (met busy trigger asked))
      · exact founded.congr (AList.lookup_erase_ne here) rfl le_rfl rfl
  | @signedIn user =>
      refine kept.of_idle sound' rfl (fun _ busy => busy) fun d busy founded => ?_
      intro trigger asked future
      obtain ⟨data, found, owner⟩ := met d busy trigger asked future
      obtain ⟨-, -, -, -, -, stored⟩ := founded trigger asked future
      exact ⟨data, user, found, rfl, owner, stored⟩
  | signedOut =>
      refine kept.of_idle sound' rfl (fun _ busy => busy) fun d busy _ => ?_
      intro trigger asked future
      exact absurd future (Nat.not_lt.2 (met d busy trigger asked))

end Step

/-! ## Whole runs -/

theorem kept_launch (parse : String → Option Nat) (store : Store) (session : Option User)
    (now : Nat) : Kept parse (launch store session now) where
  sound := sound_launch store session now
  named identifier trigger asked := by cases asked
  founded d := Or.inr fun trigger asked => by cases asked

/-- **No ghost alarm when the condition is met.**  In every run, of any events of this
and other devices and any log-outs and log-ins, in which every event keeps up with the
alarms, each pending request of an idle state is of a live document of the current
user, for the date stored there. -/
theorem no_ghost_alarm {parse : String → Option Nat} {device : Device}
    (reached : (machine parse).Reach (KeepsUp parse) device) (idle : device.Idle) :
    NoGhostAlarm parse device := by
  have kept : Kept parse device :=
    reached.invariant (I := Kept parse)
      (by
        rintro _ ⟨store, session, now, rfl⟩
        exact kept_launch parse store session now)
      (fun _ _ _ _ kept met moved => kept_step kept met moved)
  intro identifier trigger pending
  obtain ⟨asked, future⟩ := NotificationCenter.pending_eq_some.1 pending
  rw [← device.center.outlook_of_idle idle.calls] at asked
  obtain ⟨d, rfl⟩ := kept.named identifier trigger asked
  exact ⟨d, rfl, (kept.founded d).resolve_left idle.not_busy trigger asked future⟩

/-- Ann sets an alarm, and another device of hers changes the title. -/
def editAndRename : List Event :=
  editAndWait ++
    [.remoteUpdate
        { title := some "Oat milk", description := some "", date := some later,
          documentID := some "d1" },
      .snapshot "ann"]

def annRenamed : Device := ((machine wallClock).run annAtLaunch editAndRename).getD annAtLaunch

theorem annRenamed_no_ghost_alarm : NoGhostAlarm wallClock annRenamed := by
  have ran : (machine wallClock).run annAtLaunch editAndRename = some annRenamed := rfl
  have met : (machine wallClock).RunOk (KeepsUp wallClock) annAtLaunch editAndRename := by
    refine .cons rfl trivial <| .cons rfl trivial <| .cons rfl trivial <| .cons rfl trivial <|
      .cons rfl trivial <| .cons rfl ?_ <| .cons rfl trivial <| .cons rfl trivial <|
      .cons rfl ?_ <| .cons rfl trivial trivial
    · -- the answer schedules the date that was just stored
      intro answer answers oldest _
      cases oldest
      exact fun _ => ⟨_, _, rfl, rfl, rfl, rfl⟩
    · -- the other device keeps the date
      intro d id _ trigger asked _
      cases id
      exact asked
  have started : (machine wallClock).init annAtLaunch := ⟨_, _, _, rfl⟩
  exact no_ghost_alarm ((Machine.Reach.init started).of_run met ran) ⟨rfl, rfl, rfl⟩

/-- Ann sets an alarm and logs out: it stays pending with nobody signed in. -/
theorem logout_leaves_alarm :
    ¬ ∀ (parse : String → Option Nat) (device : Device),
        (machine parse).Reachable device → device.Quiescent → NoGhostAlarm parse device := by
  intro always
  have ran : (machine wallClock).run annAtLaunch (editAndWait ++ [.signOut]) = some _ := rfl
  have kept := always wallClock _ (Machine.reachable_of_run ⟨_, _, _, rfl⟩ ran)
    ⟨⟨rfl, rfl, rfl⟩, rfl⟩
  obtain ⟨d, -, data, user, -, signedIn, -⟩ := kept (alarm "d1") _ rfl
  cases signedIn

end Remindify.Alarm
