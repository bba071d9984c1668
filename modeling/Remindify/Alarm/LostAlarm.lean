/-
# Alarm.LostAlarm -- when a saved reminder has its alarm

An alarm is requested in one place only: the completion of an update, on an Edit
screen that is still alive.  The Add screen requests none, and an Edit screen left
before the answer requests none either.

* `no_lost_alarm`: in every run of adding and editing in which each answer that
  leaves its document without calls under way either reaches a live Edit screen or
  finds no future date without its alarm, an idle state has every alarm;
* `added_reminder_has_no_alarm`: adding a reminder for later breaks it.
-/
import Remindify.Alarm.DeviceInvariant

namespace Remindify.Alarm

open Remindify.Theory
open Remindify.Network

set_option autoImplicit false

/-- Every live document written here with a date to come has its alarm pending. -/
def NoLostAlarm (parse : String → Option Nat) (device : Device) : Prop :=
  ∀ d ∈ device.written, ∀ trigger, device.storedTrigger parse d = some trigger →
    device.now < trigger → device.center.pending device.now (alarm d) = some trigger

/-- Adding and editing on this device, and what happens to it meanwhile. -/
def Event.addsOrEdits : Event → Bool
  | .swipeDelete _ | .remoteUpdate _ | .remoteDelete _ | .signIn _ | .signOut => false
  | _ => true

/-- The answer reports a success to a live Edit screen. -/
def Answer.reachesEditor (device : Device) (answer : Answer) : Bool :=
  match answer.write, answer.error with
  | .update index _ _ _, none =>
      match device.editors[index]? with
      | some editor => editor.alive
      | none => false
  | _, _ => false

/-- The alarm of the document is requested for the minute stored, if that is to come. -/
def Alarmed (parse : String → Option Nat) (device : Device) (d : DocumentID) : Prop :=
  ∀ trigger, device.storedTrigger parse d = some trigger → device.now < trigger →
    device.center.outlook (alarm d) = some trigger

/-- The condition on an event.  An answer that leaves a document written here without
calls under way, and reaches no live Edit screen, finds the alarm as it should be. -/
def Schedules (parse : String → Option Nat) (device : Device) : Event → Prop
  | .answer =>
      ∀ answer answers, device.answers = answer :: answers →
        answer.documentID ∈ device.written →
        ¬ { device with answers }.Busy answer.documentID →
        answer.reachesEditor device = false → Alarmed parse device answer.documentID
  | _ => True

/-! ## The invariant -/

/-- The newest successful answer about a document is of the date stored there. -/
def Recorded (device : Device) : Prop :=
  ∀ earlier answer later, device.answers = earlier ++ answer :: later → answer.error = none →
    (∀ other ∈ later, other.documentID = answer.documentID → other.error ≠ none) →
    ∃ document data, device.store.lookup answer.documentID = some document ∧
      answer.write.data = some data ∧ document.lookup "Date" = data.lookup "Date"

/-- What holds along a run of adding and editing that meets the condition. -/
structure Scheduled (parse : String → Option Nat) (device : Device) : Prop where
  sound : Sound device
  writes : ∀ write ∈ device.writes, write.data.isSome
  recorded : Recorded device
  alarmed : ∀ d ∈ device.written, device.Busy d ∨ Alarmed parse device d

section Step

variable {parse : String → Option Nat} {device device' : Device} {event : Event}

theorem Alarmed.congr {d : DocumentID} (alarmed : Alarmed parse device d)
    (store : device'.store.lookup d = device.store.lookup d) (now : device.now ≤ device'.now)
    (outlook : device'.center.outlook (alarm d) = device.center.outlook (alarm d)) :
    Alarmed parse device' d := by
  intro trigger stored future
  rw [storedTrigger_congr store] at stored
  rw [outlook]
  exact alarmed trigger stored (Nat.lt_of_le_of_lt now future)

/-- A call writes a date. -/
theorem Write.Sound.dated {editors : List Editor} {write : Write} (sound : write.Sound editors)
    {data : Fields} (wrote : write.data = some data) : (data.lookup "Date").isSome := by
  cases write with
  | add reminder fields =>
      obtain ⟨ownerId, rfl⟩ := sound
      cases wrote
      rw [FirebaseService.reminderData_date]
      rfl
  | update index reminder documentID fields =>
      obtain ⟨rfl, -⟩ := sound
      cases wrote
      rw [FirebaseService.updateData_date]
      rfl
  | delete documentID => cases wrote

theorem recorded_processed {index : Nat} {write : Write} {documentID : DocumentID}
    {error : Option NSError} (scheduled : Scheduled parse device)
    (at_ : device.writes[index]? = some write)
    (processed : Processed { device with writes := device.writes.eraseIdx index } write
      documentID error device') : Recorded device' := by
  intro earlier answer later split succeeded last
  rw [processed.answers] at split
  rcases List.eq_nil_or_concat later with rfl | ⟨before, newest, rfl⟩
  · -- the answer that was just added
    obtain ⟨-, new⟩ := List.append_inj' split rfl
    obtain rfl := List.singleton_inj.1 new
    simp only at succeeded ⊢
    have member := List.mem_of_getElem? at_
    obtain ⟨data, wrote⟩ := Option.isSome_iff_exists.1 (scheduled.writes write member)
    obtain ⟨old, stored⟩ := processed.stored succeeded data wrote
    refine ⟨_, data, stored, wrote, ?_⟩
    obtain ⟨date, dated⟩ :=
      Option.isSome_iff_exists.1 ((scheduled.sound.writes write member).dated wrote)
    rw [union_lookup, dated]
    rfl
  · -- an older one, of another document or before a failure
    have regroup : earlier ++ answer :: before.concat newest =
        (earlier ++ answer :: before) ++ [newest] := by simp
    rw [regroup] at split
    obtain ⟨older, new⟩ := List.append_inj' split rfl
    obtain rfl := List.singleton_inj.1 new
    obtain ⟨document, data, stored, wrote, same⟩ :=
      scheduled.recorded earlier answer before older succeeded fun other member =>
        last other (by simp [member])
    refine ⟨document, data, ?_, wrote, same⟩
    by_cases here : answer.documentID = documentID
    · have failed := last ⟨write, documentID, error⟩ (by simp) here.symm
      rw [processed.failed failed]
      exact stored
    · rw [processed.others _ here]
      exact stored

/-- **An answer to a live Edit screen.**  If no other call about the document is under
way, the alarm is requested for the stored date. -/
theorem alarmed_of_reachesEditor {answer : Answer} {answers : List Answer}
    (scheduled : Scheduled parse device) (oldest : device.answers = answer :: answers)
    (completed : Completed parse { device with answers } answer device')
    (free : ¬ { device with answers }.Busy answer.documentID)
    (reaches : answer.reachesEditor device = true) : Alarmed parse device' answer.documentID := by
  intro trigger stored future
  obtain ⟨made, about⟩ := scheduled.sound.answers answer (oldest ▸ List.mem_cons_self ..)
  have recorded := scheduled.recorded [] answer answers oldest
  obtain ⟨write, documentID, error⟩ := answer
  unfold Answer.reachesEditor at reaches
  split at reaches
  · rename_i index reminder id data wrote succeeded
    simp only at wrote succeeded
    subst wrote succeeded
    obtain rfl : documentID = id := about id rfl
    obtain ⟨document, fields, found, written, dated⟩ := recorded rfl fun other member same =>
      absurd (Or.inr ⟨other, member, same⟩) free
    cases written
    obtain ⟨rfl, -⟩ := made
    split at reaches
    · rename_i editor at_
      obtain ⟨screen, alive⟩ := editor
      simp only at reaches
      subst reaches
      have parsed : reminder.date.bind parse = some trigger := by
        rw [storedTrigger_congr (congrArg _ completed.store)] at stored
        simpa [Device.storedTrigger, found, dated] using stored
      rw [completed.center]
      simp [Device.requested, at_, parsed, NotificationCenter.perform, Requests.apply]
    · cases reaches
  · cases reaches

/-- An answer that reaches no live Edit screen requests nothing. -/
theorem requested_eq_none {answer : Answer} (reaches : answer.reachesEditor device = false)
    (wrote : answer.error = none → ∃ data, answer.write.data = some data) :
    device.requested parse answer = none := by
  obtain ⟨write, documentID, error⟩ := answer
  cases error with
  | some error => cases write <;> rfl
  | none =>
      cases write with
      | add reminder data => rfl
      | delete id =>
          obtain ⟨data, none_⟩ := wrote rfl
          cases none_
      | update index reminder id data =>
          simp only [Answer.reachesEditor] at reaches
          simp only [Device.requested]
          split
          · rename_i screen at_
            rw [at_] at reaches
            cases reaches
          · rfl

/-- **Every step of adding and editing that meets the condition keeps the alarms.** -/
theorem scheduled_step (scheduled : Scheduled parse device) (local_ : event.addsOrEdits = true)
    (met : Schedules parse device event) (moved : step parse device event = some device') :
    Scheduled parse device' := by
  obtain ⟨effect, sound'⟩ := effect_of_step scheduled.sound moved
  cases effect with
  | framed framed asked =>
      refine ⟨sound', fun write member => ?_, ?_, fun d written => ?_⟩
      · rcases asked write member with old | new
        · exact scheduled.writes write old
        · exact new
      · intro earlier answer later split
        rw [framed.answers] at split
        rw [framed.store]
        exact scheduled.recorded earlier answer later split
      · rw [framed.written] at written
        rcases scheduled.alarmed d written with busy | alarmed
        · exact Or.inl (framed.busy busy)
        · exact Or.inr (alarmed.congr (by rw [framed.store]) framed.now.ge (by rw [framed.outlook]))
  | ticked =>
      refine ⟨sound', scheduled.writes, scheduled.recorded, fun d written => ?_⟩
      rcases scheduled.alarmed d written with busy | alarmed
      · exact Or.inl busy
      · exact Or.inr (alarmed.congr rfl (Nat.le_succ _) rfl)
  | @processed index newID refused error documentID write _ at_ processed =>
      refine ⟨sound', ?_, recorded_processed scheduled at_ processed, fun d written => ?_⟩
      · rw [processed.writes]
        exact fun other member => scheduled.writes other (List.mem_of_mem_eraseIdx member)
      · by_cases here : d = documentID
        · exact Or.inl (processed.busy at_ (Or.inr here))
        · have old : d ∈ device.written := (processed.written d written).resolve_right here
          rcases scheduled.alarmed d old with busy | alarmed
          · exact Or.inl (processed.busy at_ (Or.inl busy))
          · exact Or.inr (alarmed.congr (processed.others d here) processed.now.ge
              (by rw [processed.center]))
  | @answered answer answers _ oldest completed =>
      refine ⟨sound', completed.writes ▸ scheduled.writes, ?_, fun d written => ?_⟩
      · intro earlier other later split
        rw [completed.answers] at split
        rw [completed.store]
        refine scheduled.recorded (answer :: earlier) other later ?_
        rw [oldest]
        exact congrArg (answer :: ·) split
      · rw [completed.written] at written
        obtain ⟨-, about⟩ := scheduled.sound.answers answer (oldest ▸ List.mem_cons_self ..)
        by_cases here : d = answer.documentID
        · subst here
          by_cases busy : { device with answers }.Busy answer.documentID
          · refine Or.inl ?_
            rcases busy with writing | waiting
            · exact Or.inl (completed.writes ▸ writing)
            · exact Or.inr (completed.answers ▸ waiting)
          · right
            cases reaches : answer.reachesEditor device with
            | true => exact alarmed_of_reachesEditor scheduled oldest completed busy reaches
            | false =>
                have alarmed := met answer answers oldest written busy reaches
                refine alarmed.congr (by rw [completed.store]) completed.now.ge ?_
                have silent : { device with answers }.requested parse answer = none :=
                  requested_eq_none reaches fun succeeded => by
                    obtain ⟨-, data, -, wrote, -⟩ := scheduled.recorded [] answer answers oldest
                      succeeded fun other member same =>
                        absurd (Or.inr ⟨other, member, same⟩) busy
                    exact ⟨data, wrote⟩
                rw [completed.center, silent]
                rfl
        · rcases scheduled.alarmed d written with busy | alarmed
          · exact Or.inl (completed.busy oldest here busy)
          · refine Or.inr (alarmed.congr (by rw [completed.store]) completed.now.ge ?_)
            rw [completed.center]
            exact requested_other about here
  | swiped framed => cases local_
  | updated id found => cases local_
  | deleted => cases local_
  | signedIn => cases local_
  | signedOut => cases local_

end Step

/-! ## Whole runs -/

theorem scheduled_launch (parse : String → Option Nat) (store : Store) (session : Option User)
    (now : Nat) : Scheduled parse (launch store session now) where
  sound := sound_launch store session now
  writes := by simp [launch, Device.loadReminders]
  recorded := by simp [Recorded, launch, Device.loadReminders]
  alarmed := by simp [launch, Device.loadReminders]

/-- **No alarm is lost when the condition is met.**  In every run of adding and editing
in which every answer that leaves its document without calls under way reaches a live
Edit screen, or finds the alarm as the stored date asks, every idle state has an alarm
pending for each live document that was written here with a date to come. -/
theorem no_lost_alarm {parse : String → Option Nat} {device : Device}
    (reached : (machine parse).Reach
      (fun device event => event.addsOrEdits = true ∧ Schedules parse device event) device)
    (idle : device.Idle) : NoLostAlarm parse device := by
  have scheduled : Scheduled parse device :=
    reached.invariant (I := Scheduled parse)
      (by
        rintro _ ⟨store, session, now, rfl⟩
        exact scheduled_launch parse store session now)
      (fun _ _ _ _ scheduled met moved => scheduled_step scheduled met.1 met.2 moved)
  intro d written trigger stored future
  have alarmed := (scheduled.alarmed d written).resolve_left idle.not_busy
  rw [NotificationCenter.pending_eq_some, ← device.center.outlook_of_idle idle.calls]
  exact ⟨alarmed trigger stored future, future⟩

def annWaited : Device := ((machine wallClock).run annAtLaunch editAndWait).getD annAtLaunch

theorem annWaited_no_lost_alarm : NoLostAlarm wallClock annWaited := by
  have ran : (machine wallClock).run annAtLaunch editAndWait = some annWaited := rfl
  have met : (machine wallClock).RunOk
      (fun device event => event.addsOrEdits = true ∧ Schedules wallClock device event)
      annAtLaunch editAndWait := by
    refine .cons rfl ⟨rfl, trivial⟩ <| .cons rfl ⟨rfl, trivial⟩ <| .cons rfl ⟨rfl, trivial⟩ <|
      .cons rfl ⟨rfl, trivial⟩ <| .cons rfl ⟨rfl, trivial⟩ <| .cons rfl ⟨rfl, ?_⟩ <|
      .cons rfl ⟨rfl, trivial⟩ <| .cons rfl ⟨rfl, trivial⟩ trivial
    -- the one answer reaches the Edit screen that is waiting for it
    intro answer answers oldest _ _ misses
    cases oldest
    cases misses
  have started : (machine wallClock).init annAtLaunch := ⟨_, _, _, rfl⟩
  exact no_lost_alarm ((Machine.Reach.init started).of_run met ran) ⟨rfl, rfl, rfl⟩

example : annWaited.center.pending annWaited.now (alarm "d1") = wallClock later := by rfl

/-- Ann adds a reminder for later, and waits. -/
def addAndWait : List Event :=
  [.addReminder { titleView := "Call", selectedDate := some later }, .process 0 "d2" none,
    .answer, .snapshot "ann"]

/-- Nothing is pending for the reminder added for later. -/
theorem added_reminder_has_no_alarm :
    ¬ ∀ (parse : String → Option Nat) (device : Device),
        (machine parse).Reach (fun _ event => event.addsOrEdits = true) device →
        device.Idle → NoLostAlarm parse device := by
  intro always
  have ran : (machine wallClock).run annAtLaunch addAndWait = some _ := rfl
  have met : (machine wallClock).RunOk (fun _ event => event.addsOrEdits = true) annAtLaunch
      addAndWait :=
    Machine.runOk_of_forall (by simp [addAndWait, Event.addsOrEdits]) annAtLaunch
  have started : (machine wallClock).init annAtLaunch := ⟨_, _, _, rfl⟩
  have kept := always wallClock _ ((Machine.Reach.init started).of_run met ran)
    ⟨rfl, rfl, rfl⟩
  have pending := kept "d2" (List.mem_cons_self ..) _ rfl (by decide)
  cases pending

end Remindify.Alarm
