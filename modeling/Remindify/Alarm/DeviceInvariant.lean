/-
# Alarm.DeviceInvariant -- what a step of the device can do

`Sound` is what every reachable state satisfies: whatever is listed, opened, written
or answered has a document ID, and an update is of the document its Edit screen was
opened on.  So the completions do not trap, and the call a completion makes to the
notification centre is `Device.requested` (`complete_eq`).

`effect_of_step` says once what an event can change of the state the alarms depend
on: the store, the session, the time, the calls under way and the requests.
-/
import Remindify.Alarm.Device

namespace Remindify.Alarm

open Remindify.Theory
open Remindify.Network

set_option autoImplicit false

/-! ## Soundness -/

/-- An Edit screen opened on a document. -/
def Editor.Opened (editor : Editor) (documentID : DocumentID) : Prop :=
  ∃ copy, editor.screen.reminder = some copy ∧ copy.documentID = some documentID

/-- A call as a screen makes it. -/
def Write.Sound (editors : List Editor) : Write → Prop
  | .add reminder data => ∃ ownerId, data = FirebaseService.reminderData ownerId reminder
  | .update index reminder documentID data =>
      data = FirebaseService.updateData reminder ∧
        ∃ editor, editors[index]? = some editor ∧ editor.Opened documentID
  | .delete _ => True

/-- What every reachable state satisfies. -/
structure Sound (device : Device) : Prop where
  listed : ∀ reminder ∈ device.listed, reminder.documentID.isSome
  editors : ∀ editor ∈ device.editors, ∃ documentID, editor.Opened documentID
  writes : ∀ write ∈ device.writes, write.Sound device.editors
  answers : ∀ answer ∈ device.answers, answer.write.Sound device.editors ∧
    ∀ documentID, answer.write.documentID = some documentID → answer.documentID = documentID

/-- Edit screens come and change, and keep the document they were opened on. -/
def Extends (editors editors' : List Editor) : Prop :=
  ∀ (index : Nat) (editor : Editor), editors[index]? = some editor →
    ∃ editor' : Editor, editors'[index]? = some editor' ∧
      editor'.screen.reminder = editor.screen.reminder

theorem Extends.refl (editors : List Editor) : Extends editors editors :=
  fun _ editor at_ => ⟨editor, at_, rfl⟩

theorem extends_append (editors more : List Editor) : Extends editors (editors ++ more) := by
  intro index editor at_
  have bound := (List.getElem?_eq_some_iff.1 at_).1
  exact ⟨editor, by rw [List.getElem?_append_left bound, at_], rfl⟩

theorem extends_set {editors : List Editor} {index : Nat} {editor editor' : Editor}
    (at_ : editors[index]? = some editor)
    (same : editor'.screen.reminder = editor.screen.reminder) :
    Extends editors (editors.set index editor') := by
  intro other found there
  by_cases here : index = other
  · subst here
    rw [at_] at there
    cases there
    have bound := (List.getElem?_eq_some_iff.1 at_).1
    exact ⟨editor', List.getElem?_set_self bound, same⟩
  · exact ⟨found, by rw [List.getElem?_set_ne here, there], rfl⟩

theorem Write.Sound.extend {editors editors' : List Editor} {write : Write}
    (sound : write.Sound editors) (extends_ : Extends editors editors') :
    write.Sound editors' := by
  cases write with
  | add reminder data => exact sound
  | delete documentID => exact sound
  | update index reminder documentID data =>
      obtain ⟨written, editor, at_, copy, given, id⟩ := sound
      obtain ⟨editor', at', same⟩ := extends_ index editor at_
      exact ⟨written, editor', at', copy, same.trans given, id⟩

theorem Editor.Opened.same {editor editor' : Editor} {documentID : DocumentID}
    (opened : editor.Opened documentID)
    (same : editor'.screen.reminder = editor.screen.reminder) : editor'.Opened documentID := by
  obtain ⟨copy, given, id⟩ := opened
  exact ⟨copy, same.trans given, id⟩

section Sound

variable {device : Device}

/-- Replacing one Edit screen by another on the same document. -/
theorem Sound.set (sound : Sound device) {index : Nat} {editor : Editor}
    (at_ : device.editors[index]? = some editor) (editor' : Editor)
    (same : editor'.screen.reminder = editor.screen.reminder) :
    Sound { device with editors := device.editors.set index editor' } where
  listed := sound.listed
  editors := by
    intro other member
    rcases List.mem_or_eq_of_mem_set member with old | rfl
    · exact sound.editors other old
    · obtain ⟨documentID, opened⟩ := sound.editors editor (List.mem_of_getElem? at_)
      exact ⟨documentID, opened.same same⟩
  writes write member := (sound.writes write member).extend (extends_set at_ same)
  answers answer member := by
    obtain ⟨made, about⟩ := sound.answers answer member
    exact ⟨made.extend (extends_set at_ same), about⟩

/-- Making a call. -/
theorem Sound.write (sound : Sound device) (write : Write) (made : write.Sound device.editors) :
    Sound { device with writes := device.writes ++ [write] } where
  listed := sound.listed
  editors := sound.editors
  writes other member := by
    rcases List.mem_append.1 member with old | new
    · exact sound.writes other old
    · rw [List.mem_singleton.1 new]
      exact made
  answers := sound.answers

theorem sound_addReminder (sound : Sound device) (screen : Add.Screen) :
    Sound (device.addReminder screen) := by
  unfold Device.addReminder
  split
  · split
    · rename_i asked
      obtain ⟨user, -, rfl⟩ := Option.map_eq_some_iff.1 asked
      exact sound.write _ ⟨user.uid, rfl⟩
    · exact sound
  · exact sound

theorem sound_saveEditor (sound : Sound device) {index : Nat} {editor : Editor}
    (at_ : device.editors[index]? = some editor) : Sound (device.saveEditor index editor) := by
  have kept := Edit.saveButtonTapped_reminder editor.screen
  unfold Device.saveEditor
  split
  · rename_i screen reminder saved
    rw [saved] at kept
    have changed := sound.set at_ { editor with screen } kept
    dsimp only
    split
    · rename_i documentID data asked
      refine changed.write (.update index reminder documentID data) ⟨?_, ?_⟩
      · unfold FirebaseService.updateReminder at asked
        split at asked <;> cases asked
        rfl
      · obtain ⟨copy, given, -, rfl⟩ := Edit.saveButtonTapped_eq_some saved
        have bound := (List.getElem?_eq_some_iff.1 at_).1
        refine ⟨_, List.getElem?_set_self bound, copy, kept.trans given, ?_⟩
        unfold FirebaseService.updateReminder at asked
        split at asked <;> cases asked
        assumption
    · exact sound.set at_ _ kept
  · rename_i screen unsaved
    rw [unsaved] at kept
    exact sound.set at_ _ kept

end Sound

/-! ## Firestore -/

/-- The fields a call writes. -/
def Write.data : Write → Option Fields
  | .add _ data => some data
  | .update _ _ _ data => some data
  | .delete _ => none

/-- What processing a call does: one document may change, and an answer is due. -/
structure Processed (device : Device) (write : Write) (documentID : DocumentID)
    (error : Option NSError) (device' : Device) : Prop where
  about : ∀ d, write.documentID = some d → documentID = d
  answers : device'.answers = device.answers ++ [⟨write, documentID, error⟩]
  session : device'.session = device.session
  now : device'.now = device.now
  listed : device'.listed = device.listed
  editors : device'.editors = device.editors
  writes : device'.writes = device.writes
  center : device'.center = device.center
  others : ∀ d, d ≠ documentID → device'.store.lookup d = device.store.lookup d
  failed : error ≠ none → device'.store = device.store
  stored : error = none → ∀ data, write.data = some data →
    ∃ old, device'.store.lookup documentID = some (data ∪ old)
  written : ∀ d ∈ device'.written, d ∈ device.written ∨ d = documentID

/-- A refused call changes nothing. -/
theorem processed_failed (device : Device) (write : Write) (documentID : DocumentID)
    (error : NSError) (about : ∀ d, write.documentID = some d → documentID = d) :
    Processed device write documentID (some error)
      { device with answers := device.answers ++ [⟨write, documentID, some error⟩] } where
  about
  answers := rfl
  session := rfl
  now := rfl
  listed := rfl
  editors := rfl
  writes := rfl
  center := rfl
  others _ _ := rfl
  failed _ := rfl
  stored none_ := by cases none_
  written _ member := Or.inl member

/-- **What Firestore does with a call.** -/
theorem processed_of_process {device device' : Device} {write : Write} {newID : DocumentID}
    {refused : Option NSError} (processed : device.process write newID refused = some device') :
    ∃ documentID error, Processed device write documentID error device' := by
  unfold Device.process at processed
  cases write with
  | add reminder data =>
      cases refused with
      | some error =>
          cases processed
          exact ⟨newID, some error, processed_failed _ _ _ _ (by simp [Write.documentID])⟩
      | none =>
          obtain ⟨store, added, rfl⟩ := Option.map_eq_some_iff.1 processed
          obtain ⟨-, rfl⟩ := Store.addDocument_eq_some.1 added
          exact ⟨newID, none,
            { about := by simp [Write.documentID]
              answers := rfl, session := rfl, now := rfl, listed := rfl, editors := rfl
              writes := rfl, center := rfl
              others := fun d other => AList.lookup_insert_ne other
              failed := fun error => absurd rfl error
              stored := fun _ fields wrote => by
                cases wrote
                exact ⟨∅, by rw [AList.union_empty]; exact AList.lookup_insert _⟩
              written := fun d member => (List.mem_cons.1 member).symm }⟩
  | update index reminder documentID data =>
      cases refused with
      | some error =>
          cases processed
          exact ⟨documentID, some error, processed_failed _ _ _ _ (by simp [Write.documentID])⟩
      | none =>
          simp only at processed
          split at processed
          · rename_i store updated
            cases processed
            obtain ⟨old, -, rfl⟩ := Store.updateData_eq_ok.1 updated
            exact ⟨documentID, none,
              { about := by simp [Write.documentID]
                answers := rfl, session := rfl, now := rfl, listed := rfl, editors := rfl
                writes := rfl, center := rfl
                others := fun d other => AList.lookup_insert_ne other
                failed := fun error => absurd rfl error
                stored := fun _ fields wrote => by
                  cases wrote
                  exact ⟨old, AList.lookup_insert _⟩
                written := fun d member => (List.mem_cons.1 member).symm }⟩
          · cases processed
            exact ⟨documentID, _, processed_failed _ _ _ _ (by simp [Write.documentID])⟩
  | delete documentID =>
      cases refused with
      | some error =>
          cases processed
          exact ⟨documentID, some error, processed_failed _ _ _ _ (by simp [Write.documentID])⟩
      | none =>
          cases processed
          exact ⟨documentID, none,
            { about := by simp [Write.documentID]
              answers := rfl, session := rfl, now := rfl, listed := rfl, editors := rfl
              writes := rfl, center := rfl
              others := fun d other => AList.lookup_erase_ne other
              failed := fun error => absurd rfl error
              stored := fun _ fields wrote => by cases wrote
              written := fun d member => Or.inl member }⟩

/-! ## Completions -/

/-- The call to the notification centre that completing an answer makes. -/
def Device.requested (parse : String → Option Nat) (device : Device) (answer : Answer) :
    Option Call :=
  match answer.write, answer.error with
  | .update index reminder documentID _, none =>
      match device.editors[index]? with
      | some ⟨_, true⟩ =>
          (reminder.date.bind parse).map fun trigger =>
            .add { identifier := alarm documentID, trigger }
      | _ => none
  | .delete documentID, none => some (.removePendingNotificationRequests [alarm documentID])
  | _, _ => none

/-- What a completion changes. -/
structure Completed (parse : String → Option Nat) (device : Device) (answer : Answer)
    (device' : Device) : Prop where
  center : device'.center = device.center.perform (device.requested parse answer)
  store : device'.store = device.store
  session : device'.session = device.session
  now : device'.now = device.now
  writes : device'.writes = device.writes
  answers : device'.answers = device.answers
  written : device'.written = device.written
  sound : Sound device'

/-- **What a completion does.**  It does not trap, and all it changes of the alarms is
the call it requests. -/
theorem completed_of_complete (parse : String → Option Nat) {device : Device} {answer : Answer}
    (sound : Sound device) (made : answer.write.Sound device.editors) :
    ∃ device', device.complete parse answer = .ok device' ∧
      Completed parse device answer device' := by
  obtain ⟨write, about, error⟩ := answer
  cases write with
  | add reminder data =>
      exact ⟨device, rfl, ⟨rfl, rfl, rfl, rfl, rfl, rfl, rfl, sound⟩⟩
  | delete documentID =>
      cases error with
      | some error => exact ⟨device, rfl, ⟨rfl, rfl, rfl, rfl, rfl, rfl, rfl, sound⟩⟩
      | none =>
          exact ⟨_, rfl, ⟨rfl, rfl, rfl, rfl, rfl, rfl, rfl,
            ⟨sound.listed, sound.editors, sound.writes, sound.answers⟩⟩⟩
  | update index reminder documentID data =>
      obtain ⟨-, ⟨screen, alive⟩, at_, copy, given, id⟩ := made
      simp only [Device.complete, Device.reminderUpdated, at_]
      cases alive with
      | false =>
          refine ⟨device, rfl, ⟨?_, rfl, rfl, rfl, rfl, rfl, rfl, sound⟩⟩
          cases error <;> simp [Device.requested, at_, NotificationCenter.perform]
      | true =>
          obtain ⟨screen', kept, updated⟩ :=
            Edit.reminderUpdated_of_documentID parse given id reminder error
          simp only [updated]
          have sound' := sound.set at_ ⟨screen', true⟩ kept
          refine ⟨_, rfl, ⟨?_, rfl, rfl, rfl, rfl, rfl, rfl,
            ⟨sound'.listed, sound'.editors, sound'.writes, sound'.answers⟩⟩⟩
          cases error with
          | some error => rfl
          | none =>
              simp only [Device.requested, at_, Option.isSome_none, Bool.false_eq_true, if_false]
              cases reminder.date.bind parse <;> rfl

/-! ## Steps -/

/-- Nothing the alarms depend on changes, but for calls that are made. -/
structure Framed (device device' : Device) : Prop where
  store : device'.store = device.store
  session : device'.session = device.session
  now : device'.now = device.now
  answers : device'.answers = device.answers
  written : device'.written = device.written
  outlook : device'.center.outlook = device.center.outlook
  writes : ∀ write ∈ device.writes, write ∈ device'.writes

/-- The effects an event has on what the alarms depend on. -/
inductive Effect (parse : String → Option Nat) (device : Device) : Event → Device → Prop where
  | framed {event : Event} {device' : Device} (framed : Framed device device')
      (asked : ∀ write ∈ device'.writes, write ∈ device.writes ∨ write.data.isSome) :
      Effect parse device event device'
  | swiped {row : Nat} {device' : Device} (framed : Framed device device') :
      Effect parse device (.swipeDelete row) device'
  | processed {index : Nat} {newID : DocumentID} {refused error : Option NSError}
      {documentID : DocumentID} {write : Write} {device' : Device}
      (at_ : device.writes[index]? = some write)
      (processed : Processed { device with writes := device.writes.eraseIdx index } write
        documentID error device') :
      Effect parse device (.process index newID refused) device'
  | answered {answer : Answer} {answers : List Answer} {device' : Device}
      (oldest : device.answers = answer :: answers)
      (completed : Completed parse { device with answers } answer device') :
      Effect parse device .answer device'
  | ticked : Effect parse device .tick { device with now := device.now + 1 }
  | updated {reminder : ReminderModel} {documentID : DocumentID} {old : Fields}
      (id : reminder.documentID = some documentID)
      (found : device.store.lookup documentID = some old) :
      Effect parse device (.remoteUpdate reminder) (device.setStore
        (device.store.insert documentID (FirebaseService.updateData reminder ∪ old)))
  | deleted {documentID : DocumentID} :
      Effect parse device (.remoteDelete documentID)
        (device.setStore (device.store.delete documentID))
  | signedIn {user : User} :
      Effect parse device (.signIn user) { device with session := some user }.loadReminders
  | signedOut : Effect parse device .signOut { device with session := none }

section Step

variable {parse : String → Option Nat} {device device' : Device} {event : Event}

theorem framed_of_edit {index : Nat} {change : Edit.Screen → Edit.Screen} (sound : Sound device)
    (moved : device.edit index change = some device')
    (keeps : ∀ screen, (change screen).reminder = screen.reminder) :
    Framed device device' ∧ device'.writes = device.writes ∧ Sound device' := by
  unfold Device.edit at moved
  split at moved
  · rename_i screen at_
    cases moved
    exact ⟨⟨rfl, rfl, rfl, rfl, rfl, rfl, fun _ member => member⟩, rfl,
      sound.set at_ _ (keeps screen)⟩
  · cases moved

/-- An event that makes no call. -/
theorem Effect.of_same_writes (framed : Framed device device')
    (same : device'.writes = device.writes) : Effect parse device event device' :=
  .framed framed fun _ member => Or.inl (same ▸ member)

/-- An event that makes one call, of a write. -/
theorem Effect.of_write (write : Write) (data : write.data.isSome)
    (framed : Framed device device') (made : device'.writes = device.writes ++ [write]) :
    Effect parse device event device' := by
  refine .framed framed fun other member => ?_
  rw [made] at member
  rcases List.mem_append.1 member with old | new
  · exact Or.inl old
  · rw [List.mem_singleton.1 new]
    exact Or.inr data

theorem effect_addReminder (screen : Add.Screen) :
    Effect parse device event (device.addReminder screen) := by
  unfold Device.addReminder
  split
  · split
    · rename_i reminder _ _ data _
      refine .of_write (.add reminder data) rfl ⟨rfl, rfl, rfl, rfl, rfl, rfl, ?_⟩ rfl
      exact fun _ member => List.mem_append_left _ member
    · exact .of_same_writes ⟨rfl, rfl, rfl, rfl, rfl, rfl, fun _ member => member⟩ rfl
  · exact .of_same_writes ⟨rfl, rfl, rfl, rfl, rfl, rfl, fun _ member => member⟩ rfl

theorem effect_saveEditor (index : Nat) (editor : Editor) :
    Effect parse device event (device.saveEditor index editor) := by
  unfold Device.saveEditor
  split
  · dsimp only
    split
    · rename_i reminder _ _ documentID data _
      refine .of_write (.update index reminder documentID data) rfl
        ⟨rfl, rfl, rfl, rfl, rfl, rfl, ?_⟩ rfl
      exact fun _ member => List.mem_append_left _ member
    · exact .of_same_writes ⟨rfl, rfl, rfl, rfl, rfl, rfl, fun _ member => member⟩ rfl
  · exact .of_same_writes ⟨rfl, rfl, rfl, rfl, rfl, rfl, fun _ member => member⟩ rfl

/-- A row taken from the list, and a deletion under way. -/
theorem framed_swipeDelete {row : Nat} (sound : Sound device)
    (moved : device.swipeDelete row = some device') : Framed device device' ∧ Sound device' := by
  unfold Device.swipeDelete at moved
  split at moved
  · split at moved
    · rename_i ownerId documentID _ _
      cases moved
      refine ⟨⟨rfl, rfl, rfl, rfl, rfl, rfl, fun _ member => List.mem_append_left _ member⟩, ?_⟩
      have sound' := sound.write (.delete documentID) trivial
      exact { sound' with
        listed := fun r member => sound.listed r (List.mem_of_mem_eraseIdx member) }
    · cases moved
      exact ⟨⟨rfl, rfl, rfl, rfl, rfl, rfl, fun _ member => member⟩, sound⟩
  · cases moved

theorem sound_of_processed {index : Nat} {write : Write} {documentID : DocumentID}
    {error : Option NSError} (sound : Sound device) (at_ : device.writes[index]? = some write)
    (processed : Processed { device with writes := device.writes.eraseIdx index } write
      documentID error device') : Sound device' where
  listed := by
    rw [processed.listed]
    exact sound.listed
  editors := by
    rw [processed.editors]
    exact sound.editors
  writes := by
    rw [processed.writes, processed.editors]
    exact fun other member => sound.writes other (List.mem_of_mem_eraseIdx member)
  answers := by
    rw [processed.answers, processed.editors]
    intro answer member
    rcases List.mem_append.1 member with old | new
    · exact sound.answers answer old
    · rw [List.mem_singleton.1 new]
      exact ⟨sound.writes write (List.mem_of_getElem? at_), processed.about⟩

/-- The oldest answer is taken, and its completion runs. -/
theorem completed_of_answer (sound : Sound device)
    (moved : step parse device .answer = some device') :
    ∃ answer answers, device.answers = answer :: answers ∧
      Completed parse { device with answers } answer device' := by
  simp only [step] at moved
  split at moved
  · rename_i answer answers oldest
    have rest : Sound { device with answers } :=
      { sound with
        answers := fun a member => sound.answers a (oldest ▸ List.mem_cons_of_mem _ member) }
    obtain ⟨made, -⟩ := sound.answers answer (oldest ▸ List.mem_cons_self ..)
    obtain ⟨next, done, completed⟩ := completed_of_complete parse rest made
    rw [done] at moved
    cases moved
    exact ⟨answer, answers, oldest, completed⟩
  · cases moved

/-- **The effect of a step**, and that it stays sound. -/
theorem effect_of_step (sound : Sound device) (moved : step parse device event = some device') :
    Effect parse device event device' ∧ Sound device' := by
  have unchanged : ∀ write ∈ device.writes, write ∈ device.writes := fun _ member => member
  cases event with
  | addReminder screen =>
      cases moved
      exact ⟨effect_addReminder screen, sound_addReminder sound screen⟩
  | didSelectRow row =>
      simp only [step] at moved
      split at moved
      · rename_i reminder at_
        cases moved
        obtain ⟨documentID, id⟩ :=
          Option.isSome_iff_exists.1 (sound.listed reminder (List.mem_of_getElem? at_))
        have extends_ := extends_append device.editors [⟨Edit.viewDidLoad (some reminder), true⟩]
        refine ⟨.of_same_writes ⟨rfl, rfl, rfl, rfl, rfl, rfl, unchanged⟩ rfl,
          { listed := sound.listed
            editors := fun editor member => ?_
            writes := fun write member => (sound.writes write member).extend extends_
            answers := fun answer member => ?_ }⟩
        · rcases List.mem_append.1 member with old | new
          · exact sound.editors editor old
          · rw [List.mem_singleton.1 new]
            exact ⟨documentID, reminder, Edit.viewDidLoad_reminder _, id⟩
        · obtain ⟨made, about⟩ := sound.answers answer member
          exact ⟨made.extend extends_, about⟩
      · cases moved
  | typeTitle index text =>
      obtain ⟨framed, same, sound'⟩ := framed_of_edit sound moved fun _ => rfl
      exact ⟨.of_same_writes framed same, sound'⟩
  | typeDescription index text =>
      obtain ⟨framed, same, sound'⟩ := framed_of_edit sound moved fun _ => rfl
      exact ⟨.of_same_writes framed same, sound'⟩
  | pickDate index date =>
      obtain ⟨framed, same, sound'⟩ := framed_of_edit sound moved fun _ => rfl
      exact ⟨.of_same_writes framed same, sound'⟩
  | saveEditor index =>
      simp only [step] at moved
      split at moved
      · rename_i screen at_
        cases moved
        exact ⟨effect_saveEditor _ _, sound_saveEditor sound at_⟩
      · cases moved
  | leaveEditor index =>
      simp only [step] at moved
      split at moved
      · rename_i editor at_
        cases moved
        exact ⟨.of_same_writes ⟨rfl, rfl, rfl, rfl, rfl, rfl, unchanged⟩ rfl, sound.set at_ _ rfl⟩
      · cases moved
  | swipeDelete row =>
      obtain ⟨framed, sound'⟩ := framed_swipeDelete sound moved
      exact ⟨.swiped framed, sound'⟩
  | process index newID refused =>
      simp only [step] at moved
      split at moved
      · rename_i write at_
        obtain ⟨documentID, error, processed⟩ := processed_of_process moved
        exact ⟨.processed at_ processed, sound_of_processed sound at_ processed⟩
      · cases moved
  | answer =>
      obtain ⟨answer, answers, oldest, completed⟩ := completed_of_answer sound moved
      exact ⟨.answered oldest completed, completed.sound⟩
  | snapshot ownerId =>
      simp only [step] at moved
      split at moved
      · split at moved
        · rename_i reminders delivered
          cases moved
          have listed := (FirebaseService.loadRemindersListener_spec delivered).1
          exact ⟨.of_same_writes ⟨rfl, rfl, rfl, rfl, rfl, rfl, unchanged⟩ rfl,
            { sound with listed := fun reminder member => (listed reminder member).2.2 }⟩
        · cases moved
      · cases moved
  | work =>
      obtain ⟨center, worked, rfl⟩ := Option.map_eq_some_iff.1 moved
      have same := NotificationCenter.outlook_work worked
      exact ⟨.of_same_writes ⟨rfl, rfl, rfl, rfl, rfl, same, unchanged⟩ rfl, { sound with }⟩
  | tick =>
      cases moved
      exact ⟨.ticked, { sound with }⟩
  | remoteUpdate reminder =>
      simp only [step] at moved
      split at moved
      · rename_i documentID data asked
        split at moved
        · rename_i store updated
          cases moved
          obtain ⟨old, found, rfl⟩ := Store.updateData_eq_ok.1 updated
          unfold FirebaseService.updateReminder at asked
          split at asked <;> cases asked
          rename_i id
          exact ⟨.updated id found, { sound with }⟩
        · cases moved
      · cases moved
  | remoteDelete documentID =>
      cases moved
      exact ⟨.deleted, { sound with }⟩
  | signIn user =>
      cases moved
      exact ⟨.signedIn, { sound with }⟩
  | signOut =>
      cases moved
      exact ⟨.signedOut, { sound with }⟩

end Step

theorem sound_launch (store : Store) (session : Option User) (now : Nat) :
    Sound (launch store session now) where
  listed := by simp [launch, Device.loadReminders]
  editors := by simp [launch, Device.loadReminders]
  writes := by simp [launch, Device.loadReminders]
  answers := by simp [launch, Device.loadReminders]

/-! ## Alarms across a step -/

theorem alarm_injective {d d' : DocumentID} (same : alarm d = alarm d') : d = d' :=
  (String.append_right_inj "Reminder_").1 same

/-- A completion requests nothing for the alarm of another document. -/
theorem requested_other {parse : String → Option Nat} {device : Device} {answer : Answer}
    (about : ∀ d, answer.write.documentID = some d → answer.documentID = d) {d : DocumentID}
    (other : d ≠ answer.documentID) :
    (device.center.perform (device.requested parse answer)).outlook (alarm d) =
      device.center.outlook (alarm d) := by
  obtain ⟨write, documentID, error⟩ := answer
  cases write with
  | add reminder data => rfl
  | delete id =>
      obtain rfl : documentID = id := about id rfl
      cases error with
      | some error => rfl
      | none =>
          have apart : alarm d ≠ alarm documentID := fun same => other (alarm_injective same)
          simp [Device.requested, NotificationCenter.perform, Requests.apply, apart]
  | update index reminder id data =>
      obtain rfl : documentID = id := about id rfl
      have apart : alarm d ≠ alarm documentID := fun same => other (alarm_injective same)
      cases error with
      | some error => rfl
      | none =>
          simp only [Device.requested]
          split
          · cases reminder.date.bind parse <;>
              simp [NotificationCenter.perform, Requests.apply, apart]
          · rfl

section Busy

variable {device device' : Device} {d : DocumentID}

theorem Device.Idle.not_busy (idle : device.Idle) : ¬ device.Busy d := by
  rintro (⟨write, member, -⟩ | ⟨answer, member, -⟩)
  · rw [idle.writes] at member
    cases member
  · rw [idle.answers] at member
    cases member

theorem Framed.busy (framed : Framed device device') (busy : device.Busy d) : device'.Busy d := by
  rcases busy with ⟨write, member, about⟩ | waiting
  · exact Or.inl ⟨write, framed.writes write member, about⟩
  · exact Or.inr (framed.answers ▸ waiting)

/-- A processed call waits for its answer. -/
theorem Processed.busy {index : Nat} {write : Write} {documentID : DocumentID}
    {error : Option NSError} (at_ : device.writes[index]? = some write)
    (processed : Processed { device with writes := device.writes.eraseIdx index } write
      documentID error device') (busy : device.Busy d ∨ d = documentID) : device'.Busy d := by
  have answered : ∀ d, d = documentID → device'.Busy d := by
    rintro _ rfl
    exact Or.inr ⟨_, processed.answers ▸ List.mem_append_right _ (List.mem_singleton_self _), rfl⟩
  rcases busy with (⟨other, member, about⟩ | ⟨answer, member, about⟩) | here
  · obtain ⟨position, at'⟩ := List.mem_iff_getElem?.1 member
    by_cases same : position = index
    · subst same
      rw [at_] at at'
      cases at'
      exact answered d (processed.about d about).symm
    · refine Or.inl ⟨other, ?_, about⟩
      rw [processed.writes]
      exact List.mem_eraseIdx_iff_getElem?.2 ⟨position, same, at'⟩
  · exact Or.inr ⟨answer, processed.answers ▸ List.mem_append_left _ member, about⟩
  · exact answered d here

/-- An answer frees its own document only. -/
theorem Completed.busy {parse : String → Option Nat} {answer : Answer} {answers : List Answer}
    (oldest : device.answers = answer :: answers)
    (completed : Completed parse { device with answers } answer device')
    (other : d ≠ answer.documentID) (busy : device.Busy d) : device'.Busy d := by
  rcases busy with writing | ⟨waiting, member, about⟩
  · exact Or.inl (completed.writes ▸ writing)
  · refine Or.inr ⟨waiting, ?_, about⟩
    rw [completed.answers]
    rw [oldest] at member
    rcases List.mem_cons.1 member with rfl | later
    · exact absurd about.symm other
    · exact later

end Busy

/-- The stored date depends on the document only. -/
theorem storedTrigger_congr {parse : String → Option Nat} {device device' : Device}
    {d : DocumentID} (same : device'.store.lookup d = device.store.lookup d) :
    device'.storedTrigger parse d = device.storedTrigger parse d := by
  simp only [Device.storedTrigger, same]

end Remindify.Alarm
