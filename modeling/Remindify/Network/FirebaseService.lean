/-
# Network.FirebaseService -- the reminder operations of the service

`FirebaseService.swift`, the four operations on the collection `reminders`, and
`ReminderModel`.  A record is encoded in two places and decoded in a third:

* `addReminder` writes `?? ""` for a missing field, and the owner;
* `updateReminder` writes an optional through `Any`, so `nil` is stored as null,
  and leaves the owner;
* the listener of `loadReminders` reads `Title` and `Date` with `as?` and
  `Description` with `as!`, which traps on anything but a string.

`loadRemindersListener_of_readable` and `loadRemindersListener_spec` are what the
callers use: when the listener does not trap, and what it delivers.
-/
import Remindify.Network.Firestore

namespace Remindify.Network

set_option autoImplicit false

/-- `ReminderModel`; its `opened` flag is read nowhere. -/
structure ReminderModel where
  title : Option String := none
  description : Option String := none
  date : Option String := none
  documentID : Option DocumentID := none
  ownerId : Option String := none
  deriving DecidableEq, Repr

/-- A user of FirebaseAuth. -/
structure User where
  uid : String
  email : Option String
  deriving DecidableEq, Repr

/-- What stops the program. -/
inductive Trap where
  | forcedCast
  | forcedUnwrap
  | indexOutOfRange
  | invalidUpdate
  deriving DecidableEq, Repr

namespace FirebaseService

/-- The fields `addReminder` stores. -/
def reminderData (ownerId : String) (reminder : ReminderModel) : Fields :=
  ((((∅ : Fields).insert "Title" (.string (reminder.title.getD ""))).insert
    "Description" (.string (reminder.description.getD ""))).insert
    "Date" (.string (reminder.date.getD ""))).insert
    "ownerId" (.string ownerId)

/-- The document `addReminder` asks to create; without a user it asks for none
and its completion is dropped. -/
def addReminder (currentUser : Option User) (reminder : ReminderModel) : Option Fields :=
  currentUser.map fun user => reminderData user.uid reminder

/-- The fields `updateReminder` overwrites. -/
def updateData (reminder : ReminderModel) : Fields :=
  (((∅ : Fields).insert "Title" (.ofOptional reminder.title)).insert
    "Description" (.ofOptional reminder.description)).insert
    "Date" (.ofOptional reminder.date)

def invalidDocumentID : NSError :=
  { domain := "FirebaseService", code := 1, localizedDescription := "Invalid document ID" }

/-- The update `updateReminder` asks for, or the error it completes with. -/
def updateReminder (reminder : ReminderModel) : Except NSError (DocumentID × Fields) :=
  match reminder.documentID with
  | some documentID => .ok (documentID, updateData reminder)
  | none => .error invalidDocumentID

/-- The document `deleteReminder` asks to delete. -/
def deleteReminder (documentID : DocumentID) : DocumentID := documentID

/-- One turn of the listener's loop: `none` for a document without a string
`Title`, which is skipped. -/
def decode (ownerId : String) (document : Document) : Except Trap (Option ReminderModel) :=
  match (document.data.lookup "Title").bind Value.asString with
  | some title =>
      match (document.data.lookup "Description").bind Value.asString with
      | some description =>
          .ok (some
            { title := some title
              description := some description
              date := (document.data.lookup "Date").bind Value.asString
              documentID := some document.documentID
              ownerId := some ownerId })
      | none => .error .forcedCast
  | none => .ok none

/-- The loop over `snapshotDocuments`, appending to `reminders`. -/
def decodeLoop (ownerId : String) :
    List ReminderModel → List Document → Except Trap (List ReminderModel)
  | reminders, [] => .ok reminders
  | reminders, document :: rest =>
      match decode ownerId document with
      | .ok (some reminder) => decodeLoop ownerId (reminders ++ [reminder]) rest
      | .ok none => decodeLoop ownerId reminders rest
      | .error trap => .error trap

/-- The snapshot listener of `loadReminders`: what it completes with, unless it
traps. -/
def loadRemindersListener (ownerId : String) (error : Option NSError)
    (querySnapshot : Option Snapshot) : Except Trap (Except NSError (List ReminderModel)) :=
  match error with
  | some error => .ok (.error error)
  | none =>
      match querySnapshot with
      | some snapshot => (decodeLoop ownerId [] snapshot.documents).map .ok
      | none => .ok (.ok [])

/-- `loadReminders` registers a listener for the current user, if there is one. -/
def loadReminders (currentUser : Option User) : Option String :=
  currentUser.map (·.uid)

/-! ## What is stored -/

section Stored

variable (ownerId : String) (reminder : ReminderModel)

@[simp] theorem reminderData_title :
    (reminderData ownerId reminder).lookup "Title" = some (.string (reminder.title.getD "")) := by
  simp [reminderData, AList.lookup_insert_ne, -AList.insert_empty]

@[simp] theorem reminderData_description :
    (reminderData ownerId reminder).lookup "Description" =
      some (.string (reminder.description.getD "")) := by
  simp [reminderData, AList.lookup_insert_ne]

@[simp] theorem reminderData_date :
    (reminderData ownerId reminder).lookup "Date" = some (.string (reminder.date.getD "")) := by
  simp [reminderData, AList.lookup_insert_ne]

@[simp] theorem reminderData_ownerId :
    (reminderData ownerId reminder).lookup "ownerId" = some (.string ownerId) := by
  simp [reminderData]

@[simp] theorem updateData_title :
    (updateData reminder).lookup "Title" = some (.ofOptional reminder.title) := by
  simp [updateData, AList.lookup_insert_ne, -AList.insert_empty]

@[simp] theorem updateData_description :
    (updateData reminder).lookup "Description" = some (.ofOptional reminder.description) := by
  simp [updateData, AList.lookup_insert_ne]

@[simp] theorem updateData_date :
    (updateData reminder).lookup "Date" = some (.ofOptional reminder.date) := by
  simp [updateData]

/-- An update does not name the owner. -/
@[simp] theorem updateData_ownerId : (updateData reminder).lookup "ownerId" = none := by
  simp [updateData, AList.lookup_insert_ne, -AList.insert_empty]

end Stored

/-! ## What is read -/

/-- What the loop delivers for one document it does not skip. -/
theorem decode_eq_some {ownerId : String} {document : Document} {reminder : ReminderModel}
    (decoded : decode ownerId document = .ok (some reminder)) :
    reminder.ownerId = some ownerId ∧ reminder.documentID = some document.documentID ∧
      reminder.title.isSome := by
  unfold decode at decoded
  split at decoded
  · split at decoded
    · cases decoded
      exact ⟨rfl, rfl, rfl⟩
    · cases decoded
  · cases decoded

theorem decodeLoop_append (ownerId : String) (reminders : List ReminderModel)
    (documents : List Document) :
    decodeLoop ownerId reminders documents =
      (decodeLoop ownerId [] documents).map (reminders ++ ·) := by
  induction documents generalizing reminders with
  | nil => simp [decodeLoop, Except.map]
  | cons document rest ih =>
      simp only [decodeLoop]
      cases decode ownerId document with
      | error trap => rfl
      | ok decoded =>
          cases decoded with
          | none => exact ih reminders
          | some reminder =>
              simp only [List.nil_append]
              rw [ih (reminders ++ [reminder]), ih [reminder]]
              cases decodeLoop ownerId [] rest <;> simp [Except.map]

/-- Every reminder delivered carries the listener's owner and the ID of its
document, and the documents keep their order. -/
theorem decodeLoop_spec {ownerId : String} {documents : List Document}
    {reminders : List ReminderModel} (decoded : decodeLoop ownerId [] documents = .ok reminders) :
    (∀ reminder ∈ reminders, reminder.ownerId = some ownerId ∧ reminder.title.isSome) ∧
      (reminders.map (·.documentID)).Sublist (documents.map fun d => some d.documentID) := by
  induction documents generalizing reminders with
  | nil =>
      cases decoded
      exact ⟨by simp, List.Sublist.refl _⟩
  | cons document rest ih =>
      simp only [decodeLoop, List.nil_append] at decoded
      cases one : decode ownerId document with
      | error trap => simp [one] at decoded
      | ok kept =>
          cases kept with
          | none =>
              rw [one] at decoded
              obtain ⟨owned, sub⟩ := ih decoded
              exact ⟨owned, sub.cons _⟩
          | some reminder =>
              rw [one] at decoded
              simp only [decodeLoop_append ownerId [reminder]] at decoded
              cases tail : decodeLoop ownerId [] rest with
              | error trap => simp [tail, Except.map] at decoded
              | ok more =>
                  rw [tail] at decoded
                  cases decoded
                  obtain ⟨owned, sub⟩ := ih tail
                  obtain ⟨owner, id, titled⟩ := decode_eq_some one
                  refine ⟨?_, ?_⟩
                  · intro r member
                    rcases List.mem_cons.1 member with rfl | later
                    · exact ⟨owner, titled⟩
                    · exact owned r later
                  · simpa [id] using sub

/-- The title the loop reads. -/
def titleOf (document : Document) : Option String :=
  (document.data.lookup "Title").bind Value.asString

/-- A document the loop does not skip. -/
def isTitled (document : Document) : Bool := (titleOf document).isSome

theorem decode_titles {ownerId : String} {document : Document} {kept : Option ReminderModel}
    (decoded : decode ownerId document = .ok kept) :
    kept.map (fun r => (r.title, r.documentID)) =
      if isTitled document then some (titleOf document, some document.documentID) else none := by
  unfold decode at decoded
  unfold isTitled titleOf
  split at decoded
  · rename_i title found
    split at decoded <;> cases decoded
    simp [found]
  · rename_i missing
    cases decoded
    simp [missing]

/-- A loop that does not trap delivers the titled documents, in their order. -/
theorem decodeLoop_titles {ownerId : String} {documents : List Document}
    {reminders : List ReminderModel} (decoded : decodeLoop ownerId [] documents = .ok reminders) :
    reminders.map (fun r => (r.title, r.documentID)) =
      (documents.filter isTitled).map fun d => (titleOf d, some d.documentID) := by
  induction documents generalizing reminders with
  | nil =>
      cases decoded
      rfl
  | cons document rest ih =>
      simp only [decodeLoop, List.nil_append] at decoded
      cases one : decode ownerId document with
      | error trap => simp [one] at decoded
      | ok kept =>
          have titles := decode_titles one
          rw [one] at decoded
          cases kept with
          | none =>
              have untitled : isTitled document = false := by simpa using titles
              rw [List.filter_cons_of_neg (by simp [untitled]), ih decoded]
          | some reminder =>
              have titled : isTitled document = true := by
                by_contra untitled
                simp [untitled] at titles
              simp only [decodeLoop_append ownerId [reminder]] at decoded
              cases tail : decodeLoop ownerId [] rest with
              | error trap => simp [tail, Except.map] at decoded
              | ok more =>
                  rw [tail] at decoded
                  cases decoded
                  simp only [titled, if_true, Option.map_some, Option.some.injEq] at titles
                  rw [List.filter_cons_of_pos titled, List.map_cons, ← ih tail, ← titles]
                  rfl

/-- A loop over documents that all decode delivers one model for each. -/
theorem decodeLoop_of_readable {ownerId : String} {model : Document → ReminderModel}
    {documents : List Document}
    (readable : ∀ d ∈ documents, decode ownerId d = .ok (some (model d))) :
    decodeLoop ownerId [] documents = .ok (documents.map model) := by
  induction documents with
  | nil => rfl
  | cons document rest ih =>
      simp only [decodeLoop, readable document (List.mem_cons_self ..), List.nil_append]
      rw [decodeLoop_append, ih fun d member => readable d (List.mem_cons_of_mem _ member)]
      rfl

/-- **What a listener that does not trap delivers**: reminders of its owner, each
with a document ID, no ID twice. -/
theorem loadRemindersListener_spec {ownerId : String} {error : Option NSError}
    {querySnapshot : Option Snapshot} {reminders : List ReminderModel}
    (delivered : loadRemindersListener ownerId error querySnapshot = .ok (.ok reminders)) :
    (∀ reminder ∈ reminders, reminder.ownerId = some ownerId ∧ reminder.title.isSome ∧
        reminder.documentID.isSome) ∧
      (reminders.map (·.documentID)).Nodup := by
  unfold loadRemindersListener at delivered
  split at delivered
  · cases delivered
  · split at delivered
    · rename_i snapshot
      cases loop : decodeLoop ownerId [] snapshot.documents with
      | error trap => simp [loop, Except.map] at delivered
      | ok decoded =>
          rw [loop] at delivered
          cases delivered
          obtain ⟨owned, sub⟩ := decodeLoop_spec loop
          refine ⟨fun reminder member => ⟨(owned reminder member).1, (owned reminder member).2, ?_⟩,
            ?_⟩
          · have listed := sub.subset (List.mem_map_of_mem member)
            obtain ⟨d, -, same⟩ := List.mem_map.1 listed
            rw [← same]
            rfl
          · refine List.Nodup.sublist sub ?_
            have := snapshot.distinct.map (Option.some_injective DocumentID)
            simpa [List.map_map, Function.comp_def] using this
    · cases delivered
      exact ⟨by simp, List.nodup_nil⟩

/-- Which documents a listener that does not trap delivers, and in which order. -/
theorem loadRemindersListener_titles {ownerId : String} {querySnapshot : Option Snapshot}
    {reminders : List ReminderModel}
    (delivered : loadRemindersListener ownerId none querySnapshot = .ok (.ok reminders)) :
    reminders.map (fun r => (r.title, r.documentID)) =
      (((querySnapshot.map (·.documents)).getD []).filter isTitled).map
        fun d => (titleOf d, some d.documentID) := by
  cases querySnapshot with
  | none =>
      cases delivered
      rfl
  | some snapshot =>
      simp only [loadRemindersListener] at delivered
      cases loop : decodeLoop ownerId [] snapshot.documents with
      | error trap => simp [loop, Except.map] at delivered
      | ok decoded =>
          rw [loop] at delivered
          cases delivered
          exact decodeLoop_titles loop

/-- How many reminders a listener that does not trap delivers. -/
theorem loadRemindersListener_length {ownerId : String} {querySnapshot : Option Snapshot}
    {reminders : List ReminderModel}
    (delivered : loadRemindersListener ownerId none querySnapshot = .ok (.ok reminders)) :
    reminders.length = ((querySnapshot.map (·.documents)).getD []).countP isTitled := by
  have lengths := congrArg List.length (loadRemindersListener_titles delivered)
  simpa only [List.length_map, ← List.countP_eq_length_filter] using lengths

/-- A listener called without an error completes with success or traps. -/
theorem loadRemindersListener_success {ownerId : String} {querySnapshot : Option Snapshot}
    {result : Except NSError (List ReminderModel)}
    (delivered : loadRemindersListener ownerId none querySnapshot = .ok result) :
    ∃ reminders, result = .ok reminders := by
  cases querySnapshot with
  | none =>
      cases delivered
      exact ⟨[], rfl⟩
  | some snapshot =>
      simp only [loadRemindersListener] at delivered
      cases loop : decodeLoop ownerId [] snapshot.documents with
      | error trap => simp [loop, Except.map] at delivered
      | ok decoded =>
          rw [loop] at delivered
          cases delivered
          exact ⟨decoded, rfl⟩

theorem loadRemindersListener_of_readable {ownerId : String} {model : Document → ReminderModel}
    {snapshot : Snapshot}
    (readable : ∀ d ∈ snapshot.documents, decode ownerId d = .ok (some (model d))) :
    loadRemindersListener ownerId none (some snapshot) =
      .ok (.ok (snapshot.documents.map model)) := by
  simp only [loadRemindersListener, decodeLoop_of_readable readable]
  rfl

end FirebaseService

end Remindify.Network
