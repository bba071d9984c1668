/-
# Network.Malformed -- the listener of `loadReminders` on documents of any shape

Other clients write to the collection too, and `updateReminder` itself stores null
for a missing field, so a document may hold anything under `Title`, `Description`
and `Date`.  The loop reads `Title` and `Date` with `as?` and skips or drops what is
not a string; `Description` it reads with `as!`.

* `loadRemindersListener_of_described`, `loadRemindersListener_of_undescribed`: the two
  outcomes of a snapshot, the whole list or no list at all;
* `tolerates_iff`: the listener delivers every titled document exactly when each of
  them has a string under `Description`;
* `nullDescription_traps`: one null is enough to lose the list.
-/
import Remindify.Network.FirebaseService

namespace Remindify.Network.FirebaseService

set_option autoImplicit false

/-- The description the loop reads. -/
def descriptionOf (document : Document) : Option String :=
  (document.data.lookup "Description").bind Value.asString

/-- The date the loop reads. -/
def dateOf (document : Document) : Option String :=
  (document.data.lookup "Date").bind Value.asString

/-- The model of a document, with a description to use where it has none. -/
def modelOf (ownerId defaultDescription : String) (document : Document) : ReminderModel where
  title := titleOf document
  description := some ((descriptionOf document).getD defaultDescription)
  date := dateOf document
  documentID := some document.documentID
  ownerId := some ownerId

/-- **What a list screen needs of the listener**: it does not trap, and delivers one
model for each titled document, in the order of the snapshot. -/
def Tolerates (ownerId : String) (snapshot : Snapshot) : Prop :=
  ∃ defaultDescription : String,
    loadRemindersListener ownerId none (some snapshot) =
      .ok (.ok ((snapshot.documents.filter isTitled).map (modelOf ownerId defaultDescription)))

/-- Every document the loop does not skip has a description it can read. -/
def Described (documents : List Document) : Prop :=
  ∀ document ∈ documents, isTitled document = true → (descriptionOf document).isSome = true

theorem described_cons {document : Document} {rest : List Document} :
    Described (document :: rest) ↔
      (isTitled document = true → (descriptionOf document).isSome = true) ∧ Described rest :=
  List.forall_mem_cons

/-! ## One document -/

section Decode

variable {ownerId : String} {document : Document}

theorem decode_of_untitled (untitled : isTitled document = false) :
    decode ownerId document = .ok none := by
  have missing : titleOf document = none := by simpa [isTitled] using untitled
  simp only [titleOf] at missing
  simp only [decode, missing]

theorem decode_of_described (titled : isTitled document = true)
    (described : (descriptionOf document).isSome = true) (defaultDescription : String) :
    decode ownerId document = .ok (some (modelOf ownerId defaultDescription document)) := by
  obtain ⟨title, readTitle⟩ := Option.isSome_iff_exists.1 titled
  obtain ⟨description, readDescription⟩ := Option.isSome_iff_exists.1 described
  simp only [modelOf, readTitle, readDescription, Option.getD_some]
  simp only [titleOf] at readTitle
  simp only [descriptionOf] at readDescription
  simp only [decode, readTitle, readDescription, dateOf]

/-- The forced cast. -/
theorem decode_of_undescribed (titled : isTitled document = true)
    (undescribed : (descriptionOf document).isSome = false) :
    decode ownerId document = .error .forcedCast := by
  obtain ⟨title, readTitle⟩ := Option.isSome_iff_exists.1 titled
  have missing : descriptionOf document = none := by simpa using undescribed
  simp only [titleOf] at readTitle
  simp only [descriptionOf] at missing
  simp only [decode, readTitle, missing]

end Decode

/-! ## The loop -/

section Loop

variable (ownerId : String)

/-- **The whole list**, when every titled document has a description. -/
theorem decodeLoop_of_described (defaultDescription : String) {documents : List Document}
    (described : Described documents) (reminders : List ReminderModel) :
    decodeLoop ownerId reminders documents =
      .ok (reminders ++ (documents.filter isTitled).map (modelOf ownerId defaultDescription)) := by
  induction documents generalizing reminders with
  | nil => simp [decodeLoop]
  | cons document rest ih =>
      obtain ⟨here, later⟩ := described_cons.1 described
      cases titled : isTitled document with
      | false =>
          simp only [decodeLoop, decode_of_untitled titled]
          rw [ih later, List.filter_cons_of_neg (by simp [titled])]
      | true =>
          simp only [decodeLoop, decode_of_described titled (here titled) defaultDescription]
          rw [ih later, List.filter_cons_of_pos titled, List.map_cons, List.append_assoc]
          rfl

/-- **No list at all**, when one titled document has none: the cast traps, whatever
was appended before. -/
theorem decodeLoop_of_undescribed {documents : List Document} (undescribed : ¬ Described documents)
    (reminders : List ReminderModel) :
    decodeLoop ownerId reminders documents = .error .forcedCast := by
  induction documents generalizing reminders with
  | nil => exact absurd (fun _ member => by cases member) undescribed
  | cons document rest ih =>
      rw [described_cons, not_and] at undescribed
      cases titled : isTitled document with
      | false =>
          have later : ¬ Described rest := undescribed (by simp [titled])
          simp only [decodeLoop, decode_of_untitled titled]
          exact ih later reminders
      | true =>
          cases here : (descriptionOf document).isSome with
          | false => simp only [decodeLoop, decode_of_undescribed titled here]
          | true =>
              have later : ¬ Described rest := undescribed fun _ => here
              simp only [decodeLoop, decode_of_described titled here ""]
              exact ih later _

end Loop

/-! ## The listener -/

section Listener

variable {ownerId : String} {snapshot : Snapshot}

theorem loadRemindersListener_of_described (defaultDescription : String)
    (described : Described snapshot.documents) :
    loadRemindersListener ownerId none (some snapshot) =
      .ok (.ok ((snapshot.documents.filter isTitled).map
        (modelOf ownerId defaultDescription))) := by
  simp only [loadRemindersListener, decodeLoop_of_described ownerId defaultDescription described]
  rfl

theorem loadRemindersListener_of_undescribed (undescribed : ¬ Described snapshot.documents) :
    loadRemindersListener ownerId none (some snapshot) = .error .forcedCast := by
  simp only [loadRemindersListener, decodeLoop_of_undescribed ownerId undescribed]
  rfl

/-- **When malformed documents cannot crash the list**: exactly when no document with
a title lacks a string under `Description`. -/
theorem tolerates_iff : Tolerates ownerId snapshot ↔ Described snapshot.documents := by
  constructor
  · rintro ⟨defaultDescription, delivered⟩
    by_contra undescribed
    rw [loadRemindersListener_of_undescribed undescribed] at delivered
    cases delivered
  · intro described
    exact ⟨"", loadRemindersListener_of_described "" described⟩

/-- What a listener that does not trap delivers, document by document. -/
theorem loadRemindersListener_eq_map {reminders : List ReminderModel}
    (delivered : loadRemindersListener ownerId none (some snapshot) = .ok (.ok reminders)) :
    reminders = (snapshot.documents.filter isTitled).map (modelOf ownerId "") := by
  by_cases described : Described snapshot.documents
  · rw [loadRemindersListener_of_described "" described] at delivered
    cases delivered
    rfl
  · rw [loadRemindersListener_of_undescribed described] at delivered
    cases delivered

end Listener

/-- Two reminders of ann; the second holds what `updateReminder` writes for a model
without a description. -/
def nullDescription : Snapshot where
  documents :=
    [⟨"d1", reminderData "ann" { title := some "Milk" }⟩,
      ⟨"d2", (updateData { title := some "Call" }).insert "ownerId" (.string "ann")⟩]
  distinct := by decide

/-- The null traps, and the readable reminder before it is lost too. -/
theorem nullDescription_traps :
    ¬ ∀ (ownerId : String) (snapshot : Snapshot), Tolerates ownerId snapshot := by
  intro always
  obtain ⟨defaultDescription, delivered⟩ := always "ann" nullDescription
  have trapped : loadRemindersListener "ann" none (some nullDescription) =
      .error .forcedCast := rfl
  rw [trapped] at delivered
  cases delivered

end Remindify.Network.FirebaseService
