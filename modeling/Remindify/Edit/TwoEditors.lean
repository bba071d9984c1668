/-
# Edit.TwoEditors -- two devices that edit one reminder

A save writes the title, the description and the date of the editor, changed or
not, over whatever the document holds by then.  Here two devices of one user list
the document, open it, edit and save, in any order; each listing may be of any
earlier version.

* `appWritten_of_reachable`: a document of the collection holds strings and nulls only;
* `lastSave_decides`: the save Firestore applies last decides every field.  If its
  editor was given a copy that had the other save, the two are merged; if the copy is
  older, what the other changed is overwritten with the old values;
* `overlapping_saves_lose_update`: so two overlapping sessions that change different
  fields do not merge.
-/
import Mathlib.Logic.Function.Basic
import Remindify.Theory.Machine
import Remindify.Theory.WholeRecord
import Remindify.Network.ReminderLedger
import Remindify.Edit.Screen

namespace Remindify.Edit

open Remindify.Theory
open Remindify.Theory.WholeRecord
open Remindify.Network

set_option autoImplicit false

/-! ## The fields an editor writes -/

inductive Field where
  | title
  | description
  | date
  deriving DecidableEq, Repr

def Field.key : Field → String
  | .title => "Title"
  | .description => "Description"
  | .date => "Date"

def valueOf (reminder : ReminderModel) : Field → Option String
  | .title => reminder.title
  | .description => reminder.description
  | .date => reminder.date

/-- The value the app reads in a field of a document. -/
def read (document : Fields) (field : Field) : Option String :=
  (document.lookup field.key).bind Value.asString

/-- A document as this app writes it: strings, or null. -/
def AppWritten (document : Fields) : Prop :=
  ∀ field : Field, document.lookup field.key = some (.ofOptional (read document field))

theorem updateData_lookup (reminder : ReminderModel) (field : Field) :
    (FirebaseService.updateData reminder).lookup field.key =
      some (.ofOptional (valueOf reminder field)) := by
  cases field <;> simp [Field.key, valueOf]

theorem updateData_lookup_other (reminder : ReminderModel) {name : String}
    (other : ∀ field : Field, name ≠ field.key) :
    (FirebaseService.updateData reminder).lookup name = none := by
  have title : name ≠ "Title" := other .title
  have description : name ≠ "Description" := other .description
  have date : name ≠ "Date" := other .date
  simp [FirebaseService.updateData, AList.lookup_insert_ne, title, description, date,
    -AList.insert_empty]

theorem AppWritten.created (ownerId : String) (reminder : ReminderModel) :
    AppWritten (FirebaseService.reminderData ownerId reminder) := by
  intro field
  cases field <;> simp [Field.key, read, Value.ofOptional]

theorem AppWritten.updated {reminder : ReminderModel} (document : Fields) :
    AppWritten (FirebaseService.updateData reminder ∪ document) := by
  intro field
  simp only [read, union_lookup, updateData_lookup, Option.some_or, Option.bind_some,
    Value.asString_ofOptional]

theorem appWritten_insert {store : Store} {id : DocumentID} {data : Fields}
    (written : ∀ documentID document, store.lookup documentID = some document → AppWritten document)
    (new : AppWritten data) (documentID : DocumentID) (document : Fields)
    (found : (store.insert id data).lookup documentID = some document) : AppWritten document := by
  by_cases here : documentID = id
  · subst here
    rw [AList.lookup_insert] at found
    cases found
    exact new
  · rw [AList.lookup_insert_ne here] at found
    exact written documentID document found

/-- One call of the service. -/
theorem appWritten_step {backend backend' : Backend} {call : Call}
    (written : ∀ documentID document, backend.store.lookup documentID = some document →
      AppWritten document)
    (moved : backend.step call = some backend') (documentID : DocumentID) (document : Fields)
    (found : backend'.store.lookup documentID = some document) : AppWritten document := by
  cases call with
  | signIn user | signOut =>
      cases moved
      exact written documentID document found
  | write write accepted =>
      cases accepted with
      | false =>
          cases moved
          exact written documentID document found
      | true =>
          cases write with
          | add draft id =>
              simp only [Backend.step, Backend.write] at moved
              split at moved
              · rename_i data asked
                obtain ⟨store, added, rfl⟩ := Option.map_eq_some_iff.1 moved
                obtain ⟨-, rfl⟩ := Store.addDocument_eq_some.1 added
                obtain ⟨user, -, rfl⟩ := Option.map_eq_some_iff.1 asked
                exact appWritten_insert written (.created user.uid _) documentID document found
              · cases moved
                exact written documentID document found
          | update id draft =>
              simp only [Backend.step, Backend.write] at moved
              split at moved
              · split at moved
                · rename_i asked _ store updated
                  cases asked
                  cases moved
                  obtain ⟨old, -, rfl⟩ := Store.updateData_eq_ok.1 updated
                  exact appWritten_insert written (.updated old) documentID document found
                · cases moved
                  exact written documentID document found
              · cases moved
                exact written documentID document found
          | delete id =>
              cases moved
              change (backend.store.erase id).lookup documentID = some document at found
              by_cases here : documentID = id
              · subst here
                rw [AList.lookup_erase] at found
                cases found
              · rw [AList.lookup_erase_ne here] at found
                exact written documentID document found

/-- **Every document of the collection is written by the app**, after any calls of the
service. -/
theorem appWritten_of_reachable {backend : Backend} (reached : Backend.machine.Reachable backend) :
    ∀ documentID document, backend.store.lookup documentID = some document →
      AppWritten document :=
  reached.invariant
    (I := fun backend : Backend => ∀ documentID document,
      backend.store.lookup documentID = some document → AppWritten document)
    (by
      rintro _ rfl documentID document found
      cases found)
    (fun _ _ _ _ written _ moved => appWritten_step written moved)

theorem valueOf_of_decode {ownerId : String} {document : Document} {reminder : ReminderModel}
    (decoded : FirebaseService.decode ownerId document = .ok (some reminder)) :
    valueOf reminder = read document.data := by
  unfold FirebaseService.decode at decoded
  split at decoded
  · rename_i title titled
    split at decoded
    · rename_i description described
      cases decoded
      funext field
      cases field
      · exact titled.symm
      · exact described.symm
      · rfl
    · cases decoded
  · cases decoded

/-! ## The two devices -/

inductive Client where
  | one
  | two
  deriving DecidableEq, Repr

/-- What one device holds; versions are counted by the saves applied before them. -/
structure Editing where
  /-- the row of its Home screen, and the version it is of -/
  listed : Option (Nat × ReminderModel)
  /-- its Edit screen, and the version of the copy -/
  opened : Option (Nat × Screen)
  /-- the save under way -/
  saving : Option ReminderModel
  /-- the save that was applied -/
  saved : Option ReminderModel

def Editing.version (editing : Editing) : Nat := (editing.opened.map (·.1)).getD 0

def Editing.copy (editing : Editing) : ReminderModel :=
  (editing.opened.bind (·.2.reminder)).getD {}

/-- What the device read and what it wrote. -/
def Editing.save (editing : Editing) : Save Field (Option String) :=
  { copy := valueOf editing.copy, written := valueOf (editing.saved.getD {}) }

structure State where
  /-- the contents the document has had, oldest first -/
  versions : List Fields
  editing : Client → Editing
  /-- whose save was applied, newest first -/
  order : List Client

def State.document (state : State) : Fields := state.versions.getLast?.getD ∅

def State.set (state : State) (client : Client) (editing : Editing) : State :=
  { state with editing := Function.update state.editing client editing }

inductive Event where
  /-- a snapshot with this version reaches the Home screen -/
  | deliver (client : Client) (version : Nat)
  | didSelectRow (client : Client)
  | typeTitle (client : Client) (text : String)
  | typeDescription (client : Client) (text : String)
  | pickDate (client : Client) (date : String)
  | saveButtonTapped (client : Client)
  /-- Firestore applies the save, or refuses it -/
  | answer (client : Client) (error : Option NSError)

/-- An edit of the open screen. -/
def State.edit (state : State) (client : Client) (change : Screen → Screen) : Option State :=
  match (state.editing client).opened with
  | some (version, screen) =>
      some (state.set client
        { state.editing client with opened := some (version, change screen) })
  | none => none

/-- The update of the document, if the save names it. -/
def State.apply (documentID : DocumentID) (state : State) (client : Client)
    (reminder : ReminderModel) : Option State :=
  match FirebaseService.updateReminder reminder with
  | .ok (id, data) =>
      if id = documentID then
        let state := state.set client
          { state.editing client with saving := none, saved := some reminder }
        some { state with
          versions := state.versions ++ [data ∪ state.document], order := client :: state.order }
      else none
  | .error _ => none

def step (ownerId : String) (documentID : DocumentID) (state : State) : Event → Option State
  | .deliver client version =>
      match state.versions[version]? with
      | some data =>
          match FirebaseService.decode ownerId ⟨documentID, data⟩ with
          | .ok (some reminder) =>
              some (state.set client
                { state.editing client with listed := some (version, reminder) })
          | _ => none
      | none => none
  | .didSelectRow client =>
      match (state.editing client).listed, (state.editing client).opened with
      | some (version, reminder), none =>
          some (state.set client
            { state.editing client with opened := some (version, viewDidLoad (some reminder)) })
      | _, _ => none
  | .typeTitle client text => state.edit client fun screen => { screen with titleView := text }
  | .typeDescription client text =>
      state.edit client fun screen => { screen with descriptionTextView := text }
  | .pickDate client date =>
      state.edit client fun screen => { screen with dateString := some date }
  | .saveButtonTapped client =>
      match state.editing client with
      | ⟨listed, some (version, screen), none, none⟩ =>
          let (screen, saving) := saveButtonTapped screen
          some (state.set client ⟨listed, some (version, screen), saving, none⟩)
      | _ => none
  | .answer client error =>
      match (state.editing client).saving with
      | some reminder =>
          match error with
          | some _ => some (state.set client { state.editing client with saving := none })
          | none => state.apply documentID client reminder
      | none => none

def start (document : Fields) : State :=
  { versions := [document], editing := fun _ => ⟨none, none, none, none⟩, order := [] }

/-- Two devices, before either has listed the document. -/
def machine (ownerId : String) (documentID : DocumentID) (document : Fields) :
    Machine State Event where
  init state := state = start document
  step := step ownerId documentID

/-! ## What each device holds -/

/-- A copy of one version of the document. -/
structure Copies (documentID : DocumentID) (versions : List Fields) (version : Nat)
    (reminder : ReminderModel) : Prop where
  id : reminder.documentID = some documentID
  read_ : ∃ document, versions[version]? = some document ∧ valueOf reminder = read document

theorem Copies.grow {documentID : DocumentID} {versions : List Fields} {version : Nat}
    {reminder : ReminderModel} (copies : Copies documentID versions version reminder)
    (more : List Fields) : Copies documentID (versions ++ more) version reminder := by
  obtain ⟨document, at_, same⟩ := copies.read_
  have bound := (List.getElem?_eq_some_iff.1 at_).1
  exact ⟨copies.id, document, by rw [List.getElem?_append_left bound, at_], same⟩

/-- A device holds copies of versions there were, and saves what it opened. -/
structure Holds (documentID : DocumentID) (versions : List Fields) (editing : Editing) :
    Prop where
  listed : ∀ version reminder, editing.listed = some (version, reminder) →
    Copies documentID versions version reminder
  opened : ∀ version screen, editing.opened = some (version, screen) →
    ∃ reminder, screen.reminder = some reminder ∧ Copies documentID versions version reminder
  saving : ∀ reminder, editing.saving = some reminder →
    reminder.documentID = some documentID ∧ editing.opened.isSome ∧ editing.saved = none
  saved : editing.saved.isSome → editing.opened.isSome

theorem Holds.grow {documentID : DocumentID} {versions : List Fields} {editing : Editing}
    (holds : Holds documentID versions editing) (more : List Fields) :
    Holds documentID (versions ++ more) editing where
  listed version reminder row := (holds.listed version reminder row).grow more
  opened version screen open_ := by
    obtain ⟨reminder, given, copies⟩ := holds.opened version screen open_
    exact ⟨reminder, given, copies.grow more⟩
  saving := holds.saving
  saved := holds.saved

/-- The effects an event has: on what one device holds, or a save that is applied. -/
inductive Effect (documentID : DocumentID) (state : State) : State → Prop where
  | touched (client : Client) (editing : Editing)
      (holds : Holds documentID state.versions editing)
      (saved : editing.saved = (state.editing client).saved)
      (version : (state.editing client).opened.isSome →
        editing.version = (state.editing client).version) :
      Effect documentID state (state.set client editing)
  | applied (client : Client) (reminder : ReminderModel)
      (saving : (state.editing client).saving = some reminder) :
      Effect documentID state
        { state.set client
            { state.editing client with saving := none, saved := some reminder } with
          versions := state.versions ++ [FirebaseService.updateData reminder ∪ state.document]
          order := client :: state.order }

section Effects

variable {ownerId : String} {documentID : DocumentID} {state state' : State}

theorem effect_of_edit {client : Client} {change : Screen → Screen}
    (holds : ∀ client, Holds documentID state.versions (state.editing client))
    (moved : state.edit client change = some state')
    (keeps : ∀ screen, (change screen).reminder = screen.reminder) :
    Effect documentID state state' := by
  unfold State.edit at moved
  split at moved
  · rename_i version screen open_
    cases moved
    have held := holds client
    refine .touched client _
      { listed := held.listed
        opened := fun v screen' here => ?_
        saving := fun reminder saving => ?_
        saved := fun _ => rfl } rfl fun _ => by simp [Editing.version, open_]
    · cases here
      rw [keeps]
      exact held.opened version screen open_
    · obtain ⟨id, -, unsaved⟩ := held.saving reminder saving
      exact ⟨id, rfl, unsaved⟩
  · cases moved

/-- **The effect of a step.** -/
theorem effect_of_step {event : Event}
    (holds : ∀ client, Holds documentID state.versions (state.editing client))
    (moved : step ownerId documentID state event = some state') :
    Effect documentID state state' := by
  cases event with
  | deliver client version =>
      simp only [step] at moved
      split at moved
      · rename_i data at_
        split at moved
        · rename_i reminder decoded
          cases moved
          have held := holds client
          refine .touched client _ { held with listed := fun v r row => ?_ } rfl fun _ => rfl
          cases row
          exact ⟨(FirebaseService.decode_eq_some decoded).2.1, data, at_, valueOf_of_decode decoded⟩
        · cases moved
      · cases moved
  | didSelectRow client =>
      simp only [step] at moved
      split at moved
      · rename_i version reminder row closed
        cases moved
        have held := holds client
        refine .touched client _
          { listed := held.listed
            opened := fun v screen here => ?_
            saving := fun r saving => ?_
            saved := fun _ => rfl } rfl fun open_ => ?_
        · cases here
          exact ⟨reminder, viewDidLoad_reminder _, held.listed version reminder row⟩
        · obtain ⟨id, -, unsaved⟩ := held.saving r saving
          exact ⟨id, rfl, unsaved⟩
        · rw [closed] at open_
          cases open_
      · cases moved
  | typeTitle client text => exact effect_of_edit holds moved fun _ => rfl
  | typeDescription client text => exact effect_of_edit holds moved fun _ => rfl
  | pickDate client date => exact effect_of_edit holds moved fun _ => rfl
  | saveButtonTapped client =>
      simp only [step] at moved
      split at moved
      · rename_i listed version screen editing
        cases moved
        have held := holds client
        rw [editing] at held
        obtain ⟨copy, given, copies⟩ := held.opened version screen rfl
        refine .touched client _
          { listed := held.listed
            opened := fun v screen' here => ?_
            saving := fun reminder saving => ?_
            saved := fun saved => by cases saved } (by simp [editing])
          fun _ => by simp [Editing.version, editing]
        · cases here
          exact ⟨copy, (saveButtonTapped_reminder screen).trans given, copies⟩
        · obtain ⟨copy', given', -, rfl⟩ := saveButtonTapped_eq_some (Prod.ext rfl saving)
          rw [given] at given'
          cases given'
          exact ⟨copies.id, rfl, rfl⟩
      · cases moved
  | answer client error =>
      simp only [step] at moved
      split at moved
      · rename_i reminder saving
        have held := holds client
        split at moved
        · cases moved
          exact .touched client _ { held with saving := fun _ none_ => by cases none_ } rfl
            fun _ => rfl
        · obtain ⟨id, -, -⟩ := held.saving reminder saving
          simp only [State.apply, FirebaseService.updateReminder, id, if_true] at moved
          cases moved
          exact .applied client reminder saving
      · cases moved

end Effects

/-! ## The order of the saves -/

/-- What every reachable state satisfies. -/
structure Sound (documentID : DocumentID) (old : Fields) (state : State) : Prop where
  holds : ∀ client, Holds documentID state.versions (state.editing client)
  first : state.versions[0]? = some old
  count : state.versions.length = state.order.length + 1
  done : ∀ client, client ∈ state.order ↔ (state.editing client).saved.isSome
  once : state.order.Nodup
  others : ∀ document ∈ state.versions, ∀ name, (∀ field : Field, name ≠ field.key) →
    document.lookup name = old.lookup name
  /-- the version a save left, and that its editor was given an earlier one -/
  applied : ∀ later client earlier, state.order = later ++ client :: earlier →
    (state.editing client).version ≤ earlier.length ∧
    ∃ document, state.versions[earlier.length + 1]? = some document ∧
      ∀ field, document.lookup field.key =
        some (.ofOptional ((state.editing client).save.written field))

theorem sound_start (documentID : DocumentID) (old : Fields) :
    Sound documentID old (start old) where
  holds _ :=
    { listed := by simp [start], opened := by simp [start], saving := by simp [start]
      saved := by simp [start] }
  first := rfl
  count := rfl
  done := by simp [start]
  once := List.nodup_nil
  others := by simp [start]
  applied later client earlier split := by simp [start] at split

section Step

variable {documentID : DocumentID} {old : Fields} {state state' : State}

theorem State.set_editing (client other : Client) (editing : Editing) :
    (state.set client editing).editing other =
      if other = client then editing else state.editing other := by
  simp [State.set, Function.update_apply]

/-- The version an open editor was given exists. -/
theorem Sound.version_le (sound : Sound documentID old state) {client : Client}
    (open_ : (state.editing client).opened.isSome) :
    (state.editing client).version ≤ state.order.length := by
  obtain ⟨⟨version, screen⟩, opened⟩ := Option.isSome_iff_exists.1 open_
  obtain ⟨reminder, -, copies⟩ := (sound.holds client).opened version screen opened
  obtain ⟨document, at_, -⟩ := copies.read_
  have bound := (List.getElem?_eq_some_iff.1 at_).1
  have count := sound.count
  simp only [Editing.version, opened, Option.map_some, Option.getD_some]
  omega

/-- The current document is one of the versions. -/
theorem Sound.document_mem (sound : Sound documentID old state) :
    state.document ∈ state.versions := by
  cases last : state.versions.getLast? with
  | none =>
      have empty := List.getLast?_eq_none_iff.1 last
      have count := sound.count
      simp [empty] at count
  | some document =>
      rw [State.document, last]
      exact List.mem_of_getLast? last

/-- What a save leaves: its own values in the fields of an editor, and every other
field as it was. -/
theorem Sound.newest (sound : Sound documentID old state) (reminder : ReminderModel) :
    (∀ field : Field, (FirebaseService.updateData reminder ∪ state.document).lookup field.key =
      some (.ofOptional (valueOf reminder field))) ∧
    ∀ name, (∀ field : Field, name ≠ field.key) →
      (FirebaseService.updateData reminder ∪ state.document).lookup name = old.lookup name := by
  refine ⟨fun field => ?_, fun name other => ?_⟩
  · rw [union_lookup, updateData_lookup]
    rfl
  · rw [union_lookup, updateData_lookup_other reminder other]
    exact sound.others _ sound.document_mem name other

/-- **Every step keeps the order sound.** -/
theorem sound_of_effect (sound : Sound documentID old state)
    (effect : Effect documentID state state') : Sound documentID old state' := by
  cases effect with
  | touched client editing holds saved version =>
      refine
        { holds := fun other => ?_
          first := sound.first
          count := sound.count
          done := fun other => ?_
          once := sound.once
          others := sound.others
          applied := fun later other earlier split => ?_ }
      · rw [State.set_editing]
        split
        · exact holds
        · exact sound.holds other
      · rw [State.set_editing]
        split
        · rename_i same
          rw [saved, same]
          exact sound.done client
        · exact sound.done other
      · obtain ⟨earlierCopy, document, at_, left⟩ := sound.applied later other earlier split
        have applied : (state.editing other).saved.isSome :=
          (sound.done other).1 (split ▸ List.mem_append_right _ (List.mem_cons_self ..))
        rw [State.set_editing]
        split
        · rename_i same
          subst same
          have open_ := (sound.holds other).saved applied
          refine ⟨version open_ ▸ earlierCopy, document, at_, fun field => ?_⟩
          rw [left field]
          simp only [Editing.save, saved]
        · exact ⟨earlierCopy, document, at_, left⟩
  | applied client reminder saving =>
      obtain ⟨id, open_, unsaved⟩ := (sound.holds client).saving reminder saving
      have new : client ∉ state.order := by
        rw [sound.done client, unsaved]
        exact Bool.false_ne_true
      have newest := sound.newest reminder
      refine
        { holds := fun other => ?_
          first := ?_
          count := by simp [sound.count]
          done := fun other => ?_
          once := List.nodup_cons.2 ⟨new, sound.once⟩
          others := fun document member name other => ?_
          applied := fun later other earlier split => ?_ }
      · refine Holds.grow ?_ _
        rw [State.set_editing]
        split
        · have held := sound.holds client
          exact { listed := held.listed, opened := held.opened
                  saving := fun _ none_ => by cases none_
                  saved := fun _ => open_ }
        · exact sound.holds other
      · have bound : 0 < state.versions.length := by rw [sound.count]; omega
        rw [List.getElem?_append_left bound, sound.first]
      · rw [State.set_editing, List.mem_cons]
        split
        · rename_i same
          simp [same]
        · rename_i apart
          simp only [apart, false_or]
          exact sound.done other
      · rcases List.mem_append.1 member with old_ | new_
        · exact sound.others document old_ name other
        · rw [List.mem_singleton.1 new_]
          exact newest.2 name other
      · cases later with
        | nil =>
            obtain ⟨rfl, rfl⟩ := List.cons.inj split
            rw [State.set_editing, if_pos rfl]
            refine ⟨sound.version_le open_, _, ?_, newest.1⟩
            rw [← sound.count, List.getElem?_concat_length]
        | cons head later =>
            obtain ⟨-, split⟩ := List.cons.inj split
            have known : other ∈ state.order := by simp [split]
            have apart : other ≠ client := fun same => new (same ▸ known)
            obtain ⟨earlierCopy, document, at_, left⟩ := sound.applied later other earlier split
            have bound := (List.getElem?_eq_some_iff.1 at_).1
            rw [State.set_editing, if_neg apart]
            exact ⟨earlierCopy, document, by rw [List.getElem?_append_left bound, at_], left⟩

end Step

theorem sound_reachable {ownerId : String} {documentID : DocumentID} {old : Fields}
    {state : State} (reached : (machine ownerId documentID old).Reachable state) :
    Sound documentID old state :=
  reached.invariant (I := Sound documentID old)
    (by
      rintro _ rfl
      exact sound_start documentID old)
    (fun _ _ _ _ sound _ moved => sound_of_effect sound (effect_of_step sound.holds moved))

/-! ## Both saves applied -/

/-- How a document stands after the saves of `first` and then `last`. -/
structure Decided (old : Fields) (first last : Editing) (document : Fields) : Prop where
  /-- the save applied last wrote every field of an editor -/
  written : ∀ field : Field,
    document.lookup field.key = some (.ofOptional (last.save.written field))
  others : ∀ name, (∀ field : Field, name ≠ field.key) → document.lookup name = old.lookup name
  opened : first.save.copy = read old
  version : last.version ≤ 1
  /-- its editor was given a copy that had the other save -/
  after : last.version = 1 → last.save.copy = first.save.written ∧
    (Apart first.save last.save → Merges (read old) first.save last.save (read document))
  /-- its editor was given an older copy: the other changes are taken back -/
  before : last.version = 0 → last.save.copy = read old ∧
    (∀ field, ¬ last.save.Changed field → document.lookup field.key = old.lookup field.key) ∧
    (Apart first.save last.save →
      (Merges (read old) first.save last.save (read document) ↔
        ∀ field, ¬ first.save.Changed field))

section Both

variable {documentID : DocumentID} {old : Fields} {state : State}

/-- The editors' copy is what the document held in the version they were given. -/
theorem Sound.copy_eq (sound : Sound documentID old state) {client : Client}
    (open_ : (state.editing client).opened.isSome) :
    ∃ document, state.versions[(state.editing client).version]? = some document ∧
      (state.editing client).save.copy = read document := by
  obtain ⟨⟨version, screen⟩, opened⟩ := Option.isSome_iff_exists.1 open_
  obtain ⟨reminder, given, copies⟩ := (sound.holds client).opened version screen opened
  obtain ⟨document, at_, same⟩ := copies.read_
  refine ⟨document, ?_, ?_⟩
  · simpa [Editing.version, opened] using at_
  · simpa [Editing.save, Editing.copy, opened, given] using same

/-- What a save wrote is what the app reads back. -/
theorem read_of_written {document : Fields} {written : Field → Option String}
    (left : ∀ field : Field, document.lookup field.key = some (.ofOptional (written field))) :
    read document = written := by
  funext field
  simp [read, left field]

theorem Sound.both (sound : Sound documentID old state)
    (saved : ∀ client, (state.editing client).saved.isSome) :
    ∃ first last, first ≠ last ∧ state.order = [last, first] := by
  have member := fun client => (sound.done client).2 (saved client)
  have once := sound.once
  match order : state.order with
  | [] =>
      have one := member .one
      rw [order] at one
      cases one
  | [client] =>
      have one := member .one
      have two := member .two
      simp only [order, List.mem_singleton] at one two
      cases one.trans two.symm
  | [last, first] =>
      rw [order] at once
      exact ⟨first, last, by simpa [eq_comm] using once, rfl⟩
  | a :: b :: c :: rest =>
      rw [order] at once
      cases a <;> cases b <;> cases c <;> simp at once

/-- **The save applied last decides.**  Two devices edit one document as this app
writes it, in any order of listings, openings, edits, saves and answers.  Once both
saves have succeeded, the document holds in every field what the save applied last
wrote there: the new value where its user changed the field, the value of the copy
its editor was given elsewhere.  If that copy had the other save, this is the merge
of the two; if the copy is older, every field its user did not change holds the old
value, and it is the merge only if the other user changed nothing. -/
theorem lastSave_decides {ownerId : String} (appWritten : AppWritten old)
    (reached : (machine ownerId documentID old).Reachable state)
    (saved : ∀ client, (state.editing client).saved.isSome) :
    ∃ first last, first ≠ last ∧ state.order = [last, first] ∧
      Decided old (state.editing first) (state.editing last) state.document := by
  have sound := sound_reachable reached
  obtain ⟨first, last, apart, order⟩ := sound.both saved
  refine ⟨first, last, apart, order, ?_⟩
  obtain ⟨lastCopy, final, finalAt, finalLeft⟩ := sound.applied [] last [first] order
  obtain ⟨firstCopy, middle, middleAt, middleLeft⟩ := sound.applied [last] first [] order
  have document : state.document = final := by
    have count : state.versions.length = 3 := by rw [sound.count, order]; rfl
    rw [State.document, List.getLast?_eq_getElem?, count]
    exact congrArg (Option.getD · ∅) finalAt
  have opened := fun client => (sound.holds client).saved (saved client)
  have firstRead : (state.editing first).save.copy = read old := by
    obtain ⟨copied, at_, same⟩ := sound.copy_eq (opened first)
    rw [Nat.le_zero.1 firstCopy, sound.first] at at_
    cases at_
    exact same
  obtain ⟨copied, copiedAt, lastRead⟩ := sound.copy_eq (opened last)
  have finalRead := read_of_written finalLeft
  rw [document]
  exact
    { written := finalLeft
      others := document ▸ sound.others state.document sound.document_mem
      opened := firstRead
      version := lastCopy
      after := fun version => by
        rw [version] at copiedAt
        have same : copied = middle := Option.some.inj (copiedAt.symm.trans middleAt)
        have copy := lastRead.trans (same ▸ read_of_written middleLeft)
        exact ⟨copy, fun apart => finalRead ▸ merges_of_after firstRead copy apart⟩
      before := fun version => by
        rw [version, sound.first] at copiedAt
        cases copiedAt
        refine ⟨lastRead, fun field unchanged => ?_, fun apart => ?_⟩
        · rw [finalLeft field, appWritten field, Classical.not_not.1 unchanged, lastRead]
        · rw [finalRead]
          exact merges_iff_of_before firstRead lastRead apart }

end Both

def milk : Fields :=
  FirebaseService.reminderData "ann"
    { title := some "Milk", description := some "one", date := some "09:00 01/02/2030" }

/-- Device one changes the title and saves; device two is then handed the result and
changes the description. -/
def oneAfterTheOther : List Event :=
  [.deliver .one 0, .didSelectRow .one, .typeTitle .one "Oat milk", .saveButtonTapped .one,
    .answer .one none, .deliver .two 1, .didSelectRow .two, .typeDescription .two "two",
    .saveButtonTapped .two, .answer .two none]

/-- Device two opens its copy before the save of device one is applied. -/
def overlapping : List Event :=
  [.deliver .one 0, .deliver .two 0, .didSelectRow .one, .didSelectRow .two,
    .typeTitle .one "Oat milk", .saveButtonTapped .one, .answer .one none,
    .typeDescription .two "two", .saveButtonTapped .two, .answer .two none]

def after (events : List Event) : State :=
  ((machine "ann" "d1" milk).run (start milk) events).getD (start milk)

theorem oneAfterTheOther_decided :
    ∃ first last, first ≠ last ∧ (after oneAfterTheOther).order = [last, first] ∧
      Decided milk ((after oneAfterTheOther).editing first)
        ((after oneAfterTheOther).editing last) (after oneAfterTheOther).document := by
  have ran : (machine "ann" "d1" milk).run (start milk) oneAfterTheOther =
      some (after oneAfterTheOther) := rfl
  refine lastSave_decides (fun field => ?_) (Machine.reachable_of_run rfl ran) fun client => ?_
  · cases field <;> rfl
  · cases client <;> rfl

/-- In the overlapping run the new title is lost, although only device one changed
the title and only device two the description. -/
theorem overlapping_saves_lose_update :
    ¬ ∀ (ownerId : String) (documentID : DocumentID) (old : Fields) (state : State),
        AppWritten old → (machine ownerId documentID old).Reachable state →
        (∀ client, (state.editing client).saved.isSome) →
        Apart (state.editing .one).save (state.editing .two).save →
        Merges (read old) (state.editing .one).save (state.editing .two).save
          (read state.document) := by
  intro always
  have ran : (machine "ann" "d1" milk).run (start milk) overlapping = some (after overlapping) :=
    rfl
  have merges := always "ann" "d1" milk (after overlapping)
    (fun field => by cases field <;> rfl) (Machine.reachable_of_run rfl ran)
    (fun client => by cases client <;> rfl)
    (by
      rintro field ⟨here, there⟩
      cases field
      · exact there rfl
      · exact here rfl
      · exact here rfl)
  have title := merges.first .title (by unfold Save.Changed; decide)
  exact absurd title (by decide)

end Remindify.Edit
