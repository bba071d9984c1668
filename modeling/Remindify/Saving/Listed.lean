/-
# Saving.Listed -- from what a screen shows to what the list shows

A reminder is added on the Add screen and edited on Edit screens, any number of times.  Each
of these is opened on the reminder's row, used in any way, and left or popped.  Save hands an
update to Firestore, which takes or refuses it later and then answers the screen that handed
it over.  Other documents are written and deleted meanwhile; the owner stays signed in.

Firestore shows a device its own updates before they are decided, in the order they were
handed over: `here` is the collection as the listeners of this device see it.

* `listed_as_shown`: the collection lists what the screen of the update taken last showed at
  its Save: title, description and date label.  This device lists what the screen of the last
  update showed that is not decided, if there is one.

What the date label shows at a Save is what it will read once the blocks that wait have run.
-/
import Remindify.Saving.Display
import Remindify.Edit.Dateless

namespace Remindify.Saving

open Remindify.Theory
open Remindify.Network
open Remindify.Date

set_option autoImplicit false

/-- What a screen shows at its Save. -/
structure Shown where
  title : String
  description : String
  date : String
  deriving DecidableEq, Repr

def shownByEdit (settings : Settings) (display : Display Edit.Screen (Option String)) : Shown where
  title := display.screen.titleView
  description := display.screen.descriptionTextView
  date := (display.drained (editDisplay settings)).getD ""

def shownByAdd (settings : Settings) (display : Display Add.Screen AddLabel) : Shown where
  title := display.screen.titleView
  description := display.screen.descriptionTextView
  date := (display.drained (addDisplay settings)).text.getD ""

/-- An update handed over and not decided yet. -/
structure Write where
  /-- the number of its Edit screen -/
  editor : Nat
  documentID : DocumentID
  data : Fields
  shown : Shown

/-- The update, as a device sees its own. -/
def Write.apply (write : Write) (store : Store) : Store :=
  match store.updateData write.documentID write.data with
  | .ok store => store
  | .error _ => store

/-- A reminder and the collection it is in. -/
structure Page where
  store : Store
  uid : String
  documentID : DocumentID
  /-- what the screen of the update taken last showed -/
  shown : Shown
  writes : List Write
  /-- the answers under way, each with the number of its Edit screen -/
  answers : List (Nat × Option NSError)
  /-- the reminder's row, since a snapshot has come -/
  row : Option ReminderModel
  /-- how many Edit screens there have been -/
  editors : Nat
  /-- the Edit screen that is open, and its number -/
  editor : Option (Nat × Display Edit.Screen (Option String))

namespace Page

/-- The collection as this device sees it. -/
def here (page : Page) : Store :=
  page.writes.foldl (fun store write => write.apply store) page.store

/-- What the screen of the last update not decided yet showed, or else of the one taken
last. -/
def latest (page : Page) : Shown :=
  page.writes.foldl (fun _ write => write.shown) page.shown

/-- The reminder, as the list of its owner shows it. -/
def listedIn (page : Page) (store : Store) : Option ReminderModel :=
  Edit.Life.listed { store, uid := page.uid, documentID := page.documentID, rounds := [] }

inductive Event where
  /-- the list hears of a snapshot -/
  | snapshot
  | openEditor
  | act (act : Act)
  | saveButtonTapped
  /-- Firestore takes an update, or refuses it -/
  | decided (write : Nat) (refused : Option NSError)
  /-- the completion of an update runs -/
  | answered (answer : Nat)
  | leave
  /-- another document is written, or deleted -/
  | elsewhere (documentID : DocumentID) (data : Option Fields)

/-- `saveButtonTapped` of the Edit screen. -/
def save (settings : Settings) (page : Page) (number : Nat)
    (display : Display Edit.Screen (Option String)) : Page :=
  let (screen, handed) := Edit.saveButtonTapped display.screen
  let page := { page with editor := some (number, { display with screen }) }
  match handed with
  | some reminder =>
      match FirebaseService.updateReminder reminder with
      | .ok (documentID, data) =>
          let shown := shownByEdit settings display
          { page with writes := page.writes ++ [⟨number, documentID, data, shown⟩] }
      | .error error => { page with answers := page.answers ++ [(number, some error)] }
  | none => page

/-- The completion of `updateReminder`, of the screen `number`: a success pops it, if it is
open still. -/
def reminderUpdated (page : Page) (number : Nat) (error : Option NSError) : Page :=
  match page.editor with
  | some (open_, display) =>
      if open_ = number then
        match error with
        | none => { page with editor := none }
        | some _ =>
            let screen := display.screen.warn "Error updating document"
            { page with editor := some (number, { display with screen }) }
      else page
  | none => page

def step (settings : Settings) (page : Page) : Event → Option Page
  | .snapshot => (page.listedIn page.here).map fun row => { page with row := some row }
  | .openEditor =>
      match page.editor, page.row with
      | none, some copy => some
          { page with
            editor := some (page.editors, editOpened (some copy)), editors := page.editors + 1 }
      | _, _ => none
  | .act .saveButtonTapped => none
  | .act act =>
      page.editor.bind fun (number, display) =>
        (displayStep (editDisplay settings) display act).map fun display =>
          { page with editor := some (number, display) }
  | .saveButtonTapped => page.editor.map fun (number, display) => page.save settings number display
  | .decided index refused =>
      match page.writes[index]? with
      | some write =>
          let page := { page with
            writes := page.writes.eraseIdx index
            answers := page.answers ++ [(write.editor, refused)] }
          match refused with
          | some _ => some page
          | none => (page.store.updateData write.documentID write.data).toOption.map fun store =>
              { page with store, shown := write.shown }
      | none => none
  | .answered index =>
      match page.answers[index]? with
      | some (number, error) =>
          some ({ page with answers := page.answers.eraseIdx index }.reminderUpdated number error)
      | none => none
  | .leave => page.editor.map fun _ => { page with editor := none }
  | .elsewhere documentID data =>
      if documentID = page.documentID then none
      else
        match data with
        | some data => some { page with store := page.store.insert documentID data }
        | none => some { page with store := page.store.erase documentID }

/-- Save on the Add screen, in any collection, once it is confirmed. -/
def add (settings : Settings) (store : Store) (user : User)
    (display : Display Add.Screen AddLabel) (documentID : DocumentID) : Option Page := do
  let reminder ← (Add.saveButtonTapped display.screen).2
  let data ← FirebaseService.addReminder (some user) reminder
  let store ← store.addDocument documentID data
  some
    { store, uid := user.uid, documentID, shown := shownByAdd settings display
      writes := [], answers := [], row := none, editors := 0, editor := none }

/-- A reminder that has been added from an Add screen used in any way. -/
def Added (settings : Settings) (page : Page) : Prop :=
  ∃ store user display documentID,
    (displayMachine (addDisplay settings) addOpened).Reachable display ∧
      add settings store user display documentID = some page

def machine (settings : Settings) : Machine Page Event where
  init := Added settings
  step := step settings

/-! ## The document -/

/-- The document holds what was shown. -/
structure Stores (shown : Shown) (uid : String) (data : Fields) : Prop where
  title : data.lookup "Title" = some (.string shown.title)
  description : data.lookup "Description" = some (.string shown.description)
  date : data.lookup "Date" = some (.string shown.date)
  ownerId : data.lookup "ownerId" = some (.string uid)

/-- The document of the collection does. -/
def Holds (store : Store) (documentID : DocumentID) (uid : String) (shown : Shown) : Prop :=
  ∃ data, store.lookup documentID = some data ∧ Stores shown uid data

/-- The reminder has what was shown. -/
structure Repeats (shown : Shown) (reminder : ReminderModel) : Prop where
  title : reminder.title = some shown.title
  description : reminder.description = some shown.description
  date : reminder.date = some shown.date

/-- An update leaves the owner. -/
theorem stores_updateData {reminder : ReminderModel} {before shown : Shown} {uid : String}
    {data : Fields} (repeats : Repeats shown reminder) (stores : Stores before uid data) :
    Stores shown uid (FirebaseService.updateData reminder ∪ data) where
  title := by simp [union_lookup, repeats.title, Value.ofOptional]
  description := by simp [union_lookup, repeats.description, Value.ofOptional]
  date := by simp [union_lookup, repeats.date, Value.ofOptional]
  ownerId := by simp [union_lookup, stores.ownerId]

/-- The update of a document, with what its screen showed. -/
structure Updates (documentID : DocumentID) (write : Write) : Prop where
  documentID : write.documentID = documentID
  data : ∃ reminder, Repeats write.shown reminder ∧
    write.data = FirebaseService.updateData reminder

section Document

variable {store : Store} {documentID : DocumentID} {uid : String} {shown : Shown} {write : Write}

/-- **An update taken** replaces what the document holds. -/
theorem updateData_of_updates (updates : Updates documentID write)
    (holds : Holds store documentID uid shown) :
    ∃ data, store.updateData write.documentID write.data = .ok (store.insert documentID data) ∧
      Stores write.shown uid data := by
  obtain ⟨data, stored, stores⟩ := holds
  obtain ⟨rfl, reminder, repeats, named⟩ := updates
  refine ⟨_, Store.updateData_eq_ok.2 ⟨data, stored, rfl⟩, ?_⟩
  rw [named]
  exact stores_updateData repeats stores

/-- **Updates on top of the collection**: the last one decides what the document holds, and
no other document changes. -/
theorem holds_foldl {writes : List Write} (updates : ∀ write ∈ writes, Updates documentID write)
    (holds : Holds store documentID uid shown) :
    Holds (writes.foldl (fun store write => write.apply store) store) documentID uid
        (writes.foldl (fun _ write => write.shown) shown) ∧
      ∀ other, other ≠ documentID →
        (writes.foldl (fun store write => write.apply store) store).lookup other =
          store.lookup other := by
  induction writes generalizing store shown with
  | nil => exact ⟨holds, fun _ _ => rfl⟩
  | cons write rest ih =>
      obtain ⟨first, later⟩ := List.forall_mem_cons.1 updates
      obtain ⟨data, updated, stores⟩ := updateData_of_updates first holds
      have applied : write.apply store = store.insert documentID data := by
        rw [Write.apply, updated]
      have next : Holds (write.apply store) documentID uid write.shown :=
        ⟨data, by rw [applied, AList.lookup_insert], stores⟩
      obtain ⟨held, others⟩ := ih later next
      refine ⟨held, fun other apart => (others other apart).trans ?_⟩
      rw [applied, AList.lookup_insert_ne apart]

end Document

/-! ## The list -/

/-- The model the list makes of a document that holds what was shown. -/
def model (page : Page) (shown : Shown) : ReminderModel where
  title := some shown.title
  description := some shown.description
  date := some shown.date
  documentID := some page.documentID
  ownerId := some page.uid

section List

variable {page : Page} {store : Store} {shown : Shown}

theorem modelOf_of_stores {data : Fields} (stores : Stores shown page.uid data) :
    FirebaseService.modelOf page.uid "" ⟨page.documentID, data⟩ = page.model shown := by
  obtain ⟨title, description, date, -⟩ := stores
  simp [FirebaseService.modelOf, FirebaseService.titleOf, FirebaseService.descriptionOf,
    FirebaseService.dateOf, title, description, date, model]

/-- What the list shows of a document. -/
theorem listedIn_eq_some {copy : ReminderModel} (listed : page.listedIn store = some copy) :
    ∃ data, store.lookup page.documentID = some data ∧
      copy = FirebaseService.modelOf page.uid "" ⟨page.documentID, data⟩ := by
  unfold listedIn Edit.Life.listed at listed
  split at listed
  · rename_i reminders delivered
    have id : copy.documentID = some page.documentID := by simpa using List.find?_some listed
    have member := List.mem_of_find?_eq_some listed
    rw [FirebaseService.loadRemindersListener_eq_map delivered] at member
    obtain ⟨document, found, rfl⟩ := List.mem_map.1 member
    obtain ⟨stored, -, -⟩ := Store.mem_query.1 (List.mem_filter.1 found).1
    have here : document.documentID = page.documentID := Option.some.inj id
    rw [here] at stored
    exact ⟨document.data, stored, by rw [← here]⟩
  · cases listed

theorem listedIn_of_holds (holds : Holds store page.documentID page.uid shown)
    (described : FirebaseService.Described (store.query page.uid)) :
    page.listedIn store = some (page.model shown) := by
  obtain ⟨data, stored, stores⟩ := holds
  have member : (⟨page.documentID, data⟩ : Document) ∈ store.query page.uid :=
    Store.mem_query.2 ⟨stored, stores.ownerId, by rw [stores.date]; rfl⟩
  have titled : FirebaseService.isTitled ⟨page.documentID, data⟩ = true := by
    simp [FirebaseService.isTitled, FirebaseService.titleOf, stores.title]
  obtain ⟨copy, listed⟩ := @Edit.Life.listed_of_described
    { store, uid := page.uid, documentID := page.documentID, rounds := [] } data
    described member titled
  obtain ⟨data', stored', rfl⟩ := listedIn_eq_some listed
  obtain rfl := Option.some.inj (stored.symm.trans stored')
  rw [← modelOf_of_stores stores]
  exact listed

/-- A row is what was shown at some Save. -/
theorem row_of_listedIn {copy : ReminderModel}
    (holds : Holds store page.documentID page.uid shown)
    (listed : page.listedIn store = some copy) : copy = page.model shown := by
  obtain ⟨data, stored, stores⟩ := holds
  obtain ⟨data', stored', rfl⟩ := listedIn_eq_some listed
  obtain rfl := Option.some.inj (stored.symm.trans stored')
  exact modelOf_of_stores stores

/-- What does not trap the listener in one collection does not in another that differs in
the reminder only. -/
theorem described_of_others {store' : Store}
    (holds : Holds store' page.documentID page.uid shown)
    (others : ∀ other, other ≠ page.documentID → store'.lookup other = store.lookup other)
    (described : FirebaseService.Described (store.query page.uid)) :
    FirebaseService.Described (store'.query page.uid) := by
  intro document member titled
  obtain ⟨stored, owned, dated⟩ := Store.mem_query.1 member
  by_cases own : document.documentID = page.documentID
  · obtain ⟨data, stored', stores⟩ := holds
    rw [own, stored'] at stored
    have same := Option.some.inj stored
    simp [FirebaseService.descriptionOf, ← same, stores.description]
  · rw [others _ own] at stored
    exact described document (Store.mem_query.2 ⟨stored, owned, dated⟩) titled

end List

/-! ## The editor -/

section Editor

variable {settings : Settings} {display display' : Display Edit.Screen (Option String)} {act : Act}

theorem turned_screen (view view' : PickerView) :
    (display.turned (editDisplay settings) view view').screen = display.screen := by
  unfold Display.turned
  exact List.foldlRecOn _ _
    (motive := fun turned : Display Edit.Screen (Option String) => turned.screen = display.screen)
    rfl fun _ same _ _ => same

/-- The screen keeps its copy. -/
theorem reminder_of_displayStep
    (moved : displayStep (editDisplay settings) display act = some display') :
    display'.screen.reminder = display.screen.reminder := by
  cases act with
  | textViewDidChange textView text =>
      cases moved
      cases textView <;> rfl
  | dateButtonTapped now =>
      simp only [displayStep] at moved
      split at moved
      · cases moved
      · cases moved
        rfl
  | picker event =>
      obtain ⟨view, -, turned⟩ := Option.bind_eq_some_iff.1 moved
      obtain ⟨view', -, rfl⟩ := Option.map_eq_some_iff.1 turned
      rw [turned_screen]
  | done =>
      obtain ⟨view, -, rfl⟩ := Option.map_eq_some_iff.1 moved
      rfl
  | cancel =>
      obtain ⟨view, -, rfl⟩ := Option.map_eq_some_iff.1 moved
      rfl
  | mainQueue =>
      simp only [displayStep] at moved
      split at moved
      · cases moved
        rfl
      · cases moved
  | saveButtonTapped =>
      cases moved
      exact Edit.saveButtonTapped_reminder display.screen

/-- The editor has a dated copy of the document, and its label is about to show its date. -/
structure Opened (settings : Settings) (documentID : DocumentID)
    (display : Display Edit.Screen (Option String)) : Prop where
  label : display.drained (editDisplay settings) = editShown display.screen
  copy : ∃ copy, display.screen.reminder = some copy ∧ copy.documentID = some documentID ∧
    copy.date.isSome = true

variable {documentID : DocumentID}

theorem opened_editOpened (settings : Settings) (page : Page) (shown : Shown) :
    Opened settings page.documentID (editOpened (some (page.model shown))) where
  label := drained_editOpened settings _
  copy := ⟨_, Edit.viewDidLoad_reminder _, rfl, rfl⟩

theorem Opened.step (opened : Opened settings documentID display)
    (moved : displayStep (editDisplay settings) display act = some display') :
    Opened settings documentID display' where
  label := drained_of_step (shows_edit settings) opened.label moved
  copy := by
    rw [reminder_of_displayStep moved]
    exact opened.copy

/-- A warning changes neither the copy nor the date. -/
theorem Opened.warn (opened : Opened settings documentID display) (text : String) :
    Opened settings documentID { display with screen := display.screen.warn text } :=
  ⟨opened.label, opened.copy⟩

/-- **What a Save of the editor hands over** is what the editor shows. -/
theorem repeats_of_saved (opened : Opened settings documentID display) {reminder : ReminderModel}
    (handed : (Edit.saveButtonTapped display.screen).2 = some reminder) :
    Repeats (shownByEdit settings display) reminder ∧ reminder.documentID = some documentID := by
  obtain ⟨label, copy, given, id, dated⟩ := opened
  obtain ⟨copy', given', -, rfl⟩ := Edit.saveButtonTapped_eq_some (Prod.ext rfl handed)
  obtain rfl := Option.some.inj (given.symm.trans given')
  obtain ⟨copied, date⟩ := Option.isSome_iff_exists.1 dated
  refine ⟨⟨rfl, rfl, ?_⟩, id⟩
  rw [shownByEdit, label, editShown, given]
  dsimp only [Option.bind_some]
  rw [date]
  cases display.screen.dateString <;> rfl

end Editor

/-! ## Every state of a run -/

section Runs

variable {settings : Settings} {page page' : Page} {event : Event}

/-- The document holds what the update taken last showed, the updates under way are of it,
and the row and the editor are copies of it. -/
structure Kept (settings : Settings) (page : Page) : Prop where
  holds : Holds page.store page.documentID page.uid page.shown
  updates : ∀ write ∈ page.writes, Updates page.documentID write
  row : ∀ copy, page.row = some copy → ∃ shown, copy = page.model shown
  editor : ∀ number display, page.editor = some (number, display) →
    Opened settings page.documentID display

/-- **What this device sees.** -/
theorem Kept.here (kept : Kept settings page) :
    Holds page.here page.documentID page.uid page.latest ∧
      ∀ other, other ≠ page.documentID → page.here.lookup other = page.store.lookup other :=
  holds_foldl kept.updates kept.holds

theorem kept_added (added : Added settings page) : Kept settings page := by
  obtain ⟨store, user, display, documentID, reached, added⟩ := added
  have label := drained_of_reachable (shows_add settings) rfl reached
  unfold add at added
  simp only [Option.bind_eq_bind, Option.bind_eq_some_iff] at added
  obtain ⟨reminder, tapped, data, asked, store', created, made⟩ := added
  obtain ⟨-, rfl⟩ := Store.addDocument_eq_some.1 created
  rw [Add.saveButtonTapped_snd] at tapped
  split at tapped
  · cases tapped
  · cases tapped
    cases asked
    cases made
    refine ⟨⟨_, AList.lookup_insert _, ?_⟩, by simp, by simp, by simp⟩
    refine ⟨by simp [shownByAdd], by simp [shownByAdd], ?_, by simp⟩
    rw [FirebaseService.reminderData_date, shownByAdd, label, addShown]
    cases display.screen.selectedDate <;> rfl

theorem Kept.save (kept : Kept settings page) {number : Nat}
    {display : Display Edit.Screen (Option String)}
    (open_ : page.editor = some (number, display)) :
    Kept settings (page.save settings number display) := by
  have opened := kept.editor number display open_
  have tapped : displayStep (editDisplay settings) display .saveButtonTapped =
      some { display with screen := (Edit.saveButtonTapped display.screen).1 } := rfl
  have shown := opened.step tapped
  unfold Page.save
  dsimp only
  split
  · rename_i reminder handed
    obtain ⟨repeats, id⟩ := repeats_of_saved opened handed
    simp only [FirebaseService.updateReminder, id]
    refine ⟨kept.holds, fun write member => ?_, kept.row, ?_⟩
    · rcases List.mem_append.1 member with old | new
      · exact kept.updates write old
      · rw [List.mem_singleton.1 new]
        exact ⟨rfl, reminder, repeats, rfl⟩
    · rintro _ _ ⟨⟩
      exact shown
  · refine ⟨kept.holds, kept.updates, kept.row, ?_⟩
    rintro _ _ ⟨⟩
    exact shown

theorem Kept.reminderUpdated (kept : Kept settings page) (number : Nat) (error : Option NSError) :
    Kept settings (page.reminderUpdated number error) := by
  unfold Page.reminderUpdated
  split
  · rename_i open_ display opened
    split
    · cases error with
      | none => exact ⟨kept.holds, kept.updates, kept.row, by simp⟩
      | some error =>
          refine ⟨kept.holds, kept.updates, kept.row, ?_⟩
          rintro _ _ ⟨⟩
          exact (kept.editor _ _ opened).warn _
    · exact kept
  · exact kept

/-- An update is decided. -/
theorem Kept.decided (kept : Kept settings page) {index : Nat} {refused : Option NSError}
    (moved : step settings page (.decided index refused) = some page') : Kept settings page' := by
  simp only [Page.step] at moved
  split at moved
  · rename_i write at_
    have rest : ∀ write ∈ page.writes.eraseIdx index, Updates page.documentID write :=
      fun write member => kept.updates write (List.mem_of_mem_eraseIdx member)
    cases refused with
    | some error =>
        cases moved
        exact ⟨kept.holds, rest, kept.row, kept.editor⟩
    | none =>
        have updates := kept.updates write (List.mem_of_getElem? at_)
        obtain ⟨data, updated, stores⟩ := updateData_of_updates updates kept.holds
        simp only [updated] at moved
        cases moved
        exact ⟨⟨data, AList.lookup_insert _, stores⟩, rest, kept.row, kept.editor⟩
  · cases moved

/-- Another document changes. -/
theorem Kept.elsewhere (kept : Kept settings page) {documentID : DocumentID}
    {written : Option Fields}
    (moved : step settings page (.elsewhere documentID written) = some page') :
    Kept settings page' := by
  obtain ⟨data, stored, stores⟩ := kept.holds
  simp only [Page.step] at moved
  split at moved
  · cases moved
  · rename_i other
    cases written with
    | none =>
        cases moved
        exact ⟨⟨data, (AList.lookup_erase_ne (Ne.symm other)).trans stored, stores⟩,
          kept.updates, kept.row, kept.editor⟩
    | some written =>
        cases moved
        exact ⟨⟨data, (AList.lookup_insert_ne (Ne.symm other)).trans stored, stores⟩,
          kept.updates, kept.row, kept.editor⟩

/-- **One event.** -/
theorem Kept.step (kept : Kept settings page) (moved : step settings page event = some page') :
    Kept settings page' := by
  cases event with
  | snapshot =>
      obtain ⟨row, listed, rfl⟩ := Option.map_eq_some_iff.1 moved
      refine ⟨kept.holds, kept.updates, ?_, kept.editor⟩
      rintro _ ⟨⟩
      exact ⟨_, row_of_listedIn kept.here.1 listed⟩
  | openEditor =>
      simp only [Page.step] at moved
      split at moved
      · rename_i copy _ row
        cases moved
        obtain ⟨shown, rfl⟩ := kept.row copy row
        refine ⟨kept.holds, kept.updates, kept.row, ?_⟩
        rintro _ _ ⟨⟩
        exact opened_editOpened settings page shown
      · cases moved
  | act act =>
      have acted : ∃ number display display', page.editor = some (number, display) ∧
          displayStep (editDisplay settings) display act = some display' ∧
            page' = { page with editor := some (number, display') } := by
        cases act with
        | saveButtonTapped => cases moved
        | _ =>
            obtain ⟨⟨number, display⟩, open_, acted⟩ := Option.bind_eq_some_iff.1 moved
            obtain ⟨display', stepped, rfl⟩ := Option.map_eq_some_iff.1 acted
            exact ⟨number, display, display', open_, stepped, rfl⟩
      obtain ⟨number, display, display', open_, stepped, rfl⟩ := acted
      refine ⟨kept.holds, kept.updates, kept.row, ?_⟩
      rintro _ _ ⟨⟩
      exact (kept.editor number display open_).step stepped
  | saveButtonTapped =>
      obtain ⟨⟨number, display⟩, open_, rfl⟩ := Option.map_eq_some_iff.1 moved
      exact kept.save open_
  | decided index refused => exact kept.decided moved
  | answered index =>
      simp only [Page.step] at moved
      split at moved
      · cases moved
        have heard : Kept settings { page with answers := page.answers.eraseIdx index } :=
          ⟨kept.holds, kept.updates, kept.row, kept.editor⟩
        exact heard.reminderUpdated _ _
      · cases moved
  | leave =>
      obtain ⟨_, -, rfl⟩ := Option.map_eq_some_iff.1 moved
      exact ⟨kept.holds, kept.updates, kept.row, by simp⟩
  | elsewhere documentID written => exact kept.elsewhere moved

/-- **The list shows what the last save showed**, as long as it can be read: the update taken
last in the collection, and on this device the last one not decided yet, if there is one. -/
theorem listed_as_shown (reached : (machine settings).Reachable page)
    (described : FirebaseService.Described (page.store.query page.uid)) :
    page.listedIn page.store = some (page.model page.shown) ∧
      page.listedIn page.here = some (page.model page.latest) := by
  have kept : Kept settings page :=
    reached.invariant (I := Kept settings) (fun _ added => kept_added added)
      fun _ _ _ _ kept _ moved => kept.step moved
  obtain ⟨holds, others⟩ := kept.here
  exact ⟨listedIn_of_holds kept.holds described,
    listedIn_of_holds holds (described_of_others holds others described)⟩

/-- Ann has typed a title. -/
def milkTyped : Display Add.Screen AddLabel :=
  ((displayMachine (addDisplay greenwich) addOpened).run addOpened
    [.textViewDidChange .titleView "Milk"]).getD addOpened

/-- She saves, in an empty collection. -/
def milk : Page :=
  (add greenwich ∅ ⟨"ann", none⟩ milkTyped "d1").getD
    ⟨∅, "", "", ⟨"", "", ""⟩, [], [], none, 0, none⟩

/-- She opens the reminder, and saves it under another name, which is not decided yet. -/
def milkRenamed : Page :=
  ((machine greenwich).run milk [.snapshot, .openEditor,
    .act (.textViewDidChange .titleView "Oat milk"), .saveButtonTapped]).getD milk

theorem milk_listed :
    milkRenamed.listedIn milkRenamed.here = some
      { title := some "Oat milk", description := some "", date := some "", documentID := some "d1"
        ownerId := some "ann" } := by
  have ran : (machine greenwich).run milk [.snapshot, .openEditor,
      .act (.textViewDidChange .titleView "Oat milk"), .saveButtonTapped] = some milkRenamed := rfl
  have typed : (displayMachine (addDisplay greenwich) addOpened).Reachable milkTyped :=
    .step (.init rfl) (e := .textViewDidChange .titleView "Milk") trivial rfl
  have started : (machine greenwich).init milk := ⟨∅, ⟨"ann", none⟩, milkTyped, "d1", typed, rfl⟩
  have described : FirebaseService.Described (milkRenamed.store.query milkRenamed.uid) := by
    unfold FirebaseService.Described
    decide
  exact (listed_as_shown (Machine.reachable_of_run started ran) described).2

end Runs

end Page

end Remindify.Saving
