/-
# Home.Search -- when the list shown is the searched list

The list a user expects is a function of three things: the reminders delivered
last, the text in the search bar, and the deletions asked for here that have not
failed.  Of the handlers that change one of them, only `textDidChange` recomputes
`filteredRemindersArr`, and it leaves the deletions out.

* `searched_step_iff`: what each event needs in order to keep the list;
* `throughout_searched_iff`: the list is the searched list throughout a run exactly
  when every event of the run meets its condition;
* `snapshot_during_search`: a snapshot that arrives during a search is shown whole.
-/
import Mathlib.Data.List.Infix
import Remindify.Home.TableInvariant

namespace Remindify.Home

open Remindify.Theory
open Remindify.Network

set_option autoImplicit false

/-- A deletion that has not failed and is of this reminder. -/
def Deletion.hides (deletion : Deletion) (reminder : ReminderModel) : Bool :=
  !deletion.failed && decide (reminder.documentID = some deletion.documentID)

/-- The reminder was deleted here, and that has not been reported as failed. -/
def removed (screen : Screen) (reminder : ReminderModel) : Bool :=
  screen.deletions.any (·.hides reminder)

/-- A reminder the user expects to see. -/
def expected (ops : TextOps) (screen : Screen) (reminder : ReminderModel) : Bool :=
  titleMatches ops screen.searchText reminder && !removed screen reminder

/-- The screen and the reminders delivered to it last. -/
structure Watched where
  screen : Screen
  latest : List ReminderModel

/-- The reminders an event delivers to the screen, if it delivers any. -/
def delivers (screen : Screen) : Event → Option (List ReminderModel)
  | .snapshot listener error querySnapshot =>
      match screen.listeners[listener]? with
      | some ownerId =>
          match FirebaseService.loadRemindersListener ownerId error querySnapshot with
          | .ok (.ok reminders) => some reminders
          | _ => none
      | none => none
  | _ => none

def Watched.step (ops : TextOps) (watched : Watched) (event : Event) : Option Watched :=
  (Home.step ops watched.screen event).map fun screen =>
    { screen, latest := (delivers watched.screen event).getD watched.latest }

/-- The Home screen, with the last delivery recorded beside it. -/
def Watched.machine (ops : TextOps) : Machine Watched Event where
  init watched := ∃ currentUser, watched = ⟨viewDidLoad currentUser, []⟩
  step := Watched.step ops

/-- The list shown is the searched list. -/
def Searched (ops : TextOps) (watched : Watched) : Prop :=
  watched.screen.filteredRemindersArr = watched.latest.filter (expected ops watched.screen)

/-- What an event needs in order to keep the searched list. -/
def Keeps (ops : TextOps) (screen : Screen) : Event → Prop
  | .snapshot _ none querySnapshot =>
      ∀ d ∈ (querySnapshot.map (·.documents)).getD [], FirebaseService.isTitled d →
        expected ops screen
          { title := FirebaseService.titleOf d, documentID := some d.documentID } = true
  | .textDidChange searchText =>
      ∀ reminder ∈ screen.originalRemindersArr,
        titleMatches ops searchText reminder = true → removed screen reminder = false
  | .cancel =>
      ∀ reminder ∈ screen.originalRemindersArr,
        removed screen reminder = false → titleMatches ops screen.searchText reminder = true
  | .deletionAnswered call (some _) _ =>
      ∀ reminder ∈ screen.originalRemindersArr,
        reminder.documentID = (screen.deletions[call]?).map (·.documentID) →
        titleMatches ops screen.searchText reminder = false
  | _ => True

/-! ## Deletions -/

theorem removed_append (screen : Screen) (documentId : DocumentID) (reminder : ReminderModel) :
    removed { screen with deletions := screen.deletions ++ [⟨documentId, none⟩] } reminder =
      (removed screen reminder || decide (reminder.documentID = some documentId)) := by
  simp [removed, Deletion.hides, Deletion.failed]

/-- The documents under a deletion that has not failed. -/
def pending (deletions : List Deletion) : List DocumentID :=
  (deletions.filter fun deletion => !deletion.failed).map (·.documentID)

theorem mem_pending {deletions : List Deletion} {reminder : ReminderModel}
    {documentId : DocumentID} (id : reminder.documentID = some documentId) :
    documentId ∈ pending deletions ↔ deletions.any (·.hides reminder) = true := by
  simp only [pending, Deletion.hides, id, List.mem_map, List.mem_filter, List.any_eq_true,
    Bool.and_eq_true, Option.some.injEq, decide_eq_true_eq]
  constructor
  · rintro ⟨deletion, ⟨asked, unfailed⟩, rfl⟩
    exact ⟨deletion, asked, unfailed, rfl⟩
  · rintro ⟨deletion, asked, unfailed, same⟩
    exact ⟨deletion, ⟨asked, unfailed⟩, same.symm⟩

theorem pending_split (earlier later : List Deletion) (deletion : Deletion) :
    pending (earlier ++ deletion :: later) = pending earlier ++
      if deletion.failed then pending later else deletion.documentID :: pending later := by
  simp only [pending, List.filter_append, List.filter_cons, List.map_append]
  cases deletion.failed <;> rfl

/-- The state of one deletion among the others. -/
theorem deletions_split {deletions : List Deletion} {call : Nat} {deletion : Deletion}
    (outstanding : deletions[call]? = some deletion) (answered : Deletion) :
    ∃ earlier later, deletions = earlier ++ deletion :: later ∧
      deletions.set call answered = earlier ++ answered :: later := by
  obtain ⟨bound, rfl⟩ := List.getElem?_eq_some_iff.1 outstanding
  obtain ⟨earlier, later, split, -, set⟩ := List.exists_of_set bound
  exact ⟨earlier, later, split, set⟩

/-! ## One step -/

/-- What lasts as long as the list is the searched list: the delivered reminders are
the screen's own copy, and no document is under two deletions. -/
structure Tracked (watched : Watched) : Prop where
  consistent : Consistent watched.screen
  latest : watched.latest = watched.screen.originalRemindersArr
  once : (pending watched.screen.deletions).Nodup

theorem tracked_viewDidLoad (currentUser : Option User) :
    Tracked ⟨viewDidLoad currentUser, []⟩ where
  consistent := consistent_viewDidLoad currentUser
  latest := rfl
  once := List.nodup_nil

section Step

variable {ops : TextOps} {watched watched' : Watched} {event : Event}

/-- The screen part of a step, and the delivery beside it. -/
theorem watched_step_eq (moved : Watched.step ops watched event = some watched') :
    step ops watched.screen event = some watched'.screen ∧
      watched'.latest = (delivers watched.screen event).getD watched.latest := by
  obtain ⟨screen', moved', rfl⟩ := Option.map_eq_some_iff.1 moved
  exact ⟨moved', rfl⟩

theorem delivers_of_listener {screen : Screen} {listener : Nat} {ownerId : String}
    {querySnapshot : Option Snapshot} {reminders : List ReminderModel}
    (registered : screen.listeners[listener]? = some ownerId)
    (delivered : FirebaseService.loadRemindersListener ownerId none querySnapshot =
      .ok (.ok reminders)) :
    delivers screen (.snapshot listener none querySnapshot) = some reminders := by
  simp only [delivers, registered, delivered]

theorem delivers_of_error (screen : Screen) (listener : Nat) (error : NSError)
    (querySnapshot : Option Snapshot) :
    delivers screen (.snapshot listener (some error) querySnapshot) = none := by
  simp only [delivers, FirebaseService.loadRemindersListener]
  split <;> rfl

/-- A reminder under no deletion that is still open can be asked for once more. -/
theorem pending_append {screen : Screen} {reminder : ReminderModel} {documentId : DocumentID}
    (once : (pending screen.deletions).Nodup) (id : reminder.documentID = some documentId)
    (fresh : removed screen reminder = false) :
    (pending (screen.deletions ++ [⟨documentId, none⟩])).Nodup := by
  have split : pending (screen.deletions ++ [⟨documentId, none⟩]) =
      pending screen.deletions ++ [documentId] :=
    pending_split screen.deletions [] ⟨documentId, none⟩
  have new : documentId ∉ pending screen.deletions := by
    rw [mem_pending id]
    exact Bool.eq_false_iff.1 fresh
  rw [split]
  exact List.nodup_append.2 ⟨once, List.nodup_singleton _, fun a old b last => by
    rintro rfl
    exact new (List.mem_singleton.1 last ▸ old)⟩

/-- A shown reminder of the searched list is expected, so it is under no deletion. -/
theorem Searched.fresh (searched : Searched ops watched) {row : Nat} {reminder : ReminderModel}
    (at_ : watched.screen.filteredRemindersArr[row]? = some reminder) :
    removed watched.screen reminder = false := by
  have member := List.mem_of_getElem? at_
  rw [searched, List.mem_filter, expected, Bool.and_eq_true] at member
  simpa using member.2.2

theorem tracked_step (tracked : Tracked watched) (searched : Searched ops watched)
    (moved : Watched.step ops watched event = some watched') : Tracked watched' := by
  obtain ⟨screenMoved, latest'⟩ := watched_step_eq moved
  have consistent' := consistent_step ops tracked.consistent screenMoved
  obtain ⟨screen', reminders'⟩ := watched'
  simp only at screenMoved latest' consistent'
  cases effect_of_step tracked.consistent screenMoved with
  | unheard =>
      rw [delivers_of_error] at latest'
      exact ⟨consistent', latest'.trans tracked.latest, tracked.once⟩
  | heard registered delivered =>
      rw [delivers_of_listener registered delivered] at latest'
      exact ⟨consistent', latest', tracked.once⟩
  | typed searchText =>
      rw [textDidChange_eq] at consistent' ⊢
      exact ⟨consistent', latest'.trans tracked.latest, tracked.once⟩
  | cancelled => exact ⟨consistent', latest'.trans tracked.latest, tracked.once⟩
  | swiped at_ id =>
      exact ⟨consistent', latest'.trans tracked.latest,
        pending_append tracked.once id (searched.fresh at_)⟩
  | @answered call documentID error currentUser outstanding =>
      obtain ⟨listeners, answered⟩ := deletionAnswered_eq watched.screen call ⟨documentID, none⟩
        error currentUser
      rw [answered] at consistent' ⊢
      refine ⟨consistent', latest'.trans tracked.latest, ?_⟩
      have once := tracked.once
      obtain ⟨earlier, later, before, after⟩ :=
        deletions_split outstanding ⟨documentID, some error⟩
      rw [before, pending_split] at once
      simp only [after, pending_split]
      refine once.sublist (List.Sublist.append_left ?_ _)
      cases error with
      | none => exact List.Sublist.refl _
      | some error => exact List.sublist_cons_self _ _
  | drawn draws length shown =>
      have quiet : delivers watched.screen event = none := by cases event <;> trivial
      rw [quiet] at latest'
      exact ⟨consistent', latest'.trans tracked.latest, tracked.once⟩

/-- The list after an event that leaves it and the delivered reminders. -/
theorem searched_iff_of_same (tracked : Tracked watched) (searched : Searched ops watched)
    (screen' : Screen)
    (same : screen'.filteredRemindersArr = watched.screen.filteredRemindersArr) :
    Searched ops ⟨screen', watched.latest⟩ ↔
      ∀ reminder ∈ watched.screen.originalRemindersArr,
        expected ops watched.screen reminder = expected ops screen' reminder := by
  rw [Searched, same, searched, Keyed.filter_eq_filter_iff, tracked.latest]

/-- What the user expects depends on titles and document IDs only. -/
theorem expected_congr {screen : Screen} {r r' : ReminderModel} (title : r.title = r'.title)
    (id : r.documentID = r'.documentID) : expected ops screen r = expected ops screen r' := by
  simp only [expected, titleMatches, titleContains, removed, Deletion.hides, title, id]

/-- A delivered list is shown whole: right when every document in it is expected. -/
theorem heard_iff {screen : Screen} {ownerId : String} {querySnapshot : Option Snapshot}
    {reminders : List ReminderModel}
    (delivered : FirebaseService.loadRemindersListener ownerId none querySnapshot =
      .ok (.ok reminders)) :
    (∀ reminder ∈ reminders, expected ops screen reminder = true) ↔
      ∀ d ∈ (querySnapshot.map (·.documents)).getD [], FirebaseService.isTitled d →
        expected ops screen
          { title := FirebaseService.titleOf d, documentID := some d.documentID } = true := by
  have titles := FirebaseService.loadRemindersListener_titles delivered
  constructor
  · intro all d member titled
    have listed : (FirebaseService.titleOf d, some d.documentID) ∈
        reminders.map fun r => (r.title, r.documentID) := by
      rw [titles]
      exact List.mem_map.2 ⟨d, List.mem_filter.2 ⟨member, titled⟩, rfl⟩
    obtain ⟨reminder, shown, same⟩ := List.mem_map.1 listed
    obtain ⟨title, id⟩ := Prod.mk.inj same
    rw [← all reminder shown]
    exact expected_congr title.symm id.symm
  · intro all reminder shown
    have listed : (reminder.title, reminder.documentID) ∈
        ((((querySnapshot.map (·.documents)).getD []).filter FirebaseService.isTitled).map
          fun d => (FirebaseService.titleOf d, some d.documentID)) := by
      rw [← titles]
      exact List.mem_map_of_mem shown
    obtain ⟨d, kept, same⟩ := List.mem_map.1 listed
    obtain ⟨member, titled⟩ := List.mem_filter.1 kept
    obtain ⟨title, id⟩ := Prod.mk.inj same
    rw [← all d member titled]
    exact expected_congr title.symm id.symm

/-- An answered deletion: a success changes nothing, a failure gives one document
back. -/
theorem removed_answered {screen : Screen} {call : Nat} {documentID : DocumentID}
    (once : (pending screen.deletions).Nodup)
    (outstanding : screen.deletions[call]? = some ⟨documentID, none⟩) (error : Option NSError)
    (reminder : ReminderModel) :
    removed { screen with deletions := screen.deletions.set call ⟨documentID, some error⟩ }
        reminder =
      (removed screen reminder &&
        !(error.isSome && decide (reminder.documentID = some documentID))) := by
  obtain ⟨earlier, later, before, after⟩ := deletions_split outstanding ⟨documentID, some error⟩
  rw [before, pending_split] at once
  simp only [removed, after]
  rw [before]
  simp only [List.any_append, List.any_cons]
  by_cases same : reminder.documentID = some documentID
  · -- no other open deletion is of this document
    obtain ⟨fresh, -⟩ := List.nodup_cons.1 (List.nodup_middle.1 once)
    rw [List.mem_append, not_or, mem_pending same, mem_pending same, Bool.not_eq_true,
      Bool.not_eq_true] at fresh
    rw [fresh.1, fresh.2]
    cases error <;> simp [Deletion.hides, Deletion.failed, same]
  · simp [Deletion.hides, same]

/-- **One step.**  From a searched list, an event leads to one exactly when it meets
its condition. -/
theorem searched_step_iff (tracked : Tracked watched) (searched : Searched ops watched)
    (moved : Watched.step ops watched event = some watched') :
    Searched ops watched' ↔ Keeps ops watched.screen event := by
  obtain ⟨screenMoved, latest'⟩ := watched_step_eq moved
  obtain ⟨screen', reminders'⟩ := watched'
  simp only at screenMoved latest'
  cases effect_of_step tracked.consistent screenMoved with
  | unheard =>
      rw [delivers_of_error] at latest'
      subst latest'
      exact ⟨fun _ => trivial, fun _ => searched⟩
  | @heard listener querySnapshot ownerId reminders registered delivered =>
      rw [delivers_of_listener registered delivered] at latest'
      obtain rfl : reminders' = reminders := latest'
      have whole : Searched ops ⟨remindersLoaded watched.screen (.ok reminders'), reminders'⟩ ↔
          ∀ reminder ∈ reminders', expected ops watched.screen reminder = true := by
        rw [← List.filter_eq_self]
        exact eq_comm
      exact whole.trans (heard_iff delivered)
  | typed searchText =>
      subst latest'
      rw [textDidChange_eq]
      simp only [Searched, reloadData, Keeps, delivers, Option.getD_none, tracked.latest]
      rw [Keyed.filter_eq_filter_iff]
      refine forall₂_congr fun reminder member => ?_
      simp only [expected, removed]
      cases titleMatches ops searchText reminder
      · simp
      · cases watched.screen.deletions.any (·.hides reminder) <;> simp
  | cancelled =>
      subst latest'
      have kept :=
        searched_iff_of_same tracked searched (searchBarCancelButtonClicked watched.screen) rfl
      refine kept.trans (forall₂_congr fun reminder member => ?_)
      have all : titleMatches ops "" reminder = true := rfl
      simp only [expected, searchBarCancelButtonClicked, all, removed]
      cases titleMatches ops watched.screen.searchText reminder <;>
        cases watched.screen.deletions.any (·.hides reminder) <;> simp
  | @swiped row reminder documentId at_ id =>
      subst latest'
      refine ⟨fun _ => trivial, fun _ => ?_⟩
      have distinct := tracked.consistent.filtered_distinct
      simp only [Searched, Keyed.eraseIdx_eq_filter (·.documentID) distinct at_, id]
      rw [searched, List.filter_filter]
      refine List.filter_congr fun r member => ?_
      have hidden := removed_append watched.screen documentId r
      simp only [removed] at hidden
      simp only [expected, removed, hidden, Bool.not_or, decide_not]
      rw [Bool.and_comm, Bool.and_assoc]
  | @answered call documentID error currentUser outstanding =>
      subst latest'
      obtain ⟨listeners, answered⟩ := deletionAnswered_eq watched.screen call ⟨documentID, none⟩
        error currentUser
      have kept := searched_iff_of_same tracked searched (deletionAnswered watched.screen call
        ⟨documentID, none⟩ error currentUser) (by rw [answered])
      refine kept.trans ?_
      rw [answered]
      have hidden := removed_answered tracked.once outstanding error
      simp only [removed] at hidden
      simp only [expected, removed, hidden]
      cases error with
      | none => simp [Keeps]
      | some error =>
          simp only [Keeps, outstanding, Option.map_some, Option.isSome_some, Bool.true_and]
          refine forall₂_congr fun reminder member => ?_
          by_cases same : reminder.documentID = some documentID
          · have hides : watched.screen.deletions.any (·.hides reminder) = true :=
              (mem_pending same).1 (List.mem_map.2 ⟨⟨documentID, none⟩,
                List.mem_filter.2 ⟨List.mem_of_getElem? outstanding, rfl⟩, rfl⟩)
            simp only [same, hides, decide_true]
            cases titleMatches ops watched.screen.searchText reminder <;> simp
          · simp [same]
  | drawn draws length shown =>
      have quiet : delivers watched.screen event = none := by cases event <;> trivial
      rw [quiet] at latest'
      subst latest'
      refine ⟨fun _ => by cases event <;> trivial, fun _ => searched⟩

end Step

/-! ## Whole runs -/

/-- **When the list shown is the searched list.**  Along every run of the Home
screen, every state shows the searched list if and only if every event of the run
meets its condition: what is delivered is expected, what a search brings back was
not deleted, a cancelled search hid nothing, a failed deletion hid nothing. -/
theorem throughout_searched_iff (ops : TextOps) (currentUser : Option User) (es : List Event) :
    (Watched.machine ops).Throughout (Searched ops) ⟨viewDidLoad currentUser, []⟩ es ↔
      (Watched.machine ops).RunOk (fun watched => Keeps ops watched.screen)
        ⟨viewDidLoad currentUser, []⟩ es :=
  Machine.throughout_iff_runOk (M := Watched.machine ops) (I := Tracked) (P := Searched ops)
    (fun _ _ _ tracked searched moved _ => tracked_step tracked searched moved)
    (fun _ _ _ tracked searched moved => searched_step_iff tracked searched moved)
    (tracked_viewDidLoad currentUser) rfl es

/-- `lowercased()` and `contains(_:)` on ASCII text. -/
def asciiOps : TextOps where
  lowercased text := String.ofList (text.toList.map Char.toLower)
  contains text part := decide (part.toList <:+: text.toList)

def callDelivered : Snapshot where
  documents := [⟨"d2", FirebaseService.reminderData "ann" { title := some "Call" }⟩]
  distinct := by decide

/-- A snapshot that arrives while "milk" is searched for is shown whole. -/
theorem snapshot_during_search :
    ¬ ∀ (ops : TextOps) (watched : Watched),
        (Watched.machine ops).Reachable watched → Searched ops watched := by
  intro always
  have ran : (Watched.machine asciiOps).run ⟨viewDidLoad (some ⟨"ann", none⟩), []⟩
      [.textDidChange "milk", .snapshot 0 none (some callDelivered)] = some _ := rfl
  have searched := always asciiOps _ (Machine.reachable_of_run ⟨_, rfl⟩ ran)
  exact absurd (congrArg List.length searched) (by decide)

end Remindify.Home
