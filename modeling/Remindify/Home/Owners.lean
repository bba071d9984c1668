/-
# Home.Owners -- whose reminders a Home screen shows

A Home screen registers a listener when it is loaded and one more after each deletion,
always for the user signed in at that moment, and never removes one: `listeners` has also
those that Firestore has erased since, whose reminders are still shown.

* `attributed_step`: every reminder it holds was delivered by one of its listeners, and
  names that listener's owner;
* `listeners_of_step`: only the answer to a deletion adds a listener.
-/
import Remindify.Home.TableInvariant

namespace Remindify.Home

open Remindify.Theory
open Remindify.Network

set_option autoImplicit false

/-- Every reminder of the screen names the owner of one of its listeners. -/
structure Attributed (screen : Screen) : Prop extends Consistent screen where
  attributed : ∀ reminder ∈ screen.originalRemindersArr,
    ∃ ownerId ∈ screen.listeners, reminder.ownerId = some ownerId

theorem attributed_viewDidLoad (currentUser : Option User) :
    Attributed (viewDidLoad currentUser) where
  toConsistent := consistent_viewDidLoad currentUser
  attributed := by simp [viewDidLoad]

theorem deletionAnswered_listeners (screen : Screen) (call : Nat) (deletion : Deletion)
    (error : Option NSError) (currentUser : Option User) :
    (deletionAnswered screen call deletion error currentUser).listeners = screen.listeners ∨
      (deletionAnswered screen call deletion error currentUser).listeners =
        screen.listeners ++ (FirebaseService.loadReminders currentUser).toList := by
  cases error with
  | some error => exact Or.inl rfl
  | none => exact Or.inr rfl

/-- **Only the answer to a deletion adds a listener**, for the user signed in then. -/
theorem listeners_of_step {ops : TextOps} {screen screen' : Screen} {event : Event}
    (consistent : Consistent screen) (moved : step ops screen event = some screen') :
    screen'.listeners = screen.listeners ∨
      ∃ call error currentUser, event = .deletionAnswered call error currentUser ∧
        screen'.listeners =
          screen.listeners ++ (FirebaseService.loadReminders currentUser).toList := by
  cases effect_of_step consistent moved with
  | typed searchText =>
      left
      rw [textDidChange_eq]
      rfl
  | answered error currentUser outstanding =>
      apply (deletionAnswered_listeners screen _ _ error currentUser).imp_right
      intro added
      exact ⟨_, error, currentUser, rfl, added⟩
  | unheard | heard | cancelled | swiped | drawn => exact Or.inl rfl

/-- **Every event leaves each reminder attributed to a listener.** -/
theorem attributed_step (ops : TextOps) {screen screen' : Screen} {event : Event}
    (attributed : Attributed screen) (moved : step ops screen event = some screen') :
    Attributed screen' := by
  refine ⟨consistent_step ops attributed.toConsistent moved, ?_⟩
  cases effect_of_step attributed.toConsistent moved with
  | heard registered delivered =>
      intro reminder member
      obtain ⟨owner, -, -⟩ :=
        (FirebaseService.loadRemindersListener_spec delivered).1 reminder member
      exact ⟨_, List.mem_of_getElem? registered, owner⟩
  | typed searchText =>
      rw [textDidChange_eq]
      exact attributed.attributed
  | answered error currentUser outstanding =>
      intro reminder member
      obtain ⟨listeners, answered⟩ := deletionAnswered_eq screen _ _ error currentUser
      rw [answered] at member
      obtain ⟨ownerId, registered, owner⟩ := attributed.attributed reminder member
      refine ⟨ownerId, ?_, owner⟩
      rcases deletionAnswered_listeners screen _ _ error currentUser with same | added
      · rw [same]
        exact registered
      · rw [added]
        exact List.mem_append_left _ registered
  | unheard | cancelled | swiped | drawn => exact attributed.attributed

theorem attributed_reachable {ops : TextOps} {screen : Screen}
    (reached : (machine ops).Reachable screen) : Attributed screen :=
  reached.invariant (I := Attributed)
    (by
      rintro _ ⟨user, rfl⟩
      exact attributed_viewDidLoad user)
    (fun _ _ _ _ attributed _ moved => attributed_step ops attributed moved)

/-- What the table shows is attributed too. -/
theorem Attributed.filtered {screen : Screen} (attributed : Attributed screen)
    {reminder : ReminderModel} (member : reminder ∈ screen.filteredRemindersArr) :
    ∃ ownerId ∈ screen.listeners, reminder.ownerId = some ownerId :=
  attributed.attributed reminder (attributed.listed.subset member)

end Remindify.Home
