/-
# Home.Listeners -- the snapshot listeners of one process

`loadReminders` registers a listener and drops the registration, so the app cannot remove
it.  It is called when a Home screen is loaded and again after every successful
deletion; signing out removes none.  Firestore itself erases a listener with the error it
gives it.  The listener keeps its screen alive, so a `Process` has every Home screen it
ever loaded, each of them a `Home.machine` of its own.

* `listening_of_step`: which events register a listener, and for whom, and which erase one;
* `throughout_single_iff`: there is at most one listener, of the current user, throughout
  a run exactly when each event meets its condition: nothing is registered over a
  listener, and nobody leaves or comes while a listener of somebody else is registered;
* `deletion_registers_again`: one successful deletion is enough.
-/
import Remindify.Home.Owners
import Remindify.Network.Authentication
import Remindify.Theory.Pointwise

namespace Remindify.Home

open Remindify.Theory
open Remindify.Network

set_option autoImplicit false

/-- The Home screens loaded so far, and who is signed in. -/
structure Process where
  session : Option Session
  screens : List Screen

namespace Process

inductive Event where
  /-- an answer signs somebody in -/
  | signedIn (session : Session)
  /-- `signOut`, with what FirebaseAuth throws; one by force throws nothing -/
  | signOut (thrown : Option NSError)
  /-- `viewDidLoad` of a Home screen -/
  | homeLoaded
  /-- an event of one of the screens -/
  | home (index : Nat) (event : Home.Event)

def currentUser (process : Process) : Option User :=
  FirebaseService.currentUser process.session

/-- The answer to a deletion comes with whoever is signed in then. -/
def hears (process : Process) : Home.Event → Bool
  | .deletionAnswered _ _ user => user == process.currentUser
  | _ => true

def step (ops : TextOps) (process : Process) : Event → Option Process
  | .signedIn session => some { process with session := some session }
  | .signOut thrown =>
      some { process with session := (FirebaseService.signOut process.session thrown).1 }
  | .homeLoaded =>
      some { process with screens := process.screens ++ [viewDidLoad process.currentUser] }
  | .home index event =>
      if process.hears event then
        match process.screens[index]? with
        | some screen =>
            (Home.step ops screen event).map fun screen =>
              { process with screens := process.screens.set index screen }
        | none => none
      else none

/-- A process starts without a screen, with anybody signed in. -/
def machine (ops : TextOps) : Machine Process Event where
  init process := process.screens = []
  step := step ops

/-- The owners of the listeners registered and not removed. -/
def liveListeners (process : Process) : List String :=
  process.screens.flatMap (·.liveListeners)

/-- **At most one listener, and the current user's.** -/
structure Single (process : Process) : Prop where
  atMostOne : process.liveListeners.length ≤ 1
  current : ∀ ownerId ∈ process.liveListeners,
    ∃ user, process.currentUser = some user ∧ ownerId = user.uid

/-- Registering a listener is no harm: nobody is signed in, or there is none yet. -/
def MayRegister (process : Process) : Prop :=
  process.currentUser = none ∨ process.liveListeners = []

/-- The condition on an event. -/
def Alone (process : Process) : Event → Prop
  | .signedIn session => ∀ ownerId ∈ process.liveListeners, ownerId = session.user.uid
  | .signOut none => process.liveListeners = []
  | .signOut (some _) => True
  | .homeLoaded => process.MayRegister
  | .home _ (.deletionAnswered _ none _) => process.MayRegister
  | .home _ _ => True

/-! ## What registers a listener -/

/-- The listeners an event registers. -/
def registered (process : Process) : Event → List String
  | .homeLoaded | .home _ (.deletionAnswered _ none _) =>
      (FirebaseService.loadReminders process.currentUser).toList
  | _ => []

/-- A consistent screen that has registered every listener Firestore has erased. -/
structure Registered (screen : Screen) : Prop extends Consistent screen where
  erased : ∀ listener ∈ screen.erased, listener < screen.listeners.length

theorem registered_viewDidLoad (currentUser : Option User) :
    Registered (viewDidLoad currentUser) where
  toConsistent := consistent_viewDidLoad currentUser
  erased := by simp [viewDidLoad]

section Screens

variable {ops : TextOps} {screen screen' : Screen}

/-- New listeners are live. -/
theorem liveListeners_append {added : List String} (registered : Registered screen)
    (listeners : screen'.listeners = screen.listeners ++ added)
    (erased : screen'.erased = screen.erased) :
    screen'.liveListeners = screen.liveListeners ++ added := by
  have live : ((added.zipIdx screen.listeners.length).filter fun listener =>
      listener.2 ∉ screen.erased) = added.zipIdx screen.listeners.length := by
    refine List.filter_eq_self.2 fun listener member => decide_eq_true fun gone => ?_
    have known := registered.erased _ gone
    have new := List.le_snd_of_mem_zipIdx member
    omega
  rw [Screen.liveListeners, listeners, erased, List.zipIdx_append, List.filter_append,
    List.map_append, Nat.zero_add, live, List.zipIdx_map_fst]
  rfl

/-- An erased listener is live no more. -/
theorem liveListeners_erased (screen : Screen) (listener : Nat) :
    { screen with erased := listener :: screen.erased }.liveListeners.Sublist
      screen.liveListeners := by
  refine (List.monotone_filter_right _ fun other live => ?_).map _
  simp only [decide_eq_true_eq, List.mem_cons, not_or] at live ⊢
  exact live.2

theorem registered_step {event : Home.Event} (registered : Registered screen)
    (moved : Home.step ops screen event = some screen') : Registered screen' := by
  refine ⟨Home.consistent_step ops registered.toConsistent moved, ?_⟩
  cases effect_of_step registered.toConsistent moved with
  | typed searchText =>
      rw [textDidChange_eq]
      exact registered.erased
  | unheard at_ live =>
      intro other member
      rcases List.mem_cons.1 member with rfl | old
      · exact (List.getElem?_eq_some_iff.1 at_).1
      · exact registered.erased other old
  | answered error currentUser outstanding =>
      cases error with
      | some error => exact registered.erased
      | none =>
          intro listener member
          have old := registered.erased listener member
          show listener < (screen.listeners ++ _).length
          rw [List.length_append]
          omega
  | heard | cancelled | swiped | drawn => exact registered.erased

end Screens

section Step

variable {ops : TextOps} {process process' : Process} {event : Event}

/-- What an event does to the listeners: it registers some, or it erases some and no
condition is asked of it. -/
inductive Listening (process : Process) (event : Event) (process' : Process) : Prop where
  | registered (listeners :
      process'.liveListeners.Perm (process.liveListeners ++ process.registered event))
  | erased (listeners : process'.liveListeners.Sublist process.liveListeners)
      (currentUser : process'.currentUser = process.currentUser) (free : Alone process event)

/-- A screen's own event registers what it registers, or erases a listener. -/
theorem liveListeners_of_heard {screen screen' : Screen} {event : Home.Event} (index : Nat)
    (registered : Registered screen) (heard : process.hears event = true)
    (moved : Home.step ops screen event = some screen') :
    screen'.liveListeners = screen.liveListeners ++ process.registered (.home index event) ∨
      screen'.liveListeners.Sublist screen.liveListeners ∧ Alone process (.home index event) := by
  cases effect_of_step registered.toConsistent moved with
  | unheard => exact Or.inr ⟨liveListeners_erased .., trivial⟩
  | typed searchText =>
      left
      rw [textDidChange_eq]
      exact (List.append_nil _).symm
  | answered error currentUser outstanding =>
      left
      cases error with
      | some error => exact (List.append_nil _).symm
      | none =>
          have same : currentUser = process.currentUser := by simpa [hears] using heard
          rw [same]
          exact liveListeners_append registered rfl rfl
  | drawn draws length shown =>
      left
      cases event <;> first | exact (List.append_nil _).symm | cases draws
  | heard | cancelled | swiped => exact Or.inl (List.append_nil _).symm

/-- **What an event does to the listeners.**  The app removes none. -/
theorem listening_of_step (registered : ∀ screen ∈ process.screens, Registered screen)
    (moved : step ops process event = some process') : Listening process event process' := by
  cases event with
  | signedIn session =>
      cases moved
      exact .registered (by simp [liveListeners, Process.registered])
  | signOut thrown =>
      cases moved
      exact .registered (by simp [liveListeners, Process.registered])
  | homeLoaded =>
      cases moved
      refine .registered ?_
      have live : (viewDidLoad process.currentUser).liveListeners =
          (FirebaseService.loadReminders process.currentUser).toList := by
        cases process.currentUser <;> rfl
      simp [liveListeners, Process.registered, live]
  | home index event =>
      simp only [step] at moved
      split at moved
      · rename_i heard
        split at moved
        · rename_i screen at_
          obtain ⟨screen', screenMoved, rfl⟩ := Option.map_eq_some_iff.1 moved
          have here := registered screen (List.mem_of_getElem? at_)
          rcases liveListeners_of_heard index here heard screenMoved with grown | ⟨fewer, free⟩
          · exact .registered (Pointwise.flatMap_set_perm at_ grown)
          · exact .erased (Pointwise.flatMap_set_sublist at_ fewer) rfl free
        · cases moved
      · cases moved

theorem registered_process (registered : ∀ screen ∈ process.screens, Registered screen)
    (moved : step ops process event = some process') :
    ∀ screen ∈ process'.screens, Registered screen := by
  cases event with
  | signedIn session =>
      cases moved
      exact registered
  | signOut thrown =>
      cases moved
      exact registered
  | homeLoaded =>
      cases moved
      intro screen member
      rcases List.mem_append.1 member with old | new
      · exact registered screen old
      · rw [List.mem_singleton.1 new]
        exact registered_viewDidLoad _
  | home index event =>
      simp only [step] at moved
      split at moved
      · split at moved
        · rename_i screen at_
          obtain ⟨screen', screenMoved, rfl⟩ := Option.map_eq_some_iff.1 moved
          intro other member
          rcases List.mem_or_eq_of_mem_set member with old | rfl
          · exact registered other old
          · exact registered_step (registered screen (List.mem_of_getElem? at_)) screenMoved
        · cases moved
      · cases moved

/-- Whoever is signed in after an event. -/
def currentUserAfter (process : Process) : Event → Option User
  | .signedIn session => some session.user
  | .signOut none => none
  | _ => process.currentUser

theorem currentUser_of_step (moved : step ops process event = some process') :
    process'.currentUser = process.currentUserAfter event := by
  cases event with
  | signedIn session =>
      cases moved
      rfl
  | signOut thrown =>
      cases moved
      cases thrown <;> rfl
  | homeLoaded =>
      cases moved
      rfl
  | home index event =>
      simp only [step] at moved
      split at moved
      · split at moved
        · obtain ⟨screen', -, rfl⟩ := Option.map_eq_some_iff.1 moved
          rfl
        · cases moved
      · cases moved

/-- `Single`, said of a step that registers listeners. -/
theorem single_step_iff_of_perm
    (listeners : process'.liveListeners.Perm (process.liveListeners ++ process.registered event))
    (moved : step ops process event = some process') :
    Single process' ↔
      (process.liveListeners ++ process.registered event).length ≤ 1 ∧
        ∀ ownerId ∈ process.liveListeners ++ process.registered event,
          ∃ user, process.currentUserAfter event = some user ∧ ownerId = user.uid := by
  have user := currentUser_of_step moved
  constructor
  · rintro ⟨atMostOne, current⟩
    rw [listeners.length_eq] at atMostOne
    refine ⟨atMostOne, fun ownerId member => ?_⟩
    rw [← user]
    exact current ownerId (listeners.mem_iff.2 member)
  · rintro ⟨atMostOne, current⟩
    refine ⟨?_, fun ownerId member => ?_⟩
    · rw [listeners.length_eq]
      exact atMostOne
    · rw [user]
      exact current ownerId (listeners.mem_iff.1 member)

/-- Fewer listeners, for the same user. -/
theorem Single.fewer (single : Single process)
    (listeners : process'.liveListeners.Sublist process.liveListeners)
    (currentUser : process'.currentUser = process.currentUser) : Single process' where
  atMostOne := Nat.le_trans listeners.length_le single.atMostOne
  current ownerId member := by
    rw [currentUser]
    exact single.current ownerId (listeners.subset member)

/-- Registering the current user's listener keeps the list single exactly when there is
none yet. -/
theorem single_registered_iff (single : Single process) :
    ((process.liveListeners ++
          (FirebaseService.loadReminders process.currentUser).toList).length ≤ 1 ∧
        ∀ ownerId ∈ process.liveListeners ++
            (FirebaseService.loadReminders process.currentUser).toList,
          ∃ user, process.currentUser = some user ∧ ownerId = user.uid) ↔
      process.MayRegister := by
  unfold MayRegister
  cases signedIn : process.currentUser with
  | none =>
      have current := single.current
      rw [signedIn] at current
      simpa [FirebaseService.loadReminders, single.atMostOne] using current
  | some user =>
      simp only [FirebaseService.loadReminders, Option.map_some, Option.toList_some,
        List.length_append, List.length_singleton, reduceCtorEq, false_or]
      constructor
      · rintro ⟨few, -⟩
        exact List.eq_nil_of_length_eq_zero (by omega)
      · intro none_
        simp [none_]

/-- **One step.**  From a process with a single listener, an event leads to one exactly
when it meets its condition. -/
theorem single_step_iff (registered : ∀ screen ∈ process.screens, Registered screen)
    (single : Single process) (moved : step ops process event = some process') :
    Single process' ↔ Alone process event := by
  rcases listening_of_step registered moved with listeners | ⟨listeners, currentUser, free⟩
  case erased => exact iff_of_true (single.fewer listeners currentUser) free
  rw [single_step_iff_of_perm listeners moved]
  have unchanged : (process.liveListeners.length ≤ 1 ∧ ∀ ownerId ∈ process.liveListeners,
      ∃ user, process.currentUser = some user ∧ ownerId = user.uid) ↔ True :=
    iff_true_intro ⟨single.atMostOne, single.current⟩
  cases event with
  | signedIn session =>
      simp only [Process.registered, currentUserAfter, Alone, List.append_nil, single.atMostOne,
        true_and, Option.some.injEq, exists_eq_left']
  | signOut thrown =>
      cases thrown with
      | some error =>
          simpa only [Process.registered, currentUserAfter, Alone, List.append_nil] using unchanged
      | none =>
          simp only [Process.registered, currentUserAfter, Alone, List.append_nil, reduceCtorEq,
            false_and, exists_false, single.atMostOne, true_and]
          exact List.eq_nil_iff_forall_not_mem.symm
  | homeLoaded => exact single_registered_iff single
  | home index event =>
      cases event with
      | deletionAnswered call error currentUser =>
          cases error with
          | none => exact single_registered_iff single
          | some error =>
              simpa only [Process.registered, currentUserAfter, Alone, List.append_nil]
                using unchanged
      | snapshot | textDidChange | cancel | swipeDelete | viewWillAppear | layout | endDisplaying |
        longPress =>
          simpa only [Process.registered, currentUserAfter, Alone, List.append_nil] using unchanged

end Step

/-! ## Whole runs -/

/-- **When one listener is all there is.**  Along every run of a process, every state
has at most one listener, the current user's, if and only if every event of the run
meets its condition. -/
theorem throughout_single_iff (ops : TextOps) (session : Option Session) (es : List Event) :
    (machine ops).Throughout Single ⟨session, []⟩ es ↔ (machine ops).RunOk Alone ⟨session, []⟩ es :=
  Machine.throughout_iff_runOk (M := machine ops)
    (I := fun process => ∀ screen ∈ process.screens, Registered screen) (P := Single)
    (fun _ _ _ registered _ moved _ => registered_process registered moved)
    (fun _ _ _ registered single moved => single_step_iff registered single moved)
    (fun _ member => by cases member) ⟨Nat.zero_le _, fun _ member => by cases member⟩ es

def ann : User := ⟨"ann", none⟩

/-- Ann's screen is loaded and hears of one reminder; she swipes it away. -/
def swipedAway : List Event :=
  [.homeLoaded,
    .home 0 (.snapshot 0 none (some
      { documents := [⟨"d1", FirebaseService.reminderData "ann" { title := some "Call" }⟩]
        distinct := by decide })),
    .home 0 (.swipeDelete 0),
    .home 0 (.deletionAnswered 0 none (some ann))]

/-- The first listener would have heard of the deletion; there are two now. -/
theorem deletion_registers_again :
    ¬ ∀ (ops : TextOps) (process : Process), (machine ops).Reachable process → Single process := by
  intro always
  let ops : TextOps := ⟨id, fun title text => title == text⟩
  have start : (machine ops).init ⟨some ⟨ann, 0⟩, []⟩ := rfl
  have ran : (machine ops).run ⟨some ⟨ann, 0⟩, []⟩ swipedAway = some _ := rfl
  have single := always ops _ (Machine.reachable_of_run start ran)
  exact absurd single.atMostOne (by decide)

end Process

end Remindify.Home
