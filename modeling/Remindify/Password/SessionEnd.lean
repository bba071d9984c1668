/-
# Password.SessionEnd -- whose session a password change ends

`expireSessionAndNavigateToLogin` signs out whoever is current when the answer
arrives.  With one chain under way that is the user of the tap.  After a first
success has signed that user out, the screen lives on under Login, and the answer
to another tap may find somebody else signed in.

* `throughout_endsOwnSession_iff`: no sign-out of this screen ends a session other
  than its tap's, in every state of a run, exactly when every successful update
  answered on a live screen finds nobody signed in, or the session of its tap, or a
  FirebaseAuth that refuses to sign out;
* `second_answer_ends_other_session`: two taps and a sign-in in between.
-/
import Remindify.Password.Authorisation

namespace Remindify.Password

open Remindify.Theory
open Remindify.Network

set_option autoImplicit false

/-- Every session this screen ended is the session of the tap it ended it for, whose
account had its password changed by that tap. -/
def EndsOwnSession (state : State) : Prop :=
  ∀ tap session, .signOut tap (some session) none ∈ state.log →
    .passwordUpdated tap session.user ∈ state.log ∧
      ∃ fields, .tapped tap (some session) fields ∈ state.log

/-- The condition on an event: a successful update is answered while nobody is signed
in or while the session of its tap lasts. -/
def InTime (state : State) : Event → Prop
  | .passwordUpdateAnswered tap none none =>
      state.alive = true → ∀ session, state.session = some session →
        ∃ fields, .tapped tap (some session) fields ∈ state.log
  | _ => True

section Step

variable {state state' : State} {event : Event}

/-- Entries that end no session change nothing. -/
theorem endsOwnSession_append (own : EndsOwnSession state) {entries : List Entry}
    (quiet : ∀ e ∈ entries, ∀ tap session, e ≠ .signOut tap (some session) none)
    (log : state'.log = entries ++ state.log) : EndsOwnSession state' := by
  intro tap session ended
  rw [log] at ended ⊢
  rcases List.mem_append.1 ended with new | old
  · exact absurd rfl (quiet _ new tap session)
  · obtain ⟨updated, fields, tapped⟩ := own tap session old
    exact ⟨List.mem_append_right _ updated, fields, List.mem_append_right _ tapped⟩

/-- A sign-out that ends the current session is right when that is the session of
its tap. -/
theorem endsOwnSession_expire_iff (onPaths : OnPaths state) (own : EndsOwnSession state)
    {tap : Nat} {user : User} {newPassword : String}
    (waiting : state.chains[tap]? = some (.updating user newPassword))
    (log : state'.log = .signOut tap state.session none :: .passwordUpdated tap user ::
      state.log) :
    EndsOwnSession state' ↔ ∀ session, state.session = some session →
      ∃ fields, .tapped tap (some session) fields ∈ state.log := by
  obtain ⟨asker, fields, credential, trace, asked⟩ := (onPaths.path tap _ waiting).updating_asked
  have tapped : ∀ session fields', .tapped tap (some session) fields' ∈ state.log ↔
      session = asker ∧ fields' = fields := by
    intro session fields'
    have in_ : .tapped tap (some session) fields' ∈ Chains.trace Entry.tap tap state.log ↔
        .tapped tap (some session) fields' ∈ state.log :=
      Chains.mem_trace.trans (and_iff_left rfl)
    rw [← in_, trace]
    simp [issued]
  constructor
  · intro own' session current
    have signedOut : Entry.signOut tap (some session) none ∈ state'.log := by
      rw [log, current]
      exact List.mem_cons_self ..
    obtain ⟨-, fields', member⟩ := own' tap session signedOut
    rw [log] at member
    exact ⟨fields', by simpa using member⟩
  · intro inTime t session ended
    rw [log] at ended ⊢
    rcases List.mem_cons.1 ended with new | old
    · obtain ⟨rfl, current, -⟩ := Entry.signOut.inj new
      obtain ⟨fields', member⟩ := inTime session current.symm
      obtain ⟨rfl, rfl⟩ := (tapped session fields').1 member
      exact ⟨by simp [asked.account], fields', by simp [member]⟩
    · obtain ⟨updated, fields', member⟩ := own t session (by simpa using old)
      exact ⟨by simp [updated], fields', by simp [member]⟩

/-- **One step.**  An event keeps the property exactly when it is in time. -/
theorem endsOwnSession_step_iff (onPaths : OnPaths state) (own : EndsOwnSession state)
    (moved : step state event = some state') : EndsOwnSession state' ↔ InTime state event := by
  cases event with
  | edit fields =>
      simp only [step] at moved
      split at moved
      · cases moved
        exact ⟨fun _ => trivial, fun _ => own⟩
      · cases moved
  | saveChangesButtonPressed =>
      simp only [step] at moved
      split at moved
      · cases moved
        refine ⟨fun _ => trivial, fun _ => endsOwnSession_append own ?_ rfl⟩
        simp
      · cases moved
  | reauthenticationAnswered tap error =>
      simp only [step] at moved
      split at moved
      · cases moved
        refine ⟨fun _ => trivial, fun _ => ?_⟩
        cases error with
        | some error => exact endsOwnSession_append own (by simp) rfl
        | none =>
            simp only [reauthenticationAnswered]
            split
            · exact endsOwnSession_append own (by simp) rfl
            · exact endsOwnSession_append own (by simp) rfl
      · cases moved
  | passwordUpdateAnswered tap error thrown =>
      simp only [step] at moved
      split at moved
      · rename_i user newPassword waiting
        cases moved
        cases error with
        | some error =>
            exact ⟨fun _ => trivial, fun _ => endsOwnSession_append own (by simp) rfl⟩
        | none =>
            simp only [passwordUpdateAnswered]
            split
            · rename_i alive
              cases thrown with
              | some thrown =>
                  refine ⟨fun _ => trivial, fun _ => endsOwnSession_append own ?_ rfl⟩
                  simp
              | none =>
                  rw [endsOwnSession_expire_iff onPaths own waiting rfl]
                  exact ⟨fun inTime _ => inTime, fun inTime => inTime alive⟩
            · rename_i dead
              refine ⟨fun _ => ?_, fun _ => endsOwnSession_append own (by simp) rfl⟩
              cases thrown with
              | some thrown => trivial
              | none => exact fun alive => absurd alive dead
      · cases moved
  | signIn user =>
      cases moved
      exact ⟨fun _ => trivial, fun _ => own⟩
  | signOut =>
      cases moved
      exact ⟨fun _ => trivial, fun _ => own⟩
  | leave =>
      cases moved
      exact ⟨fun _ => trivial, fun _ => own⟩

end Step

/-- **Whose session ends.**  Along every run of the screen, every state has ended
only sessions of its own taps if and only if every successful update is answered in
time. -/
theorem throughout_endsOwnSession_iff (currentUser : Option User) (fields : TextFields)
    (es : List Event) :
    machine.Throughout EndsOwnSession (viewDidLoad currentUser fields) es ↔
      machine.RunOk InTime (viewDidLoad currentUser fields) es :=
  Machine.throughout_iff_runOk (M := machine) (I := OnPaths) (P := EndsOwnSession)
    (fun _ _ _ onPaths _ moved _ => onPaths_step onPaths moved)
    (fun _ _ _ onPaths own moved => endsOwnSession_step_iff onPaths own moved)
    .nil (by simp [EndsOwnSession, viewDidLoad]) es

/-- Ann taps twice; the first success signs her out, bob signs in, and the second
success signs bob out. -/
theorem second_answer_ends_other_session :
    ¬ ∀ state, machine.Reachable state → EndsOwnSession state := by
  intro always
  have ran : machine.run
      (viewDidLoad (some ⟨"ann", some "ann@mail"⟩) ⟨some "old", some "new", some "new"⟩)
      [.saveChangesButtonPressed, .saveChangesButtonPressed,
        .reauthenticationAnswered 0 none, .reauthenticationAnswered 1 none,
        .passwordUpdateAnswered 0 none none, .signIn ⟨"bob", some "bob@mail"⟩,
        .passwordUpdateAnswered 1 none none] = some _ := rfl
  have own := always _ (Machine.reachable_of_run ⟨_, _, rfl⟩ ran)
  exact absurd (own 1 ⟨⟨"bob", some "bob@mail"⟩, 1⟩ (by decide)).1 (by decide)

end Remindify.Password
