/-
# Password.Authorisation -- every password update is authorised by one tap

`Path` lists every trace the chain of one tap can leave.  The handlers keep every
chain on a path (`follows_step`), whatever the interleaving of taps, edits, answers,
sign-ins and sign-outs.  Read off the paths:

* `password_change_authorised`: an update follows a successful reauthentication of
  the account that was signed in at its tap, with the old password of that tap, and
  carries the new password confirmed there; no other tap leads to one; and this
  screen signs out only after an update that succeeded.
-/
import Remindify.Password.Screen
import Remindify.Theory.Chains

namespace Remindify.Password

open Remindify.Theory
open Remindify.Network

set_option autoImplicit false

/-- What the closures of a tap captured, against the session and the fields of the
tap. -/
structure Asked (session : Session) (fields : TextFields) (user : User)
    (credential : Credential) (newPassword : String) : Prop where
  account : session.user = user
  entered : fields.newPassword = some newPassword
  confirmed : fields.confirmPassword = some newPassword
  oldPassword : fields.oldPassword = some credential.password
  email : user.email = some credential.email

/-- The trace of a tap whose password update was issued. -/
def issued (tap : Nat) (session : Session) (fields : TextFields) (user : User)
    (credential : Credential) (newPassword : String) : List Entry :=
  [.updatePassword tap user newPassword, .reauthenticated tap user credential,
    .tapped tap (some session) fields]

/-- The traces of one tap, newest entry first, and the state its chain is in. -/
inductive Path (tap : Nat) : Chain → List Entry → Prop where
  | refused (session : Option Session) (fields : TextFields) :
      Path tap .ended [.tapped tap session fields]
  | waiting {session : Session} {fields : TextFields} {user : User} {credential : Credential}
      {newPassword : String} (asked : Asked session fields user credential newPassword) :
      Path tap (.reauthenticating user credential user newPassword)
        [.tapped tap (some session) fields]
  | failed (session : Option Session) (fields : TextFields) (error : NSError) :
      Path tap .ended [.reauthenticationFailed tap error, .tapped tap session fields]
  | abandoned (session : Option Session) (fields : TextFields) (account : User)
      (credential : Credential) :
      Path tap .ended [.reauthenticated tap account credential, .tapped tap session fields]
  | updating {session : Session} {fields : TextFields} {user : User} {credential : Credential}
      {newPassword : String} (asked : Asked session fields user credential newPassword) :
      Path tap (.updating user newPassword)
        (issued tap session fields user credential newPassword)
  | updateFailed {session : Session} {fields : TextFields} {user : User}
      {credential : Credential} {newPassword : String}
      (asked : Asked session fields user credential newPassword) (error : NSError) :
      Path tap .ended (.passwordUpdateFailed tap error ::
        issued tap session fields user credential newPassword)
  | updated {session : Session} {fields : TextFields} {user : User} {credential : Credential}
      {newPassword : String} (asked : Asked session fields user credential newPassword) :
      Path tap .ended (.passwordUpdated tap user ::
        issued tap session fields user credential newPassword)
  | expired {session : Session} {fields : TextFields} {user : User} {credential : Credential}
      {newPassword : String} (asked : Asked session fields user credential newPassword)
      (current : Option Session) (thrown : Option NSError) :
      Path tap .ended (.signOut tap current thrown :: .passwordUpdated tap user ::
        issued tap session fields user credential newPassword)

/-- Every chain of the screen is on a path. -/
abbrev OnPaths (state : State) : Prop :=
  Chains.Follows Entry.tap Path state.chains state.log

/-! ## Taps -/

/-- **What a tap starts**: nothing, or a chain that captured the session and the
fields of the tap. -/
theorem saveChanges_path (state : State) (tap : Nat) :
    Path tap (saveChanges state).2 [.tapped tap state.session state.fields] := by
  unfold saveChanges
  split
  · rename_i newPassword confirmPassword entered confirmed
    split
    · rename_i same
      subst same
      split
      · rename_i user current
        obtain ⟨session, signedIn, rfl⟩ := Option.map_eq_some_iff.1 current
        unfold reauthenticateUser
        split
        · rename_i email oldPassword mail old
          simp only [FirebaseService.reauthenticateUser, current]
          rw [signedIn]
          exact .waiting ⟨rfl, entered, confirmed, old, mail⟩
        · exact .refused _ _
      · exact .refused _ _
    · exact .refused _ _
  · exact .refused _ _

theorem follows_saveChangesButtonPressed {state : State} (onPaths : OnPaths state) :
    OnPaths (saveChangesButtonPressed state) :=
  onPaths.start (by simp [Entry.tap]) (saveChanges_path state state.chains.length)

/-! ## Answers -/

section Answers

variable {tap : Nat} {trace : List Entry}

/-- What was asked by a chain that waits for its reauthentication. -/
theorem Path.waiting_asked {account user : User} {credential : Credential} {newPassword : String}
    (path : Path tap (.reauthenticating account credential user newPassword) trace) :
    account = user ∧ ∃ session fields, trace = [.tapped tap (some session) fields] ∧
      Asked session fields user credential newPassword := by
  cases path with
  | waiting asked => exact ⟨rfl, _, _, rfl, asked⟩

/-- What was asked by a chain that waits for its password update. -/
theorem Path.updating_asked {user : User} {newPassword : String}
    (path : Path tap (.updating user newPassword) trace) :
    ∃ session fields credential,
      trace = issued tap session fields user credential newPassword ∧
        Asked session fields user credential newPassword := by
  cases path with
  | updating asked => exact ⟨_, _, _, rfl, asked⟩

end Answers

theorem follows_reauthenticationAnswered {state : State} (onPaths : OnPaths state) {tap : Nat}
    {account user : User} {credential : Credential} {newPassword : String}
    (waiting : state.chains[tap]? = some (.reauthenticating account credential user newPassword))
    (error : Option NSError) :
    OnPaths (reauthenticationAnswered state tap account credential user newPassword error) := by
  cases error with
  | some error =>
      refine onPaths.advance waiting (by simp [Entry.tap]) fun path => ?_
      obtain ⟨-, session, fields, trace, -⟩ := path.waiting_asked
      rw [trace]
      exact .failed _ _ error
  | none =>
      simp only [reauthenticationAnswered]
      split
      · refine onPaths.advance waiting (by simp [Entry.tap]) fun path => ?_
        obtain ⟨rfl, session, fields, trace, asked⟩ := path.waiting_asked
        rw [trace]
        exact .updating asked
      · refine onPaths.advance waiting (by simp [Entry.tap]) fun path => ?_
        obtain ⟨rfl, session, fields, trace, -⟩ := path.waiting_asked
        rw [trace]
        exact .abandoned _ _ _ _

theorem follows_passwordUpdateAnswered {state : State} (onPaths : OnPaths state) {tap : Nat}
    {user : User} {newPassword : String}
    (waiting : state.chains[tap]? = some (.updating user newPassword))
    (thrown error : Option NSError) :
    OnPaths (passwordUpdateAnswered state tap user thrown error) := by
  cases error with
  | some error =>
      refine onPaths.advance waiting (by simp [Entry.tap]) fun path => ?_
      obtain ⟨session, fields, credential, trace, asked⟩ := path.updating_asked
      rw [trace]
      exact .updateFailed asked error
  | none =>
      simp only [passwordUpdateAnswered]
      split
      · refine onPaths.advance waiting (by simp [Entry.tap]) fun path => ?_
        obtain ⟨session, fields, credential, trace, asked⟩ := path.updating_asked
        rw [trace]
        exact .expired asked state.session thrown
      · refine onPaths.advance waiting (by simp [Entry.tap]) fun path => ?_
        obtain ⟨session, fields, credential, trace, asked⟩ := path.updating_asked
        rw [trace]
        exact .updated asked

/-- **Every event keeps every chain on a path.** -/
theorem onPaths_step {state state' : State} {event : Event} (onPaths : OnPaths state)
    (moved : step state event = some state') : OnPaths state' := by
  cases event with
  | edit fields =>
      simp only [step] at moved
      split at moved
      · cases moved
        exact onPaths
      · cases moved
  | saveChangesButtonPressed =>
      simp only [step] at moved
      split at moved
      · cases moved
        exact follows_saveChangesButtonPressed onPaths
      · cases moved
  | reauthenticationAnswered tap error =>
      simp only [step] at moved
      split at moved
      · rename_i account credential user newPassword waiting
        cases moved
        exact follows_reauthenticationAnswered onPaths waiting error
      · cases moved
  | passwordUpdateAnswered tap error thrown =>
      simp only [step] at moved
      split at moved
      · rename_i user newPassword waiting
        cases moved
        exact follows_passwordUpdateAnswered onPaths waiting thrown error
      · cases moved
  | signIn user =>
      cases moved
      exact onPaths
  | signOut =>
      cases moved
      exact onPaths
  | leave =>
      cases moved
      exact onPaths

theorem onPaths_reachable {state : State} (reached : machine.Reachable state) : OnPaths state :=
  reached.invariant (I := OnPaths)
    (by
      rintro _ ⟨currentUser, fields, rfl⟩
      exact .nil)
    (fun _ _ _ _ onPaths _ moved => onPaths_step onPaths moved)

/-! ## Reading the paths -/

def Entry.isTapped (tap : Nat) : Entry → Bool
  | .tapped t _ _ => t == tap
  | _ => false

def Entry.isUpdatePassword (tap : Nat) : Entry → Bool
  | .updatePassword t _ _ => t == tap
  | _ => false

def Entry.isSignOut (tap : Nat) : Entry → Bool
  | .signOut t _ _ => t == tap
  | _ => false

/-- What can follow an update: its answer, and the sign-out. -/
def Entry.follows : Entry → Bool
  | .passwordUpdated .. | .passwordUpdateFailed .. | .signOut .. => true
  | _ => false

theorem Entry.tap_of_isTapped {tap : Nat} (e : Entry) (is : e.isTapped tap = true) :
    e.tap = tap := by
  cases e <;> simp_all [Entry.isTapped, Entry.tap]

theorem Entry.tap_of_isUpdatePassword {tap : Nat} (e : Entry)
    (is : e.isUpdatePassword tap = true) : e.tap = tap := by
  cases e <;> simp_all [Entry.isUpdatePassword, Entry.tap]

theorem Entry.tap_of_isSignOut {tap : Nat} (e : Entry) (is : e.isSignOut tap = true) :
    e.tap = tap := by
  cases e <;> simp_all [Entry.isSignOut, Entry.tap]

section Reading

variable {tap : Nat} {chain : Chain} {trace : List Entry}

/-- A chain starts with its tap, and nothing else in its trace is one. -/
theorem Path.one_tap (path : Path tap chain trace) : trace.countP (Entry.isTapped tap) = 1 := by
  cases path <;> simp [issued, Entry.isTapped]

/-- The only update of a trace, and what led to it. -/
structure Led (tap : Nat) (user : User) (newPassword : String) (trace : List Entry) : Prop where
  once : trace.countP (Entry.isUpdatePassword tap) = 1
  unfailed : ∀ error, .reauthenticationFailed tap error ∉ trace
  asked : ∃ session fields credential, Asked session fields user credential newPassword ∧
    (∀ session' fields', .tapped tap session' fields' ∈ trace →
      session' = some session ∧ fields' = fields) ∧
    (issued tap session fields user credential newPassword).Sublist trace

theorem led_of_issued {session : Session} {fields : TextFields} {user user' : User}
    {credential : Credential} {newPassword newPassword' : String}
    (asked : Asked session fields user credential newPassword) (later : List Entry)
    (follows : ∀ e ∈ later, e.follows = true)
    (called : .updatePassword tap user' newPassword' ∈
      later ++ issued tap session fields user credential newPassword) :
    Led tap user' newPassword'
      (later ++ issued tap session fields user credential newPassword) := by
  have fresh : later.countP (Entry.isUpdatePassword tap) = 0 := by
    refine List.countP_eq_zero.2 fun e member is => ?_
    have := follows e member
    cases e <;> simp_all [Entry.isUpdatePassword, Entry.follows]
  have absent : ∀ e : Entry, e.follows = false → e ∉ later := fun e other member => by
    simp [follows e member] at other
  rcases List.mem_append.1 called with early | own
  · exact absurd early (absent _ rfl)
  · have same : user' = user ∧ newPassword' = newPassword := by simpa [issued] using own
    obtain ⟨rfl, rfl⟩ := same
    refine ⟨?_, fun error failed => ?_, session, fields, credential, asked,
      fun session' fields' tapped => ?_, List.sublist_append_right _ _⟩
    · rw [List.countP_append, fresh]
      simp [issued, Entry.isUpdatePassword]
    · rcases List.mem_append.1 failed with early | own
      · exact absent _ rfl early
      · simp [issued] at own
    · rcases List.mem_append.1 tapped with early | own
      · exact absurd early (absent _ rfl)
      · simpa [issued] using own

theorem Path.of_updatePassword (path : Path tap chain trace) {user : User} {newPassword : String}
    (called : .updatePassword tap user newPassword ∈ trace) : Led tap user newPassword trace := by
  cases path with
  | refused session fields => simp at called
  | waiting asked => simp at called
  | failed session fields error => simp at called
  | abandoned session fields account credential => simp at called
  | updating asked => exact led_of_issued asked [] (by simp) called
  | updateFailed asked error =>
      exact led_of_issued asked [.passwordUpdateFailed tap error] (by simp [Entry.follows]) called
  | updated asked =>
      exact led_of_issued asked [.passwordUpdated tap _] (by simp [Entry.follows]) called
  | expired asked current thrown =>
      exact led_of_issued asked [.signOut tap current thrown, .passwordUpdated tap _]
        (by simp [Entry.follows]) called

/-- A trace that signs out does so once, right after its update succeeded. -/
theorem Path.of_signOut (path : Path tap chain trace) {current : Option Session}
    {thrown : Option NSError} (ended : .signOut tap current thrown ∈ trace) :
    trace.countP (Entry.isSignOut tap) = 1 ∧
      ∃ session fields user credential newPassword,
        Asked session fields user credential newPassword ∧
        trace = .signOut tap current thrown :: .passwordUpdated tap user ::
          issued tap session fields user credential newPassword := by
  cases path with
  | expired asked current' thrown' =>
      simp only [issued, List.mem_cons, Entry.signOut.injEq, true_and, reduceCtorEq,
        List.not_mem_nil, or_false] at ended
      obtain ⟨rfl, rfl⟩ := ended
      exact ⟨by simp [issued, Entry.isSignOut], _, _, _, _, _, asked, rfl⟩
  | _ => simp [issued] at ended

end Reading

/-- **Password changes are authorised, tap by tap.**  In every reachable state, for
every `updatePassword` that was called: its tap is one tap, it is the only update of
that tap, it acts on the account signed in at the tap and carries the text that stood
in both password fields there, and before it that account was reauthenticated with
the old password of that tap.  A tap with different texts, without a user, or whose
reauthentication failed has no update.  A sign-out by this screen follows an update
of the same tap that succeeded. -/
theorem password_change_authorised {state : State} (reached : machine.Reachable state) :
    (∀ tap user newPassword, .updatePassword tap user newPassword ∈ state.log →
      state.log.countP (Entry.isTapped tap) = 1 ∧
      state.log.countP (Entry.isUpdatePassword tap) = 1 ∧
      ∃ session fields credential, Asked session fields user credential newPassword ∧
        [.updatePassword tap user newPassword, .reauthenticated tap user credential,
          .tapped tap (some session) fields].Sublist state.log) ∧
    (∀ tap session fields, .tapped tap session fields ∈ state.log →
      (fields.newPassword ≠ fields.confirmPassword ∨ session = none ∨
        ∃ error, .reauthenticationFailed tap error ∈ state.log) →
      ∀ user newPassword, .updatePassword tap user newPassword ∉ state.log) ∧
    (∀ tap current thrown, .signOut tap current thrown ∈ state.log →
      state.log.countP (Entry.isSignOut tap) = 1 ∧
      ∃ user newPassword,
        [.signOut tap current thrown, .passwordUpdated tap user,
          .updatePassword tap user newPassword].Sublist state.log) := by
  have onPaths := onPaths_reachable reached
  refine ⟨fun tap user newPassword called => ?_, fun tap session fields tapped refused => ?_,
    fun tap current thrown ended => ?_⟩
  · obtain ⟨chain, path, traced⟩ := onPaths.of_mem (k := tap) called rfl
    obtain ⟨once, -, session, fields, credential, asked, -, order⟩ := path.of_updatePassword traced
    have oneTap := path.one_tap
    rw [Chains.countP_trace Entry.tap_of_isTapped] at oneTap
    rw [Chains.countP_trace Entry.tap_of_isUpdatePassword] at once
    exact ⟨oneTap, once, session, fields, credential, asked,
      order.trans (Chains.trace_sublist _ _ _)⟩
  · intro user newPassword called
    obtain ⟨chain, path, traced⟩ := onPaths.of_mem (k := tap) called rfl
    obtain ⟨-, unfailed, session', fields', credential, asked, only, -⟩ :=
      path.of_updatePassword traced
    obtain ⟨rfl, rfl⟩ := only session fields (Chains.mem_trace.2 ⟨tapped, rfl⟩)
    rcases refused with differ | nobody | ⟨error, failed⟩
    · exact differ (asked.entered.trans asked.confirmed.symm)
    · cases nobody
    · exact unfailed error (Chains.mem_trace.2 ⟨failed, rfl⟩)
  · obtain ⟨chain, path, traced⟩ := onPaths.of_mem (k := tap) ended rfl
    obtain ⟨once, session, fields, user, credential, newPassword, asked, trace⟩ :=
      path.of_signOut traced
    have order := Chains.trace_sublist Entry.tap tap state.log
    rw [Chains.countP_trace Entry.tap_of_isSignOut] at once
    rw [trace] at order
    exact ⟨once, user, newPassword, List.Sublist.trans (by simp [issued]) order⟩

/-- Ann changes her password, and edits the fields while the answer is out. -/
def annChangesPassword : List Event :=
  [.saveChangesButtonPressed, .edit ⟨some "old", some "later", some "other"⟩,
    .reauthenticationAnswered 0 none, .passwordUpdateAnswered 0 none none]

def annStart : State :=
  viewDidLoad (some ⟨"ann", some "ann@mail"⟩) ⟨some "old", some "new", some "new"⟩

def annChanged : State := (machine.run annStart annChangesPassword).getD annStart

theorem annChanged_authorised :
    (∀ tap user newPassword, .updatePassword tap user newPassword ∈ annChanged.log →
      annChanged.log.countP (Entry.isTapped tap) = 1 ∧
      annChanged.log.countP (Entry.isUpdatePassword tap) = 1 ∧
      ∃ session fields credential, Asked session fields user credential newPassword ∧
        [.updatePassword tap user newPassword, .reauthenticated tap user credential,
          .tapped tap (some session) fields].Sublist annChanged.log) ∧
    (∀ tap session fields, .tapped tap session fields ∈ annChanged.log →
      (fields.newPassword ≠ fields.confirmPassword ∨ session = none ∨
        ∃ error, .reauthenticationFailed tap error ∈ annChanged.log) →
      ∀ user newPassword, .updatePassword tap user newPassword ∉ annChanged.log) ∧
    (∀ tap current thrown, .signOut tap current thrown ∈ annChanged.log →
      annChanged.log.countP (Entry.isSignOut tap) = 1 ∧
      ∃ user newPassword,
        [.signOut tap current thrown, .passwordUpdated tap user,
          .updatePassword tap user newPassword].Sublist annChanged.log) :=
  password_change_authorised
    (Machine.reachable_of_run ⟨_, _, rfl⟩
      (show machine.run annStart annChangesPassword = some annChanged from rfl))

example : annChanged.log.length = 5 ∧ annChanged.session = none := by decide

end Remindify.Password
