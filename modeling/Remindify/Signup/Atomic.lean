/-
# Signup.Atomic -- signing up is two remote steps

`createUserWithEmail` asks FirebaseAuth for the account and, once there is one, for the
profile with the name.  FirebaseAuth signs the new user in with the first step; when
the second fails the service completes with the error of the second, and leaves what
the first did.  The first step is itself two requests and a write to the keychain
(`createUserWithEmail:` in `Pods/FirebaseAuth`'s `FIRAuth.m`): the server has the account
once `signUpNewUser` is answered, and `getAccountInfo` or the keychain can fail after it.

* `atomic_iff`: which sign-ups change nothing when they fail and everything when they
  succeed, for every state of FirebaseAuth and every outcome of the two steps;
* `retry_refused`: after a half-done one, no retry can succeed;
* `commitFailure_leaves_account`: such a sign-up.

Of the server: accounts are found by their email, a second account for one email is
refused, and what it decides itself is given.
-/
import Remindify.Network.Authentication

namespace Remindify.Signup

open Remindify.Network

set_option autoImplicit false

structure Account where
  user : User
  password : String
  displayName : Option String := none
  photoURL : Option String := none
  deriving DecidableEq, Repr

/-- FirebaseAuth: the accounts by email, and who is signed in. -/
structure Auth where
  accounts : AList fun _ : String => Account
  currentUser : Option User

/-- What becomes of a request for an account. -/
inductive Creation where
  /-- the server makes none -/
  | refused (error : NSError)
  /-- the server makes one for a new email; `failed` is why its user was not signed in -/
  | created (uid : String) (failed : Option NSError)
  deriving DecidableEq, Repr

/-- What becomes of the commit of a profile. -/
inductive Commit where
  /-- the server does not save it -/
  | refused (error : NSError)
  /-- the server saves it; `failed` is why the user here was not saved -/
  | saved (failed : Option NSError)
  deriving DecidableEq, Repr

/-- What `commitChanges` completes with. -/
def Commit.answer : Commit → Option NSError
  | .refused error => some error
  | .saved failed => failed

/-- What `createProfileChangeRequest` collects. -/
structure ProfileChangeRequest where
  displayName : Option String
  photoURL : Option String
  deriving DecidableEq, Repr

namespace Auth

def emailAlreadyInUse : NSError :=
  { domain := "FIRAuthErrorDomain", code := 17007
    localizedDescription := "The email address is already in use by another account." }

/-- `createUser(withEmail:password:)`: the answer is a user or an error. -/
def createUser (auth : Auth) (email password : String) (creation : Creation) :
    Auth × Option User × Option NSError :=
  match creation with
  | .refused error => (auth, none, some error)
  | .created uid failed =>
      if email ∈ auth.accounts then (auth, none, some emailAlreadyInUse)
      else
        let user : User := { uid, email := some email }
        let accounts := auth.accounts.insert email { user, password }
        match failed with
        | none => ({ accounts, currentUser := some user }, some user, none)
        | some error => ({ auth with accounts }, none, some error)

/-- `signOutIfTokenIsInvalidWithError:`, of a user just signed in. -/
def signOutIfTokenIsInvalid (auth : Auth) (error : NSError) : Auth :=
  if error.code ∈ FIRUser.invalidTokenCodes then { auth with currentUser := none } else auth

/-- `commitChanges`: the answer is what failed, if anything did. -/
def commitChanges (auth : Auth) (user : User) (request : ProfileChangeRequest)
    (commit : Commit) : Auth × Option NSError :=
  match commit with
  | .refused error => (auth.signOutIfTokenIsInvalid error, some error)
  | .saved failed =>
      match user.email with
      | some email =>
          match auth.accounts.lookup email with
          | some account =>
              let account :=
                { account with displayName := request.displayName, photoURL := request.photoURL }
              ({ auth with accounts := auth.accounts.insert email account }, failed)
          | none => (auth, failed)
      | none => (auth, failed)

end Auth

namespace FirebaseService

/-- `createUserWithEmail`: what it completes with, if it completes. -/
def createUserWithEmail (auth : Auth) (name email password : String) (creation : Creation)
    (commit : Commit) : Auth × Option (Except NSError User) :=
  match auth.createUser email password creation with
  | (auth, some user, _) =>
      let changeRequest : ProfileChangeRequest := { displayName := some name, photoURL := none }
      match auth.commitChanges user changeRequest commit with
      | (auth, some error) => (auth, some (.error error))
      | (auth, none) => (auth, some (.ok user))
  | (auth, none, some error) => (auth, some (.error error))
  | (auth, none, none) => (auth, none)

end FirebaseService

/-- **All or nothing**: a failure leaves the accounts and the signed-in user as they
were; a success adds exactly the new account, with its name, and signs it in. -/
def Atomic (auth : Auth) (name email password : String) :
    Auth × Option (Except NSError User) → Prop
  | (after, some (.error _)) => after = auth
  | (after, some (.ok user)) =>
      email ∉ auth.accounts ∧ user.email = some email ∧ after.currentUser = some user ∧
        after.accounts = auth.accounts.insert email { user, password, displayName := some name }
  | (_, none) => True

/-! ## The two steps -/

section Steps

variable {auth : Auth} {name email password uid : String}

open FirebaseService

theorem createUserWithEmail_of_refused (error : NSError) (commit : Commit) :
    createUserWithEmail auth name email password (.refused error) commit =
      (auth, some (.error error)) :=
  rfl

theorem createUserWithEmail_of_inUse (inUse : email ∈ auth.accounts) (signIn : Option NSError)
    (commit : Commit) :
    createUserWithEmail auth name email password (.created uid signIn) commit =
      (auth, some (.error Auth.emailAlreadyInUse)) := by
  simp only [createUserWithEmail, Auth.createUser, inUse, if_true]

theorem createUserWithEmail_of_committed (fresh : email ∉ auth.accounts) :
    createUserWithEmail auth name email password (.created uid none) (.saved none) =
      ({ accounts := auth.accounts.insert email
          { user := ⟨uid, some email⟩, password, displayName := some name }
         currentUser := some ⟨uid, some email⟩ }, some (.ok ⟨uid, some email⟩)) := by
  simp only [createUserWithEmail, Auth.createUser, Auth.commitChanges, fresh, if_false,
    AList.lookup_insert, AList.insert_insert]

theorem commitChanges_snd (auth : Auth) (user : User) (request : ProfileChangeRequest)
    (commit : Commit) : (auth.commitChanges user request commit).2 = commit.answer := by
  unfold Auth.commitChanges
  cases commit with
  | refused error => rfl
  | saved failed =>
      dsimp only
      split
      · split <;> rfl
      · rfl

@[simp] theorem signOutIfTokenIsInvalid_accounts (auth : Auth) (error : NSError) :
    (auth.signOutIfTokenIsInvalid error).accounts = auth.accounts := by
  unfold Auth.signOutIfTokenIsInvalid
  split <;> rfl

/-- Something failed after the server had made the account. -/
def Half (signIn : Option NSError) (commit : Commit) : Prop :=
  ¬ (signIn = none ∧ commit = .saved none)

/-- **A sign-up that fails after the account was made** leaves an account, whichever of its
steps failed. -/
theorem account_of_half (name password uid : String) (fresh : email ∉ auth.accounts)
    {signIn : Option NSError} {commit : Commit} (half : Half signIn commit) :
    ∃ after error account,
      createUserWithEmail auth name email password (.created uid signIn) commit =
          (after, some (.error error)) ∧
        after.accounts = auth.accounts.insert email account := by
  simp only [createUserWithEmail, Auth.createUser, fresh, if_false]
  cases signIn with
  | some error => exact ⟨_, error, _, rfl, rfl⟩
  | none =>
      cases commit with
      | refused error => exact ⟨_, error, _, rfl, signOutIfTokenIsInvalid_accounts _ _⟩
      | saved failed =>
          cases failed with
          | some error =>
              simp only [Auth.commitChanges, AList.lookup_insert]
              exact ⟨_, error, _, rfl, AList.insert_insert _⟩
          | none => exact absurd ⟨rfl, rfl⟩ half

/-- Adding an account is a change. -/
theorem insert_ne (fresh : email ∉ auth.accounts) (account : Account) :
    auth.accounts.insert email account ≠ auth.accounts := by
  intro same
  apply fresh
  rw [← same]
  exact (AList.mem_insert _).2 (Or.inl rfl)

end Steps

/-- **When signing up is atomic**: exactly when no account was made, or its user was signed
in and the profile committed. -/
theorem atomic_iff (auth : Auth) (name email password : String) (creation : Creation)
    (commit : Commit) :
    Atomic auth name email password
        (FirebaseService.createUserWithEmail auth name email password creation commit) ↔
      email ∈ auth.accounts ∨ (∃ error, creation = .refused error) ∨
        (∃ uid, creation = .created uid none) ∧ commit = .saved none := by
  cases creation with
  | refused error =>
      rw [createUserWithEmail_of_refused]
      exact ⟨fun _ => Or.inr (Or.inl ⟨error, rfl⟩), fun _ => rfl⟩
  | created uid signIn =>
      by_cases inUse : email ∈ auth.accounts
      · rw [createUserWithEmail_of_inUse inUse]
        exact ⟨fun _ => Or.inl inUse, fun _ => rfl⟩
      · by_cases whole : signIn = none ∧ commit = .saved none
        · obtain ⟨rfl, rfl⟩ := whole
          rw [createUserWithEmail_of_committed inUse]
          exact ⟨fun _ => Or.inr (Or.inr ⟨⟨uid, rfl⟩, rfl⟩), fun _ => ⟨inUse, rfl, rfl, rfl⟩⟩
        · -- the account is there, and the sign-up has failed
          obtain ⟨after, error, account, answered, accounts⟩ :=
            account_of_half name password uid inUse whole
          rw [answered]
          constructor
          · intro unchanged
            have same := accounts.symm.trans (congrArg Auth.accounts unchanged)
            exact absurd same (insert_ne inUse _)
          · rintro (member | ⟨error, refused⟩ | ⟨⟨uid', created⟩, saved⟩)
            · exact absurd member inUse
            · cases refused
            · cases created
              exact absurd ⟨rfl, saved⟩ whole

/-- **After half a sign-up, every retry is refused**, whatever the server would decide: for
the email, if for nothing else. -/
theorem retry_refused {auth : Auth} {email : String} (fresh : email ∉ auth.accounts)
    (name password uid : String) {signIn : Option NSError} {commit : Commit}
    (half : Half signIn commit) (name' password' : String) (creation : Creation)
    (commit' : Commit) :
    let after := (FirebaseService.createUserWithEmail auth name email password
      (.created uid signIn) commit).1
    ∃ error, (FirebaseService.createUserWithEmail after name' email password' creation commit').2 =
        some (.error error) ∧
      ((∃ uid signIn, creation = .created uid signIn) → error = Auth.emailAlreadyInUse) := by
  intro after
  obtain ⟨after', error, account, answered, accounts⟩ :=
    account_of_half name password uid fresh half
  have inUse : email ∈ after.accounts := by
    simp only [after, answered, accounts]
    exact (AList.mem_insert _).2 (Or.inl rfl)
  cases creation with
  | refused error => exact ⟨error, rfl, by simp⟩
  | created uid' signIn' =>
      rw [createUserWithEmail_of_inUse inUse]
      exact ⟨_, rfl, fun _ => rfl⟩

def networkError : NSError :=
  { domain := "FIRAuthErrorDomain", code := 17020, localizedDescription := "Network error" }

/-- Nobody has an account; ann's is created, and the connection breaks before her name
is saved. -/
theorem commitFailure_leaves_account :
    ¬ ∀ (auth : Auth) (name email password : String) (creation : Creation) (commit : Commit),
      Atomic auth name email password
        (FirebaseService.createUserWithEmail auth name email password creation commit) := by
  intro always
  have unchanged := always ⟨∅, none⟩ "Ann" "ann@example.com" "secret" (.created "ann" none)
    (.refused networkError)
  exact absurd (congrArg Auth.currentUser unchanged) (by decide)

end Remindify.Signup
