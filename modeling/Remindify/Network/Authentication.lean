/-
# Network.Authentication -- the account operations of the service

`FirebaseService.swift`, over FirebaseAuth.  A `Session` is one stay of a user:
signing in again starts another one, which the user alone would not tell apart (a
sign-in makes a new `FIRUser`).  An operation here is the call the service makes, and an
answer arrives as an event of the screen that waits for it.

Of FirebaseAuth's own code (`Pods/FirebaseAuth`) two things are taken: `signOut:` throws
what saving to the keychain throws and then keeps the user, and a user whose token the
server refuses is signed out by force (`signOutIfTokenIsInvalidWithError:` in `FIRUser.m`,
`signOutByForceWithUserID:error:` in `FIRAuth.m`).  What the server answers is given.
-/
import Remindify.Network.FirebaseService

namespace Remindify.Network

set_option autoImplicit false

/-- A user, and which sign-in the session began with. -/
structure Session where
  user : User
  serial : Nat
  deriving DecidableEq, Repr

/-- `EmailAuthProvider.credential(withEmail:password:)`. -/
structure Credential where
  email : String
  password : String
  deriving DecidableEq, Repr

namespace FirebaseService

def currentUser (session : Option Session) : Option User := session.map (·.user)

def checkUserAuthentication (session : Option Session) : Bool := (currentUser session).isSome

def userNotFound : NSError :=
  { domain := "", code := 0, localizedDescription := "User not found" }

/-- The account `reauthenticateUser` asks about: whoever is current. -/
def reauthenticateUser (session : Option Session) (credential : Credential) :
    Except NSError (User × Credential) :=
  match currentUser session with
  | some user => .ok (user, credential)
  | none => .error userNotFound

/-- `signOut` ends the session of whoever is current, unless FirebaseAuth throws;
the second component is what it completes with. -/
def signOut (session : Option Session) (thrown : Option NSError) :
    Option Session × Bool × Option NSError :=
  match thrown with
  | some error => (session, false, some error)
  | none => (none, true, none)

end FirebaseService

namespace FIRUser

/-- `UserDisabled`, `UserNotFound`, `InvalidUserToken` and `UserTokenExpired`. -/
def invalidTokenCodes : List Nat := [17005, 17011, 17017, 17021]

/-- The session once a request of the user of `session` has failed: it ends by force, if
it is the current one. -/
def signOutIfTokenIsInvalidWithError (current session : Option Session) (error : NSError) :
    Option Session :=
  if error.code ∈ invalidTokenCodes ∧ current = session then none else current

end FIRUser

end Remindify.Network
