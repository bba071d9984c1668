/-
# Navigation.Covering -- what keeps an old Home screen from being seen

Home screens of earlier sessions stay on the stack with their listeners.  A Login or
Signup screen over them has no back button, and so covers them.

* `Guarded` is the invariant: the Home screen that nothing covers has listeners of the
  current user only, or a delayed block is about to cover it with a Login screen;
* one lemma for each thing that happens to the stack, the session and the timers says
  when it keeps the invariant.
-/
import Remindify.Home.Owners
import Remindify.Navigation.App
import Remindify.Theory.Pointwise

namespace Remindify.Navigation

open Remindify.Theory
open Remindify.Network

set_option autoImplicit false

/-- Somebody is signed in, and the listeners of the screen are all of that user. -/
def Belongs (session : Option Session) (screen : Home.Screen) : Prop :=
  ∃ user, FirebaseService.currentUser session = some user ∧
    ∀ ownerId ∈ screen.listeners, ownerId = user.uid

/-! ## What covers a Home screen -/

/-- The Home screen that shows, or that the back button leads to. -/
def uncovered : List ViewController → Option Home.Screen
  | [] => none
  | controller :: below =>
      match controller.screen with
      | .home screen => some screen
      | screen => if screen.hidesBackButton then none else uncovered below

/-- A screen other than Home covers what is below it, or lets the back button there. -/
theorem uncovered_cons_of_other {controller : ViewController} {below : List ViewController}
    (other : ∀ screen, controller.screen ≠ .home screen) :
    uncovered (controller :: below) =
      if controller.screen.hidesBackButton then none else uncovered below := by
  rw [uncovered]
  split
  · rename_i home
    exact absurd home (other _)
  · rfl

/-- While the controller is on the stack, the timer will push a Login screen. -/
def Carries (controller : ViewController) (timer : Timer) : Prop :=
  controller.id = timer.owner ∧
    match timer.block with
    | .dismissAlert => False
    | .navigateToLogin => ∃ screen, controller.screen = .home screen
    | .dismissThenNavigate => timer.presented = true ∧ controller.screen = .password

namespace App

/-- A Login screen will be pushed. -/
def LoginDue (app : App) : Prop :=
  ∃ timer ∈ app.timers, ∃ controller ∈ app.viewControllers, Carries controller timer

/-- The uncovered Home screen is the current user's, or will be covered. -/
def Covered (app : App) : Prop :=
  ∀ screen, uncovered app.viewControllers = some screen →
    Belongs app.session screen ∨ app.LoginDue

/-- No Home screen is uncovered, or a Login screen will cover it. -/
def Away (app : App) : Prop :=
  uncovered app.viewControllers = none ∨ app.LoginDue

/-- The uncovered Home screen, if there is one, may stay when this user signs in. -/
def ReadyFor (app : App) (user : User) : Prop :=
  ∀ screen, uncovered app.viewControllers = some screen →
    (∀ ownerId ∈ screen.listeners, ownerId = user.uid) ∨ app.LoginDue

end App

/-! ## Controllers that change what they show -/

/-- A controller that stays where it is and keeps its kind; a Home screen also keeps
what is asked of it. -/
structure Evolves (ops : Home.TextOps) (session : Option Session)
    (before after : ViewController) : Prop where
  id : after.id = before.id
  hides : after.screen.hidesBackButton = before.screen.hidesBackButton
  password : before.screen = .password → after.screen = .password
  stays : ∀ screen, before.screen = .home screen → ∃ screen', after.screen = .home screen'
  home : ∀ screen', after.screen = .home screen' → ∃ screen, before.screen = .home screen ∧
    ((Home.machine ops).Reachable screen → (Home.machine ops).Reachable screen') ∧
    ((Home.machine ops).Reachable screen → Belongs session screen → Belongs session screen')

section Evolves

variable {ops : Home.TextOps} {session : Option Session}

theorem Evolves.refl (controller : ViewController) :
    Evolves ops session controller controller where
  id := rfl
  hides := rfl
  password same := same
  stays screen same := ⟨screen, same⟩
  home screen same := ⟨screen, same, fun reachable => reachable, fun _ belongs => belongs⟩

/-- Two screens of one kind, neither a Home nor a Password screen. -/
theorem Evolves.relabel (id : ControllerID) {before after : Screen}
    (hides : after.hidesBackButton = before.hidesBackButton) (password : before ≠ .password)
    (home : ∀ screen, before ≠ .home screen) (home' : ∀ screen, after ≠ .home screen) :
    Evolves ops session ⟨id, before⟩ ⟨id, after⟩ where
  id := rfl
  hides := hides
  password same := absurd same password
  stays screen same := absurd same (home screen)
  home screen same := absurd same (home' screen)

theorem Evolves.carries {before after : ViewController} (evolves : Evolves ops session before after)
    {timer : Timer} (carries : Carries before timer) :
    Carries after timer := by
  obtain ⟨owner, due⟩ := carries
  refine ⟨evolves.id.trans owner, ?_⟩
  cases block : timer.block with
  | dismissAlert =>
      rw [block] at due
      exact due
  | navigateToLogin =>
      rw [block] at due
      obtain ⟨screen, home⟩ := due
      exact evolves.stays screen home
  | dismissThenNavigate =>
      rw [block] at due
      exact ⟨due.1, evolves.password due.2⟩

/-- What is uncovered was uncovered before. -/
theorem uncovered_evolves {before after : List ViewController}
    (evolves : List.Forall₂ (Evolves ops session) before after) {screen' : Home.Screen}
    (found : uncovered after = some screen') :
    ∃ screen, uncovered before = some screen ∧
      ∃ controller ∈ before, controller.screen = .home screen ∧
        ((Home.machine ops).Reachable screen → Belongs session screen →
          Belongs session screen') := by
  induction evolves with
  | nil => cases found
  | @cons c c' below below' here rest ih =>
      by_cases home : ∃ screen, c.screen = .home screen
      · obtain ⟨screen, home⟩ := home
        obtain ⟨shown, home'⟩ := here.stays screen home
        simp only [uncovered, home', Option.some.injEq] at found
        subst found
        obtain ⟨screen₁, home₁, -, keeps⟩ := here.home _ home'
        rw [home] at home₁
        cases home₁
        exact ⟨screen, by simp only [uncovered, home], c, List.mem_cons_self .., home, keeps⟩
      · have other : ∀ screen, c.screen ≠ .home screen := fun screen same => home ⟨screen, same⟩
        have other' : ∀ screen, c'.screen ≠ .home screen := fun screen same =>
          home ((here.home screen same).imp fun _ kept => kept.1)
        rw [uncovered_cons_of_other other', here.hides] at found
        rw [uncovered_cons_of_other other]
        split at found
        · cases found
        · rename_i shows_
          obtain ⟨screen, found', controller, member, rest⟩ := ih found
          exact ⟨screen, by rw [if_neg shows_]; exact found', controller,
            List.mem_cons_of_mem _ member, rest⟩

end Evolves

/-! ## The invariant -/

/-- The Home screens on the stack are in states a Home screen by itself can reach. -/
def HomesReachable (ops : Home.TextOps) (controllers : List ViewController) : Prop :=
  ∀ controller ∈ controllers, ∀ screen, controller.screen = .home screen →
    (Home.machine ops).Reachable screen

theorem HomesReachable.push {ops : Home.TextOps} {controllers : List ViewController}
    (reachable : HomesReachable ops controllers) (controller : ViewController)
    (loaded : ∀ screen, controller.screen = .home screen → (Home.machine ops).Reachable screen) :
    HomesReachable ops (controller :: controllers) := by
  intro other onStack
  rcases List.mem_cons.1 onStack with rfl | below
  · exact loaded
  · exact reachable other below

structure Guarded (ops : Home.TextOps) (app : App) : Prop where
  reachable : HomesReachable ops app.viewControllers
  covered : app.Covered

section Stack

variable {ops : Home.TextOps} {app app' : App}

theorem belongs_viewDidLoad {session : Option Session} {user : User}
    (signedIn : FirebaseService.currentUser session = some user) :
    Belongs session (Home.viewDidLoad (FirebaseService.currentUser session)) := by
  refine ⟨user, signedIn, ?_⟩
  rw [signedIn]
  intro ownerId registered
  exact List.mem_singleton.1 registered

/-- More timers and as many carriers: a Login screen stays due. -/
theorem App.LoginDue.mono (due : app.LoginDue) (timers : ∀ timer ∈ app.timers, timer ∈ app'.timers)
    (carriers : ∀ controller ∈ app.viewControllers, ∀ timer, Carries controller timer →
      ∃ controller' ∈ app'.viewControllers, Carries controller' timer) : app'.LoginDue := by
  obtain ⟨timer, waiting, controller, onStack, carries⟩ := due
  exact ⟨timer, timers timer waiting, carriers controller onStack timer carries⟩

/-- Nothing the invariant speaks of has changed. -/
theorem Guarded.congr (guarded : Guarded ops app)
    (stack : app'.viewControllers = app.viewControllers) (session : app'.session = app.session)
    (timers : app'.timers = app.timers) : Guarded ops app' := by
  constructor
  · rw [stack]
    exact guarded.reachable
  · intro screen found
    rw [stack] at found
    rw [session]
    apply (guarded.covered screen found).imp_right
    intro due
    exact due.mono (by simp [timers]) fun c onStack _ carries => ⟨c, stack ▸ onStack, carries⟩

/-- The controllers change what they show. -/
theorem Guarded.evolve (guarded : Guarded ops app)
    (evolves : List.Forall₂ (Evolves ops app.session) app.viewControllers app'.viewControllers)
    (session : app'.session = app.session) (timers : app'.timers = app.timers) :
    Guarded ops app' := by
  constructor
  · intro controller' onStack screen' home'
    obtain ⟨controller, below, here⟩ := Pointwise.mem_right evolves onStack
    obtain ⟨screen, home, keeps, -⟩ := here.home screen' home'
    exact keeps (guarded.reachable controller below screen home)
  · intro screen' found
    obtain ⟨screen, found', controller, onStack, home, keeps⟩ := uncovered_evolves evolves found
    rw [session]
    apply (guarded.covered screen found').imp
    · exact keeps (guarded.reachable controller onStack screen home)
    · intro due
      refine due.mono (by simp [timers]) fun c onStack timer carries => ?_
      obtain ⟨c', onStack', here⟩ := Pointwise.mem_left evolves onStack
      exact ⟨c', onStack', here.carries carries⟩

/-- A screen other than Home is pushed. -/
theorem Guarded.push (guarded : Guarded ops app) {screen : Screen}
    (other : ∀ home, screen ≠ .home home) : Guarded ops (app.pushViewController screen) := by
  constructor
  · apply guarded.reachable.push ⟨app.nextID, screen⟩
    intro home same
    exact absurd same (other home)
  · intro home found
    have below : uncovered app.viewControllers = some home := by
      change uncovered (⟨app.nextID, screen⟩ :: app.viewControllers) = some home at found
      rw [uncovered_cons_of_other other] at found
      split at found
      · cases found
      · exact found
    apply (guarded.covered home below).imp_right
    intro due
    exact due.mono (fun _ waiting => waiting) fun c onStack _ carries =>
      ⟨c, List.mem_cons_of_mem _ onStack, carries⟩

/-- A delayed block is added. -/
theorem Guarded.after (guarded : Guarded ops app) (timer : Timer) :
    Guarded ops { app with timers := app.timers ++ [timer] } := by
  refine ⟨guarded.reachable, fun home found => ?_⟩
  apply (guarded.covered home found).imp_right
  intro due
  exact due.mono (fun _ waiting => List.mem_append_left _ waiting) fun c onStack _ carries =>
    ⟨c, onStack, carries⟩

/-- **A new Home screen is the current user's**, or is about to be covered. -/
theorem Guarded.pushHome (reachable : HomesReachable ops app.viewControllers) :
    Guarded ops app.pushHome := by
  have reachable : HomesReachable ops
      (⟨app.nextID, .home (Home.viewDidLoad app.currentUser)⟩ :: app.viewControllers) := by
    apply reachable.push
    intro screen same
    cases same
    exact .init ⟨_, rfl⟩
  unfold App.pushHome
  simp only
  split
  · rename_i signedIn
    refine ⟨reachable, fun screen found => Or.inl ?_⟩
    cases found
    obtain ⟨user, current⟩ := Option.isSome_iff_exists.1 signedIn
    exact belongs_viewDidLoad current
  · refine ⟨reachable, fun screen found => Or.inr ?_⟩
    exact ⟨_, List.mem_append_right _ (List.mem_singleton_self _), _, List.mem_cons_self .., rfl,
      _, rfl⟩

/-- The top screen has a back button, and no timer needs it on the stack. -/
theorem Guarded.pop (guarded : Guarded ops app)
    (backs : app.topViewController.screen.hidesBackButton = false)
    (spares : ∀ timer ∈ app.timers, ¬ Carries app.topViewController timer) :
    Guarded ops app.popViewController := by
  obtain ⟨session, signIns, root, pushed, nextID, calls, timers⟩ := app
  cases pushed with
  | nil => exact guarded
  | cons top below =>
      change top.screen.hidesBackButton = false at backs
      constructor
      · intro controller onStack
        exact guarded.reachable controller (List.mem_cons_of_mem _ onStack)
      · intro screen found
        have other : ∀ home, top.screen ≠ .home home := by
          intro home same
          simp [same, Screen.hidesBackButton] at backs
        apply (guarded.covered screen ?_).imp_right
        · rintro ⟨timer, waiting, controller, onStack, carries⟩
          refine ⟨timer, waiting, controller, ?_, carries⟩
          rcases List.mem_cons.1 onStack with rfl | rest
          · exact absurd carries (spares timer waiting)
          · exact rest
        · change uncovered (top :: _) = some screen
          rw [uncovered_cons_of_other other, if_neg (by simpa using backs)]
          exact found

/-- `viewDidLoad` of Add, Edit and Profile. -/
theorem Guarded.pushGuarded (guarded : Guarded ops app) {screen : Screen}
    (other : ∀ home, screen ≠ .home home) : Guarded ops (app.pushGuarded screen) := by
  unfold App.pushGuarded
  simp only
  split
  · exact guarded.push other
  · apply Guarded.push
    · exact (guarded.push other).after _
    · nofun

theorem Guarded.pushPassword (guarded : Guarded ops app) : Guarded ops app.pushPassword := by
  have pushed : Guarded ops (app.pushViewController .password) := guarded.push nofun
  unfold App.pushPassword
  simp only
  split
  · exact pushed
  · exact pushed.after _

/-- Pushed controllers change what they show. -/
theorem Guarded.map (guarded : Guarded ops app) {change : ViewController → ViewController}
    (evolves : ∀ controller, Evolves ops app.session controller (change controller)) :
    Guarded ops { app with pushed := app.pushed.map change } :=
  guarded.evolve (List.rel_append (Pointwise.map evolves _) (.cons (.refl _) .nil)) rfl rfl

/-- A label of a Login or Signup screen changes. -/
theorem Guarded.warn (guarded : Guarded ops app) (owner : ControllerID) (text : String) :
    Guarded ops (app.warn owner text) := by
  apply guarded.map
  rintro ⟨id, screen⟩
  by_cases owns : id = owner
  · cases screen with
    | login label | signup label =>
        simp only [owns, if_true]
        exact .relabel _ rfl nofun nofun nofun
    | _ =>
        simp only [owns, if_true]
        exact .refl _
  · simp only [owns, if_false]
    exact .refl _

theorem Guarded.warnEditor (guarded : Guarded ops app) (owner : ControllerID) (text : String) :
    Guarded ops (app.warnEditor owner text) := by
  apply guarded.map
  rintro ⟨id, screen⟩
  cases screen with
  | edit screen =>
      by_cases owns : id = owner
      · simp only [owns, if_true]
        exact .relabel _ rfl nofun nofun nofun
      · simp only [owns, if_false]
        exact .refl _
  | _ => exact .refl _

/-- The texts of an Edit screen on top change. -/
theorem Guarded.setTop (guarded : Guarded ops app) {before : Edit.Screen}
    (editing : app.topViewController.screen = .edit before) (after : Edit.Screen) :
    Guarded ops (app.setTop (.edit after)) := by
  obtain ⟨session, signIns, root, pushed, nextID, calls, timers⟩ := app
  cases pushed with
  | nil => cases editing
  | cons top below =>
      change top.screen = .edit before at editing
      obtain ⟨id, screen⟩ := top
      cases editing
      refine guarded.evolve (.cons ?_ (List.forall₂_same.2 fun c _ => .refl c)) rfl rfl
      exact .relabel id rfl nofun nofun nofun

/-! ## Homes -/

/-- The Home screen at a position changes. -/
theorem Guarded.setHome (guarded : Guarded ops app) {position : Nat}
    {screen screen' : Home.Screen} (at_ : app.home? position = some screen)
    (reachable : (Home.machine ops).Reachable screen → (Home.machine ops).Reachable screen')
    (belongs : (Home.machine ops).Reachable screen → Belongs app.session screen →
      Belongs app.session screen') :
    Guarded ops (app.setHome position screen') := by
  have evolves (id : ControllerID) :
      Evolves ops app.session ⟨id, .home screen⟩ ⟨id, .home screen'⟩ := by
    refine ⟨rfl, rfl, nofun, fun _ _ => ⟨screen', rfl⟩, fun _ same => ⟨screen, rfl, ?_⟩⟩
    cases same
    exact ⟨reachable, belongs⟩
  unfold App.home? at at_
  split at at_
  · rename_i id _ found
    cases at_
    unfold App.setHome
    unfold App.viewControllers at found
    split
    · rename_i id' screen₀ here
      rw [List.getElem?_append_left (List.getElem?_eq_some_iff.1 here).1, here] at found
      cases found
      refine guarded.evolve ?_ rfl rfl
      apply List.rel_append (Pointwise.set .refl here (evolves id))
      exact .cons (.refl _) .nil
    · rename_i beyond
      rw [List.getElem?_append_right (List.getElem?_eq_none_iff.1 beyond),
        List.getElem?_singleton] at found
      split at found
      · cases found
        refine guarded.evolve ?_ rfl rfl
        apply List.rel_append (List.forall₂_same.2 fun c _ => .refl c)
        exact .cons (evolves rootID) .nil
      · cases found
  · cases at_

/-- A Home screen of the current user stays that through an event. -/
theorem belongs_step {session : Option Session} {screen screen' : Home.Screen}
    {event : Home.Event}
    (asked : ∀ call error user, event = .deletionAnswered call error user →
      user = FirebaseService.currentUser session)
    (reachable : (Home.machine ops).Reachable screen)
    (moved : Home.step ops screen event = some screen') (belongs : Belongs session screen) :
    Belongs session screen' := by
  obtain ⟨user, current, registered⟩ := belongs
  refine ⟨user, current, ?_⟩
  have consistent := Home.consistent_reachable ops reachable
  rcases Home.listeners_of_step consistent moved with same | ⟨call, error, user', rfl, added⟩
  · rw [same]
    exact registered
  · rw [added, asked call error user' rfl, current]
    intro ownerId member
    rcases List.mem_append.1 member with old | new
    · exact registered ownerId old
    · exact List.mem_singleton.1 new

/-! ## Sessions -/

theorem Guarded.signIn (guarded : Guarded ops app) {user : User} (ready : app.ReadyFor user) :
    Guarded ops (app.signIn user) := by
  refine ⟨guarded.reachable, fun screen found => ?_⟩
  apply (ready screen found).imp_left
  intro registered
  exact ⟨user, rfl, registered⟩

theorem App.viewControllers_eq (app : App) :
    ∃ below, app.viewControllers = app.topViewController :: below := by
  cases pushed : app.pushed with
  | nil => exact ⟨[], by simp [App.viewControllers, App.topViewController, pushed]⟩
  | cons top below =>
      exact ⟨below ++ [⟨rootID, .home app.root⟩],
        by simp [App.viewControllers, App.topViewController, pushed]⟩

/-- **A log-out under an alert**: no Home screen is uncovered, or a Login screen is due
already, or the delayed push of the top controller makes it due. -/
theorem Guarded.logOut (guarded : Guarded ops app) {owner : ControllerID} {block : Block}
    (due : (Carries app.topViewController ⟨owner, block, true⟩ ∧ app.isPresenting = false) ∨
      app.Away) (thrown : Option NSError) :
    Guarded ops (app.signOut thrown fun app => app.present owner block) := by
  cases thrown with
  | some error => exact guarded.congr rfl rfl rfl
  | none =>
      refine ⟨guarded.reachable, fun screen found => Or.inr ?_⟩
      rcases due with ⟨carries, free⟩ | covered | due
      · obtain ⟨below, stack⟩ := app.viewControllers_eq
        have shown : (app.topViewController.id == owner && !app.isPresenting) = true := by
          simp [carries.1, free]
        refine ⟨⟨owner, block, true⟩, List.mem_append_right _ ?_, app.topViewController, ?_,
          carries⟩
        · rw [← shown]
          exact List.mem_singleton_self _
        · show app.topViewController ∈ app.viewControllers
          rw [stack]
          exact List.mem_cons_self ..
      · change uncovered app.viewControllers = some screen at found
        rw [covered] at found
        cases found
      · exact due.mono (fun _ waiting => List.mem_append_left _ waiting) fun c onStack _ carries =>
          ⟨c, onStack, carries⟩

/-- **A session may end by force** while no Home screen is uncovered. -/
theorem Guarded.signOutIfTokenIsInvalid (guarded : Guarded ops app) {session : Option Session}
    {error : NSError}
    (spares : error.code ∈ FIRUser.invalidTokenCodes → app.session = session → app.Away) :
    Guarded ops (app.signOutIfTokenIsInvalid session error) := by
  refine ⟨guarded.reachable, fun screen found => ?_⟩
  by_cases ends : error.code ∈ FIRUser.invalidTokenCodes ∧ app.session = session
  · rcases spares ends.1 ends.2 with covered | due
    · change uncovered app.viewControllers = some screen at found
      rw [covered] at found
      cases found
    · exact Or.inr due
  · have kept : (app.signOutIfTokenIsInvalid session error).session = app.session := if_neg ends
    rw [kept]
    exact guarded.covered screen found

theorem Guarded.popToRoot (guarded : Guarded ops app)
    (belongs : Belongs app.session app.root ∨
      ∃ timer ∈ app.timers, Carries ⟨rootID, .home app.root⟩ timer) :
    Guarded ops app.popToRootViewController := by
  have root : (⟨rootID, .home app.root⟩ : ViewController) ∈ app.viewControllers :=
    List.mem_append_right _ (List.mem_singleton_self _)
  constructor
  · intro controller onStack screen home
    cases List.mem_singleton.1 onStack
    exact guarded.reachable _ root screen home
  · intro screen found
    cases found
    apply belongs.imp_right
    rintro ⟨timer, waiting, carries⟩
    exact ⟨timer, waiting, _, List.mem_singleton_self _, carries⟩

/-! ## Timers -/

/-- A timer that no controller on the stack carries is spent. -/
theorem Guarded.spend (guarded : Guarded ops app) {index : Nat} {timer : Timer}
    (at_ : app.timers[index]? = some timer)
    (idle : ∀ controller ∈ app.viewControllers, ¬ Carries controller timer) :
    Guarded ops { app with timers := app.timers.eraseIdx index } := by
  refine ⟨guarded.reachable, fun screen found => ?_⟩
  apply (guarded.covered screen found).imp_right
  rintro ⟨other, waiting, controller, onStack, carries⟩
  refine ⟨other, ?_, controller, onStack, carries⟩
  obtain ⟨i, here⟩ := List.getElem?_of_mem waiting
  apply List.mem_eraseIdx_iff_getElem?.2
  refine ⟨i, ?_, here⟩
  rintro rfl
  rw [at_] at here
  cases here
  exact idle controller onStack carries

/-- A Login screen covers whatever is below it. -/
theorem Guarded.coverWithLogin (reachable : HomesReachable ops app.viewControllers) :
    Guarded ops app.pushLogin := by
  constructor
  · exact reachable.push ⟨app.nextID, .login {}⟩ nofun
  · intro screen found
    cases found

/-- **A delayed block keeps the invariant.** -/
theorem guarded_elapsed (guarded : Guarded ops app) {index : Nat} {timer : Timer}
    (at_ : app.timers[index]? = some timer) (completes : Bool) :
    Guarded ops ({ app with timers := app.timers.eraseIdx index }.elapsed timer completes) := by
  have offStack : ∀ controller ∈ app.viewControllers, controller.id = timer.owner →
      app.isOnStack timer.owner = true := fun controller onStack owns =>
    List.any_eq_true.2 ⟨controller, onStack, by simp [owns]⟩
  unfold App.elapsed
  cases block : timer.block with
  | dismissAlert =>
      apply guarded.spend at_
      rintro controller - ⟨-, carries⟩
      rw [block] at carries
      exact carries
  | navigateToLogin =>
      simp only
      split
      · exact .coverWithLogin guarded.reachable
      · rename_i gone
        apply guarded.spend at_
        intro controller onStack carries
        exact gone (offStack controller onStack carries.1)
  | dismissThenNavigate =>
      simp only
      split
      · exact .coverWithLogin guarded.reachable
      · rename_i silent
        apply guarded.spend at_
        rintro controller onStack ⟨owns, carries⟩
        rw [block] at carries
        apply silent
        rw [carries.1, Bool.true_or, Bool.true_and]
        exact offStack controller onStack owns

end Stack

end Remindify.Navigation
