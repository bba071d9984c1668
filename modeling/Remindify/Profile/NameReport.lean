/-
# Profile.NameReport -- whether the label of the Profile screen tells the truth

A report comes on the label when its block runs, which need not be in the order of the
presses, and a success turns the label white for good.

* `queued_step`: every task is that of a press, and tasks are reported in the order they
  were worked off;
* `labelled_step`: what is reported of a press is what happened to it;
* `settled_truthful`: in a run in which no report overtakes another, once everything is
  settled the label is about the last press and the name in the field, and when it says so
  the account has that name;
* `throughout_red_iff`: the exact runs in which every error is shown in red.
-/
import Remindify.Profile.DisplayName

namespace Remindify.Profile

open Remindify.Theory
open Remindify.Network

set_option autoImplicit false

namespace Naming

/-! ## The task queues -/

section Queued

variable {naming naming' : Naming} {event : Event}

/-- Every task so far, worked off or not. -/
def queue (naming : Naming) : List Task := naming.commits.map (·.1) ++ naming.tasks

/-- A task is that of a press: of its name, and of the user who was signed in. -/
def Asked (presses : List Press) (task : Task) : Prop :=
  ∃ press user, presses[task.press]? = some press ∧ press.name = task.displayName ∧
    press.currentUser = some user ∧ user.uid = task.uid

/-- The queues: each task has its press, the tasks worked off are reported in their order,
and a task that was done last has given the account its name. -/
structure Queued (naming : Naming) : Prop where
  asked : ∀ task ∈ naming.queue, Asked naming.presses task
  answered : (naming.commits.map (·.1.press)).Sublist
    (naming.reported ++ naming.blocks.filterMap Block.completes)
  named : ∀ uid task, (naming.commits.filter (·.1.uid == uid)).getLast? = some (task, .done) →
    naming.names uid = some task.displayName

theorem Asked.mono {presses : List Press} {task : Task} (asked : Asked presses task)
    (press : Press) : Asked (presses ++ [press]) task := by
  obtain ⟨old, user, at_, rest⟩ := asked
  refine ⟨old, user, ?_, rest⟩
  rw [List.getElem?_append_left (List.getElem?_eq_some_iff.1 at_).1]
  exact at_

theorem Asked.lt {presses : List Press} {task : Task} (asked : Asked presses task) :
    task.press < presses.length := by
  obtain ⟨_, _, at_, _⟩ := asked
  exact (List.getElem?_eq_some_iff.1 at_).1

/-- The last task of an account, done, has named it. -/
theorem named_commit (queued : Queued naming) (index : Nat) (task : Task) (result : Commit)
    (uid : String) (other : Task)
    (done : ((naming.commit index task result).commits.filter (·.1.uid == uid)).getLast? =
      some (other, .done)) :
    (naming.commit index task result).names uid = some other.displayName := by
  simp only [commit, List.filter_append] at done ⊢
  by_cases same : task.uid = uid
  · have single : [(task, result)].filter (·.1.uid == uid) = [(task, result)] := by simp [same]
    rw [single, List.getLast?_concat] at done
    cases done
    rw [← same]
    simp [Commit.isStored]
  · have none : [(task, result)].filter (·.1.uid == uid) = [] := by simp [same]
    rw [none, List.append_nil] at done
    have kept := queued.named uid other done
    split
    · rw [Function.update_of_ne (Ne.symm same)]
      exact kept
    · exact kept

theorem queued_commit (queued : Queued naming) {index : Nat} {task : Task}
    (at_ : naming.tasks[index]? = some task) (result : Commit) :
    Queued (naming.commit index task result) := by
  refine ⟨fun other member => ?_, ?_, named_commit queued index task result⟩
  · refine queued.asked other ?_
    simp only [queue, commit, List.map_append, List.map_cons, List.map_nil, List.mem_append,
      List.mem_singleton] at member ⊢
    rcases member with (worked | rfl) | waits
    · exact Or.inl worked
    · exact Or.inr (List.mem_of_getElem? at_)
    · exact Or.inr (List.mem_of_mem_eraseIdx waits)
  · have answered := queued.answered.append_right [task.press]
    simpa [commit, reported, Block.labels, Block.completes, List.filterMap_cons] using answered

/-- A task more, of the press just made. -/
theorem queued_asked (queued : Queued naming) {user : User}
    (signedIn : naming.currentUser = some user) :
    Queued { naming.handOver with
      tasks := naming.tasks ++
        [⟨naming.presses.length, naming.session, user.uid, naming.page.nameTextField⟩] } := by
  refine ⟨fun task member => ?_, queued.answered, queued.named⟩
  simp only [queue, handOver, ← List.append_assoc] at member
  rcases List.mem_append.1 member with old | new
  · exact (queued.asked task old).mono naming.press
  · rw [List.mem_singleton.1 new]
    exact ⟨naming.press, user, List.getElem?_concat_length, rfl, signedIn, rfl⟩

/-- A report more comes after those there are. -/
theorem Queued.answered_label (queued : Queued naming) (press : Nat) (outcome : Outcome) :
    (naming.commits.map (·.1.press)).Sublist
      (naming.shown.map (·.1) ++
          (naming.blocks ++ [Block.label press outcome]).filterMap Block.labels ++
        (naming.blocks ++ [Block.label press outcome]).filterMap Block.completes) := by
  refine queued.answered.trans ?_
  simp [reported, Block.labels, Block.completes]

theorem queued_step (queued : Queued naming) (moved : step naming event = some naming') :
    Queued naming' := by
  cases effect_of_step moved with
  | began | ended | typed | authChanged => exact ⟨queued.asked, queued.answered, queued.named⟩
  | refused | rejected =>
      exact ⟨fun task member => (queued.asked task member).mono naming.press,
        queued.answered_label .., queued.named⟩
  | asked named signedIn => exact queued_asked queued signedIn
  | committed at_ first result => exact queued_commit queued at_ result
  | completed queue =>
      refine ⟨queued.asked, ?_, queued.named⟩
      have answered := queued.answered
      simpa [reported, queue, Block.labels, Block.completes, List.filterMap_cons] using answered
  | written queue =>
      refine ⟨queued.asked, ?_, queued.named⟩
      have answered := queued.answered
      simpa [reported, queue, Block.labels, Block.completes, List.filterMap_cons] using answered

end Queued

/-! ## What the label says -/

/-- The reports, written and to come. -/
def answers (naming : Naming) : List (Nat × Outcome) :=
  naming.shown ++ naming.blocks.map Block.answer

/-- What is reported of a press is what happened. -/
def Justified (presses : List Press) (commits : List (Task × Commit)) : Nat × Outcome → Prop
  | (index, .empty) => ∃ press, presses[index]? = some press ∧ press.name = ""
  | (index, .failed error) =>
      (error = Service.userNotAuthenticated ∧
          ∃ press, presses[index]? = some press ∧ press.currentUser = none) ∨
        ∃ task isStored, (task, .failed error isStored) ∈ commits ∧ task.press = index
  | (index, .updated) => ∃ task, (task, .done) ∈ commits ∧ task.press = index

/-- The label is what was written last, over what was written before. -/
structure Labelled (naming : Naming) : Prop where
  label : naming.page.warningLabel =
    naming.shown.foldl (fun label answer => answer.2.write label) setupUI.warningLabel
  justified : ∀ answer ∈ naming.answers, Justified naming.presses naming.commits answer

section Labelled

variable {naming naming' : Naming} {event : Event}

theorem Justified.mono {presses : List Press} {commits : List (Task × Commit)}
    {answer : Nat × Outcome} (justified : Justified presses commits answer)
    (presses' : List Press) (commits' : List (Task × Commit)) :
    Justified (presses ++ presses') (commits ++ commits') answer := by
  have kept : ∀ {index : Nat} {press : Press}, presses[index]? = some press →
      (presses ++ presses')[index]? = some press := by
    intro index press at_
    rw [List.getElem?_append_left (List.getElem?_eq_some_iff.1 at_).1]
    exact at_
  obtain ⟨index, outcome⟩ := answer
  cases outcome with
  | empty =>
      obtain ⟨press, at_, empty⟩ := justified
      exact ⟨press, kept at_, empty⟩
  | failed error =>
      rcases justified with ⟨unknown, press, at_, signedOut⟩ | ⟨task, isStored, failed, same⟩
      · exact Or.inl ⟨unknown, press, kept at_, signedOut⟩
      · exact Or.inr ⟨task, isStored, List.mem_append_left _ failed, same⟩
  | updated =>
      obtain ⟨task, done, same⟩ := justified
      exact ⟨task, List.mem_append_left _ done, same⟩

/-- The completion of a task tells what became of it. -/
theorem justified_commit (presses : List Press) (commits : List (Task × Commit)) (task : Task)
    (result : Commit) :
    Justified presses (commits ++ [(task, result)]) (task.press, .ofError result.error) := by
  cases result with
  | done => exact ⟨task, by simp, rfl⟩
  | failed error isStored => exact Or.inr ⟨task, isStored, by simp, rfl⟩

/-- One more block, about the press just made. -/
theorem Labelled.append (labelled : Labelled naming) (outcome : Outcome)
    (justified : Justified (naming.presses ++ [naming.press]) naming.commits
      (naming.presses.length, outcome)) :
    ∀ answer ∈ naming.shown ++
        (naming.blocks ++ [Block.label naming.presses.length outcome]).map Block.answer,
      Justified (naming.presses ++ [naming.press]) naming.commits answer := by
  intro answer member
  rw [List.map_append, ← List.append_assoc] at member
  rcases List.mem_append.1 member with old | new
  · have kept := (labelled.justified answer old).mono [naming.press] []
    rwa [List.append_nil] at kept
  · rw [List.mem_singleton.1 new]
    exact justified

theorem labelled_step (labelled : Labelled naming) (moved : step naming event = some naming') :
    Labelled naming' := by
  cases effect_of_step moved with
  | began | ended | typed | authChanged => exact ⟨labelled.label, labelled.justified⟩
  | refused enabled empty =>
      exact ⟨labelled.label, labelled.append .empty ⟨_, List.getElem?_concat_length, empty⟩⟩
  | rejected named signedOut =>
      exact ⟨labelled.label,
        labelled.append (.failed _) (Or.inl ⟨rfl, _, List.getElem?_concat_length, signedOut⟩)⟩
  | asked =>
      refine ⟨labelled.label, fun answer member => ?_⟩
      have kept := (labelled.justified answer member).mono [naming.press] []
      rwa [List.append_nil] at kept
  | @committed index task at_ first result =>
      refine ⟨labelled.label, fun answer member => ?_⟩
      simp only [answers, commit, List.map_append, ← List.append_assoc] at member
      rcases List.mem_append.1 member with old | new
      · have kept := (labelled.justified answer old).mono [] [(task, result)]
        rwa [List.append_nil] at kept
      · rw [List.mem_singleton.1 new]
        exact justified_commit naming.presses naming.commits task result
  | completed queued =>
      refine ⟨labelled.label, fun answer member => labelled.justified answer ?_⟩
      simp only [answers, queued, List.map_append, List.map_cons, List.map_nil, List.mem_append,
        List.mem_cons, List.not_mem_nil, or_false, Block.answer] at member ⊢
      tauto
  | written queued =>
      refine ⟨?_, fun answer member => labelled.justified answer ?_⟩
      · simp only [labelled.label, List.foldl_append, List.foldl_cons, List.foldl_nil]
      · simpa [answers, queued, Block.answer] using member

theorem labelled_loaded (currentUser : Option User) (names : String → Option String) :
    Labelled (loaded currentUser names) where
  label := by cases currentUser <;> rfl
  justified answer member := nomatch member

end Labelled

/-! ## Once everything is settled -/

section Settled

variable {naming : Naming}

/-- With every report in order, the tasks were worked off in the order of the presses. -/
theorem Queued.ordered (queued : Queued naming) (inOrder : InOrder naming.reported)
    (worked : naming.blocks = []) :
    naming.commits.Pairwise fun earlier later => earlier.1.press < later.1.press := by
  have answered := queued.answered
  rw [worked, List.filterMap_nil, List.append_nil, inOrder] at answered
  exact List.pairwise_map.1 (List.pairwise_lt_range.sublist answered)

/-- The task of the last press is the last of its account. -/
theorem Queued.names_last (queued : Queued naming)
    (ordered : naming.commits.Pairwise fun earlier later => earlier.1.press < later.1.press)
    {task : Task} (done : (task, .done) ∈ naming.commits)
    (last : task.press + 1 = naming.presses.length) :
    naming.names task.uid = some task.displayName := by
  have mine : (task, Commit.done) ∈ naming.commits.filter (·.1.uid == task.uid) :=
    List.mem_filter.2 ⟨done, beq_self_eq_true _⟩
  obtain ⟨latest, isLast⟩ := Option.isSome_iff_exists.1
    (List.getLast?_isSome.2 (List.ne_nil_of_mem mine))
  obtain ⟨earlier, split⟩ := List.getLast?_eq_some_iff.1 isLast
  rw [split] at mine
  rcases List.mem_append.1 mine with before | here
  · have apart := ordered.filter (·.1.uid == task.uid)
    rw [split, List.pairwise_append] at apart
    have later : task.press < latest.1.press :=
      apart.2.2 _ before latest (List.mem_singleton_self _)
    have found : latest ∈ naming.commits.filter (·.1.uid == task.uid) := by simp [split]
    have made := (queued.asked latest.1 (List.mem_append_left _
      (List.mem_map_of_mem (List.mem_filter.1 found).1))).lt
    omega
  · rw [← List.mem_singleton.1 here] at isLast
    exact queued.named _ _ isLast

/-- The label says of a press what became of it. -/
inductive Told (naming : Naming) (press : Press) : Prop where
  | updated {user : User} (signedIn : press.currentUser = some user)
      (text : naming.page.warningLabel.text = Outcome.updated.text)
      (named : naming.names user.uid = some press.name)
  | signedOut (signedOut : press.currentUser = none)
      (text : naming.page.warningLabel.text =
        (Outcome.failed Service.userNotAuthenticated).text)
  | failed {error : NSError} {task : Task} {isStored : Bool}
      (text : naming.page.warningLabel.text = (Outcome.failed error).text)
      (failed : (task, .failed error isStored) ∈ naming.commits)
      (asked : task.press + 1 = naming.presses.length)

/-- What the invariants say of the last report, when it is about the last press. -/
theorem told_of_last (queued : Queued naming) (labelled : Labelled naming)
    (ordered : naming.commits.Pairwise fun earlier later => earlier.1.press < later.1.press)
    {press : Press} (made : naming.presses.getLast? = some press)
    (named : press.name ≠ "") {index : Nat} {outcome : Outcome}
    (written : naming.shown.getLast? = some (index, outcome))
    (last : index + 1 = naming.presses.length) : Told naming press := by
  obtain ⟨earlier, split⟩ := List.getLast?_eq_some_iff.1 written
  have text : naming.page.warningLabel.text = outcome.text := by
    rw [labelled.label, split, List.foldl_append]
    rfl
  have at_ : naming.presses[index]? = some press := by
    rw [List.getLast?_eq_getElem?] at made
    rwa [← last] at made
  have justified := labelled.justified (index, outcome)
    (List.mem_append_left _ (List.mem_of_getLast? written))
  cases outcome with
  | empty =>
      obtain ⟨other, at_', empty⟩ := justified
      cases at_.symm.trans at_'
      exact absurd empty named
  | failed error =>
      rcases justified with ⟨rfl, other, at_', signedOut⟩ | ⟨task, isStored, failed, same⟩
      · cases at_.symm.trans at_'
        exact .signedOut signedOut text
      · exact .failed text failed (by rw [same, last])
  | updated =>
      obtain ⟨task, done, same⟩ := justified
      obtain ⟨other, user, at_', name, signedIn, uid⟩ :=
        queued.asked task (List.mem_append_left _ (List.mem_map_of_mem done))
      rw [same] at at_'
      cases at_.symm.trans at_'
      refine .updated signedIn text ?_
      rw [uid, name]
      exact queued.names_last ordered done (by rw [same, last])

end Settled

/-- **The label tells the truth about the name in the field**, in every run in which no
report overtakes another, as soon as everything is answered and the button is off: it
reads as a success only when the account of whoever was signed in has that name. -/
theorem settled_truthful {naming : Naming} (reached : machine.Reach OldestFirst naming)
    (settled : naming.Settled) (off : naming.page.isEnabled = false)
    (tried : naming.presses ≠ []) :
    ∃ press, naming.presses.getLast? = some press ∧ press.name = naming.page.nameTextField ∧
      Told naming press := by
  obtain ⟨press, made, name, named⟩ := (kept_of_reach reached).last off tried
  obtain ⟨counted, inOrder⟩ := reached.invariant
    (I := fun naming => Counted naming ∧ InOrder naming.reported)
    (by
      rintro _ ⟨currentUser, names, rfl⟩
      exact ⟨counted_loaded currentUser names, rfl⟩)
    (fun _ _ _ _ ⟨counted, inOrder⟩ met moved =>
      ⟨counted_step counted moved, (inOrder_step_iff counted inOrder moved).2 met⟩)
  have queued : Queued naming := reached.invariant (I := Queued)
    (by
      rintro _ ⟨currentUser, names, rfl⟩
      exact ⟨fun task member => (nomatch member), List.Sublist.refl [],
        fun uid task done => (nomatch done)⟩)
    (fun _ _ _ _ queued _ moved => queued_step queued moved)
  have labelled : Labelled naming := reached.invariant (I := Labelled)
    (by
      rintro _ ⟨currentUser, names, rfl⟩
      exact labelled_loaded currentUser names)
    (fun _ _ _ _ labelled _ moved => labelled_step labelled moved)
  have ordered := queued.ordered inOrder settled.blocks
  simp only [Counted, reported, unanswered, settled.tasks, settled.blocks, List.filterMap_nil,
    List.map_nil, List.append_nil] at counted inOrder
  have latest := counted.getLast?_of_inOrder inOrder
  obtain ⟨count, length⟩ := Nat.exists_eq_succ_of_ne_zero (mt List.length_eq_zero_iff.1 tried)
  rw [length, List.range_succ, List.getLast?_concat, List.getLast?_map, Option.map_eq_some_iff]
    at latest
  obtain ⟨⟨index, outcome⟩, written, rfl⟩ := latest
  exact ⟨press, made, name,
    told_of_last queued labelled ordered made named written length.symm⟩

/-- She gives herself a name, and it is stored. -/
def annNamed : Naming :=
  (machine.run (loaded (some ann) fun _ => none)
    [.beginEditing, .type "Ann", .saveName, .commit 0 .done, .work, .work]).getD
      (loaded none fun _ => none)

theorem annNamed_truthful : Told annNamed ⟨"Ann", some ann⟩ := by
  have start : machine.init (loaded (some ann) fun _ => none) := ⟨_, _, rfl⟩
  have ran : machine.run (loaded (some ann) fun _ => none)
      [.beginEditing, .type "Ann", .saveName, .commit 0 .done, .work, .work] =
        some annNamed := rfl
  have met : machine.RunOk OldestFirst (loaded (some ann) fun _ => none)
      [.beginEditing, .type "Ann", .saveName, .commit 0 .done, .work, .work] := by
    refine .cons rfl trivial (.cons rfl trivial (.cons rfl (fun _ => rfl) (.cons rfl trivial
      (.cons rfl ?_ (.cons rfl ?_ trivial)))))
    · rintro press error blocks ⟨⟩
      decide
    · rintro press error blocks ⟨⟩
  obtain ⟨press, made, -, told⟩ :=
    settled_truthful ((Machine.Reach.init start).of_run met ran) ⟨rfl, rfl⟩ rfl
      (List.cons_ne_nil _ _)
  cases made
  exact told

/-- Without the order the label may be about an older name: "Bo" was typed when nobody was
signed in any more, and is not stored anywhere. -/
example :
    (machine.run (loaded (some ann) fun _ => none)
      [.beginEditing, .type "Ann", .saveName, .authChanged none, .type "Bo", .saveName,
        .commit 0 .done, .work, .work, .work]).map
      (fun naming => (naming.page.nameTextField, naming.page.warningLabel.text,
        naming.names "ann")) =
      some ("Bo", "User profile updated successfully", some "Ann") := rfl

/-! ## The colour of the label -/

section Red

variable {naming naming' : Naming} {event : Event}

/-- A label that reports anything but a success is red. -/
def Red (naming : Naming) : Prop :=
  ∀ answer, naming.shown.getLast? = some answer → answer.2 ≠ .updated →
    naming.page.warningLabel.textColor = .red

/-- The condition on an event: nothing but a success is written after a success. -/
def BeforeSuccess (naming : Naming) : Event → Prop
  | .work => ∀ press outcome blocks, naming.blocks = .label press outcome :: blocks →
      outcome ≠ .updated → ∀ answer ∈ naming.shown, answer.2 ≠ .updated
  | _ => True

/-- The label is red until the first success. -/
theorem red_foldl_iff (shown : List (Nat × Outcome)) (label : WarningLabel) :
    (shown.foldl (fun label answer => answer.2.write label) label).textColor = .red ↔
      label.textColor = .red ∧ ∀ answer ∈ shown, answer.2 ≠ .updated := by
  induction shown generalizing label with
  | nil => simp
  | cons answer rest ih =>
      rw [List.foldl_cons, ih, List.forall_mem_cons]
      by_cases success : answer.2 = .updated
      · simp [success, Outcome.write]
      · simp [success, Outcome.write]

theorem Labelled.red_iff (labelled : Labelled naming) :
    naming.page.warningLabel.textColor = .red ↔
      ∀ answer ∈ naming.shown, answer.2 ≠ .updated := by
  rw [labelled.label, red_foldl_iff]
  exact and_iff_right rfl

theorem red_step_iff (labelled : Labelled naming) (red : Red naming)
    (moved : step naming event = some naming') : Red naming' ↔ BeforeSuccess naming event := by
  have labelled' := labelled_step labelled moved
  cases effect_of_step moved with
  | began | ended | typed | refused | asked | rejected | committed | authChanged =>
      exact iff_of_true red trivial
  | completed queued =>
      refine iff_of_true red fun press outcome blocks other => ?_
      rw [queued] at other
      cases other
  | @written press outcome blocks queued =>
      unfold Red BeforeSuccess
      rw [labelled'.red_iff]
      constructor
      · intro red' other outcome' rest same failed answer member
        rw [queued] at same
        cases same
        exact red' _ List.getLast?_concat failed answer (List.mem_append_left _ member)
      · intro before answer last failed
        rw [List.getLast?_concat] at last
        cases last
        intro other member
        rcases List.mem_append.1 member with old | new
        · exact before _ _ _ queued failed other old
        · rw [List.mem_singleton.1 new]
          exact failed

end Red

/-- **When every error is shown in red**: exactly in the runs in which none is written
after a success. -/
theorem throughout_red_iff (currentUser : Option User) (names : String → Option String)
    (es : List Event) :
    machine.Throughout Red (loaded currentUser names) es ↔
      machine.RunOk BeforeSuccess (loaded currentUser names) es :=
  Machine.throughout_iff_runOk (M := machine) (I := Labelled) (P := Red)
    (fun _ _ _ labelled _ moved _ => labelled_step labelled moved)
    (fun _ _ _ labelled red moved => red_step_iff labelled red moved)
    (labelled_loaded currentUser names) (fun _ written => nomatch written) es

end Naming

end Remindify.Profile
