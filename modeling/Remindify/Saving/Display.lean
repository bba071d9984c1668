/-
# Saving.Display -- the Add and Edit screens show what they save

The two screens with the parts that follow their texts and their date: the placeholders,
the date label, and the date picker while it is open.  The label is written on the main
queue, later: the blocks read the screen when they run, not when they are queued.

A `DisplayClient` is one of the two screens, as `FormClient` is for its saves.

* `add_saves_shown`: once the queue is drained, Save on the Add screen hands over what
  the screen shows, whatever was turned in whichever pickers, and an open picker that was
  turned has it in its title;
* `edit_saves_shown`: the same of the Edit screen;
* `placeholder_iff`: on the Edit screen a placeholder is right unless the text was given
  empty and not edited since.
-/
import Remindify.Date.Clock

namespace Remindify.Saving

open Remindify.Theory
open Remindify.Network
open Remindify.Date

set_option autoImplicit false

inductive TextView where
  | titleView
  | descriptionTextView
  deriving DecidableEq, Repr

/-- A block on the main queue that writes the date label. -/
inductive Block where
  /-- `loadReminder`: with the date of the reminder -/
  | loaded (date : String)
  /-- with the date the screen has when the block runs -/
  | selected
  deriving DecidableEq, Repr

structure Display (S L : Type) where
  screen : S
  dateLabel : L
  placeholderIsHidden : TextView → Bool
  blocks : List Block
  picker : Option PickerView

/-- What a screen does with its texts and its date, and how it shows the date. -/
structure DisplayClient (S L : Type) where
  text : TextView → S → String
  setText : TextView → String → S → S
  pickerClient : PickerClient S
  /-- whether the delegate of the picker queues a block -/
  queuesSelection : Bool
  /-- whether the completion handler of the picker does -/
  queuesDone : Bool
  run : Block → S → L → L
  saveButtonTapped : S → S × Option ReminderModel

/-! ## The two screens -/

/-- `dateLabel` of the Add screen. -/
structure AddLabel where
  isHidden : Bool
  text : Option String
  deriving DecidableEq, Repr

def addText : TextView → Add.Screen → String
  | .titleView, screen => screen.titleView
  | .descriptionTextView, screen => screen.descriptionTextView

def addSetText : TextView → String → Add.Screen → Add.Screen
  | .titleView, text, screen => { screen with titleView := text }
  | .descriptionTextView, text, screen => { screen with descriptionTextView := text }

/-- The Add screen is the delegate of its picker. -/
def addDisplay (settings : Settings) : DisplayClient Add.Screen AddLabel where
  text := addText
  setText := addSetText
  pickerClient := Add.pickerClient settings
  queuesSelection := true
  queuesDone := false
  run _ screen _ := { isHidden := false, text := screen.selectedDate }
  saveButtonTapped := Add.saveButtonTapped

def editText : TextView → Edit.Screen → String
  | .titleView, screen => screen.titleView
  | .descriptionTextView, screen => screen.descriptionTextView

def editSetText : TextView → String → Edit.Screen → Edit.Screen
  | .titleView, text, screen => { screen with titleView := text }
  | .descriptionTextView, text, screen => { screen with descriptionTextView := text }

/-- The label of the Edit screen is its text. -/
def editDisplay (settings : Settings) : DisplayClient Edit.Screen (Option String) where
  text := editText
  setText := editSetText
  pickerClient := Edit.pickerClient settings
  queuesSelection := false
  queuesDone := true
  run block screen _ :=
    match block with
    | .loaded date => some date
    | .selected => screen.dateString
  saveButtonTapped := Edit.saveButtonTapped

/-- `viewDidLoad` of the Add screen. -/
def addOpened : Display Add.Screen AddLabel where
  screen := {}
  dateLabel := { isHidden := true, text := some "" }
  placeholderIsHidden textView := !(addText textView {}).isEmpty
  blocks := []
  picker := none

/-- `viewDidLoad` of the Edit screen: `setupUI` hides the placeholders by its own texts,
before the reminder is loaded. -/
def editOpened (reminder : Option ReminderModel) : Display Edit.Screen (Option String) where
  screen := Edit.viewDidLoad reminder
  dateLabel := some ""
  placeholderIsHidden textView := !(editText textView (Edit.setupUI reminder)).isEmpty
  blocks := (reminder.bind (·.date)).toList.map .loaded
  picker := none

/-! ## The machine -/

inductive Act where
  | textViewDidChange (textView : TextView) (text : String)
  | dateButtonTapped (now : Instant)
  | picker (event : PickerView.Event)
  | done
  /-- Cancel, or a tap outside -/
  | cancel
  | mainQueue
  | saveButtonTapped
  deriving DecidableEq

section Machine

variable {S L : Type} (client : DisplayClient S L)

/-- The delegate hears of a date. -/
def Display.didSelectDate (display : Display S L) (picker : DateTimePicker) : Display S L :=
  { display with
    screen := client.pickerClient.didSelectDate picker display.screen
    blocks := display.blocks ++ if client.queuesSelection then [.selected] else [] }

/-- The picker was turned; the delegate hears of what the picker told. -/
def Display.turned (display : Display S L) (view view' : PickerView) : Display S L :=
  (view'.told.drop view.told.length).foldl (Display.didSelectDate client)
    { display with picker := some view' }

def Display.done (display : Display S L) (view : PickerView) : Display S L :=
  { display with
    screen := client.pickerClient.completionHandler view.selectedDate display.screen
    blocks := display.blocks ++ if client.queuesDone then [.selected] else []
    picker := none }

def displayStep (display : Display S L) : Act → Option (Display S L)
  | .textViewDidChange textView text => some
      { display with
        screen := client.setText textView text display.screen
        placeholderIsHidden := fun textView' =>
          if textView' = textView then !text.isEmpty else display.placeholderIsHidden textView' }
  | .dateButtonTapped now =>
      match display.picker with
      | some _ => none
      | none => some
          { display with
            picker := some (.create {} (client.pickerClient.dateButtonTapped now)) }
  | .picker event =>
      display.picker.bind fun view => (PickerView.step view event).map (display.turned client view)
  | .done => display.picker.map (display.done client)
  | .cancel => display.picker.map fun _ => { display with picker := none }
  | .mainQueue =>
      match display.blocks with
      | block :: blocks => some
          { display with dateLabel := client.run block display.screen display.dateLabel, blocks }
      | [] => none
  | .saveButtonTapped => some
      { display with screen := (client.saveButtonTapped display.screen).1 }

def displayMachine (start : Display S L) : Theory.Machine (Display S L) Act where
  init display := display = start
  step := displayStep client

end Machine

/-! ## The label -/

/-- The client shows `label`: what a block writes, and what leaves it alone. -/
structure Shows {S L : Type} (client : DisplayClient S L) (label : S → L) : Prop where
  selected : client.queuesSelection = true → ∀ picker screen shown,
    client.run .selected (client.pickerClient.didSelectDate picker screen) shown =
      label (client.pickerClient.didSelectDate picker screen)
  unselected : client.queuesSelection = false → ∀ picker screen,
    client.pickerClient.didSelectDate picker screen = screen
  done : client.queuesDone = true → ∀ date screen shown,
    client.run .selected (client.pickerClient.completionHandler date screen) shown =
      label (client.pickerClient.completionHandler date screen)
  notDone : client.queuesDone = false → ∀ date screen,
    client.pickerClient.completionHandler date screen = screen
  setText : ∀ textView text screen, label (client.setText textView text screen) = label screen
  setText_run : ∀ textView text screen block,
    client.run block (client.setText textView text screen) = client.run block screen
  saved : ∀ screen, label (client.saveButtonTapped screen).1 = label screen
  saved_run : ∀ screen block,
    client.run block (client.saveButtonTapped screen).1 = client.run block screen

/-- What the label will be when the queue is drained. -/
def Display.drained {S L : Type} (client : DisplayClient S L) (display : Display S L) : L :=
  display.blocks.foldl (fun shown block => client.run block display.screen shown)
    display.dateLabel

section Label

variable {S L : Type} {client : DisplayClient S L} {label : S → L}
  {display display' : Display S L} {act : Act}

/-- What is queued at a new date decides. -/
theorem drained_append {display : Display S L} {blocks : List Block} {queues : Bool}
    (queued : display.blocks = blocks ++ if queues then [.selected] else [])
    (writes : queues = true → ∀ shown,
      client.run .selected display.screen shown = label display.screen)
    (keeps : queues = false →
      blocks.foldl (fun shown block => client.run block display.screen shown) display.dateLabel =
        label display.screen) :
    display.drained client = label display.screen := by
  rw [Display.drained, queued]
  cases queues with
  | true =>
      rw [if_pos rfl, List.foldl_append]
      exact writes rfl _
  | false =>
      rw [if_neg Bool.false_ne_true, List.append_nil]
      exact keeps rfl

theorem drained_didSelectDate (shows : Shows client label)
    (before : display.drained client = label display.screen) (picker : DateTimePicker) :
    (display.didSelectDate client picker).drained client =
      label (display.didSelectDate client picker).screen := by
  refine drained_append rfl (fun queues shown => shows.selected queues _ _ _) fun queues => ?_
  have same : (display.didSelectDate client picker).screen = display.screen :=
    shows.unselected queues picker display.screen
  rw [same]
  exact before

theorem drained_turned (shows : Shows client label)
    (before : display.drained client = label display.screen) (view view' : PickerView) :
    (display.turned client view view').drained client =
      label (display.turned client view view').screen := by
  unfold Display.turned
  refine List.foldlRecOn _ _
    (motive := fun display : Display S L => display.drained client = label display.screen)
    before fun display before picker _ => drained_didSelectDate shows before picker

theorem drained_of_step (shows : Shows client label)
    (before : display.drained client = label display.screen)
    (moved : displayStep client display act = some display') :
    display'.drained client = label display'.screen := by
  cases act with
  | textViewDidChange textView text =>
      cases moved
      simp only [Display.drained, shows.setText, shows.setText_run]
      exact before
  | dateButtonTapped now =>
      simp only [displayStep] at moved
      split at moved
      · cases moved
      · cases moved
        exact before
  | picker event =>
      obtain ⟨view, -, turned⟩ := Option.bind_eq_some_iff.1 moved
      obtain ⟨view', -, rfl⟩ := Option.map_eq_some_iff.1 turned
      exact drained_turned shows before view view'
  | done =>
      obtain ⟨view, -, rfl⟩ := Option.map_eq_some_iff.1 moved
      refine drained_append rfl (fun queues shown => shows.done queues _ _ _) fun queues => ?_
      have same : (display.done client view).screen = display.screen :=
        shows.notDone queues view.selectedDate display.screen
      rw [same]
      exact before
  | cancel =>
      obtain ⟨view, -, rfl⟩ := Option.map_eq_some_iff.1 moved
      exact before
  | mainQueue =>
      simp only [displayStep] at moved
      split at moved
      · rename_i block blocks waiting
        cases moved
        rw [Display.drained, waiting] at before
        exact before
      · cases moved
  | saveButtonTapped =>
      cases moved
      simp only [Display.drained, shows.saved, shows.saved_run]
      exact before

theorem drained_of_reachable (shows : Shows client label) {start : Display S L}
    (first : start.drained client = label start.screen)
    (reached : (displayMachine client start).Reachable display) :
    display.drained client = label display.screen := by
  refine reached.invariant (I := fun display => display.drained client = label display.screen)
    ?_ fun _ _ _ _ before _ moved => drained_of_step shows before moved
  rintro _ rfl
  exact first

/-- **The label shows the date**, once the queue is drained. -/
theorem dateLabel_of_reachable (shows : Shows client label) {start : Display S L}
    (first : start.drained client = label start.screen)
    (reached : (displayMachine client start).Reachable display) (drained : display.blocks = []) :
    display.dateLabel = label display.screen := by
  have always := drained_of_reachable shows first reached
  rw [Display.drained, drained] at always
  exact always

end Label

/-- The date the Add screen shows. -/
def addShown (screen : Add.Screen) : AddLabel where
  isHidden := screen.selectedDate.isNone
  text := screen.selectedDate.or (some "")

theorem shows_add (settings : Settings) : Shows (addDisplay settings) addShown where
  selected _ _ _ _ := rfl
  unselected := nofun
  done := nofun
  notDone _ _ _ := rfl
  setText textView _ _ := by cases textView <;> rfl
  setText_run textView _ _ _ := by cases textView <;> rfl
  saved screen := by
    show addShown (Add.saveButtonTapped screen).1 = _
    unfold Add.saveButtonTapped
    split <;> rfl
  saved_run screen _ := by
    show (addDisplay settings).run _ (Add.saveButtonTapped screen).1 = _
    unfold Add.saveButtonTapped
    split <;> rfl

/-- The date the Edit screen shows. -/
def editShown (screen : Edit.Screen) : Option String :=
  some ((screen.dateString.or (screen.reminder.bind (·.date))).getD "")

theorem shows_edit (settings : Settings) : Shows (editDisplay settings) editShown where
  selected := nofun
  unselected _ _ _ := rfl
  done _ _ _ _ := rfl
  notDone := nofun
  setText textView _ _ := by cases textView <;> rfl
  setText_run textView _ _ _ := by cases textView <;> rfl
  saved screen := by
    show editShown (Edit.saveButtonTapped screen).1 = _
    unfold Edit.saveButtonTapped
    split
    · dsimp only
      split <;> rfl
    · rfl
  saved_run screen _ := by
    show (editDisplay settings).run _ (Edit.saveButtonTapped screen).1 = _
    unfold Edit.saveButtonTapped
    split
    · dsimp only
      split <;> rfl
    · rfl

/-! ## The placeholders -/

/-- Only the text views change the texts. -/
structure Typed {S L : Type} (client : DisplayClient S L) : Prop where
  setText : ∀ textView textView' text screen,
    client.text textView' (client.setText textView text screen) =
      if textView' = textView then text else client.text textView' screen
  didSelectDate : ∀ textView picker screen,
    client.text textView (client.pickerClient.didSelectDate picker screen) =
      client.text textView screen
  completionHandler : ∀ textView date screen,
    client.text textView (client.pickerClient.completionHandler date screen) =
      client.text textView screen
  saved : ∀ textView screen,
    client.text textView (client.saveButtonTapped screen).1 = client.text textView screen

/-- The placeholder is shown exactly while there is no text. -/
def Display.Placed {S L : Type} (client : DisplayClient S L) (display : Display S L)
    (textView : TextView) : Prop :=
  display.placeholderIsHidden textView = !(client.text textView display.screen).isEmpty

section Placeholders

variable {S L : Type} {client : DisplayClient S L} {display display' : Display S L} {act : Act}

theorem placed_congr {textView : TextView}
    (placeholder : display'.placeholderIsHidden textView = display.placeholderIsHidden textView)
    (text : client.text textView display'.screen = client.text textView display.screen) :
    display'.Placed client textView ↔ display.Placed client textView := by
  rw [Display.Placed, Display.Placed, placeholder, text]

theorem placed_turned (typed : Typed client) (view view' : PickerView) (textView : TextView) :
    (display.turned client view view').Placed client textView ↔
      display.Placed client textView := by
  unfold Display.turned
  refine List.foldlRecOn _ _
    (motive := fun turned : Display S L =>
      turned.Placed client textView ↔ display.Placed client textView)
    Iff.rfl fun turned same picker _ => ?_
  refine (placed_congr ?_ ?_).trans same
  · rfl
  · exact typed.didSelectDate textView picker turned.screen

theorem unedited {edited : Prop} {textView : TextView}
    (other : ∀ text, act ≠ .textViewDidChange textView text) :
    edited ↔ edited ∨ ∃ text, act = .textViewDidChange textView text :=
  (or_iff_left fun ⟨text, same⟩ => other text same).symm

theorem placed_of_step (typed : Typed client) (textView : TextView)
    (moved : displayStep client display act = some display') :
    display'.Placed client textView ↔
      display.Placed client textView ∨ ∃ text, act = .textViewDidChange textView text := by
  cases act with
  | textViewDidChange textView' text =>
      cases moved
      rw [Display.Placed, typed.setText]
      dsimp only
      by_cases edited : textView = textView'
      · rw [if_pos edited, if_pos edited, edited]
        exact iff_of_true rfl (Or.inr ⟨text, rfl⟩)
      · rw [if_neg edited, if_neg edited]
        refine (or_iff_left ?_).symm
        rintro ⟨_, same⟩
        cases same
        exact edited rfl
  | dateButtonTapped now =>
      simp only [displayStep] at moved
      split at moved
      · cases moved
      · cases moved
        exact unedited nofun
  | picker event =>
      obtain ⟨view, -, turned⟩ := Option.bind_eq_some_iff.1 moved
      obtain ⟨view', -, rfl⟩ := Option.map_eq_some_iff.1 turned
      refine Iff.trans ?_ (unedited nofun)
      exact placed_turned typed view view' textView
  | done =>
      obtain ⟨view, -, rfl⟩ := Option.map_eq_some_iff.1 moved
      refine Iff.trans ?_ (unedited nofun)
      exact placed_congr rfl (typed.completionHandler textView _ _)
  | cancel =>
      obtain ⟨view, -, rfl⟩ := Option.map_eq_some_iff.1 moved
      exact unedited nofun
  | mainQueue =>
      simp only [displayStep] at moved
      split at moved
      · cases moved
        exact unedited nofun
      · cases moved
  | saveButtonTapped =>
      cases moved
      refine Iff.trans ?_ (unedited nofun)
      exact placed_congr rfl (typed.saved textView _)

/-- **A placeholder is right** if it was from the start, or its text was edited since. -/
theorem placed_of_run (typed : Typed client) {start : Display S L} (textView : TextView)
    {acts : List Act} (ran : (displayMachine client start).run display acts = some display') :
    display'.Placed client textView ↔
      display.Placed client textView ∨ ∃ text, .textViewDidChange textView text ∈ acts := by
  induction acts generalizing display with
  | nil =>
      cases ran
      simp
  | cons act acts ih =>
      rw [Theory.Machine.run_cons, Option.bind_eq_some_iff] at ran
      obtain ⟨next, moved, rest⟩ := ran
      rw [ih rest, placed_of_step typed textView moved, or_assoc]
      simp only [List.mem_cons, exists_or, eq_comm]

end Placeholders

theorem typed_add (settings : Settings) : Typed (addDisplay settings) where
  setText textView textView' _ _ := by cases textView <;> cases textView' <;> rfl
  didSelectDate textView _ _ := by cases textView <;> rfl
  completionHandler _ _ _ := rfl
  saved textView screen := by
    show addText textView (Add.saveButtonTapped screen).1 = _
    unfold Add.saveButtonTapped
    cases textView <;> split <;> rfl

theorem typed_edit (settings : Settings) : Typed (editDisplay settings) where
  setText textView textView' _ _ := by cases textView <;> cases textView' <;> rfl
  didSelectDate _ _ _ := rfl
  completionHandler textView _ _ := by cases textView <;> rfl
  saved textView screen := by
    show editText textView (Edit.saveButtonTapped screen).1 = _
    unfold Edit.saveButtonTapped
    split
    · dsimp only
      cases textView <;> split <;> rfl
    · rfl

/-! ## The picker -/

section Picker

variable {settings : Settings} {display display' : Display Add.Screen AddLabel} {act : Act}

/-- The date of the Add screen is the title of its picker, once it was turned. -/
def Titled (display : Display Add.Screen AddLabel) : Prop :=
  ∀ view, display.picker = some view → view.told ≠ [] →
    display.screen.selectedDate = some view.dateTitleLabel

theorem titled_turned (titled : Titled display) {view view' : PickerView}
    (open_ : display.picker = some view) (sets : PickerView.Sets view view') :
    Titled (display.turned (addDisplay settings) view view') := by
  cases sets with
  | not _ told title =>
      have heard : view'.told.drop view.told.length = [] := by
        rw [told, List.drop_length]
      rw [Display.turned, heard]
      rintro _ ⟨⟩ turned
      rw [title]
      exact titled view open_ (told ▸ turned)
  | once _ _ told title =>
      have heard : view'.told.drop view.told.length = [view'.toDateTimePicker] := by
        rw [told, List.drop_left]
      rw [Display.turned, heard]
      rintro _ ⟨⟩ -
      rw [title]
      rfl

theorem titled_of_step (titled : Titled display)
    (moved : displayStep (addDisplay settings) display act = some display') :
    Titled display' := by
  cases act with
  | textViewDidChange textView text =>
      cases moved
      intro view open_ turned
      cases textView with
      | titleView => exact titled view open_ turned
      | descriptionTextView => exact titled view open_ turned
  | dateButtonTapped now =>
      simp only [displayStep] at moved
      split at moved
      · cases moved
      · cases moved
        rintro _ ⟨⟩ turned
        exact absurd (PickerView.create_told _ _) turned
  | picker event =>
      obtain ⟨view, open_, turned⟩ := Option.bind_eq_some_iff.1 moved
      obtain ⟨view', stepped, rfl⟩ := Option.map_eq_some_iff.1 turned
      exact titled_turned titled open_ (PickerView.effect_of_step stepped).sets
  | done =>
      obtain ⟨view, -, rfl⟩ := Option.map_eq_some_iff.1 moved
      exact fun _ open_ => absurd open_.symm (Option.some_ne_none _)
  | cancel =>
      obtain ⟨view, -, rfl⟩ := Option.map_eq_some_iff.1 moved
      exact fun _ open_ => absurd open_.symm (Option.some_ne_none _)
  | mainQueue =>
      simp only [displayStep] at moved
      split at moved
      · cases moved
        exact titled
      · cases moved
  | saveButtonTapped =>
      cases moved
      intro view open_ turned
      have same : (Add.saveButtonTapped display.screen).1.selectedDate =
          display.screen.selectedDate := by
        unfold Add.saveButtonTapped
        split <;> rfl
      exact same.trans (titled view open_ turned)

end Picker

/-! ## What is shown is saved -/

theorem dateLabel_of_add {settings : Settings} {display : Display Add.Screen AddLabel}
    (reached : (displayMachine (addDisplay settings) addOpened).Reachable display)
    (drained : display.blocks = []) : display.dateLabel = addShown display.screen :=
  dateLabel_of_reachable (shows_add settings) rfl reached drained

/-- The Edit screen will show the date it was given. -/
theorem drained_editOpened (settings : Settings) (reminder : Option ReminderModel) :
    (editOpened reminder).drained (editDisplay settings) =
      editShown (editOpened reminder).screen := by
  cases reminder with
  | none => rfl
  | some reminder =>
      obtain ⟨title, description, date, documentID, ownerId⟩ := reminder
      cases date <;> rfl

theorem dateLabel_of_edit {settings : Settings} {reminder : Option ReminderModel}
    {display : Display Edit.Screen (Option String)}
    (reached : (displayMachine (editDisplay settings) (editOpened reminder)).Reachable display)
    (drained : display.blocks = []) : display.dateLabel = editShown display.screen :=
  dateLabel_of_reachable (shows_edit settings) (drained_editOpened settings reminder) reached
    drained

/-- **The Add screen saves what it shows**: the texts, the placeholders only where there are
none, and the date of the label, which is that in the title of an open picker. -/
theorem add_saves_shown {settings : Settings} {display : Display Add.Screen AddLabel}
    (reached : (displayMachine (addDisplay settings) addOpened).Reachable display)
    (drained : display.blocks = []) :
    (Add.saveButtonTapped display.screen).2 =
        (if display.screen.titleView.isEmpty then none
        else some
          { title := some display.screen.titleView
            description := some display.screen.descriptionTextView
            date := if display.dateLabel.isHidden then none else display.dateLabel.text }) ∧
      (∀ textView, display.Placed (addDisplay settings) textView) ∧
        ∀ view, display.picker = some view → view.told ≠ [] →
          display.dateLabel = { isHidden := false, text := some view.dateTitleLabel } := by
  have label := dateLabel_of_add reached drained
  have placed : ∀ textView, display.Placed (addDisplay settings) textView := by
    refine reached.invariant
      (I := fun display => ∀ textView, Display.Placed (addDisplay settings) display textView) ?_
      fun _ _ _ _ placed _ moved textView =>
        (placed_of_step (typed_add settings) textView moved).2 (Or.inl (placed textView))
    rintro _ rfl textView
    rfl
  have titled : Titled display := by
    refine reached.invariant (I := Titled) ?_
      fun _ _ _ _ titled _ moved => titled_of_step titled moved
    rintro _ rfl
    exact fun _ open_ => absurd open_.symm (Option.some_ne_none _)
  refine ⟨?_, placed, fun view open_ turned => ?_⟩
  · rw [Add.saveButtonTapped_snd, label, addShown]
    cases display.screen.selectedDate <;> rfl
  · rw [label, addShown, titled view open_ turned]
    rfl

/-- A title is typed, and the picker opened. -/
theorem typed_saves_shown :
    ∃ display, (displayMachine (addDisplay greenwich) addOpened).run addOpened
        [.textViewDidChange .titleView "Milk", .dateButtonTapped 1735549200] = some display ∧
      (Add.saveButtonTapped display.screen).2 =
        some { title := some "Milk", description := some "", date := none } :=
  ⟨_, rfl, (add_saves_shown (Machine.reachable_of_run rfl
    (show (displayMachine (addDisplay greenwich) addOpened).run addOpened
      [.textViewDidChange .titleView "Milk", .dateButtonTapped 1735549200] = some _ from rfl))
    rfl).1⟩

/-- **The Edit screen saves what it shows**, an empty label standing for no date. -/
theorem edit_saves_shown {settings : Settings} {reminder : Option ReminderModel}
    {display : Display Edit.Screen (Option String)}
    (reached : (displayMachine (editDisplay settings) (editOpened reminder)).Reachable display)
    (drained : display.blocks = []) {saved : ReminderModel}
    (handed : (Edit.saveButtonTapped display.screen).2 = some saved) :
    saved.title = some display.screen.titleView ∧
      saved.description = some display.screen.descriptionTextView ∧
        some (saved.date.getD "") = display.dateLabel := by
  have label := dateLabel_of_edit reached drained
  obtain ⟨copy, given, -, rfl⟩ := Edit.saveButtonTapped_eq_some (Prod.ext rfl handed)
  refine ⟨rfl, rfl, ?_⟩
  rw [label, editShown, given]
  rfl

/-- A reminder with a date and without a description. -/
def dentist : ReminderModel :=
  { title := some "Dentist", description := some "", date := some "09:00 30/12/2024"
    documentID := some "a" }

theorem dentist_saves_shown :
    ∃ display, (displayMachine (editDisplay greenwich) (editOpened dentist)).run
        (editOpened dentist) [.mainQueue] = some display ∧
      some "09:00 30/12/2024" = display.dateLabel :=
  ⟨_, rfl, (edit_saves_shown (Machine.reachable_of_run rfl
    (show (displayMachine (editDisplay greenwich) (editOpened dentist)).run (editOpened dentist)
      [.mainQueue] = some _ from rfl)) rfl rfl).2.2⟩

/-- **When a placeholder of the Edit screen is right**: if its text was not given empty, or
was edited since. -/
theorem placeholder_iff {settings : Settings} {reminder : Option ReminderModel} {acts : List Act}
    {display : Display Edit.Screen (Option String)}
    (ran : (displayMachine (editDisplay settings) (editOpened reminder)).run
      (editOpened reminder) acts = some display) (textView : TextView) :
    display.Placed (editDisplay settings) textView ↔
      editText textView (Edit.viewDidLoad reminder) ≠ "" ∨
        ∃ text, .textViewDidChange textView text ∈ acts := by
  rw [placed_of_run (typed_edit settings) textView ran]
  have hidden : (editOpened reminder).placeholderIsHidden textView = true := by
    cases textView <;> rfl
  refine or_congr_left ?_
  rw [Display.Placed, hidden, eq_comm, Bool.not_eq_true', ← Bool.not_eq_true, String.isEmpty_iff]
  rfl

/-- The Description of the dentist has no placeholder, and no text. -/
theorem dentist_misplaced :
    ¬ (editOpened dentist).Placed (editDisplay greenwich) .descriptionTextView := by
  rw [@placeholder_iff greenwich dentist [] _ rfl]
  simp [editText, Edit.viewDidLoad, Edit.loadReminder, Edit.setupUI, dentist]

end Remindify.Saving
