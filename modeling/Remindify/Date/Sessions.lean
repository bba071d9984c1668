/-
# Date.Sessions -- which date is saved

Both screens open the picker from `dateButtonTapped`.  The Add screen is its delegate
and takes every date selected on the way; its `completionHandler` keeps nothing.  The
Edit screen has no delegate and takes the date at Done.

* `after_add`, `after_edit`: what a sequence of sessions leaves on either screen is what
  was taken last;
* `confirmed_iff`: the exact sessions after which both screens save the date of the last
  Done, and the same one;
* `untouchedDone_lost`: Done on a picker nobody turned.
-/
import Remindify.Theory.LastWrite
import Remindify.Date.RoundTrip
import Remindify.Add.Screen
import Remindify.Edit.Screen

namespace Remindify.Date

open Remindify.Theory
open Remindify.Theory.Gregorian
open Remindify.Network

set_option autoImplicit false

/-! ## Sessions -/

/-- From opening the picker to Done, or to Cancel or a tap outside. -/
structure Session where
  openedAt : Instant
  selections : List Instant
  isDone : Bool
  deriving DecidableEq

/-- How a screen uses the picker. -/
structure PickerClient (S : Type) where
  /-- the picker `dateButtonTapped` shows, by the time -/
  dateButtonTapped : Instant → DateTimePicker
  didSelectDate : DateTimePicker → S → S
  completionHandler : Instant → S → S

section Client

variable {S : Type} (client : PickerClient S)

/-- `selectedDate` is set again and again; the delegate hears of each. -/
def PickerClient.select : List Instant → DateTimePicker → S → DateTimePicker × S
  | [], picker, screen => (picker, screen)
  | date :: rest, picker, screen =>
      let picker := picker.setSelectedDate date
      select rest picker (client.didSelectDate picker screen)

def PickerClient.session (screen : S) (session : Session) : S :=
  let (picker, screen) :=
    client.select session.selections (client.dateButtonTapped session.openedAt) screen
  if session.isDone then client.completionHandler picker.selectedDate screen else screen

def PickerClient.sessions (screen : S) (sessions : List Session) : S :=
  sessions.foldl client.session screen

/-- The picker at the end of a session. -/
def PickerClient.closing (session : Session) : DateTimePicker :=
  session.selections.foldl .setSelectedDate (client.dateButtonTapped session.openedAt)

/-- The picker at the end of the last session that ended with Done. -/
def PickerClient.lastDone (sessions : List Session) : Option DateTimePicker :=
  (sessions.filterMap fun session =>
    if session.isDone then some (client.closing session) else none).getLast?

/-- The picker at the end of the last session with a selection. -/
def PickerClient.lastSelected (sessions : List Session) : Option DateTimePicker :=
  (sessions.filterMap fun session =>
    if session.selections.isEmpty then none else some (client.closing session)).getLast?

end Client

/-- One calendar year later, at the same time of day; 28 February for 29 February. -/
def yearLater (settings : Settings) (t : Instant) : Instant :=
  let date := civilOf (dayOf settings t)
  let later : Civil :=
    { date with
      year := date.year + 1, day := min date.day (monthLength (date.year + 1) date.month) }
  t + (dayNumber later - dayOf settings t) * 86400

end Remindify.Date

/-! ## The two screens -/

namespace Remindify.Add

open Remindify.Date

set_option autoImplicit false

/-- `dateButtonTapped`: four days back, four days ahead. -/
def dateButtonTapped (settings : Settings) (now : Instant) : DateTimePicker :=
  .create settings now (now + -60 * 60 * 24 * 4) (now + 60 * 60 * 24 * 4)

/-- `dateTimePicker(_:didSelectDate:)`. -/
def didSelectDate (picker : DateTimePicker) (screen : Screen) : Screen :=
  { screen with selectedDate := some picker.selectedDateString }

/-- The completion handler only sets a format. -/
def pickerClient (settings : Settings) : PickerClient Screen where
  dateButtonTapped := dateButtonTapped settings
  didSelectDate := didSelectDate
  completionHandler _ screen := screen

end Remindify.Add

namespace Remindify.Edit

open Remindify.Date

set_option autoImplicit false

/-- `dateButtonTapped`: from now to a year ahead. -/
def dateButtonTapped (settings : Settings) (now : Instant) : DateTimePicker :=
  .create settings now now (yearLater settings now)

/-- The completion handler of `dateButtonTapped`. -/
def completionHandler (settings : Settings) (date : Instant) (screen : Screen) : Screen :=
  { screen with dateString := some ((dateFormatter settings).string date) }

/-- The screen is not the delegate of its picker. -/
def pickerClient (settings : Settings) : PickerClient Screen where
  dateButtonTapped := dateButtonTapped settings
  didSelectDate _ screen := screen
  completionHandler := completionHandler settings

end Remindify.Edit

namespace Remindify.Date

open Remindify.Theory
open Remindify.Theory.Gregorian
open Remindify.Network

/-! ## What is taken -/

section Select

variable {S : Type} (client : PickerClient S)

theorem select_fst (selections : List Instant) (picker : DateTimePicker) (screen : S) :
    (client.select selections picker screen).1 = selections.foldl .setSelectedDate picker := by
  induction selections generalizing picker screen with
  | nil => rfl
  | cons date rest ih => exact ih _ _

/-- The delegate hears nothing without a selection, and the last one last. -/
theorem select_add (settings : Settings) (selections : List Instant) (picker : DateTimePicker)
    (screen : Add.Screen) :
    ((Add.pickerClient settings).select selections picker screen).2 =
      if selections.isEmpty then screen
      else Add.didSelectDate (selections.foldl .setSelectedDate picker) screen := by
  induction selections generalizing picker screen with
  | nil => rfl
  | cons date rest ih =>
      rw [PickerClient.select, ih]
      cases rest with
      | nil => rfl
      | cons next rest => rfl

theorem select_edit (settings : Settings) (selections : List Instant) (picker : DateTimePicker)
    (screen : Edit.Screen) :
    ((Edit.pickerClient settings).select selections picker screen).2 = screen := by
  induction selections generalizing picker with
  | nil => rfl
  | cons date rest ih => exact ih _

end Select

section Taken

variable (settings : Settings)

/-- Taking a date on the Add screen. -/
def putSelected (screen : Add.Screen) : Option DateTimePicker → Add.Screen
  | some picker => Add.didSelectDate picker screen
  | none => screen

/-- Taking a date on the Edit screen. -/
def putDone (screen : Edit.Screen) : Option DateTimePicker → Edit.Screen
  | some picker => Edit.completionHandler settings picker.selectedDate screen
  | none => screen

/-- **What sessions leave on the Add screen.** -/
theorem after_add (screen : Add.Screen) (sessions : List Session) :
    (Add.pickerClient settings).sessions screen sessions =
      putSelected screen ((Add.pickerClient settings).lastSelected sessions) := by
  refine LastWrite.foldl_put ⟨fun _ => rfl, fun _ _ _ => rfl⟩ (fun screen session => ?_) _ _
  have taken := select_add settings session.selections
    (Add.dateButtonTapped settings session.openedAt) screen
  have turn : (Add.pickerClient settings).session screen session =
      ((Add.pickerClient settings).select session.selections
        (Add.dateButtonTapped settings session.openedAt) screen).2 := by
    show (if session.isDone then _ else _) = _
    split <;> rfl
  rw [turn, taken]
  split <;> rfl

/-- **What sessions leave on the Edit screen.** -/
theorem after_edit (screen : Edit.Screen) (sessions : List Session) :
    (Edit.pickerClient settings).sessions screen sessions =
      putDone settings screen ((Edit.pickerClient settings).lastDone sessions) := by
  refine LastWrite.foldl_put ⟨fun _ => rfl, fun _ _ _ => rfl⟩ (fun screen session => ?_) _ _
  have kept := select_edit settings session.selections
    (Edit.dateButtonTapped settings session.openedAt) screen
  have picker := select_fst (Edit.pickerClient settings) session.selections
    (Edit.dateButtonTapped settings session.openedAt) screen
  show (if session.isDone then Edit.completionHandler settings _ _ else _) = _
  split
  · exact congrArg₂
      (fun picker : DateTimePicker => Edit.completionHandler settings picker.selectedDate)
      picker kept
  · exact kept

end Taken

/-! ## What is saved -/

/-- The reminder the Add screen saves after the sessions. -/
def savedAfter (settings : Settings) (title description : String) (sessions : List Session) :
    Option ReminderModel :=
  let screen : Add.Screen := { titleView := title, descriptionTextView := description }
  (Add.saveButtonTapped ((Add.pickerClient settings).sessions screen sessions)).2

/-- The reminder the Edit screen saves after the sessions. -/
def updatedAfter (settings : Settings) (reminder : ReminderModel) (title description : String)
    (sessions : List Session) : Option ReminderModel :=
  let screen := { Edit.viewDidLoad (some reminder) with
    titleView := title, descriptionTextView := description }
  (Edit.saveButtonTapped ((Edit.pickerClient settings).sessions screen sessions)).2

/-- **Only a confirmed date is saved**: on both screens the date at the last Done, in
the screen's own format; without a Done, no date and the previous date; and with one,
the same date on both. -/
structure Confirmed (settings : Settings) (reminder : ReminderModel) (sessions : List Session) :
    Prop where
  added : ∀ title description saved,
    savedAfter settings title description sessions = some saved →
      saved.date =
        ((Add.pickerClient settings).lastDone sessions).map (·.selectedDateString)
  updated : ∀ title description saved,
    updatedAfter settings reminder title description sessions = some saved →
      saved.date = (((Edit.pickerClient settings).lastDone sessions).map fun picker =>
        (dateFormatter settings).string picker.selectedDate).or reminder.date
  same : (∃ session ∈ sessions, session.isDone = true) → ∀ title description added updated,
    savedAfter settings title description sessions = some added →
      updatedAfter settings reminder title description sessions = some updated →
        added.date = updated.date

/-- The same minute of the day, on the same day of the same month. -/
def SameMinute (settings : Settings) (t t' : Instant) : Prop :=
  ∀ field ∈ [Field.hour, .minute, .day, .month], value settings t field = value settings t' field

/-- The condition on the sessions. -/
def Agreeing (settings : Settings) (sessions : List Session) : Prop :=
  (∀ session ∈ sessions, session.selections.isEmpty = true ∧ session.isDone = false) ∨
    ∃ selected done done', (Add.pickerClient settings).lastSelected sessions = some selected ∧
      (Add.pickerClient settings).lastDone sessions = some done ∧
      (Edit.pickerClient settings).lastDone sessions = some done' ∧
      (SameMinute settings selected.selectedDate done.selectedDate ∧
        value settings selected.selectedDate .weekYear =
          value settings done.selectedDate .weekYear) ∧
      SameMinute settings selected.selectedDate done'.selectedDate ∧
        value settings selected.selectedDate .weekYear = value settings done'.selectedDate .year

section Saved

variable (settings : Settings) (reminder : ReminderModel) (title description : String)
  (sessions : List Session)

/-- The Add screen saves what was selected last. -/
theorem savedAfter_eq :
    savedAfter settings title description sessions =
      if title.isEmpty then none
      else some
        { title := some title
          description := some description
          date := ((Add.pickerClient settings).lastSelected sessions).map
            (·.selectedDateString) } := by
  unfold savedAfter
  dsimp only
  rw [after_add, Add.saveButtonTapped_snd]
  cases (Add.pickerClient settings).lastSelected sessions with
  | none => rfl
  | some picker => rfl

/-- The Edit screen saves what was done last. -/
theorem updatedAfter_eq :
    updatedAfter settings reminder title description sessions =
      if title = "" then none
      else some
        { reminder with
          title := some title
          description := some description
          date := (((Edit.pickerClient settings).lastDone sessions).map fun picker =>
            (dateFormatter settings).string picker.selectedDate).or reminder.date } := by
  unfold updatedAfter
  dsimp only
  rw [after_edit]
  cases (Edit.pickerClient settings).lastDone sessions with
  | none => exact Edit.saveButtonTapped_snd (Edit.viewDidLoad_reminder (some reminder))
  | some picker => exact Edit.saveButtonTapped_snd (Edit.viewDidLoad_reminder (some reminder))

end Saved

section Agreeing

variable {S : Type} (client : PickerClient S) {settings : Settings} {sessions : List Session}

theorem lastDone_eq_none_iff :
    client.lastDone sessions = none ↔ ∀ session ∈ sessions, session.isDone = false := by
  simp [PickerClient.lastDone]

theorem lastSelected_eq_none_iff :
    client.lastSelected sessions = none ↔
      ∀ session ∈ sessions, session.selections.isEmpty = true := by
  simp [PickerClient.lastSelected]

/-- A picker keeps its settings. -/
theorem closing_settings (opens : ∀ t, (client.dateButtonTapped t).settings = settings)
    (session : Session) : (client.closing session).settings = settings := by
  have kept : ∀ (selections : List Instant) (picker : DateTimePicker),
      (selections.foldl .setSelectedDate picker).settings = picker.settings := by
    intro selections
    induction selections with
    | nil => exact fun _ => rfl
    | cons date rest ih => exact fun picker => ih _
  rw [PickerClient.closing, kept, opens]

/-- Pickers that were closed have the settings they were opened with. -/
theorem settings_of_last (opens : ∀ t, (client.dateButtonTapped t).settings = settings)
    {write : Session → Option DateTimePicker}
    (closes : ∀ session picker, write session = some picker → picker = client.closing session)
    {picker : DateTimePicker} (last : (sessions.filterMap write).getLast? = some picker) :
    picker.settings = settings := by
  obtain ⟨session, -, wrote⟩ := List.mem_filterMap.1 (List.mem_of_getLast? last)
  rw [closes session picker wrote]
  exact closing_settings client opens session

theorem lastDone_settings (opens : ∀ t, (client.dateButtonTapped t).settings = settings)
    {picker : DateTimePicker} (last : client.lastDone sessions = some picker) :
    picker.settings = settings := by
  refine settings_of_last client opens (fun session picker wrote => ?_) last
  split at wrote
  · exact (Option.some.inj wrote).symm
  · cases wrote

theorem lastSelected_settings (opens : ∀ t, (client.dateButtonTapped t).settings = settings)
    {picker : DateTimePicker} (last : client.lastSelected sessions = some picker) :
    picker.settings = settings := by
  refine settings_of_last client opens (fun session picker wrote => ?_) last
  split at wrote
  · cases wrote
  · exact (Option.some.inj wrote).symm

/-- When two pickers write the same. -/
theorem selectedDateString_eq_selectedDateString_iff {picker picker' : DateTimePicker}
    (zone : picker.settings = settings) (zone' : picker'.settings = settings) :
    picker.selectedDateString = picker'.selectedDateString ↔
      SameMinute settings picker.selectedDate picker'.selectedDate ∧
        value settings picker.selectedDate .weekYear =
          value settings picker'.selectedDate .weekYear := by
  rw [selectedDateString_eq, selectedDateString_eq, String.ofList_inj, zone, zone',
    dateFormatter_pattern, Pattern.render_eq_render (by rfl)]
  simp only [Pattern.fields, SameMinute, List.forall_mem_cons, List.not_mem_nil, false_implies,
    implies_true, and_true, and_assoc, weekYearForYear]

/-- When the picker and the Edit screen write the same. -/
theorem selectedDateString_eq_string_iff {picker : DateTimePicker}
    (zone : picker.settings = settings) (t : Instant) :
    picker.selectedDateString = (dateFormatter settings).string t ↔
      SameMinute settings picker.selectedDate t ∧
        value settings picker.selectedDate .weekYear = value settings t .year := by
  subst zone
  exact selectedDateString_eq_iff picker t

/-- A Done on one screen is a Done on the other. -/
theorem lastDone_of_lastDone {S' : Type} (other : PickerClient S') {picker : DateTimePicker}
    (last : client.lastDone sessions = some picker) :
    ∃ picker', other.lastDone sessions = some picker' := by
  cases found : other.lastDone sessions with
  | none =>
      have never := (lastDone_eq_none_iff other).1 found
      rw [(lastDone_eq_none_iff client).2 never] at last
      cases last
  | some picker' => exact ⟨picker', rfl⟩

/-- What the sessions leave on the screens, as strings. -/
theorem confirmed_iff_strings (reminder : ReminderModel) :
    Confirmed settings reminder sessions ↔
      ((Add.pickerClient settings).lastSelected sessions).map (·.selectedDateString) =
          ((Add.pickerClient settings).lastDone sessions).map (·.selectedDateString) ∧
        ∀ done, (Edit.pickerClient settings).lastDone sessions = some done →
          ((Add.pickerClient settings).lastSelected sessions).map (·.selectedDateString) =
            some ((dateFormatter settings).string done.selectedDate) := by
  constructor
  · intro confirmed
    have added := savedAfter_eq settings "Title" "" sessions
    have updated := updatedAfter_eq settings reminder "Title" "" sessions
    rw [if_neg (by decide)] at added updated
    refine ⟨confirmed.added _ _ _ added, fun done last => ?_⟩
    have isDone : ∃ session ∈ sessions, session.isDone = true := by
      by_contra never
      have nothing := (lastDone_eq_none_iff (Edit.pickerClient settings)).2
        fun session member => Bool.eq_false_iff.2 fun done => never ⟨session, member, done⟩
      rw [nothing] at last
      cases last
    have same := confirmed.same isDone _ _ _ _ added updated
    rw [last] at same
    exact same
  · rintro ⟨strings, agree⟩
    refine ⟨fun title description saved saving => ?_, fun title description saved saving => ?_,
      fun isDone title description added updated saving updating => ?_⟩
    · rw [savedAfter_eq] at saving
      split at saving
      · cases saving
      · cases saving
        exact strings
    · rw [updatedAfter_eq] at saving
      split at saving
      · cases saving
      · cases saving
        rfl
    · rw [savedAfter_eq] at saving
      rw [updatedAfter_eq] at updating
      split at saving
      · cases saving
      · split at updating
        · cases updating
        · cases saving
          cases updating
          cases last : (Edit.pickerClient settings).lastDone sessions with
          | none =>
              obtain ⟨session, member, done⟩ := isDone
              exact absurd ((lastDone_eq_none_iff _).1 last session member) (by simp [done])
          | some done => exact agree done last

/-- **When only confirmed dates are saved.** -/
theorem confirmed_iff (settings : Settings) (reminder : ReminderModel) (sessions : List Session) :
    Confirmed settings reminder sessions ↔ Agreeing settings sessions := by
  rw [confirmed_iff_strings]
  constructor
  · rintro ⟨strings, agree⟩
    cases lastAdd : (Add.pickerClient settings).lastDone sessions with
    | none =>
        rw [lastAdd, Option.map_none, Option.map_eq_none_iff] at strings
        exact Or.inl fun session member => ⟨(lastSelected_eq_none_iff _).1 strings session member,
          (lastDone_eq_none_iff _).1 lastAdd session member⟩
    | some done =>
        obtain ⟨done', lastEdit⟩ := lastDone_of_lastDone _ (Edit.pickerClient settings) lastAdd
        rw [lastAdd] at strings
        obtain ⟨selected, last, alike⟩ := Option.map_eq_some_iff.1 strings
        have zone : selected.settings = settings := lastSelected_settings _ (fun _ => rfl) last
        have zone' : done.settings = settings := lastDone_settings _ (fun _ => rfl) lastAdd
        have same := agree done' lastEdit
        rw [last] at same
        exact Or.inr ⟨selected, done, done', last, lastAdd, lastEdit,
          (selectedDateString_eq_selectedDateString_iff zone zone').1 alike,
          (selectedDateString_eq_string_iff zone _).1 (Option.some.inj same)⟩
  · rintro (untouched | ⟨selected, done, done', last, lastAdd, lastEdit, alike, same⟩)
    · have nothing := (lastSelected_eq_none_iff (Add.pickerClient settings)).2
        fun session member => (untouched session member).1
      have never := (lastDone_eq_none_iff (Add.pickerClient settings)).2
        fun session member => (untouched session member).2
      have never' := (lastDone_eq_none_iff (Edit.pickerClient settings)).2
        fun session member => (untouched session member).2
      rw [nothing, never]
      refine ⟨rfl, fun done last => ?_⟩
      rw [never'] at last
      cases last
    · have zone : selected.settings = settings := lastSelected_settings _ (fun _ => rfl) last
      have zone' : done.settings = settings := lastDone_settings _ (fun _ => rfl) lastAdd
      rw [last, lastAdd]
      refine ⟨congrArg some ((selectedDateString_eq_selectedDateString_iff zone zone').2 alike),
        fun last' at_ => ?_⟩
      rw [lastEdit] at at_
      cases at_
      exact congrArg some ((selectedDateString_eq_string_iff zone _).2 same)

end Agreeing

/-! ## Dates both screens offer -/

theorem start_monthLengths_succ (year : Int) :
    ∀ month < 12, Blocks.start (monthLengths year) month ≤
      Blocks.start (monthLengths (year + 1)) month + 1 := by
  unfold monthLengths
  cases isLeap year with
  | false => cases isLeap (year + 1) <;> decide
  | true => cases isLeap (year + 1) <;> decide

/-- Every month has the 28th. -/
theorem monthLength_ge (year : Int) {month : Nat} (first : 1 ≤ month) (last : month ≤ 12) :
    28 ≤ monthLength year month := by
  have long : ∀ month < 12, 28 ≤ ((monthLengths year)[month]?).getD 0 := by
    unfold monthLengths
    cases isLeap year <;> decide
  exact long (month - 1) (by omega)

/-- A year is longer than the range of the Add screen. -/
theorem fourDays_le_yearLater (settings : Settings) (t : Instant) :
    t + 60 * 60 * 24 * 4 ≤ yearLater settings t := by
  have bounds := civilOf_bounds (dayOf settings t)
  have today := dayNumber_civilOf (dayOf settings t)
  have months := start_monthLengths_succ (civilOf (dayOf settings t)).year
    ((civilOf (dayOf settings t)).month - 1) (by omega)
  have days := monthLength_ge ((civilOf (dayOf settings t)).year + 1) bounds.1 bounds.2.1
  have years := yearStart_succ (civilOf (dayOf settings t)).year
  have length : 365 ≤ yearLength (civilOf (dayOf settings t)).year := by
    unfold yearLength
    split <;> omega
  unfold yearLater
  simp only [dayNumber] at today ⊢
  show (_ : Int) ≤ _
  omega

section Offered

variable (settings : Settings) {sessions : List Session}

/-- The dates from now to four days ahead. -/
def Session.Offered (session : Session) : Prop :=
  ∀ date ∈ session.selections,
    session.openedAt ≤ date ∧ date ≤ session.openedAt + 60 * 60 * 24 * 4

/-- Dates in range are taken as they are. -/
theorem foldl_selectedDate {selections : List Instant} {picker : DateTimePicker}
    (inRange : ∀ date ∈ selections, picker.minimumDate ≤ date ∧ date ≤ picker.maximumDate) :
    (selections.foldl .setSelectedDate picker).selectedDate =
      selections.getLast?.getD picker.selectedDate := by
  induction selections generalizing picker with
  | nil => rfl
  | cons date rest ih =>
      obtain ⟨since, until_⟩ := inRange date (List.mem_cons_self ..)
      have taken := picker.setSelectedDate_of_inRange since until_
      have later : ∀ date' ∈ rest, (picker.setSelectedDate date).minimumDate ≤ date' ∧
          date' ≤ (picker.setSelectedDate date).maximumDate :=
        fun date' member => inRange date' (List.mem_cons_of_mem _ member)
      rw [List.foldl_cons, ih later, taken, List.getLast?_cons]
      rfl

/-- **The two pickers close at the same date**, when both offer what was selected. -/
theorem closing_common {session : Session} (offered : session.Offered) :
    ((Add.pickerClient settings).closing session).selectedDate =
      ((Edit.pickerClient settings).closing session).selectedDate := by
  have year := fourDays_le_yearLater settings session.openedAt
  unfold PickerClient.closing
  rw [foldl_selectedDate, foldl_selectedDate]
  · rfl
  · intro date member
    obtain ⟨since, until_⟩ := offered date member
    exact ⟨since, Int.le_trans until_ year⟩
  · intro date member
    obtain ⟨since, until_⟩ := offered date member
    refine ⟨Int.le_trans ?_ since, until_⟩
    have fourDaysBack : ∀ t : Int, t + -60 * 60 * 24 * 4 ≤ t := by omega
    exact fourDaysBack session.openedAt

theorem lastDone_eq {S : Type} (client : PickerClient S) :
    client.lastDone sessions =
      ((sessions.filter (·.isDone)).getLast?).map client.closing := by
  rw [← List.getLast?_map, ← List.filterMap_eq_map, List.filterMap_filter]
  rfl

/-- When every Done, and nothing else, follows a turn of the wheels, both screens save
the date unless its week belongs to another year. -/
theorem agreeing_iff_of_turned
    (turned : ∀ session ∈ sessions, session.isDone = !session.selections.isEmpty)
    (offered : ∀ session ∈ sessions, session.Offered) :
    Agreeing settings sessions ↔
      ∀ done, (Add.pickerClient settings).lastDone sessions = some done →
        value settings done.selectedDate .weekYear = value settings done.selectedDate .year := by
  have same : (Add.pickerClient settings).lastSelected sessions =
      (Add.pickerClient settings).lastDone sessions := by
    unfold PickerClient.lastSelected PickerClient.lastDone
    refine congrArg List.getLast? (List.filterMap_congr fun session member => ?_)
    rw [turned session member]
    cases session.selections.isEmpty <;> rfl
  have untouched : (∀ session ∈ sessions, session.selections.isEmpty = true ∧
      session.isDone = false) ↔ (Add.pickerClient settings).lastDone sessions = none := by
    rw [lastDone_eq_none_iff]
    refine forall₂_congr fun session member => ?_
    rw [turned session member]
    cases session.selections.isEmpty <;> simp
  unfold Agreeing
  rw [untouched, same, lastDone_eq, lastDone_eq]
  cases last : (sessions.filter (·.isDone)).getLast? with
  | none =>
      constructor
      · intro _ done last'
        cases last'
      · exact fun _ => Or.inl rfl
  | some session =>
      have member := List.mem_of_mem_filter (List.mem_of_getLast? last)
      have common := closing_common settings (offered session member)
      constructor
      · rintro (nothing | ⟨selected, done, done', at_, -, at', -, -, agree⟩) last' at''
        · cases nothing
        · cases at_
          cases at'
          cases at''
          rwa [← common] at agree
      · intro agree
        have year := agree _ rfl
        rw [common] at year
        exact Or.inr ⟨_, _, _, rfl, rfl, rfl, ⟨fun _ _ => rfl, rfl⟩,
          fun _ _ => by rw [common], by rw [common]; exact year⟩

end Offered

/-- Done, without a turn of the wheels. -/
def untouchedDone : Session where
  openedAt := 1735549200
  selections := []
  isDone := true

/-- The Edit screen saves the date, the Add screen none. -/
theorem untouchedDone_lost :
    ¬ ∀ (settings : Settings) (reminder : ReminderModel) (sessions : List Session),
      Confirmed settings reminder sessions := by
  intro always
  have added := (always greenwich {} [untouchedDone]).added "Call" "" _ rfl
  exact absurd (congrArg Option.isSome added) (by decide)

end Remindify.Date
