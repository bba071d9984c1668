/-
# Network.QueryOrder -- the order in which `loadReminders` delivers

The query asks for `order(by: "Date", descending: true)`, and `Date` holds a string
that begins with the time of day.  Firestore compares strings, so the list is sorted
by hour, minute, day, month and year, in this order.

* `query_sorted`: what the query returns is in the order asked for;
* `string_lt_iff`: how two date strings compare;
* `chronological_iff`: the list goes from the latest to the earliest exactly when no two
  of its dates compare differently as strings and as instants;
* `earlierDay_listed_first`: two reminders on two days are enough.
-/
import Remindify.Date.RoundTrip
import Remindify.Network.Malformed
import Remindify.Theory.Ordered

namespace Remindify.Network

open Remindify.Date
open Remindify.Theory.Numeral
open Remindify.Theory.Ordered
open Remindify.Theory.Pattern

set_option autoImplicit false

/-! ## Firestore's order of values -/

namespace Value

@[simp] theorem rank_string (text : String) : (string text).rank = 4 := rfl

theorem string_of_rank {v : Value} (rank : v.rank = 4) : ∃ text, v = .string text := by
  cases v with
  | null => cases rank
  | string text => exact ⟨text, rfl⟩
  | other kind => cases kind <;> cases rank

theorem before_iff {v w : Value} :
    v.before w = true ↔ v.rank < w.rank ∨ ∃ s t, v = .string s ∧ w = .string t ∧ s < t := by
  cases v <;> cases w <;> simp only [before, decide_eq_true_eq] <;> simp

theorem before_asymm {v w : Value} (first : v.before w = true) : ¬ w.before v = true := by
  rw [before_iff] at first ⊢
  rintro (lower | ⟨s, t, rfl, rfl, below⟩)
  · rcases first with lower' | ⟨s, t, rfl, rfl, -⟩
    · omega
    · exact absurd lower (Nat.lt_irrefl _)
  · rcases first with lower' | ⟨s', t', same, same', below'⟩
    · exact absurd lower' (Nat.lt_irrefl _)
    · cases same
      cases same'
      exact String.lt_asymm below below'

theorem before_cotrans {u w : Value} (v : Value) (first : u.before w = true) :
    u.before v = true ∨ v.before w = true := by
  simp only [before_iff] at first ⊢
  rcases first with lower | ⟨s, t, rfl, rfl, below⟩
  · by_cases here : u.rank < v.rank
    · exact Or.inl (Or.inl here)
    · exact Or.inr (Or.inl (by omega))
  · rcases Nat.lt_trichotomy v.rank 4 with low | same | high
    · exact Or.inr (Or.inl low)
    · obtain ⟨r, rfl⟩ := string_of_rank same
      by_cases here : s < r
      · exact Or.inl (Or.inr ⟨s, r, rfl, rfl, here⟩)
      · refine Or.inr (Or.inr ⟨r, t, rfl, rfl, ?_⟩)
        -- `r` is at most `s`, which is before `t`
        by_contra above
        exact here (String.not_le.1 fun back =>
          String.not_le.2 below (String.le_trans (String.not_lt.1 above) back))
    · exact Or.inl (Or.inl high)

end Value

/-! ## The query -/

namespace Store

theorem inOrder_iff (d e : Document) :
    inOrder d e ↔ Descending (fun v w : Value => v.before w = true)
      (fun d => (d.data.lookup "Date").getD .null) (fun d e => e.documentID ≤ d.documentID)
      d e := by
  simp only [inOrder, Descending, Bool.not_eq_true]

instance : Std.Total inOrder where
  total d e := by
    rw [inOrder_iff, inOrder_iff]
    exact descending_total (fun d e => String.le_total _ _) d e

instance : IsTrans Document inOrder where
  trans d e f first second := by
    rw [inOrder_iff] at first second ⊢
    refine descending_trans (fun v w => ?_) (fun u v w => ?_) (fun d e f => ?_) first second
    · exact Value.before_asymm
    · exact Value.before_cotrans v
    · exact fun here there => String.le_trans there here

/-- **The query returns the order it was asked for.** -/
theorem query_sorted (store : Store) (ownerId : String) :
    (store.query ownerId).Pairwise inOrder :=
  List.pairwise_insertionSort _ _

end Store

/-! ## Date strings -/

section Strings

variable (settings : Settings)

/-- The fields a date string begins with. -/
def clockFields : List Field := [.hour, .minute, .day, .month]

/-- **How two date strings compare**: by hour, minute, day and month, then by the
digits of the year. -/
def ClockBefore (t u : Instant) : Prop :=
  clockFields.map (value settings t) < clockFields.map (value settings u) ∨
    clockFields.map (value settings t) = clockFields.map (value settings u) ∧
      signed 4 (value settings t .year) < signed 4 (value settings u .year)

/-- The items of the format before the year. -/
def clockPattern : List (Item Field) :=
  [.field .hour 2, .literal ':', .field .minute 2, .literal ' ', .field .day 2, .literal '/',
    .field .month 2, .literal '/']

/-- Hours, minutes, days and months have two digits. -/
theorem fits_clockPattern (t : Instant) : Fits (value settings t) clockPattern := by
  obtain ⟨hours, minutes, days, months, -⟩ := value_bounds settings t
  intro name width member
  simp only [clockPattern, List.mem_cons, List.not_mem_nil, or_false, Item.field.injEq,
    reduceCtorEq, false_or] at member
  rcases member with ⟨rfl, rfl⟩ | ⟨rfl, rfl⟩ | ⟨rfl, rfl⟩ | ⟨rfl, rfl⟩ <;> omega

theorem string_lt_iff (t u : Instant) :
    (dateFormatter settings).string t < (dateFormatter settings).string u ↔
      ClockBefore settings t u := by
  have split : (dateFormatter settings).pattern = clockPattern ++ [.field .year 4] :=
    dateFormatter_pattern settings
  rw [String.lt_iff, DateFormatter.string, DateFormatter.string, String.toList_ofList,
    String.toList_ofList, split]
  have compared : render (value settings t) (clockPattern ++ [.field .year 4]) <
      render (value settings u) (clockPattern ++ [.field .year 4]) ↔ _ :=
    render_lt_render (fits_clockPattern settings t) (fits_clockPattern settings u)
  simp only [render, List.append_nil] at compared
  exact compared

end Strings

/-! ## The list delivered -/

section Delivered

variable (settings : Settings)

/-- The instant a reminder's date string denotes. -/
def denotes (reminder : ReminderModel) : Option Instant :=
  reminder.date.bind (dateFormatter settings).date

/-- **From the latest to the earliest**, equal instants in any order. -/
def Chronological (reminders : List ReminderModel) : Prop :=
  reminders.Pairwise fun above below =>
    ∀ t u, denotes settings above = some t → denotes settings below = some u → u ≤ t

/-- The document holds the string of this date. -/
def Written (document : Document) (t : Instant) : Prop :=
  document.data.lookup "Date" = some (.string ((dateFormatter settings).string t))

/-- Every document of the user holds the string of some date. -/
def Formatted (store : Store) (ownerId : String) : Prop :=
  ∀ d ∈ store.query ownerId, ∃ t, Written settings d t

/-- The documents the listener makes reminders of. -/
def listed (store : Store) (ownerId : String) : List Document :=
  (store.query ownerId).filter FirebaseService.isTitled

/-- **The condition**: of two dates, the one with the later time of day, or then the
later day of the month, the later month, the later digits of the year, denotes no
earlier instant. -/
def ClockAgrees (store : Store) (ownerId : String) : Prop :=
  ∀ d ∈ listed store ownerId, ∀ e ∈ listed store ownerId, ∀ t u,
    Written settings d t → Written settings e u → ClockBefore settings u t →
      ∀ a b, (dateFormatter settings).date ((dateFormatter settings).string t) = some a →
        (dateFormatter settings).date ((dateFormatter settings).string u) = some b → b ≤ a

theorem denotes_modelOf {settings : Settings} {document : Document} {t : Instant}
    (written : Written settings document t) (ownerId defaultDescription : String) :
    denotes settings (FirebaseService.modelOf ownerId defaultDescription document) =
      (dateFormatter settings).date ((dateFormatter settings).string t) := by
  unfold Written at written
  simp only [denotes, FirebaseService.modelOf, FirebaseService.dateOf, written, Option.bind_some,
    Value.asString_string]

/-- The earlier string, by Firestore's order. -/
theorem before_iff_clockBefore {settings : Settings} {d e : Document} {t u : Instant}
    (writtenD : Written settings d t) (writtenE : Written settings e u) :
    ((d.data.lookup "Date").getD .null).before ((e.data.lookup "Date").getD .null) = true ↔
      ClockBefore settings t u := by
  unfold Written at writtenD writtenE
  rw [writtenD, writtenE, ← string_lt_iff]
  exact decide_eq_true_iff

variable {settings : Settings} {store : Store} {ownerId : String}

/-- No document is listed above one with a later string. -/
theorem listed_sorted : (listed store ownerId).Pairwise fun d e =>
    ¬ ((d.data.lookup "Date").getD .null).before ((e.data.lookup "Date").getD .null) = true := by
  refine ((store.query_sorted ownerId).filter _).imp fun {d e} ordered => ?_
  rcases ordered with later | ⟨tied, -⟩
  · exact Value.before_asymm later
  · simpa using tied

/-- **When the list is chronological**: exactly when the clock-first order of the
strings never contradicts the instants they denote. -/
theorem chronological_iff (formatted : Formatted settings store ownerId)
    {reminders : List ReminderModel}
    (delivered : FirebaseService.loadRemindersListener ownerId none
      (some (store.snapshot ownerId)) = .ok (.ok reminders)) :
    Chronological settings reminders ↔ ClockAgrees settings store ownerId := by
  have written : ∀ d ∈ listed store ownerId, ∃ t, Written settings d t :=
    fun d member => formatted d (List.mem_of_mem_filter member)
  obtain rfl : reminders = (listed store ownerId).map (FirebaseService.modelOf ownerId "") :=
    FirebaseService.loadRemindersListener_eq_map delivered
  unfold Chronological
  rw [List.pairwise_map, pairwise_iff_of_sorted
    (fun d itself => Value.before_asymm itself itself) listed_sorted]
  · constructor
    · intro agree d memberD e memberE t u writtenD writtenE earlier a b denotesA denotesB
      have first := (before_iff_clockBefore writtenE writtenD).2 earlier
      apply agree d memberD e memberE first
      · rw [denotes_modelOf writtenD, denotesA]
      · rw [denotes_modelOf writtenE, denotesB]
    · intro agree d memberD e memberE first a b denotesA denotesB
      obtain ⟨t, writtenD⟩ := written d memberD
      obtain ⟨u, writtenE⟩ := written e memberE
      rw [denotes_modelOf writtenD] at denotesA
      rw [denotes_modelOf writtenE] at denotesB
      have earlier := (before_iff_clockBefore writtenE writtenD).1 first
      exact agree d memberD e memberE t u writtenD writtenE earlier a b denotesA denotesB
  · -- tied documents hold the same string
    intro d memberD e memberE notBefore notAfter a b denotesA denotesB
    obtain ⟨t, writtenD⟩ := written d memberD
    obtain ⟨u, writtenE⟩ := written e memberE
    rw [denotes_modelOf writtenD] at denotesA
    rw [denotes_modelOf writtenE] at denotesB
    rw [before_iff_clockBefore writtenD writtenE, ← string_lt_iff, String.not_lt] at notBefore
    rw [before_iff_clockBefore writtenE writtenD, ← string_lt_iff, String.not_lt] at notAfter
    rw [String.le_antisymm notBefore notAfter, denotesA] at denotesB
    exact Int.le_of_eq (Option.some.inj denotesB).symm

end Delivered

/-- A reminder of ann, with this date. -/
def dated (title : String) (t : Instant) : Fields :=
  FirebaseService.reminderData "ann"
    { title := some title, date := some ((dateFormatter greenwich).string t) }

def twoDates (t t' : Instant) : Store :=
  ((∅ : Store).insert "d1" (dated "Milk" t)).insert "d2" (dated "Call" t')

theorem written_dated {d : Document} {title : String} {t : Instant}
    (held : d.data = dated title t) : Written greenwich d t := by
  rw [Written, held, dated, FirebaseService.reminderData_date]
  rfl

theorem formatted_twoDates (t t' : Instant) : Formatted greenwich (twoDates t t') "ann" := by
  intro d member
  obtain ⟨stored, -, -⟩ := Store.mem_query.1 member
  unfold twoDates at stored
  by_cases second : d.documentID = "d2"
  · rw [second, AList.lookup_insert] at stored
    exact ⟨t', written_dated (Option.some.inj stored).symm⟩
  · rw [AList.lookup_insert_ne second] at stored
    by_cases first : d.documentID = "d1"
    · rw [first, AList.lookup_insert] at stored
      exact ⟨t, written_dated (Option.some.inj stored).symm⟩
    · rw [AList.lookup_insert_ne first, AList.lookup_empty] at stored
      cases stored

/-- Nine and ten o'clock on one day. -/
theorem sameDay_chronological_iff :
    ∃ reminders,
      FirebaseService.loadRemindersListener "ann" none
        (some ((twoDates 1893488400 1893492000).snapshot "ann")) = .ok (.ok reminders) ∧
      (Chronological greenwich reminders ↔
        ClockAgrees greenwich (twoDates 1893488400 1893492000) "ann") :=
  ⟨_, rfl, chronological_iff (formatted_twoDates _ _) rfl⟩

/-- Ten o'clock on 1 January and nine o'clock on 2 January 2030. -/
theorem earlierDay_listed_first :
    ¬ ∀ (settings : Settings) (store : Store) (ownerId : String) (reminders : List ReminderModel),
      Formatted settings store ownerId →
      FirebaseService.loadRemindersListener ownerId none (some (store.snapshot ownerId)) =
        .ok (.ok reminders) →
      Chronological settings reminders := by
  intro always
  have chronological := always greenwich (twoDates 1893492000 1893574800) "ann" _
    (formatted_twoDates _ _) rfl
  have tenFirst := List.rel_of_pairwise_cons chronological (List.mem_singleton.2 rfl)
    1893492000 1893574800 rfl rfl
  exact absurd tenFirst (by decide)

end Remindify.Network
