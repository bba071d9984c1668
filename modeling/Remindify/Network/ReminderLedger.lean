/-
# Network.ReminderLedger -- what the collection is for, and that it is that

The abstract model is a `Ledger`: for every live reminder who created it and what
was last written to it.  The concrete one is a `Backend`: the signed-in user and
the Firestore collection, driven by the calls of `FirebaseService`.

`Stores` relates a document's fields to a ledger entry.  Every call keeps the
relation (`related_step`), so every run does, and whatever the ledger says about a
user is what that user's listener is handed next
(`loadReminders_refines_ledger`): no trap, one model for each entry the user
created, and nothing else.

The two encodings of a missing date are visible in the ledger: `addReminder`
stores the empty string, `updateReminder` a null that reads back as `nil`.
-/
import Remindify.Theory.Machine
import Remindify.Network.FirebaseService
import Mathlib.Data.Option.Basic

namespace Remindify.Network

open Remindify.Theory

set_option autoImplicit false

/-- A reminder as the screens build it: text views give strings, a date may be
missing. -/
structure Draft where
  title : String
  description : String
  date : Option String
  deriving DecidableEq, Repr

/-- The model the Add screen passes to `addReminder`. -/
def Draft.added (draft : Draft) : ReminderModel :=
  { title := some draft.title, description := some draft.description, date := draft.date }

/-- The model the Edit screen passes to `updateReminder` for a listed document. -/
def Draft.edited (draft : Draft) (documentID : DocumentID) : ReminderModel :=
  { title := some draft.title, description := some draft.description, date := draft.date
    documentID := some documentID }

/-- A write to the collection; `add` carries the ID `addDocument` picks. -/
inductive Write where
  | add (draft : Draft) (documentID : DocumentID)
  | update (documentID : DocumentID) (draft : Draft)
  | delete (documentID : DocumentID)
  deriving DecidableEq, Repr

/-- What happens to the backend; a write may be refused. -/
inductive Call where
  | signIn (user : User)
  | signOut
  | write (write : Write) (accepted : Bool)
  deriving DecidableEq, Repr

/-! ## The collection -/

structure Backend where
  currentUser : Option User
  store : Store

namespace Backend

/-- `none` only for an ID that is already taken. -/
def write (backend : Backend) : Write → Option Backend
  | .add draft documentID =>
      match FirebaseService.addReminder backend.currentUser draft.added with
      | some data =>
          (backend.store.addDocument documentID data).map fun store => { backend with store }
      | none => some backend
  | .update documentID draft =>
      match FirebaseService.updateReminder (draft.edited documentID) with
      | .ok (id, data) =>
          match backend.store.updateData id data with
          | .ok store => some { backend with store }
          | .error _ => some backend
      | .error _ => some backend
  | .delete documentID =>
      let store := backend.store.delete (FirebaseService.deleteReminder documentID)
      some { backend with store }

def step (backend : Backend) : Call → Option Backend
  | .signIn user => some { backend with currentUser := some user }
  | .signOut => some { backend with currentUser := none }
  | .write write true => backend.write write
  | .write _ false => some backend

/-- Nobody signed in, no documents. -/
def empty : Backend := { currentUser := none, store := ∅ }

def machine : Machine Backend Call := { init := (· = empty), step }

/-- What the listener registered for `uid` is handed next. -/
def delivered (backend : Backend) (uid : String) :
    Except Trap (Except NSError (List ReminderModel)) :=
  FirebaseService.loadRemindersListener uid none (some (backend.store.snapshot uid))

end Backend

/-! ## The ledger -/

/-- A live reminder: who created it, and what was last written to it. -/
structure Entry where
  creator : String
  title : String
  description : String
  date : Option String
  deriving DecidableEq, Repr

/-- The entry as a list shows it. -/
def Entry.model (entry : Entry) (documentID : DocumentID) : ReminderModel :=
  { title := some entry.title, description := some entry.description, date := entry.date
    documentID := some documentID, ownerId := some entry.creator }

/-- A reminder as it is created; a missing date becomes the empty string. -/
def Entry.created (creator : String) (draft : Draft) : Entry :=
  { creator, title := draft.title, description := draft.description
    date := some (draft.date.getD "") }

/-- The same reminder after a later write. -/
def Entry.rewritten (entry : Entry) (draft : Draft) : Entry :=
  { creator := entry.creator, title := draft.title, description := draft.description
    date := draft.date }

structure Ledger where
  signedIn : Option String
  entries : AList fun _ : DocumentID => Entry

namespace Ledger

def write (ledger : Ledger) : Write → Option Ledger
  | .add draft documentID =>
      match ledger.signedIn with
      | some creator =>
          if documentID ∈ ledger.entries then none
          else
            let entries := ledger.entries.insert documentID (.created creator draft)
            some { ledger with entries }
      | none => some ledger
  | .update documentID draft =>
      match ledger.entries.lookup documentID with
      | some entry =>
          let entries := ledger.entries.insert documentID (entry.rewritten draft)
          some { ledger with entries }
      | none => some ledger
  | .delete documentID => some { ledger with entries := ledger.entries.erase documentID }

def step (ledger : Ledger) : Call → Option Ledger
  | .signIn user => some { ledger with signedIn := some user.uid }
  | .signOut => some { ledger with signedIn := none }
  | .write write true => ledger.write write
  | .write _ false => some ledger

def empty : Ledger := { signedIn := none, entries := ∅ }

def machine : Machine Ledger Call := { init := (· = empty), step }

end Ledger

/-! ## The refinement -/

/-- The next list handed to the listener of `uid` is what the ledger holds for
`uid`: no trap, one model for each live reminder `uid` created, nothing else. -/
def Backend.Lists (backend : Backend) (ledger : Ledger) (uid : String) : Prop :=
  ∃ reminders, backend.delivered uid = .ok (.ok reminders) ∧
    (reminders.map (·.documentID)).Nodup ∧
    ∀ reminder, reminder ∈ reminders ↔
      ∃ id entry, ledger.entries.lookup id = some entry ∧ entry.creator = uid ∧
        reminder = entry.model id

/-- The fields of a document are those of a ledger entry. -/
structure Stores (fields : Fields) (entry : Entry) : Prop where
  title : fields.lookup "Title" = some (.string entry.title)
  description : fields.lookup "Description" = some (.string entry.description)
  date : ∃ value, fields.lookup "Date" = some value ∧ value.asString = entry.date
  owner : fields.lookup "ownerId" = some (.string entry.creator)

structure Related (backend : Backend) (ledger : Ledger) : Prop where
  user : ledger.signedIn = backend.currentUser.map (·.uid)
  documents : ∀ id, Option.Rel Stores (backend.store.lookup id) (ledger.entries.lookup id)

theorem related_empty : Related Backend.empty Ledger.empty where
  user := rfl
  documents _ := .none

theorem stores_reminderData (creator : String) (draft : Draft) :
    Stores (FirebaseService.reminderData creator draft.added) (.created creator draft) where
  title := by simp [Draft.added, Entry.created]
  description := by simp [Draft.added, Entry.created]
  date := ⟨.string (draft.date.getD ""), by simp [Draft.added], rfl⟩
  owner := by simp [Entry.created]

/-- An update rewrites the three fields it names and keeps the owner. -/
theorem stores_updateData {fields : Fields} {entry : Entry} (stored : Stores fields entry)
    (draft : Draft) (id : DocumentID) :
    Stores (FirebaseService.updateData (draft.edited id) ∪ fields) (entry.rewritten draft) where
  title := by simp [union_lookup, Draft.edited, Value.ofOptional, Entry.rewritten]
  description := by simp [union_lookup, Draft.edited, Value.ofOptional, Entry.rewritten]
  date := ⟨.ofOptional draft.date, by simp [union_lookup, Draft.edited], by simp [Entry.rewritten]⟩
  owner := by simp [union_lookup, stored.owner, Entry.rewritten]

/-- One document changes in the same way on both sides. -/
theorem rel_insert {store : Store} {entries : AList fun _ : DocumentID => Entry}
    (documents : ∀ id, Option.Rel Stores (store.lookup id) (entries.lookup id))
    {fields : Fields} {entry : Entry} (stored : Stores fields entry) (id : DocumentID)
    (other : DocumentID) :
    Option.Rel Stores ((store.insert id fields).lookup other)
      ((entries.insert id entry).lookup other) := by
  by_cases same : other = id
  · subst same
    rw [AList.lookup_insert, AList.lookup_insert]
    exact .some stored
  · rw [AList.lookup_insert_ne same, AList.lookup_insert_ne same]
    exact documents other

theorem related_mem {backend : Backend} {ledger : Ledger} (related : Related backend ledger)
    (id : DocumentID) : id ∈ backend.store ↔ id ∈ ledger.entries := by
  rw [← AList.lookup_isSome, ← AList.lookup_isSome]
  have here := related.documents id
  generalize backend.store.lookup id = stored at here ⊢
  generalize ledger.entries.lookup id = listed at here ⊢
  cases here <;> simp

theorem related_write {backend backend' : Backend} {ledger : Ledger} {write : Write}
    (related : Related backend ledger) (moved : backend.write write = some backend') :
    ∃ ledger', ledger.write write = some ledger' ∧ Related backend' ledger' := by
  obtain ⟨user, documents⟩ := related
  cases write with
  | add draft id =>
      simp only [Backend.write, FirebaseService.addReminder] at moved
      cases current : backend.currentUser with
      | none =>
          simp only [current, Option.map_none, Option.some.injEq] at moved
          subst moved
          exact ⟨ledger, by simp [Ledger.write, user, current], user, documents⟩
      | some u =>
          simp only [current, Option.map_some, Option.map_eq_some_iff,
            Store.addDocument_eq_some] at moved
          obtain ⟨store, ⟨fresh, rfl⟩, rfl⟩ := moved
          rw [related_mem ⟨user, documents⟩] at fresh
          have signedIn : ledger.signedIn = some u.uid := by rw [user, current, Option.map_some]
          refine ⟨{ ledger with entries := ledger.entries.insert id (.created u.uid draft) },
            by simp only [Ledger.write, signedIn, if_neg fresh], ?_, ?_⟩
          · simp [signedIn]
          · exact rel_insert documents (stores_reminderData u.uid draft) id
  | update id draft =>
      simp only [Backend.write, FirebaseService.updateReminder, Draft.edited] at moved
      have here := documents id
      cases found : backend.store.lookup id with
      | none =>
          rw [found] at here
          simp only [Store.updateData, found, Option.some.injEq] at moved
          subst moved
          cases absent : ledger.entries.lookup id with
          | some entry => rw [absent] at here; cases here
          | none => exact ⟨ledger, by simp [Ledger.write, absent], user, documents⟩
      | some fields =>
          rw [found] at here
          simp only [Store.updateData, found, Option.some.injEq] at moved
          subst moved
          cases listed : ledger.entries.lookup id with
          | none => rw [listed] at here; cases here
          | some entry =>
              rw [listed] at here
              cases here with
              | some stored =>
                  refine
                    ⟨{ ledger with entries := ledger.entries.insert id (entry.rewritten draft) },
                      by simp only [Ledger.write, listed], user, ?_⟩
                  exact rel_insert documents (stores_updateData stored draft id) id
  | delete id =>
      simp only [Backend.write, FirebaseService.deleteReminder, Option.some.injEq] at moved
      subst moved
      refine ⟨_, rfl, user, fun other => ?_⟩
      by_cases same : other = id
      · subst same
        simp only [Store.delete, AList.lookup_erase]
        exact .none
      · simp only [Store.delete, AList.lookup_erase_ne same]
        exact documents other

/-- **Every call keeps the ledger and the collection together.** -/
theorem related_step {backend backend' : Backend} {ledger : Ledger} {call : Call}
    (related : Related backend ledger) (moved : backend.step call = some backend') :
    ∃ ledger', ledger.step call = some ledger' ∧ Related backend' ledger' := by
  cases call with
  | signIn user =>
      cases moved
      exact ⟨_, rfl, rfl, related.documents⟩
  | signOut =>
      cases moved
      exact ⟨_, rfl, rfl, related.documents⟩
  | write write accepted =>
      cases accepted with
      | true => exact related_write related moved
      | false =>
          cases moved
          exact ⟨ledger, rfl, related⟩

/-- A stored entry is read back as it is. -/
theorem decode_stores {fields : Fields} {entry : Entry} (stored : Stores fields entry)
    (id : DocumentID) :
    FirebaseService.decode entry.creator ⟨id, fields⟩ = .ok (some (entry.model id)) := by
  obtain ⟨value, found, read⟩ := stored.date
  simp only [FirebaseService.decode, stored.title, stored.description, found, read,
    Option.bind_some, Value.asString_string, Entry.model]

/-- The documents the query returns to `uid` are the entries `uid` created. -/
theorem mem_query_iff {backend : Backend} {ledger : Ledger} (related : Related backend ledger)
    (uid : String) (id : DocumentID) (fields : Fields) :
    (⟨id, fields⟩ : Document) ∈ backend.store.query uid ↔
      ∃ entry, backend.store.lookup id = some fields ∧ ledger.entries.lookup id = some entry ∧
        Stores fields entry ∧ entry.creator = uid := by
  rw [Store.mem_query]
  constructor
  · rintro ⟨found, owned, -⟩
    have here := related.documents id
    simp only at found owned
    rw [found] at here
    cases listed : ledger.entries.lookup id with
    | none => rw [listed] at here; cases here
    | some entry =>
        rw [listed] at here
        cases here with
        | some stored =>
            have same : entry.creator = uid := by simpa [stored.owner] using owned
            exact ⟨entry, found, rfl, stored, same⟩
  · rintro ⟨entry, found, -, stored, rfl⟩
    obtain ⟨value, dated, -⟩ := stored.date
    exact ⟨found, stored.owner, by simp [dated]⟩

/-- What a listener is handed, read off the ledger. -/
theorem delivered_of_related {backend : Backend} {ledger : Ledger}
    (related : Related backend ledger) (uid : String) : backend.Lists ledger uid := by
  -- on the query's documents the ledger entry is a function of the ID
  let model (d : Document) : ReminderModel :=
    ((ledger.entries.lookup d.documentID).map (·.model d.documentID)).getD {}
  have readable : ∀ d ∈ (backend.store.snapshot uid).documents,
      FirebaseService.decode uid d = .ok (some (model d)) := by
    rintro ⟨id, fields⟩ member
    obtain ⟨entry, -, listed, stored, rfl⟩ := (mem_query_iff related uid id fields).1 member
    simpa [model, listed] using decode_stores stored id
  have delivered := FirebaseService.loadRemindersListener_of_readable readable
  refine ⟨_, delivered, (FirebaseService.loadRemindersListener_spec delivered).2, ?_⟩
  intro reminder
  rw [List.mem_map]
  constructor
  · rintro ⟨⟨id, fields⟩, member, rfl⟩
    obtain ⟨entry, -, listed, -, created⟩ := (mem_query_iff related uid id fields).1 member
    exact ⟨id, entry, listed, created, by simp [model, listed]⟩
  · rintro ⟨id, entry, listed, created, rfl⟩
    have here := related.documents id
    rw [listed] at here
    cases found : backend.store.lookup id with
    | none => rw [found] at here; cases here
    | some fields =>
        rw [found] at here
        cases here with
        | some stored =>
            exact ⟨⟨id, fields⟩, (mem_query_iff related uid id fields).2
              ⟨entry, found, listed, stored, created⟩, by simp [model, listed]⟩

/-- **The collection refines the ledger.**  After any sequence of sign-ins,
sign-outs, adds, updates and deletes, the next list handed to the listener of any
user is not a trap and holds exactly one model for each live reminder that user
created, as last written. -/
theorem loadReminders_refines_ledger {calls : List Call} {backend : Backend}
    (ran : Backend.machine.run Backend.empty calls = some backend) :
    ∃ ledger, Ledger.machine.run Ledger.empty calls = some ledger ∧
      ∀ uid, backend.Lists ledger uid := by
  obtain ⟨ledger, ran', related⟩ :=
    Machine.run_simulates (M := Backend.machine) (A := Ledger.machine) (R := Related) id
      (fun _ _ _ _ related moved => related_step related moved) related_empty ran
  rw [List.map_id] at ran'
  exact ⟨ledger, ran', delivered_of_related related⟩

/-- Two users, one document each, the first one rewritten without a date. -/
def twoUsers : List Call :=
  [.signIn ⟨"ann", none⟩, .write (.add ⟨"Milk", "", none⟩ "d1") true, .signOut,
    .write (.add ⟨"Lost", "", none⟩ "d0") true, .signIn ⟨"bob", none⟩,
    .write (.add ⟨"Call", "home", some "09:00 01/02/2030"⟩ "d2") true,
    .write (.update "d1" ⟨"Milk", "two", none⟩) true,
    .write (.delete "d2") false]

def twoUsersBackend : Backend :=
  (Backend.machine.run Backend.empty twoUsers).getD Backend.empty

theorem twoUsers_refines_ledger :
    ∃ ledger, Ledger.machine.run Ledger.empty twoUsers = some ledger ∧
      ∀ uid, twoUsersBackend.Lists ledger uid :=
  loadReminders_refines_ledger
    (show Backend.machine.run Backend.empty twoUsers = some twoUsersBackend from rfl)

example : twoUsersBackend.delivered "ann" =
    .ok (.ok [(⟨"ann", "Milk", "two", none⟩ : Entry).model "d1"]) := by rfl

end Remindify.Network
