/-
# Network.Firestore -- the document store the service talks to

A collection of Firestore maps document IDs to field maps.  This module is what the app
asks of it, as the client in `Pods/FirebaseFirestore` applies it: the mutations of
`FIRCollectionReference.mm` and `document_reference.cc`, the matching of `query.cc` and the
order of values of `field_value.cc`.  The server applies the same; whether it takes a write,
and when it answers, is given.

* `Store.addDocument` creates a document under an ID no document has;
* `Store.updateData` overwrites exactly the named fields, and fails on a missing
  document (`updateData_lookup`);
* `Store.delete` removes a document, and does nothing when it is absent;
* `Store.query` is the query of `FirebaseService.loadReminders`: the documents of
  one owner that have a `Date` field, latest `Date` value first.

A value the app cannot read as a string is kept as its kind only: nothing in the
app looks inside one.
-/
import Mathlib.Data.List.AList
import Mathlib.Data.List.Sort

namespace Remindify.Network

set_option autoImplicit false

/-- Kinds of value the app reads as "not a string". -/
inductive Kind where
  | boolean
  | number
  | timestamp
  | bytes
  | reference
  | geoPoint
  | array
  | map
  deriving DecidableEq, Repr

inductive Value where
  | null
  | string (text : String)
  | other (kind : Kind)
  deriving DecidableEq, Repr

namespace Value

/-- The cast `as? String`. -/
def asString : Value → Option String
  | .string text => some text
  | _ => none

/-- An optional string stored through `Any`: `nil` arrives as null. -/
def ofOptional : Option String → Value
  | some text => .string text
  | none => .null

@[simp] theorem asString_string (text : String) : (string text).asString = some text := rfl

@[simp] theorem asString_ofOptional (text : Option String) :
    (ofOptional text).asString = text := by
  cases text <;> rfl

/-- Firestore's order of types. -/
def rank : Value → Nat
  | .null => 0
  | .other .boolean => 1
  | .other .number => 2
  | .other .timestamp => 3
  | .string _ => 4
  | .other .bytes => 5
  | .other .reference => 6
  | .other .geoPoint => 7
  | .other .array => 8
  | .other .map => 9

/-- Firestore's order of values: by type, strings by their code points (the
order of their UTF-8 bytes). -/
def before : Value → Value → Bool
  | .string s, .string t => decide (s < t)
  | a, b => decide (a.rank < b.rank)

end Value

abbrev DocumentID := String

/-- The fields of a document. -/
abbrev Fields := AList fun _ : String => Value

structure Document where
  documentID : DocumentID
  data : Fields

/-- The collection `reminders`. -/
abbrev Store := AList fun _ : DocumentID => Fields

/-- What a query delivers: documents with distinct IDs. -/
structure Snapshot where
  documents : List Document
  distinct : (documents.map (·.documentID)).Nodup

structure NSError where
  domain : String
  code : Nat
  localizedDescription : String
  deriving DecidableEq, Repr

namespace Store

def addDocument (store : Store) (id : DocumentID) (data : Fields) : Option Store :=
  if id ∈ store then none else some (store.insert id data)

/-- The answer Firestore gives for a document that does not exist. -/
def notFound : NSError :=
  { domain := "FIRFirestoreErrorDomain", code := 5
    localizedDescription := "No document to update" }

def updateData (store : Store) (id : DocumentID) (data : Fields) : Except NSError Store :=
  match store.lookup id with
  | some old => .ok (store.insert id (data ∪ old))
  | none => .error notFound

def delete (store : Store) (id : DocumentID) : Store :=
  store.erase id

/-- `whereField("ownerId", isEqualTo: ownerId)`, and a `Date` to order by. -/
def matchesQuery (ownerId : String) (document : Document) : Bool :=
  decide (document.data.lookup "ownerId" = some (.string ownerId)) &&
    (document.data.lookup "Date").isSome

/-- `order(by: "Date", descending: true)`; equal dates by descending ID. -/
def inOrder (d e : Document) : Prop :=
  let x := (d.data.lookup "Date").getD .null
  let y := (e.data.lookup "Date").getD .null
  y.before x = true ∨ (x.before y = false ∧ e.documentID ≤ d.documentID)

instance (d e : Document) : Decidable (inOrder d e) :=
  inferInstanceAs (Decidable (_ ∨ _))

def documents (store : Store) : List Document :=
  store.entries.map fun entry => ⟨entry.1, entry.2⟩

def query (store : Store) (ownerId : String) : List Document :=
  (store.documents.filter (matchesQuery ownerId)).insertionSort inOrder

theorem mem_documents {store : Store} {d : Document} :
    d ∈ store.documents ↔ store.lookup d.documentID = some d.data := by
  rw [← Option.mem_def, AList.mem_lookup_iff, documents, List.mem_map]
  constructor
  · rintro ⟨entry, member, rfl⟩
    exact member
  · intro member
    exact ⟨_, member, rfl⟩

theorem documents_distinct (store : Store) :
    (store.documents.map (·.documentID)).Nodup := by
  have keys : store.documents.map (·.documentID) = store.keys := by
    simp only [documents, List.map_map, AList.keys, List.keys]
    rfl
  rw [keys]
  exact store.keys_nodup

theorem query_perm (store : Store) (ownerId : String) :
    (store.query ownerId).Perm (store.documents.filter (matchesQuery ownerId)) :=
  List.perm_insertionSort _ _

/-- The query returns exactly the owner's documents that have a `Date`. -/
theorem mem_query {store : Store} {ownerId : String} {d : Document} :
    d ∈ store.query ownerId ↔ store.lookup d.documentID = some d.data ∧
      d.data.lookup "ownerId" = some (.string ownerId) ∧ (d.data.lookup "Date").isSome := by
  rw [(query_perm store ownerId).mem_iff, List.mem_filter, mem_documents]
  simp [matchesQuery]

theorem query_distinct (store : Store) (ownerId : String) :
    ((store.query ownerId).map (·.documentID)).Nodup := by
  rw [((query_perm store ownerId).map _).nodup_iff]
  exact (store.documents_distinct.sublist (List.filter_sublist.map _))

/-- The snapshot delivered to a listener of this query. -/
def snapshot (store : Store) (ownerId : String) : Snapshot :=
  ⟨store.query ownerId, store.query_distinct ownerId⟩

theorem addDocument_eq_some {store store' : Store} {id : DocumentID} {data : Fields} :
    store.addDocument id data = some store' ↔ id ∉ store ∧ store' = store.insert id data := by
  unfold addDocument
  split <;> simp_all [eq_comm]

/-- An update touches one document. -/
theorem updateData_eq_ok {store store' : Store} {id : DocumentID} {data : Fields} :
    store.updateData id data = .ok store' ↔
      ∃ old, store.lookup id = some old ∧ store' = store.insert id (data ∪ old) := by
  unfold updateData
  cases store.lookup id <;> simp [eq_comm]

end Store

/-- An update overwrites the fields it names and leaves the others. -/
theorem union_lookup (data old : Fields) (name : String) :
    (data ∪ old).lookup name = (data.lookup name).or (old.lookup name) := by
  by_cases named : name ∈ data
  · rw [AList.lookup_union_left named]
    obtain ⟨v, found⟩ := Option.isSome_iff_exists.1 (AList.lookup_isSome.2 named)
    simp [found]
  · rw [AList.lookup_union_right named, AList.lookup_eq_none.2 named, Option.none_or]

end Remindify.Network
