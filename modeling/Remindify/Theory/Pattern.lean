/-
# Theory.Pattern -- texts made of numeric fields and literal characters

A pattern lists fields, each a name and a least number of digits, and literal
characters between them.  `render` writes a value for every field; `read` reads as
many digits as there are for a field, and exactly the literals.

* `render_eq_render`: when every field is followed by a literal that is no digit, the
  text determines the values;
* `read_render`: such a text is read back;
* `render_lt_render`: when the values fit their widths, texts are ordered by the values
  of the fields, those written first counting first.
-/
import Remindify.Theory.Numeral

namespace Remindify.Theory.Pattern

open Remindify.Theory.Numeral

set_option autoImplicit false

universe u v

inductive Item (F : Type u) where
  | field (name : F) (width : Nat)
  | literal (c : Char)
  deriving DecidableEq, Repr

variable {F : Type u}

def fields : List (Item F) → List F
  | [] => []
  | .field name _ :: rest => name :: fields rest
  | .literal _ :: rest => fields rest

def render (value : F → Int) : List (Item F) → List Char
  | [] => []
  | .field name width :: rest => signed width (value name) ++ render value rest
  | .literal c :: rest => c :: render value rest

def read : List (Item F) → List Char → Option (List (F × Nat))
  | [], [] => some []
  | [], _ :: _ => none
  | .literal _ :: _, [] => none
  | .literal c :: rest, d :: text => if c = d then read rest text else none
  | .field name _ :: rest, text =>
      let digits := text.takeWhile Char.isDigit
      if digits = [] then none
      else (read rest (text.dropWhile Char.isDigit)).map fun values =>
        (name, Nat.ofDigitChars 10 digits 0) :: values

/-- No digit comes first, so digits before the pattern end where it begins. -/
def endsDigits : List (Item F) → Bool
  | [] => true
  | .literal c :: _ => !c.isDigit
  | .field _ _ :: _ => false

/-- Every field ends where its digits do. -/
def separated : List (Item F) → Bool
  | [] => true
  | .literal _ :: rest => separated rest
  | .field _ _ :: rest => endsDigits rest && separated rest

/-- A field under another name. -/
def Item.rename {G : Type v} (f : F → G) : Item F → Item G
  | .field name width => .field (f name) width
  | .literal c => .literal c

theorem render_rename {G : Type v} (f : F → G) (value : G → Int) (pattern : List (Item F)) :
    render value (pattern.map (Item.rename f)) = render (fun name => value (f name)) pattern := by
  induction pattern with
  | nil => rfl
  | cons item rest ih =>
      cases item with
      | field name width => simp only [List.map_cons, Item.rename, render, ih]
      | literal c => simp only [List.map_cons, Item.rename, render, ih]

/-! ## Where digits end -/

section Digits

variable {digits text : List Char}

theorem takeWhile_digits (all : ∀ c ∈ digits, c.isDigit = true)
    (stop : ∀ c ∈ text.head?, c.isDigit = false) :
    (digits ++ text).takeWhile Char.isDigit = digits := by
  rw [List.takeWhile_append_of_pos all]
  cases text with
  | nil => simp
  | cons c rest => simp [stop c rfl]

theorem dropWhile_digits (all : ∀ c ∈ digits, c.isDigit = true)
    (stop : ∀ c ∈ text.head?, c.isDigit = false) :
    (digits ++ text).dropWhile Char.isDigit = text := by
  rw [List.dropWhile_append_of_pos all]
  cases text with
  | nil => rfl
  | cons c rest => simp [stop c rfl]

theorem numeral_append_inj {width m n : Nat} {text' : List Char}
    (stop : ∀ c ∈ text.head?, c.isDigit = false) (stop' : ∀ c ∈ text'.head?, c.isDigit = false)
    (same : numeral width m ++ text = numeral width n ++ text') : m = n ∧ text = text' := by
  have allM : ∀ c ∈ numeral width m, c.isDigit = true := fun _ => isDigit_of_mem_numeral
  have allN : ∀ c ∈ numeral width n, c.isDigit = true := fun _ => isDigit_of_mem_numeral
  have taken := congrArg (List.takeWhile Char.isDigit) same
  have dropped := congrArg (List.dropWhile Char.isDigit) same
  rw [takeWhile_digits allM stop, takeWhile_digits allN stop'] at taken
  rw [dropWhile_digits allM stop, dropWhile_digits allN stop'] at dropped
  exact ⟨numeral_inj taken, dropped⟩

theorem signed_append_inj {width : Nat} {m n : Int} {text' : List Char}
    (stop : ∀ c ∈ text.head?, c.isDigit = false) (stop' : ∀ c ∈ text'.head?, c.isDigit = false)
    (same : signed width m ++ text = signed width n ++ text') : m = n ∧ text = text' := by
  cases m with
  | ofNat m =>
      cases n with
      | ofNat n =>
          obtain ⟨value, rest⟩ := numeral_append_inj stop stop' same
          exact ⟨by rw [value], rest⟩
      | negSucc n => exact absurd same numeral_ne_sign
  | negSucc m =>
      cases n with
      | ofNat n => exact absurd same.symm numeral_ne_sign
      | negSucc n =>
          simp only [signed, List.cons_append, List.cons.injEq, true_and] at same
          obtain ⟨value, rest⟩ := numeral_append_inj stop stop' same
          exact ⟨by rw [Nat.succ.inj value], rest⟩

end Digits

/-! ## The text determines the values -/

section Determined

variable {value value' : F → Int}

theorem render_head {pattern : List (Item F)} (ends : endsDigits pattern = true) :
    ∀ c ∈ (render value pattern).head?, c.isDigit = false := by
  intro c first
  cases pattern with
  | nil => cases first
  | cons item rest =>
      cases item with
      | field name width => cases ends
      | literal d =>
          cases first
          simpa [endsDigits] using ends

/-- **Equal texts have equal values.** -/
theorem render_eq_render {pattern : List (Item F)} (sep : separated pattern = true) :
    render value pattern = render value' pattern ↔
      ∀ name ∈ fields pattern, value name = value' name := by
  induction pattern with
  | nil => simp [render, fields]
  | cons item rest ih =>
      cases item with
      | literal c =>
          simp only [render, fields, List.cons.injEq, true_and]
          exact ih sep
      | field name width =>
          simp only [separated, Bool.and_eq_true] at sep
          obtain ⟨ends, sep⟩ := sep
          simp only [render, fields, List.forall_mem_cons]
          constructor
          · intro same
            obtain ⟨here, later⟩ := signed_append_inj (render_head ends) (render_head ends) same
            exact ⟨here, (ih sep).1 later⟩
          · rintro ⟨here, later⟩
            rw [here, (ih sep).2 later]

/-- **What is rendered is read back.** -/
theorem read_render {pattern : List (Item F)} (sep : separated pattern = true)
    (nonneg : ∀ name ∈ fields pattern, 0 ≤ value name) :
    read pattern (render value pattern) =
      some ((fields pattern).map fun name => (name, (value name).toNat)) := by
  induction pattern with
  | nil => rfl
  | cons item rest ih =>
      cases item with
      | literal c =>
          simp only [render, read, fields, if_true]
          exact ih sep nonneg
      | field name width =>
          simp only [separated, Bool.and_eq_true] at sep
          obtain ⟨ends, sep⟩ := sep
          obtain ⟨here, later⟩ := List.forall_mem_cons.1 nonneg
          have all : ∀ c ∈ numeral width (value name).toNat, c.isDigit = true :=
            fun _ => isDigit_of_mem_numeral
          have stop : ∀ c ∈ (render value rest).head?, c.isDigit = false := render_head ends
          simp only [render, read, fields, signed_of_nonneg here, takeWhile_digits all stop,
            dropWhile_digits all stop, numeral_ne_nil, if_false, ih sep later,
            ofDigitChars_numeral, Option.map_some, List.map_cons]

end Determined

/-! ## The order of texts -/

section Order

/-- What is decided first, second or third is decided first or second, or third. -/
theorem decided_assoc (p q r s t : Prop) : (p ∨ q ∧ (r ∨ s ∧ t)) ↔ ((p ∨ q ∧ r) ∨ (q ∧ s) ∧ t) := by
  rw [and_or_left, or_assoc, and_assoc]

/-- Lists that agree in the length of a first part are compared by that part first. -/
theorem append_lt_append {α : Type u} [LT α] {a b x y : List α} (length : a.length = b.length) :
    a ++ x < b ++ y ↔ a < b ∨ a = b ∧ x < y := by
  induction a generalizing b with
  | nil =>
      obtain rfl : b = [] := List.eq_nil_of_length_eq_zero length.symm
      simp
  | cons c a ih =>
      obtain ⟨d, b, rfl⟩ := List.exists_cons_of_length_eq_add_one length.symm
      have rest : a.length = b.length := by simpa using length
      rw [List.cons_append, List.cons_append, List.cons_lt_cons_iff, List.cons_lt_cons_iff,
        List.cons.injEq, ih rest, decided_assoc]

/-- Every value is written with exactly the digits of its field. -/
def Fits (value : F → Int) (pattern : List (Item F)) : Prop :=
  ∀ name width, Item.field name width ∈ pattern →
    0 < width ∧ 0 ≤ value name ∧ (value name).toNat < 10 ^ width

variable {value value' : F → Int}

theorem Fits.tail {item : Item F} {rest : List (Item F)} (fits : Fits value (item :: rest)) :
    Fits value rest :=
  fun name width member => fits name width (List.mem_cons_of_mem _ member)

/-- **The order of rendered texts** is the order of the values, field by field, and
beyond the fields that fit the order of what follows. -/
theorem render_lt_render {pattern more : List (Item F)} (fits : Fits value pattern)
    (fits' : Fits value' pattern) :
    render value (pattern ++ more) < render value' (pattern ++ more) ↔
      (fields pattern).map value < (fields pattern).map value' ∨
        (fields pattern).map value = (fields pattern).map value' ∧
          render value more < render value' more := by
  induction pattern with
  | nil => simp [fields]
  | cons item rest ih =>
      cases item with
      | literal c =>
          simp only [List.cons_append, render, fields, List.cons_lt_cons_self]
          exact ih fits.tail fits'.tail
      | field name width =>
          obtain ⟨room, nonneg, small⟩ := fits name width (List.mem_cons_self ..)
          obtain ⟨-, nonneg', small'⟩ := fits' name width (List.mem_cons_self ..)
          have length : (numeral width (value name).toNat).length =
              (numeral width (value' name).toNat).length := by
            rw [length_numeral small room, length_numeral small' room]
          have below : (value name).toNat < (value' name).toNat ↔ value name < value' name := by
            omega
          have same : numeral width (value name).toNat = numeral width (value' name).toNat ↔
              value name = value' name := by
            constructor
            · intro texts
              have values := numeral_inj texts
              omega
            · intro values
              rw [values]
          simp only [List.cons_append, render, fields, List.map_cons, signed_of_nonneg nonneg,
            signed_of_nonneg nonneg']
          rw [append_lt_append length, numeral_lt_numeral length, below, same,
            List.cons_lt_cons_iff, List.cons.injEq, ih fits.tail fits'.tail, decided_assoc]

end Order

end Remindify.Theory.Pattern
