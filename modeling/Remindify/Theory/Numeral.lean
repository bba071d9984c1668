/-
# Theory.Numeral -- decimal numerals padded with zeros

`numeral width n` is `n` in decimal, with zeros in front up to `width` digits; a
number with more digits is written whole.

* `ofDigitChars_numeral`: the number is read back, so a numeral determines it;
* `length_numeral`: what fits in the width takes exactly the width;
* `numeral_lt_numeral`: among numerals of one length, the order of the texts is the
  order of the numbers.

`signed` writes a negative number with a minus sign in front.
-/
import Mathlib.Algebra.GroupWithZero.Nat

namespace Remindify.Theory.Numeral

set_option autoImplicit false

def numeral (width n : Nat) : List Char :=
  List.replicate (width - (Nat.toDigits 10 n).length) '0' ++ Nat.toDigits 10 n

/-- A number written with its sign, if it has one. -/
def signed (width : Nat) : Int → List Char
  | .ofNat n => numeral width n
  | .negSucc n => '-' :: numeral width (n + 1)

section Read

variable {width : Nat}

theorem isDigit_of_mem_numeral {n : Nat} {c : Char} (member : c ∈ numeral width n) :
    c.isDigit = true := by
  rcases List.mem_append.1 member with zero | digit
  · rw [List.eq_of_mem_replicate zero]
    decide
  · exact Nat.isDigit_of_mem_toDigits (by decide) (by decide) digit

theorem numeral_ne_nil (width n : Nat) : numeral width n ≠ [] := by
  simp [numeral]

/-- **A numeral is read back.** -/
@[simp] theorem ofDigitChars_numeral (n : Nat) :
    Nat.ofDigitChars 10 (numeral width n) 0 = n := by
  rw [numeral, Nat.ofDigitChars_append, Nat.ofDigitChars_replicate_zero, Nat.mul_zero,
    Nat.ofDigitChars_ten_toDigits]

theorem numeral_inj {width' m n : Nat} (same : numeral width m = numeral width' n) : m = n := by
  have values := congrArg (fun digits => Nat.ofDigitChars 10 digits 0) same
  simpa using values

theorem signed_of_nonneg {n : Int} (nonneg : 0 ≤ n) : signed width n = numeral width n.toNat := by
  obtain ⟨k, rfl⟩ := Int.eq_ofNat_of_zero_le nonneg
  rfl

/-- A numeral has no sign. -/
theorem numeral_ne_sign {n : Nat} {digits rest rest' : List Char} :
    numeral width n ++ rest ≠ '-' :: digits ++ rest' := by
  intro same
  obtain ⟨c, cs, starts⟩ := List.exists_cons_of_ne_nil (numeral_ne_nil width n)
  rw [starts, List.cons_append, List.cons_append, List.cons.injEq] at same
  have digit : c.isDigit = true :=
    isDigit_of_mem_numeral (starts ▸ List.mem_cons_self ..)
  rw [same.1] at digit
  exact absurd digit (by decide)

end Read

/-! ## Order -/

section Order

theorem ofDigitChars_lt_of_lt {a b : List Char} (length : a.length = b.length)
    (digits : ∀ c ∈ a, c.isDigit = true) {i j : Nat} (below : i < j) :
    Nat.ofDigitChars 10 a i < Nat.ofDigitChars 10 b j := by
  induction a generalizing b i j with
  | nil =>
      obtain rfl : b = [] := List.eq_nil_of_length_eq_zero length.symm
      simpa using below
  | cons c a ih =>
      obtain ⟨d, b, rfl⟩ := List.exists_cons_of_length_eq_add_one length.symm
      have nine := Char.isDigit_iff_toNat.1 (digits c (List.mem_cons_self ..))
      rw [Nat.ofDigitChars_cons, Nat.ofDigitChars_cons]
      have rest : a.length = b.length := by simpa using length
      refine ih rest (fun e member => digits e (List.mem_cons_of_mem _ member)) ?_
      simp only [Char.reduceToNat] at nine ⊢
      omega

/-- Digit strings of one length compare as the numbers they are. -/
theorem lt_iff_ofDigitChars_lt {a b : List Char} (length : a.length = b.length)
    (digitsA : ∀ c ∈ a, c.isDigit = true) (digitsB : ∀ c ∈ b, c.isDigit = true) (i : Nat) :
    a < b ↔ Nat.ofDigitChars 10 a i < Nat.ofDigitChars 10 b i := by
  induction a generalizing b i with
  | nil =>
      obtain rfl : b = [] := List.eq_nil_of_length_eq_zero length.symm
      simp
  | cons c a ih =>
      obtain ⟨d, b, rfl⟩ := List.exists_cons_of_length_eq_add_one length.symm
      have rest : a.length = b.length := by simpa using length
      have laterA : ∀ e ∈ a, e.isDigit = true := fun e member =>
        digitsA e (List.mem_cons_of_mem _ member)
      have laterB : ∀ e ∈ b, e.isDigit = true := fun e member =>
        digitsB e (List.mem_cons_of_mem _ member)
      have digitC := Char.isDigit_iff_toNat.1 (digitsA c (List.mem_cons_self ..))
      have digitD := Char.isDigit_iff_toNat.1 (digitsB d (List.mem_cons_self ..))
      simp only [Char.reduceToNat] at digitC digitD
      rw [List.cons_lt_cons_iff, Nat.ofDigitChars_cons, Nat.ofDigitChars_cons]
      have order : c < d ↔ c.toNat < d.toNat := Iff.rfl
      -- the first digits decide, unless they are equal
      by_cases same : c = d
      · subst same
        rw [← ih rest laterA laterB (10 * i + (c.toNat - '0'.toNat))]
        simp
      · have apart : c.toNat ≠ d.toNat := fun equal => same (Char.toNat_inj.1 equal)
        simp only [same, false_and, or_false, order, Char.reduceToNat]
        rcases Nat.lt_or_gt_of_ne apart with first | first
        · have decided := ofDigitChars_lt_of_lt (i := 10 * i + (c.toNat - 48))
            (j := 10 * i + (d.toNat - 48)) rest laterA (by omega)
          exact ⟨fun _ => decided, fun _ => first⟩
        · have decided := ofDigitChars_lt_of_lt (i := 10 * i + (d.toNat - 48))
            (j := 10 * i + (c.toNat - 48)) rest.symm laterB (by omega)
          exact ⟨fun below => by omega, fun below => by omega⟩

theorem length_numeral {width n : Nat} (fits : n < 10 ^ width) (room : 0 < width) :
    (numeral width n).length = width := by
  have short := (Nat.length_toDigits_le_iff (b := 10) (by decide) room).2 fits
  simp only [numeral, List.length_append, List.length_replicate]
  omega

/-- **Numerals of one length compare as their numbers.** -/
theorem numeral_lt_numeral {width width' m n : Nat}
    (length : (numeral width m).length = (numeral width' n).length) :
    numeral width m < numeral width' n ↔ m < n := by
  rw [lt_iff_ofDigitChars_lt length (fun _ => isDigit_of_mem_numeral)
    (fun _ => isDigit_of_mem_numeral) 0, ofDigitChars_numeral, ofDigitChars_numeral]

end Order

end Remindify.Theory.Numeral
