import Mathlib
import Timeline.Text.Decimal
import Timeline.Number.Read
/-!
# Reading decimal numerals back

The numerals the library writes (`padded`) and the digit runs evidence holds are
read back by the number reader.

* `padded w n` is zeros then the digits of `n`: its characters are digits, it
  has `w` of them when `n` has at most `w` digits (`length_padded`), and it
  reads as `n` (`ofDigitChars_padded`). A positive number has no zero in front
  (`head?_toDigits_ne_zero`).
* A non-empty run of ASCII digits reads as the number it spells
  (`readInteger?_of_digits`), and as a 64-bit or 32-bit integer when it fits
  (`readInt64?_of_digits`, `readInt32?_of_digits`).
-/

namespace Timeline.Text

/-! ## Padded numerals -/

theorem toList_padded (w n : Nat) :
    (padded w n).toList = List.replicate (w - (Nat.toDigits 10 n).length) '0' ++ Nat.toDigits 10 n := by
  simp [padded, natDigits]

theorem isDigit_of_mem_padded {w n : Nat} {c : Char} (h : c ∈ (padded w n).toList) :
    c.isDigit = true := by
  rw [toList_padded, List.mem_append, List.mem_replicate] at h
  rcases h with ⟨-, rfl⟩ | h
  · rfl
  · exact Nat.isDigit_of_mem_toDigits (by decide) (by decide) h

theorem ofDigitChars_padded (w n : Nat) : Nat.ofDigitChars 10 (padded w n).toList 0 = n := by
  rw [toList_padded, Nat.ofDigitChars_append, Nat.ofDigitChars_replicate_zero, Nat.mul_zero,
    Nat.ofDigitChars_ten_toDigits]

theorem length_padded {w n : Nat} (hw : 0 < w) (h : n < 10 ^ w) : (padded w n).toList.length = w := by
  have := (Nat.length_toDigits_le_iff (by decide) hw).mpr h
  simp only [toList_padded, List.length_append, List.length_replicate]
  omega

/-- A positive number has no zero in front. -/
theorem head?_toDigits_ne_zero {n : Nat} (h : 0 < n) : (Nat.toDigits 10 n).head? ≠ some '0' := by
  induction n using Nat.strongRecOn with
  | ind n ih =>
    rw [Nat.toDigits_eq_if (by decide)]
    split
    · rename_i hlt
      have : ∀ m < 10, 0 < m → Nat.digitChar m ≠ '0' := by decide
      simpa using this n hlt h
    · rename_i hge
      have ih' := ih (n / 10) (by omega) (by omega)
      rw [List.head?_append]
      cases hd : (Nat.toDigits 10 (n / 10)).head? with
      | none => exact absurd (List.head?_eq_none_iff.mp hd) Nat.toDigits_ne_nil
      | some x => rw [hd] at ih'; simpa using ih'

/-! ## Runs of digits -/

theorem toNat_of_isDigit {c : Char} (h : c.isDigit = true) : 48 ≤ c.toNat ∧ c.toNat ≤ 57 := by
  simp only [Char.isDigit, Bool.and_eq_true, decide_eq_true_eq] at h
  exact h

/-- Digits read after a number `init` make a number below the next power of ten
above it. -/
theorem ofDigitChars_lt_init {ds : List Char} (hd : ∀ c ∈ ds, c.isDigit = true) (init : Nat) :
    Nat.ofDigitChars 10 ds init < 10 ^ ds.length * (init + 1) := by
  induction ds generalizing init with
  | nil => simp
  | cons c cs ih =>
    have hc := toNat_of_isDigit (hd c List.mem_cons_self)
    have hcs := ih (fun c' h => hd c' (List.mem_cons_of_mem _ h)) (10 * init + (c.toNat - '0'.toNat))
    have h0 : '0'.toNat = 48 := rfl
    rw [Nat.ofDigitChars_cons, List.length_cons, Nat.pow_succ]
    calc _ < 10 ^ cs.length * (10 * init + (c.toNat - '0'.toNat) + 1) := hcs
      _ ≤ 10 ^ cs.length * 10 * (init + 1) := by
        rw [Nat.mul_assoc]
        exact Nat.mul_le_mul_left _ (by omega)

/-- `n` digits spell a number below `10 ^ n`. -/
theorem ofDigitChars_lt {ds : List Char} (hd : ∀ c ∈ ds, c.isDigit = true) :
    Nat.ofDigitChars 10 ds 0 < 10 ^ ds.length := by
  simpa using ofDigitChars_lt_init hd 0

theorem digitsValue_eq (ds : List Char) : Number.digitsValue ds = Nat.ofDigitChars 10 ds 0 := by
  unfold Number.digitsValue Nat.ofDigitChars
  congr
  funext acc c
  rw [Nat.mul_comm]

/-- A non-empty run of ASCII digits reads as the number it spells. -/
theorem readInteger?_of_digits {ds : List Char} (hne : ds ≠ []) (hd : ∀ c ∈ ds, c.isDigit = true) :
    Number.readInteger? (String.ofList ds) = some (Nat.ofDigitChars 10 ds 0 : Int) := by
  obtain ⟨c, cs, rfl⟩ := List.exists_cons_of_ne_nil hne
  have hc := hd c List.mem_cons_self
  have hplus : c ≠ '+' := by rintro rfl; cases hc
  have hminus : c ≠ '-' := by rintro rfl; cases hc
  have hall : (c :: cs).all Char.isDigit = true := List.all_eq_true.mpr hd
  simp only [Number.readInteger?, String.toList_ofList]
  split
  · rename_i rest h; cases h; exact absurd rfl hminus
  · rename_i rest h; cases h; exact absurd rfl hplus
  · simp [hall, digitsValue_eq]

theorem readInt64?_of_digits {ds : List Char} (hne : ds ≠ []) (hd : ∀ c ∈ ds, c.isDigit = true)
    (hfit : (Nat.ofDigitChars 10 ds 0 : Int) ≤ Number.int64Max) :
    Number.readInt64? (String.ofList ds) = some (Nat.ofDigitChars 10 ds 0 : Int) := by
  simp only [Number.readInt64?, readInteger?_of_digits hne hd, Option.filter_some, Number.int64Min,
    Bool.and_eq_true]
  rw [if_pos ⟨decide_eq_true (by omega), decide_eq_true hfit⟩]

theorem readInt32?_of_digits {ds : List Char} (hne : ds ≠ []) (hd : ∀ c ∈ ds, c.isDigit = true)
    (hfit : Nat.ofDigitChars 10 ds 0 ≤ 2147483647) :
    Number.readInt32? (String.ofList ds) = some (Nat.ofDigitChars 10 ds 0 : Int) := by
  simp only [Number.readInt32?, readInteger?_of_digits hne hd, Option.filter_some, Bool.and_eq_true]
  rw [if_pos ⟨decide_eq_true (by omega), decide_eq_true (by omega)⟩]

end Timeline.Text
