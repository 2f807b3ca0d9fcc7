import Mathlib.Algebra.Group.Nat.Defs
import Mathlib.Data.List.Induction
import SessionGateway.Text.Blank
import SessionGateway.Text.Decimal

/-! Reading a number back from its digits. A reader of digits stops at the first character that is
no digit, or when it has taken as many as it may. -/

namespace SessionGateway.Text

theorem isBlank_eq_false_of_isDigit {c : Char} (h : c.isDigit = true) : isBlank c = false := by
  have bounds : 48 ≤ c.toNat ∧ c.toNat ≤ 57 := by
    simp only [Char.isDigit, Bool.and_eq_true, decide_eq_true_eq, UInt32.le_iff_toNat_le] at h
    exact h
  simp [isBlank, blankRanges, inRanges_cons]
  omega

theorem skipBlanks_of_isDigit {c : Char} (cs : List Char) (h : c.isDigit = true) :
    skipBlanks (c :: cs) = c :: cs :=
  skipBlanks_cons_of_not_isBlank cs (isBlank_eq_false_of_isDigit h)

theorem isDigit_of_mem_decimalPadded {width n : Nat} {c : Char} (h : c ∈ decimalPadded width n) :
    c.isDigit = true := by
  rcases List.mem_append.mp h with zero | digit
  · rw [(List.mem_replicate.mp zero).2]
    rfl
  · exact Nat.isDigit_of_mem_toDigits (by decide) (by decide) digit

theorem decimalPadded_ne_nil (width n : Nat) : decimalPadded width n ≠ [] := by
  simp [decimalPadded, decimal]

theorem length_decimalPadded {width n : Nat} (hw : 0 < width) (h : n < 10 ^ width) :
    (decimalPadded width n).length = width := by
  have short := (Nat.length_toDigits_le_iff (by decide : 1 < 10) hw).mpr h
  simp only [decimalPadded, decimal, List.length_append, List.length_replicate]
  omega

@[simp] theorem decimalValue_decimalPadded (width n : Nat) :
    decimalValue (decimalPadded width n) = n := by
  change Nat.ofDigitChars 10 (decimalPadded width n) 0 = n
  rw [decimalPadded, Nat.ofDigitChars_append, Nat.ofDigitChars_replicate_zero, Nat.mul_zero]
  exact Nat.ofDigitChars_ten_toDigits

theorem digitValue_lt {c : Char} (h : c.isDigit = true) : digitValue c < 10 := by
  have : 48 ≤ c.toNat ∧ c.toNat ≤ 57 := by
    simp only [Char.isDigit, Bool.and_eq_true, decide_eq_true_eq, UInt32.le_iff_toNat_le] at h
    exact h
  change c.toNat - 48 < 10
  omega

theorem decimalValue_lt {ds : List Char} (digits : ∀ c ∈ ds, c.isDigit = true) :
    decimalValue ds < 10 ^ ds.length := by
  induction ds using List.reverseRecOn with
  | nil => decide
  | append_singleton ds d ih =>
    have first := ih fun c member => digits c (List.mem_append_left _ member)
    have last := digitValue_lt (digits d List.mem_concat_self)
    rw [decimalValue] at first ⊢
    rw [List.foldl_append, List.length_append, Nat.pow_add]
    simp only [List.foldl_cons, List.foldl_nil, List.length_singleton]
    omega

theorem takeWhile_isDigit_append {ds rest : List Char} (digits : ∀ c ∈ ds, c.isDigit = true)
    (stop : ∀ c ∈ rest.head?, c.isDigit = false) :
    (ds ++ rest).takeWhile Char.isDigit = ds := by
  rw [List.takeWhile_append_of_pos digits]
  cases rest with
  | nil => simp
  | cons c rest => simp [stop c rfl]

theorem takeWhile_take_append {most : Nat} {ds rest : List Char}
    (digits : ∀ c ∈ ds, c.isDigit = true) (size : ds.length ≤ most)
    (stop : ds.length = most ∨ ∀ c ∈ rest.head?, c.isDigit = false) :
    ((ds ++ rest).take most).takeWhile Char.isDigit = ds := by
  rw [List.take_append, List.take_of_length_le size]
  refine takeWhile_isDigit_append digits ?_
  rcases stop with full | stop
  · simp [full]
  · intro c hc
    cases rest with
    | nil => simp at hc
    | cons d rest =>
      cases more : most - ds.length with
      | zero => simp [more] at hc
      | succ n =>
        rw [more] at hc
        exact stop c (by simpa using hc)

theorem readDigits?_append {most : Nat} {ds rest : List Char}
    (digits : ∀ c ∈ ds, c.isDigit = true) (some_digit : ds ≠ []) (size : ds.length ≤ most)
    (stop : ds.length = most ∨ ∀ c ∈ rest.head?, c.isDigit = false) :
    readDigits? most (ds ++ rest) = some (decimalValue ds, rest) := by
  unfold readDigits?
  rw [takeWhile_take_append digits size stop]
  cases ds with
  | nil => exact absurd rfl some_digit
  | cons d ds => simp

end SessionGateway.Text
