import SessionGateway.Proofs.Json.Utf8
import SessionGateway.Proofs.Text.Decimal

/-! Texts and whole numbers read back from what is written of them. A reader of bytes that meets a
written text finds the written form of the text that it takes the bytes for, so one account of
writing and reading serves for both. -/

namespace SessionGateway.Json

open Text

def quoted (cs : List Char) : List Char :=
  '"' :: cs.flatMap escape ++ ['"']

inductive Escaped (c : Char) : List Char → Prop
  | short {d : Char} (mark : d ≠ 'u') (read : shortEscape? d = some c)
    (ascii : c.toNat < 128 ∧ d.toNat < 128) : Escaped c ['\\', d]
  | code {a b : Char} (read : codeUnit? '0' '0' a b = some c.toNat) (control : c.toNat < 32)
    (ascii : a.toNat < 128 ∧ b.toNat < 128) : Escaped c ['\\', 'u', '0', '0', a, b]
  | plain (quote : c ≠ '"') (backslash : c ≠ '\\') (graphic : 32 ≤ c.toNat) : Escaped c [c]

theorem hexDigits_spec : ∀ n < 16, Bytes.hexValue? (hexDigits.getD n '0') = some n ∧
    (hexDigits.getD n '0').toNat < 128 := by
  decide

theorem Char.eq_ofNat {c : Char} {n : Nat} (h : c.toNat = n) : Char.ofNat n = c := by
  rw [← h, Char.ofNat_toNat]

theorem escaped (c : Char) : Escaped c (escape c) := by
  -- a case for each test of `escape`: the short forms, the other controls, the rest
  unfold escape
  split
  · subst_vars; exact .short (by decide) (by decide) (by decide)
  split
  · subst_vars; exact .short (by decide) (by decide) (by decide)
  split
  · subst_vars; exact .short (by decide) (by decide) (by decide)
  split
  · subst_vars; exact .short (by decide) (by decide) (by decide)
  split
  · subst_vars; exact .short (by decide) (by decide) (by decide)
  split
  · next same =>
    obtain rfl := Char.eq_ofNat same
    exact .short (by decide) (by decide) (by decide)
  split
  · next same =>
    obtain rfl := Char.eq_ofNat same
    exact .short (by decide) (by decide) (by decide)
  split
  · next control =>
    obtain ⟨high, ascii⟩ := hexDigits_spec (c.toNat / 16) (by omega)
    obtain ⟨low, ascii'⟩ := hexDigits_spec (c.toNat % 16) (by omega)
    have zero : Bytes.hexValue? '0' = some 0 := by decide
    refine .code ?_ control ⟨ascii, ascii'⟩
    simp only [codeUnit?, high, low, zero, Option.bind_eq_bind, Option.bind_some]
    congr 1
    omega
  · next quote backslash _ _ _ _ _ control => exact .plain quote backslash (by omega)

theorem readUnits?_escape (c : Char) (rest : List Char) :
    readUnits? (escape c ++ rest) =
      (readUnits? rest).map fun (ns, rest) => (c.toNat :: ns, rest) := by
  have written := escaped c
  generalize escape c = cs at written
  cases written with
  | short mark read ascii =>
    simp only [List.cons_append, List.nil_append]
    rw [readUnits?.eq_def]
    simp [mark, read]
  | code read control ascii => simp [readUnits?, read]
  | plain quote backslash graphic =>
    have low : ¬ c.toNat < 32 := Nat.not_lt.mpr graphic
    simp only [List.cons_append, List.nil_append]
    rw [readUnits?.eq_def]
    simp [backslash, low]

theorem readUnits?_escaped (cs rest : List Char) :
    readUnits? (cs.flatMap escape ++ '"' :: rest) = some (cs.map Char.toNat, rest) := by
  induction cs with
  | nil => simp [readUnits?]
  | cons c cs ih => simp [readUnits?_escape, ih]

theorem not_half (c : Char) : isHighHalf c.toNat = false ∧ isLowHalf c.toNat = false := by
  have valid : c.toNat < 0xd800 ∨ 0xdfff < c.toNat ∧ c.toNat < 0x110000 := c.valid
  simp only [isHighHalf, isLowHalf, Bool.and_eq_false_iff, decide_eq_false_iff_not]
  omega

theorem joinUnits?_chars (cs : List Char) : joinUnits? (cs.map Char.toNat) = some cs := by
  induction cs with
  | nil => rfl
  | cons c cs ih =>
    obtain ⟨high, low⟩ := not_half c
    cases cs with
    | nil => simp [joinUnits?, high, low]
    | cons d ds =>
      rw [List.map_cons] at ih
      simp [joinUnits?, high, low, ih]

theorem readText?_escaped (cs rest : List Char) :
    readText? (cs.flatMap escape ++ '"' :: rest) = some (some cs, rest) := by
  simp [readText?, readUnits?_escaped, joinUnits?_chars]

theorem skipSpace_nil : skipSpace [] = [] := rfl

theorem skipSpace_cons {c : Char} (mark : isSpace c = false) (cs : List Char) :
    skipSpace (c :: cs) = c :: cs := by
  simp [skipSpace, mark]

theorem readValue?_quoted (fuel : Nat) (cs rest : List Char) :
    readValue? (fuel + 1) (quoted cs ++ rest) = some (.str (.ofList cs), rest) := by
  have whole : quoted cs ++ rest = '"' :: (cs.flatMap escape ++ '"' :: rest) := by simp [quoted]
  rw [whole, readValue?, skipSpace_cons (by decide)]
  simp [readText?_escaped, textAt]

theorem Attempt.units_escaped (cs rest : List Char) :
    units (cs.flatMap escape ++ '"' :: rest) = ⟨true, rest⟩ := by
  induction cs with
  | nil => simp [units]
  | cons c cs ih =>
    have written := escaped c
    rw [List.flatMap_cons, List.append_assoc]
    generalize escape c = ds at written
    cases written with
    | short mark read ascii =>
      simp only [List.cons_append, List.nil_append]
      rw [units.eq_def]
      simp [mark, ih]
    | code read control ascii =>
      obtain ⟨high, low⟩ := not_half c
      simp only [List.cons_append, List.nil_append]
      rw [units.eq_def]
      simp [read, high, low, ih]
    | plain quote backslash graphic =>
      simp only [List.cons_append, List.nil_append]
      rw [units.eq_def]
      simp [backslash, ih]

section spread

theorem ascii_escape {c : Char} (ascii : c.toNat < 128) : ∀ d ∈ escape c, d.toNat < 128 := by
  have written := escaped c
  generalize escape c = ds at written
  cases written with
  | short mark read both => simpa using both.2
  | code read control digits => simpa using digits
  | plain quote backslash graphic => simpa using ascii

theorem escape_of_high {c : Char} (high : 128 ≤ c.toNat) : escape c = [c] := by
  have written := escaped c
  generalize escape c = ds at written
  cases written with
  | short mark read both => omega
  | code read control digits => omega
  | plain quote backslash graphic => rfl

theorem spread_escape (c : Char) : spread (escape c) = (spread [c]).flatMap escape := by
  by_cases ascii : c.toNat < 128
  · have single : spread [c] = [c] := spread_of_ascii (by simpa using ascii)
    rw [spread_of_ascii (ascii_escape ascii), single]
    simp
  · have beyond : 128 ≤ c.toNat := Nat.not_lt.mp ascii
    rw [escape_of_high beyond]
    have same : ∀ d ∈ spread [c], escape d = [d] := fun d member =>
      escape_of_high (high_of_mem_spread beyond member)
    rw [List.flatMap_def, List.map_congr_left same, ← List.flatMap_def, List.flatMap_singleton']

theorem spread_escaped (cs : List Char) :
    spread (cs.flatMap escape) = (spread cs).flatMap escape := by
  induction cs with
  | nil => rfl
  | cons c cs ih =>
    rw [List.flatMap_cons, spread_append, spread_escape, ih, spread_cons c cs, List.flatMap_append]

theorem spread_quoted (cs : List Char) : spread (quoted cs) = quoted (spread cs) := by
  have quote : spread ['"'] = ['"'] := spread_cons_of_ascii (by decide) []
  rw [quoted, List.cons_append, spread_cons_of_ascii (by decide), spread_append, spread_escaped,
    quote]
  rfl

theorem Attempt.text_escaped (cs rest : List Char) :
    text (spread (cs.flatMap escape ++ ['"']) ++ rest) = ⟨true, rest⟩ := by
  have ended : units (spread (cs.flatMap escape ++ ['"']) ++ rest) = ⟨true, rest⟩ := by
    rw [spread_append, spread_escaped, spread_cons_of_ascii (by decide), List.append_assoc]
    exact units_escaped _ rest
  unfold text
  rw [ended]
  dsimp only
  rw [bytesUpTo_spread, validateUTF8_utf8]

end spread

section number

theorem decimal_ne_nil (n : Nat) : decimal n ≠ [] := by
  simp [decimal]

theorem isDigit_of_mem_decimal {n : Nat} {c : Char} (member : c ∈ decimal n) :
    c.isDigit = true :=
  Nat.isDigit_of_mem_toDigits (by decide) (by decide) member

theorem decimalValue_decimal (n : Nat) : decimalValue (decimal n) = n :=
  Nat.ofDigitChars_ten_toDigits

theorem eq_zero_of_decimal {n : Nat} {ds : List Char} (h : decimal n = '0' :: ds) : n = 0 := by
  induction n using Nat.strongRecOn generalizing ds with
  | ind n ih =>
    by_cases small : n < 10
    · rw [decimal, Nat.toDigits_of_lt_base small] at h
      have digit : ∀ m < 10, m.digitChar = '0' → m = 0 := by decide
      exact digit n small (List.cons.inj h).1
    · rw [decimal, Nat.toDigits_of_base_le (by decide) (by omega)] at h
      obtain ⟨d, ds', high⟩ :=
        List.exists_cons_of_ne_nil (Nat.toDigits_ne_nil (n := n / 10) (b := 10))
      rw [high] at h
      obtain rfl : d = '0' := (List.cons.inj h).1
      have := ih (n / 10) (by omega) high
      omega

/-- What can follow a whole number: neither a digit nor a point nor an exponent. -/
def Ends (rest : List Char) : Prop :=
  ∀ c ∈ rest.head?, c.isDigit = false ∧ c ≠ '.' ∧ c ≠ 'e' ∧ c ≠ 'E'

theorem readWhole?_decimal (n : Nat) {rest : List Char} (ends : Ends rest) :
    readWhole? (decimal n ++ rest) = some (decimal n, rest) := by
  have digits : (decimal n ++ rest).takeWhile Char.isDigit = decimal n :=
    takeWhile_isDigit_append (fun c => isDigit_of_mem_decimal) fun c first => (ends c first).1
  have left : (decimal n ++ rest).dropWhile Char.isDigit = rest := by
    have whole := List.takeWhile_append_dropWhile (p := Char.isDigit) (l := decimal n ++ rest)
    rw [digits] at whole
    exact List.append_cancel_left whole
  unfold readWhole?
  rw [digits, left]
  split
  · next empty => exact absurd empty (decimal_ne_nil n)
  · next d ds leading =>
    obtain rfl := eq_zero_of_decimal leading
    cases leading
  · rfl

theorem readPart?_of_ends {rest : List Char} (ends : Ends rest) :
    readPart? rest = some ([], rest) := by
  unfold readPart?
  split
  · next point => exact absurd rfl (ends '.' rfl).2.1
  · rfl

theorem readExponent?_of_ends {rest : List Char} (ends : Ends rest) :
    readExponent? rest = some ([], rest) := by
  cases rest with
  | nil => rfl
  | cons c rest =>
    obtain ⟨-, -, small, large⟩ := ends c rfl
    rw [readExponent?, if_neg (not_or.mpr ⟨small, large⟩)]

theorem intChars_eq (n : Int) :
    intChars n = (if n < 0 then ['-'] else []) ++ decimal n.natAbs := by
  cases n with
  | ofNat n => rfl
  | negSucc n => simp [intChars, Int.negSucc_lt_zero]

theorem unsigned_decimal (n : Nat) : ∃ d ds, decimal n = d :: ds ∧ d.isDigit = true := by
  obtain ⟨d, ds, first⟩ := List.exists_cons_of_ne_nil (decimal_ne_nil n)
  exact ⟨d, ds, first, isDigit_of_mem_decimal (n := n) (first ▸ List.mem_cons_self)⟩

theorem readNumber?_intChars (n : Int) {rest : List Char} (ends : Ends rest) :
    readNumber? (intChars n ++ rest) = some (.int n, rest) := by
  rw [intChars_eq]
  -- the digits are those of `k`; the sign comes back when the reader has them
  generalize size : n.natAbs = k
  have whole := readWhole?_decimal k ends
  obtain ⟨d, ds, first, digit⟩ := unsigned_decimal k
  have unsigned : d ≠ '-' := fun sign => absurd digit (sign ▸ by decide)
  have value := decimalValue_decimal k
  by_cases negative : n < 0
  · have notZero : decimal k ≠ ['0'] := fun zero => by
      have := eq_zero_of_decimal zero
      omega
    have sum : -(k : Int) = n := by omega
    simp [readNumber?, negative, whole, readPart?_of_ends ends, readExponent?_of_ends ends, notZero,
      value, sum]
  · have sum : (k : Int) = n := by omega
    rw [first] at value ⊢
    rw [first, List.cons_append] at whole
    simp [readNumber?, negative, unsigned, whole, readPart?_of_ends ends,
      readExponent?_of_ends ends, value, sum]

theorem Attempt.not_isTooLarge {n : Nat} (small : n < 10 ^ 20) : isTooLarge n 0 0 = false := by
  have short : (decimal n).length ≤ 20 :=
    (Nat.length_toDigits_le_iff (by decide) (by decide)).mpr small
  unfold isTooLarge
  dsimp only
  split
  · rfl
  · rw [if_neg (by omega), if_pos (by omega)]

theorem Attempt.number_intChars {n : Int} (small : n.natAbs < 10 ^ 20) {rest : List Char}
    (ends : Ends rest) : number (intChars n ++ rest) = ⟨true, rest⟩ := by
  have whole := readWhole?_decimal n.natAbs ends
  obtain ⟨d, ds, first, digit⟩ := unsigned_decimal n.natAbs
  have unsigned : d ≠ '-' := fun sign => absurd digit (sign ▸ by decide)
  have digits : (if (intChars n ++ rest).head? = some '-' then (intChars n ++ rest).tail
      else intChars n ++ rest) = decimal n.natAbs ++ rest := by
    rw [intChars_eq]
    by_cases negative : n < 0
    · simp [negative]
    · simp [negative, first, unsigned]
  unfold number
  simp only [digits, whole, readPart?_of_ends ends, readExponent?_of_ends ends, List.tail_nil,
    List.append_nil, decimalValue_decimal, List.length_nil, not_isTooLarge small, Bool.not_false]

/-- The signs and digits that a whole number is written with. -/
def Numeric (c : Char) : Prop :=
  45 ≤ c.toNat ∧ c.toNat ≤ 57

instance (c : Char) : Decidable (Numeric c) :=
  inferInstanceAs (Decidable (_ ∧ _))

theorem Numeric.head {c d : Char} {cs ds : List Char} (numeric : Numeric c)
    (same : c :: cs = d :: ds) : Numeric d :=
  (List.cons.inj same).1 ▸ numeric

theorem numeric_of_isDigit {c : Char} (digit : c.isDigit = true) : Numeric c := by
  have bounds : 48 ≤ c.toNat ∧ c.toNat ≤ 57 := by
    simp only [Char.isDigit, Bool.and_eq_true, decide_eq_true_eq, UInt32.le_iff_toNat_le] at digit
    exact digit
  exact ⟨by omega, bounds.2⟩

theorem numeric_of_mem_intChars {n : Int} {c : Char} (member : c ∈ intChars n) : Numeric c := by
  rw [intChars_eq] at member
  rcases List.mem_append.mp member with sign | digit
  · by_cases negative : n < 0
    · simp only [negative, if_true, List.mem_singleton] at sign
      exact sign ▸ by decide
    · simp [negative] at sign
  · exact numeric_of_isDigit (isDigit_of_mem_decimal digit)

theorem intChars_append (n : Int) (rest : List Char) :
    ∃ c cs, intChars n ++ rest = c :: cs ∧ Numeric c := by
  have filled : intChars n ≠ [] := by simp [intChars_eq, decimal_ne_nil]
  obtain ⟨c, cs, first⟩ := List.exists_cons_of_ne_nil filled
  exact ⟨c, cs ++ rest, by rw [first]; rfl,
    numeric_of_mem_intChars (n := n) (first ▸ List.mem_cons_self)⟩

theorem isSpace_of_numeric {c : Char} (numeric : Numeric c) : isSpace c = false := by
  simp only [isSpace, Bool.or_eq_false_iff, decide_eq_false_iff_not]
  refine ⟨⟨⟨?_, ?_⟩, ?_⟩, ?_⟩ <;> rintro rfl <;> exact absurd numeric (by decide)

theorem spread_intChars (n : Int) : spread (intChars n) = intChars n :=
  spread_of_ascii fun _ member => Nat.lt_of_le_of_lt (numeric_of_mem_intChars member).2 (by decide)

theorem Attempt.word_intChars {n : Int} (small : n.natAbs < 10 ^ 20) {rest : List Char}
    (ends : Ends rest) : word (intChars n ++ rest) = ⟨true, rest⟩ := by
  have whole := number_intChars small ends
  obtain ⟨c, cs, first, numeric⟩ := intChars_append n rest
  rw [first] at whole ⊢
  unfold word
  split <;> first
    | exact whole
    | next same => exact absurd (numeric.head same) (by decide)

theorem readValue?_intChars (fuel : Nat) (n : Int) {rest : List Char} (ends : Ends rest) :
    readValue? (fuel + 1) (intChars n ++ rest) = some (.int n, rest) := by
  have whole := readNumber?_intChars n ends
  obtain ⟨c, cs, first, numeric⟩ := intChars_append n rest
  rw [first] at whole ⊢
  rw [readValue?, skipSpace_cons (isSpace_of_numeric numeric)]
  split <;> first
    | exact whole
    | next same => exact absurd (numeric.head same) (by decide)

end number

/-- A value that holds no other value: a text, or a whole number of few digits. -/
inductive Scalar : Json → Prop
  | str (s : String) : Scalar (.str s)
  | int {n : Int} (small : n.natAbs < 10 ^ 20) : Scalar (.int n)

theorem chars_str (s : String) : (str s).chars = quoted s.toList := by
  rw [chars, stringChars, quoted]

theorem chars_int (n : Int) : (int n).chars = intChars n := by
  rw [chars]

namespace Scalar

variable {v : Json} {rest : List Char}

theorem readValue?_chars (fuel : Nat) (scalar : Scalar v) (ends : Ends rest) :
    readValue? (fuel + 1) (v.chars ++ rest) = some (v, rest) := by
  cases scalar with
  | str s => rw [chars_str, readValue?_quoted, String.ofList_toList]
  | @int n small => rw [chars_int, readValue?_intChars fuel n ends]

theorem ofChars?_chars (scalar : Scalar v) : ofChars? v.chars = some v := by
  have ends : Ends [] := by simp [Ends]
  have whole := scalar.readValue?_chars (2 * v.chars.length + 1) ends
  rw [List.append_nil] at whole
  simp [ofChars?, whole, skipSpace_nil]

theorem exists_spread (scalar : Scalar v) : ∃ w, Scalar w ∧ spread v.chars = w.chars := by
  cases scalar with
  | str s =>
    refine ⟨.str (.ofList (spread s.toList)), .str _, ?_⟩
    rw [chars_str, chars_str, spread_quoted, String.toList_ofList]
  | @int n small => exact ⟨.int n, .int small, by rw [chars_int, spread_intChars]⟩

theorem accepted (scalar : Scalar v) (ends : Ends rest) :
    (∃ inner, spread v.chars ++ rest = '"' :: inner ∧
      Attempt.text inner = ⟨true, rest⟩) ∨
    ∃ c cs, spread v.chars ++ rest = c :: cs ∧ Numeric c ∧
      Attempt.word (c :: cs) = ⟨true, rest⟩ := by
  cases scalar with
  | str s =>
    refine .inl ⟨_, ?_, Attempt.text_escaped s.toList rest⟩
    rw [chars_str, quoted, List.cons_append, spread_cons_of_ascii (by decide)]
    rfl
  | @int n small =>
    have whole := Attempt.word_intChars small ends
    obtain ⟨c, cs, first, numeric⟩ := intChars_append n rest
    refine .inr ⟨c, cs, ?_, numeric, first ▸ whole⟩
    rw [chars_int, spread_intChars, first]

theorem attempt_value (fuel room : Nat) (scalar : Scalar v) (ends : Ends rest) :
    Attempt.value (fuel + 1) room (spread v.chars ++ rest) = ⟨true, rest⟩ := by
  unfold Attempt.value
  obtain ⟨inner, first, read⟩ | ⟨c, cs, first, numeric, read⟩ := scalar.accepted ends
  · rw [first, skipSpace_cons (by decide)]
    exact read
  · rw [first, skipSpace_cons (isSpace_of_numeric numeric)]
    split <;> first
      | exact read
      | next same => exact absurd (numeric.head same) (by decide)

theorem attempt_scalar (scalar : Scalar v) (ends : Ends rest) :
    Attempt.scalar (spread v.chars ++ rest) = ⟨true, rest⟩ := by
  unfold Attempt.scalar
  obtain ⟨inner, first, read⟩ | ⟨c, cs, first, numeric, read⟩ := scalar.accepted ends
  · rw [first, skipSpace_cons (by decide)]
    exact read
  · rw [first, skipSpace_cons (isSpace_of_numeric numeric)]
    split <;> first
      | exact read
      | next same => exact absurd (numeric.head same) (by decide)

end Scalar

end SessionGateway.Json
