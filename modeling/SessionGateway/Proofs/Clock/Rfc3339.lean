import SessionGateway.Clock.Rfc3339
import SessionGateway.Proofs.Clock.Calendar
import SessionGateway.Proofs.Clock.Instant
import SessionGateway.Proofs.Text.Decimal

/-! Every time that is legible reads back from its text, also one in a leap second and one outside
the years that are written with four digits; any other reads back as it is written. Each reader is
shown to leave what follows its part. -/

namespace SessionGateway.Rfc3339

open Text

theorem readSeparator?_cons {sep : Char} (rest : List Char) (h : isBlank sep = false) :
    readSeparator? sep (sep :: rest) = some rest := by
  simp [readSeparator?, skipBlanks_cons_of_not_isBlank _ h]

theorem readTwo?_decimalPadded {n : Nat} (rest : List Char) (h : n < 100) :
    readTwo? (decimalPadded 2 n ++ rest) = some (n, rest) := by
  have size : (decimalPadded 2 n).length = 2 := length_decimalPadded (by decide) h
  have digits : ∀ c ∈ decimalPadded 2 n, c.isDigit = true := fun _ => isDigit_of_mem_decimalPadded
  have skip : skipBlanks (decimalPadded 2 n ++ rest) = decimalPadded 2 n ++ rest := by
    cases hd : decimalPadded 2 n with
    | nil => exact absurd hd (decimalPadded_ne_nil 2 n)
    | cons d ds => exact skipBlanks_of_isDigit _ (digits d (by simp [hd]))
  rw [readTwo?, skip, readDigits?_append digits (decimalPadded_ne_nil 2 n) (Nat.le_of_eq size)
    (.inl size), decimalValue_decimalPadded]

theorem readYear?_yearText (year : Int) (rest : List Char) :
    readYear? (yearText year ++ '-' :: rest) = some (year, '-' :: rest) := by
  have stop : ∀ c ∈ ('-' :: rest).head?, c.isDigit = false := by
    intro c hc
    obtain rfl : '-' = c := by simpa using hc
    rfl
  have signed (n : Nat) :
      readDigits? (decimalPadded 4 n ++ '-' :: rest).length (decimalPadded 4 n ++ '-' :: rest) =
        some (n, '-' :: rest) := by
    rw [readDigits?_append (fun _ => isDigit_of_mem_decimalPadded) (decimalPadded_ne_nil 4 n)
      (by simp) (.inr stop), decimalValue_decimalPadded]
  unfold yearText
  by_cases plain : 0 ≤ year ∧ year ≤ 9999
  · rw [if_pos plain]
    have size : (decimalPadded 4 year.toNat).length = 4 :=
      length_decimalPadded (by decide) (by omega)
    have read : readDigits? 4 (decimalPadded 4 year.toNat ++ '-' :: rest) =
        some (year.toNat, '-' :: rest) := by
      rw [readDigits?_append (fun _ => isDigit_of_mem_decimalPadded) (decimalPadded_ne_nil 4 _)
        (Nat.le_of_eq size) (.inl size), decimalValue_decimalPadded]
    cases hd : decimalPadded 4 year.toNat with
    | nil => exact absurd hd (decimalPadded_ne_nil 4 _)
    | cons d ds =>
      have digit : d.isDigit = true := isDigit_of_mem_decimalPadded (hd ▸ List.mem_cons_self)
      rw [hd, List.cons_append] at read
      rw [List.cons_append, readYear?, skipBlanks_of_isDigit _ digit]
      split
      · next h => cases h; cases digit
      · next h => cases h; cases digit
      · rw [read]
        simp only [Option.map_some, Option.some.injEq, Prod.mk.injEq, and_true]
        omega
  · rw [if_neg plain]
    by_cases positive : 0 ≤ year
    · rw [if_pos positive, List.cons_append, readYear?,
        skipBlanks_cons_of_not_isBlank _ (by decide)]
      simp only [signed, Option.map_some, Option.some.injEq, Prod.mk.injEq, and_true]
      omega
    · rw [if_neg positive, List.cons_append, readYear?,
        skipBlanks_cons_of_not_isBlank _ (by decide)]
      simp only [signed, Option.map_some, Option.some.injEq, Prod.mk.injEq, and_true]
      omega

theorem readDate?_dateText (seconds : Int) (rest : List Char) :
    readDate? (dateText seconds ++ rest) = some (Date.ofDayNumber (seconds / 86400), rest) := by
  have valid := Date.isValid_ofDayNumber (seconds / 86400)
  obtain ⟨month, day⟩ := Date.lt_hundred_ofDayNumber (seconds / 86400)
  simp only [dateText, List.append_assoc, List.cons_append]
  simp only [readDate?, readYear?_yearText, readSeparator?_cons _ (by decide : isBlank '-' = false),
    readTwo?_decimalPadded _ month, readTwo?_decimalPadded _ day, Option.bind_eq_bind,
    Option.bind_some, if_pos valid]

theorem readFraction?_fractionText {nanos : Nat} (h : nanos < 1000000000) (rest : List Char) :
    readFraction? (fractionText nanos ++ 'Z' :: rest) = some (nanos, 'Z' :: rest) := by
  have stop : ∀ c ∈ ('Z' :: rest).head?, c.isDigit = false := by
    intro c hc
    obtain rfl : 'Z' = c := by simpa using hc
    rfl
  have fraction (width n : Nat) (hw : 0 < width) (hw9 : width ≤ 9) (hn : n < 10 ^ width) :
      readFraction? ('.' :: decimalPadded width n ++ 'Z' :: rest) =
        some (n * Nat.pow 10 (9 - width), 'Z' :: rest) := by
    have size := length_decimalPadded hw hn
    have digits : ∀ c ∈ decimalPadded width n, c.isDigit = true :=
      fun _ => isDigit_of_mem_decimalPadded
    have taken := takeWhile_take_append digits (by omega : _ ≤ 9) (.inr stop)
    have dropped : (decimalPadded width n ++ 'Z' :: rest).dropWhile Char.isDigit = 'Z' :: rest := by
      rw [List.dropWhile_append_of_pos digits]
      rfl
    simp only [List.cons_append, readFraction?, taken, dropped]
    cases hd : decimalPadded width n with
    | nil => exact absurd hd (decimalPadded_ne_nil width n)
    | cons d ds => simp only [← hd, decimalValue_decimalPadded, size]
  unfold fractionText
  split
  · next zero => rw [zero]; rfl
  split
  · next millis =>
    rw [fraction 3 _ (by decide) (by decide) (by omega), Option.some.injEq, Prod.mk.injEq]
    exact ⟨by change nanos / 1000000 * 1000000 = nanos; omega, rfl⟩
  split
  · next micros =>
    rw [fraction 6 _ (by decide) (by decide) (by omega), Option.some.injEq, Prod.mk.injEq]
    exact ⟨by change nanos / 1000 * 1000 = nanos; omega, rfl⟩
  · rw [fraction 9 _ (by decide) (by decide) (by omega), Option.some.injEq, Prod.mk.injEq]
    exact ⟨Nat.mul_one nanos, rfl⟩

theorem readClock?_clockText {t : Instant} (legible : t.Legible) (rest : List Char) :
    readClock? (clockText t ++ (fractionText (t.nanos % 1000000000) ++ 'Z' :: rest)) =
      some (((t.seconds % 86400).toNat, t.nanos), 'Z' :: rest) := by
  have within := t.withinSecond
  unfold Instant.Legible at legible
  generalize hs : (t.seconds % 86400).toNat = s
  have day : s < 86400 := by omega
  have minute : s % 60 = 59 ∨ t.nanos < 1000000000 := by omega
  have second : s % 60 + t.nanos / 1000000000 < 100 := by omega
  simp only [clockText, hs, List.append_assoc, List.cons_append]
  simp only [readClock?, readTwo?_decimalPadded _ (by omega : s / 3600 < 100),
    readTwo?_decimalPadded _ (by omega : s / 60 % 60 < 100), readTwo?_decimalPadded _ second,
    readSeparator?_cons _ (by decide : isBlank ':' = false), Option.bind_eq_bind, Option.bind_some,
    readFraction?_fractionText (by omega : t.nanos % 1000000000 < 1000000000)]
  rw [if_pos (by omega)]
  simp only [Option.some.injEq, Prod.mk.injEq, and_true]
  omega

theorem ofChars?_chars {t : Instant} (legible : t.Legible) : ofChars? (chars t) = some t := by
  have date := Date.dayNumber_ofDayNumber (t.seconds / 86400)
  have split : t.seconds / 86400 * 86400 + ((t.seconds % 86400).toNat : Int) = t.seconds := by omega
  have blank : skipBlanks ['Z'] = ['Z'] := by decide
  simp only [chars, List.append_assoc, List.cons_append]
  simp only [ofChars?, readDate?_dateText, readClock?_clockText legible, Option.bind_eq_bind,
    Option.bind_some, true_or, if_true, blank, readOffset?, date, split, Instant.ofParts?_self,
    Int.sub_zero]
  rfl

theorem chars_asWritten (t : Instant) : chars t.asWritten = chars t := by
  by_cases legible : t.Legible
  · rw [legible.asWritten]
  · obtain ⟨seconds, nanos⟩ := Instant.asWritten_of_not_legible legible
    have within := t.withinSecond
    simp only [Instant.Legible, not_or] at legible
    have date : (t.seconds + 1) / 86400 = t.seconds / 86400 := by omega
    have clock : ((t.seconds + 1) % 86400).toNat = (t.seconds % 86400).toNat + 1 := by omega
    have fraction : (t.nanos - 1000000000) % 1000000000 = t.nanos % 1000000000 := by omega
    simp only [chars, dateText, clockText, seconds, nanos, date, clock, fraction]
    generalize hs : (t.seconds % 86400).toNat = s
    have hour : (s + 1) / 3600 = s / 3600 := by omega
    have minute : (s + 1) / 60 % 60 = s / 60 % 60 := by omega
    have second : (s + 1) % 60 + (t.nanos - 1000000000) / 1000000000 =
        s % 60 + t.nanos / 1000000000 := by omega
    rw [hour, minute, second]

theorem parse?_render (t : Instant) : parse? (render t) = some t.asWritten := by
  rw [parse?, render, String.toList_ofList, ← chars_asWritten, ofChars?_chars t.legible_asWritten]

theorem lt_of_readFraction? {cs rest : List Char} {n : Nat}
    (h : readFraction? cs = some (n, rest)) : n < 1000000000 := by
  unfold readFraction? at h
  split at h
  · next cs =>
    have short : ((cs.take 9).takeWhile Char.isDigit).length ≤ 9 :=
      Nat.le_trans (List.takeWhile_prefix _).length_le (List.length_take_le 9 cs)
    have value : decimalValue ((cs.take 9).takeWhile Char.isDigit) < _ :=
      decimalValue_lt (List.all_eq_true.mp List.all_takeWhile)
    generalize (cs.take 9).takeWhile Char.isDigit = ds at h short value
    split at h
    · cases h
    · cases h
      calc decimalValue ds * 10 ^ (9 - ds.length)
          < 10 ^ ds.length * 10 ^ (9 - ds.length) :=
            Nat.mul_lt_mul_of_pos_right value (Nat.pow_pos (by decide))
        _ = 1000000000 := by rw [← Nat.pow_add, Nat.add_sub_cancel' short]
  · cases h
    decide

theorem legible_of_readClock? {cs rest : List Char} {second nanos : Nat}
    (h : readClock? cs = some ((second, nanos), rest)) :
    nanos < 1000000000 ∨ second % 60 = 59 := by
  simp only [readClock?, Option.bind_eq_bind, Option.bind_eq_some_iff, Prod.exists] at h
  obtain ⟨hour, cs, -, cs, -, minute, cs, -, cs, -, s, cs, -, n, cs, fraction, h⟩ := h
  have short := lt_of_readFraction? fraction
  split at h
  · next valid =>
    obtain ⟨-, -, bound⟩ := valid
    cases h
    obtain rfl | before : s = 60 ∨ s / 60 = 0 := by omega
    · omega
    · omega
  · cases h

theorem readOffsetSize?_mod {cs rest : List Char} {n : Int}
    (h : readOffsetSize? cs = some (n, rest)) : n % 60 = 0 := by
  unfold readOffsetSize? at h
  split at h
  · split at h
    · split at h
      · dsimp only at h
        split at h
        · cases h
          omega
        · cases h
      · cases h
    · cases h
  · cases h

theorem readOffset?_mod {cs rest : List Char} {n : Int}
    (h : readOffset? cs = some (n, rest)) : n % 60 = 0 := by
  unfold readOffset? at h
  split at h
  · cases h
    rfl
  · cases h
    rfl
  · exact readOffsetSize?_mod h
  · obtain ⟨⟨m, rest⟩, size, same⟩ := Option.map_eq_some_iff.mp h
    have := readOffsetSize?_mod size
    cases same
    omega
  · obtain ⟨⟨m, rest⟩, size, same⟩ := Option.map_eq_some_iff.mp h
    have := readOffsetSize?_mod size
    cases same
    omega
  · split at h
    · cases h
      rfl
    · cases h
  · cases h

theorem legible_of_parse? {s : String} {t : Instant} (h : parse? s = some t) : t.Legible := by
  simp only [parse?, ofChars?, Option.bind_eq_bind, Option.bind_eq_some_iff, Prod.exists] at h
  obtain ⟨date, cs, -, h⟩ := h
  split at h
  · split at h
    · simp only [Option.bind_some, Option.bind_eq_some_iff, Prod.exists] at h
      obtain ⟨second, nanos, cs, clock, offset, cs, zone, h⟩ := h
      split at h
      · obtain ⟨here, made, moved⟩ := Option.bind_eq_some_iff.mp h
        obtain ⟨seconds, -⟩ := Instant.ofParts?_eq_some made
        obtain ⟨there, same⟩ := Instant.ofParts?_eq_some moved
        have leap := legible_of_readClock? clock
        have minutes := readOffset?_mod zone
        rw [Instant.Legible, there, same, seconds]
        omega
      · cases h
    · cases h
  · cases h
theorem length_decimalPadded_le {width n k : Nat} (hk : 0 < k) (h : n < 10 ^ k) :
    (decimalPadded width n).length ≤ width + k := by
  have short := (Nat.length_toDigits_le_iff (by decide : 1 < 10) hk).mpr h
  simp only [decimalPadded, decimal, List.length_append, List.length_replicate]
  omega

theorem length_utf8Encode_le (cs : List Char) : cs.utf8Encode.size ≤ 4 * cs.length := by
  induction cs with
  | nil => simp
  | cons c cs ih =>
    have := c.utf8Size_le_four
    rw [List.utf8Encode_cons, ByteArray.size_append, List.utf8Encode_singleton, List.length_cons,
      List.size_toByteArray, String.length_utf8EncodeChar]
    omega

theorem natAbs_year_lt {seconds : Int}
    (h : earliestSecond ≤ seconds ∧ seconds ≤ latestSecond) :
    (Date.ofDayNumber (seconds / 86400)).year.natAbs < 10 ^ 9 := by
  have range : -100000000 ≤ seconds / 86400 ∧ seconds / 86400 ≤ 100000000 := by
    unfold earliestSecond latestSecond at h
    omega
  have year : (Calendar.yearOfDay (seconds / 86400 + Calendar.epochOffset)).natAbs < 900000000 := by
    unfold Calendar.yearOfDay Calendar.epochOffset
    dsimp only
    split <;> omega
  unfold Date.ofDayNumber
  dsimp only
  split <;> dsimp only <;> omega

theorem length_dateText_le {seconds : Int}
    (h : earliestSecond ≤ seconds ∧ seconds ≤ latestSecond) :
    (dateText seconds).length ≤ 24 := by
  obtain ⟨month, day⟩ := Date.lt_hundred_ofDayNumber (seconds / 86400)
  have year := natAbs_year_lt h
  have hy : (yearText (Date.ofDayNumber (seconds / 86400)).year).length ≤ 14 := by
    unfold yearText
    split
    · have := @length_decimalPadded_le 4 (Date.ofDayNumber (seconds / 86400)).year.toNat 9
        (by decide) (by omega)
      omega
    · have := @length_decimalPadded_le 4 _ 9 (by decide) year
      rw [List.length_cons]
      omega
  have hm := @length_decimalPadded 2 _ (by decide) month
  have hd := @length_decimalPadded 2 _ (by decide) day
  simp only [dateText, List.length_append, List.length_cons, hm, hd]
  omega

theorem length_clockText (t : Instant) : (clockText t).length = 8 := by
  have within := t.withinSecond
  have hour := @length_decimalPadded 2 ((t.seconds % 86400).toNat / 3600) (by decide) (by omega)
  have minute := @length_decimalPadded 2 ((t.seconds % 86400).toNat / 60 % 60) (by decide)
    (by omega)
  have second := @length_decimalPadded 2
    ((t.seconds % 86400).toNat % 60 + t.nanos / 1000000000) (by decide) (by omega)
  simp only [clockText, List.length_append, List.length_cons, hour, minute, second]

theorem length_fractionText_le {nanos : Nat} (h : nanos < 1000000000) :
    (fractionText nanos).length ≤ 10 := by
  unfold fractionText
  split
  · simp
  split
  · rw [List.length_cons, length_decimalPadded (by decide) (by omega)]
    decide
  split
  · rw [List.length_cons, length_decimalPadded (by decide) (by omega)]
    decide
  · have digits : (decimalPadded 9 nanos).length = 9 := length_decimalPadded (by decide) h
    simp [digits]

theorem utf8ByteSize_render_lt (t : Instant) : (render t).utf8ByteSize < 2 ^ 64 := by
  have bytes : (render t).utf8ByteSize ≤ 4 * (chars t).length := by
    rw [← String.size_toByteArray, render, String.toByteArray_ofList]
    exact length_utf8Encode_le (chars t)
  have date := length_dateText_le t.inRange
  have fraction := length_fractionText_le (Nat.mod_lt t.nanos (by decide : 1000000000 > 0))
  have size : (chars t).length ≤ 44 := by
    simp only [chars, List.length_append, List.length_cons, length_clockText, List.length_nil]
    omega
  omega

end SessionGateway.Rfc3339
