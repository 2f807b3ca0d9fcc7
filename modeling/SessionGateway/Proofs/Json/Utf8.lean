import SessionGateway.Json.Attempt

/-! Documents as bytes. A reader of bytes takes each one as the character of its number, so a text
is spread out: ASCII stays as it is, and of any other character only characters beyond ASCII are
left, which are no marks of JSON. Where reading stops, the bytes in front are those of the text that
was spread. -/

namespace SessionGateway

theorem ByteArray.toList_eq (bs : ByteArray) : bs.toList = bs.data.toList := by
  have loop (i : Nat) (r : List UInt8) :
      ByteArray.toList.loop bs i r = r.reverse ++ bs.data.toList.drop i := by
    fun_induction ByteArray.toList.loop bs i r with
    | case1 i r inside ih =>
      have bound : i < bs.data.toList.length := by simpa using inside
      have get : bs.get! i = bs.data.toList[i] := getElem!_pos bs.data i inside
      rw [ih, get, List.drop_eq_getElem_cons bound]
      simp
    | case2 i r outside =>
      rw [List.drop_eq_nil_of_le (by simpa using Nat.le_of_not_lt outside)]
      simp
  rw [ByteArray.toList, loop]
  rfl

namespace Json

def utf8 (cs : List Char) : List UInt8 :=
  cs.flatMap String.utf8EncodeChar

theorem toUTF8_ofList (cs : List Char) : (String.ofList cs).toUTF8.toList = utf8 cs := by
  rw [ByteArray.toList_eq]
  exact List.toList_data_toByteArray

theorem toArray_utf8 (cs : List Char) : (⟨(utf8 cs).toArray⟩ : ByteArray) = cs.utf8Encode := by
  refine ByteArray.ext ?_
  rw [List.utf8Encode, List.data_toByteArray]
  rfl

theorem fromUTF8?_utf8 (cs : List Char) :
    String.fromUTF8? ⟨(utf8 cs).toArray⟩ = some (String.ofList cs) := by
  rw [toArray_utf8, String.fromUTF8?]
  exact dif_pos ByteArray.isValidUTF8_utf8Encode

theorem validateUTF8_utf8 (cs : List Char) :
    ByteArray.validateUTF8 ⟨(utf8 cs).toArray⟩ = true := by
  rw [ByteArray.validateUTF8_eq_true_iff, toArray_utf8]
  exact ByteArray.isValidUTF8_utf8Encode

theorem toNat_byteChar (b : UInt8) : (Char.ofNat b.toNat).toNat = b.toNat := by
  have valid : b.toNat.isValidChar := .inl (Nat.lt_trans b.toNat_lt (by decide))
  rw [Char.ofNat, dif_pos valid]
  rfl

def spread (cs : List Char) : List Char :=
  byteChars (utf8 cs)

@[simp] theorem spread_append (cs ds : List Char) : spread (cs ++ ds) = spread cs ++ spread ds := by
  simp [spread, utf8, byteChars]

theorem spread_cons (c : Char) (cs : List Char) : spread (c :: cs) = spread [c] ++ spread cs :=
  spread_append [c] cs

theorem spread_of_ascii {cs : List Char} (ascii : ∀ c ∈ cs, c.toNat < 128) : spread cs = cs := by
  induction cs with
  | nil => rfl
  | cons c cs ih =>
    have low : c.toNat < 128 := ascii c List.mem_cons_self
    have single : spread [c] = [c] := by
      have byte : String.utf8EncodeChar c = [UInt8.ofNat c.toNat] :=
        if_pos (Nat.le_of_lt_succ low)
      have same : (UInt8.ofNat c.toNat).toNat = c.toNat :=
        UInt8.toNat_ofNat_of_lt (Nat.lt_trans low (by decide))
      simp [spread, utf8, byteChars, byte, same]
    rw [spread_cons, single, ih fun d member => ascii d (List.mem_cons_of_mem c member)]
    rfl

theorem spread_cons_of_ascii {c : Char} (ascii : c.toNat < 128) (cs : List Char) :
    spread (c :: cs) = c :: spread cs := by
  have single : spread [c] = [c] := spread_of_ascii (by simpa using ascii)
  rw [spread_cons, single]
  rfl

theorem high_of_mem_spread {c d : Char} (beyond : 128 ≤ c.toNat) (member : d ∈ spread [c]) :
    128 ≤ d.toNat := by
  obtain ⟨b, byte, rfl⟩ := List.mem_map.mp member
  rw [toNat_byteChar]
  have wide : ¬ c.val.toNat ≤ 127 := Nat.not_le.mpr beyond
  have member : b ∈ String.utf8EncodeChar c := by simpa [utf8] using byte
  obtain ⟨n, low, high, rfl⟩ : ∃ n, 128 ≤ n ∧ n < 256 ∧ b = UInt8.ofNat n := by
    unfold String.utf8EncodeChar at member
    simp only [wide, if_false] at member
    split at member
    · rcases member with _ | ⟨_, _ | ⟨_, ⟨⟩⟩⟩ <;> exact ⟨_, by omega, by omega, rfl⟩
    · split at member
      · rcases member with _ | ⟨_, _ | ⟨_, _ | ⟨_, ⟨⟩⟩⟩⟩ <;> exact ⟨_, by omega, by omega, rfl⟩
      · rcases member with _ | ⟨_, _ | ⟨_, _ | ⟨_, _ | ⟨_, ⟨⟩⟩⟩⟩⟩ <;>
          exact ⟨_, by omega, by omega, rfl⟩
  have same : (UInt8.ofNat n).toNat = n := UInt8.toNat_ofNat_of_lt high
  rwa [same]

@[simp] theorem bytesUpTo_spread (cs rest : List Char) :
    bytesUpTo (spread cs ++ rest) rest = utf8 cs := by
  rw [bytesUpTo, List.length_append, Nat.add_sub_cancel, List.take_left' rfl, spread, byteChars,
    List.map_map]
  refine (List.map_congr_left fun b _ => ?_).trans (List.map_id _)
  simp [toNat_byteChar]

theorem spelledUpTo?_spread (cs rest : List Char) :
    spelledUpTo? (spread cs ++ rest) rest = ofChars? cs := by
  rw [spelledUpTo?, bytesUpTo_spread, ofUtf8?, fromUTF8?_utf8]
  simp [parse?]

end Json

end SessionGateway
