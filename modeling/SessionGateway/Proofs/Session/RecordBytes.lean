import SessionGateway.Proofs.Clock.Rfc3339
import SessionGateway.Session.RecordBytes

/-! A record reads back from its bytes as it is written, whatever follows them. Lengths are written
in eight bytes, so its texts and its credential have to be shorter than that, and its times come
back if they are legible; what is read from bytes always is. -/

namespace SessionGateway.SessionRecord

/-- Longer texts and credentials have no written length. -/
structure Fits (r : SessionRecord) : Prop where
  user : r.user.utf8ByteSize < 2 ^ 64
  credential : r.credential.length < 2 ^ 64

theorem Fits.flagged {r : SessionRecord} (h : r.Fits) : r.flagged.Fits :=
  ⟨h.user, h.credential⟩

structure Legible (r : SessionRecord) : Prop where
  createdAt : r.createdAt.Legible
  lastAccess : r.lastAccess.Legible
  expiresAt : r.expiresAt.Legible

/-- The record that is written for `r`. -/
def asWritten (r : SessionRecord) : SessionRecord :=
  { r with
    createdAt := r.createdAt.asWritten
    lastAccess := r.lastAccess.asWritten
    expiresAt := r.expiresAt.asWritten }

theorem asWritten_eq_self_iff {r : SessionRecord} : r.asWritten = r ↔ r.Legible := by
  cases r
  simp only [asWritten, mk.injEq, Instant.asWritten_eq_self_iff, true_and, and_true]
  exact ⟨fun ⟨c, a, e⟩ => ⟨c, a, e⟩, fun ⟨c, a, e⟩ => ⟨c, a, e⟩⟩

theorem Legible.asWritten {r : SessionRecord} (h : r.Legible) : r.asWritten = r :=
  asWritten_eq_self_iff.mpr h

theorem Legible.flagged {r : SessionRecord} (h : r.Legible) : r.flagged.Legible :=
  ⟨h.createdAt, h.lastAccess, h.expiresAt⟩

@[simp] theorem length_digitBytes (count n : Nat) : (digitBytes count n).length = count := by
  induction count generalizing n with
  | zero => rfl
  | succ count ih => simp [digitBytes, ih]

theorem ofDigitBytes_digitBytes {count n : Nat} (h : n < 256 ^ count) :
    ofDigitBytes (digitBytes count n) = n := by
  induction count generalizing n with
  | zero => simpa [digitBytes, ofDigitBytes] using (Nat.lt_one_iff.mp h).symm
  | succ count ih =>
    have low : (UInt8.ofNat (n % 256)).toNat = n % 256 :=
      UInt8.toNat_ofNat_of_lt (Nat.mod_lt n (by decide))
    have high : n / 256 < 256 ^ count := by
      rw [Nat.pow_succ] at h
      omega
    rw [digitBytes, ofDigitBytes, low, ih high]
    omega

theorem ofDigitBytes_lt (bs : Bytes) : ofDigitBytes bs < 256 ^ bs.length := by
  induction bs with
  | nil => decide
  | cons b bs ih =>
    have := b.toNat_lt
    rw [ofDigitBytes, List.length_cons, Nat.pow_succ]
    omega

theorem readLength_lengthBytes {n : Nat} (h : n < 2 ^ 64) (rest : Bytes) :
    readLength (lengthBytes n ++ rest) = .ok (n, rest) := by
  have size : (lengthBytes n).length = 8 := length_digitBytes 8 n
  have value : ofDigitBytes (lengthBytes n) = n := ofDigitBytes_digitBytes h
  rw [readLength, if_neg (by simp [size]), List.take_left' size, List.drop_left' size, value]

theorem lt_of_readLength {bs rest : Bytes} {n : Nat} (h : readLength bs = .ok (n, rest)) :
    n < 2 ^ 64 := by
  unfold readLength at h
  split at h
  · cases h
  · next enough =>
    have bound := ofDigitBytes_lt (bs.take 8)
    rw [List.length_take_of_le (by omega)] at bound
    cases h
    exact bound

theorem readBlock_blockBytes (fault : ByteFault) {bs : Bytes} (h : bs.length < 2 ^ 64)
    (rest : Bytes) : readBlock fault (blockBytes bs ++ rest) = .ok (bs, rest) := by
  rw [readBlock, blockBytes, List.append_assoc, readLength_lengthBytes h]
  simp [Bind.bind, Except.bind]

theorem length_lt_of_readBlock {fault : ByteFault} {bs block rest : Bytes}
    (h : readBlock fault bs = .ok (block, rest)) : block.length < 2 ^ 64 := by
  unfold readBlock at h
  cases hn : readLength bs with
  | error e => simp [hn, Bind.bind, Except.bind] at h
  | ok found =>
    obtain ⟨n, rest⟩ := found
    have bound := lt_of_readLength hn
    simp only [hn, Bind.bind, Except.bind] at h
    split at h
    · cases h
    · cases h
      rw [List.length_take]
      omega

theorem readUuid_blockBytes (u : Uuid) (rest : Bytes) :
    readUuid (blockBytes u.bytes ++ rest) = .ok (u, rest) := by
  have size : u.bytes.length < 2 ^ 64 := by rw [u.size]; decide
  rw [readUuid, readBlock_blockBytes _ size]
  simp [Bind.bind, Except.bind]

theorem readText_textBytes {s : String} (h : s.utf8ByteSize < 2 ^ 64) (rest : Bytes) :
    readText (textBytes s ++ rest) = .ok (s, rest) := by
  have back : String.fromUTF8? ⟨s.toUTF8.data.toList.toArray⟩ = some s := by
    rw [Array.toArray_toList, String.fromUTF8?]
    exact dif_pos s.isValidUTF8
  rw [readText, textBytes, readBlock_blockBytes _ (by exact h)]
  simp only [Bind.bind, Except.bind, back]

theorem utf8ByteSize_lt_of_readText {bs rest : Bytes} {s : String}
    (h : readText bs = .ok (s, rest)) : s.utf8ByteSize < 2 ^ 64 := by
  unfold readText at h
  cases hb : readBlock .short bs with
  | error e => simp [hb, Bind.bind, Except.bind] at h
  | ok found =>
    obtain ⟨block, rest⟩ := found
    have bound := length_lt_of_readBlock hb
    simp only [hb, Bind.bind, Except.bind] at h
    split at h
    · next t ht =>
      cases h
      unfold String.fromUTF8? at ht
      split at ht
      · cases ht
        exact bound
      · cases ht
    · cases h

theorem readFlag_flag (b : Bool) (rest : Bytes) :
    readFlag ((if b then 1 else 0) :: rest) = .ok (b, rest) := by
  cases b <;> simp [readFlag]

theorem readTime_timeBytes (t : Instant) (rest : Bytes) :
    readTime (timeBytes t ++ rest) = .ok (t.asWritten, rest) := by
  rw [readTime, timeBytes, readText_textBytes (Rfc3339.utf8ByteSize_render_lt t)]
  simp only [Bind.bind, Except.bind, Rfc3339.parse?_render]

theorem read_encode {r : SessionRecord} (h : r.Fits) (rest : Bytes) :
    read (r.encode ++ rest) = .ok (r.asWritten, rest) := by
  simp only [encode, List.append_assoc, List.cons_append, List.nil_append]
  simp only [read, readUuid_blockBytes, readText_textBytes h.user, readTime_timeBytes,
    readBlock_blockBytes _ h.credential, readFlag_flag, Bind.bind, Except.bind]
  rfl

theorem decode_encode {r : SessionRecord} (h : r.Fits) : decode r.encode = .ok r.asWritten := by
  have whole := read_encode h []
  rw [List.append_nil] at whole
  rw [decode, whole]
  rfl

theorem bind_eq_ok {α β : Type} {x : Except ByteFault α} {f : α → Except ByteFault β} {b : β} :
    x >>= f = .ok b ↔ ∃ a, x = .ok a ∧ f a = .ok b := by
  cases x <;> simp [Bind.bind, Except.bind]

theorem legible_of_readTime {bs rest : Bytes} {t : Instant} (h : readTime bs = .ok (t, rest)) :
    t.Legible := by
  obtain ⟨⟨s, bs⟩, -, h⟩ := bind_eq_ok.mp h
  dsimp only at h
  split at h
  · next found =>
    cases h
    exact Rfc3339.legible_of_parse? found
  · cases h

theorem fits_of_decode {bs : Bytes} {r : SessionRecord} (h : decode bs = .ok r) :
    r.Fits ∧ r.Legible := by
  cases whole : read bs with
  | error e => simp [decode, whole, Except.map] at h
  | ok found =>
    obtain rfl : found.1 = r := by simpa [decode, whole, Except.map] using h
    unfold read at whole
    obtain ⟨uuid, -, whole⟩ := bind_eq_ok.mp whole
    obtain ⟨user, hu, whole⟩ := bind_eq_ok.mp whole
    obtain ⟨createdAt, created, whole⟩ := bind_eq_ok.mp whole
    obtain ⟨lastAccess, accessed, whole⟩ := bind_eq_ok.mp whole
    obtain ⟨expiresAt, expires, whole⟩ := bind_eq_ok.mp whole
    obtain ⟨credential, hc, whole⟩ := bind_eq_ok.mp whole
    obtain ⟨invalidated, -, whole⟩ := bind_eq_ok.mp whole
    cases whole
    exact ⟨⟨utf8ByteSize_lt_of_readText hu, length_lt_of_readBlock hc⟩,
      ⟨legible_of_readTime created, legible_of_readTime accessed, legible_of_readTime expires⟩⟩

end SessionGateway.SessionRecord
