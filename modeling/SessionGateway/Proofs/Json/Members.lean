import Mathlib.Data.List.Nodup
import SessionGateway.Proofs.Json.Scalar
import SessionGateway.Token.RegisteredClaims

/-! An object of scalars read back from its bytes, once for the members that are wanted and once for
the claims that any token may have. Both readers take a key with its value at a time and go on
behind the comma. -/

namespace SessionGateway.Json

def memberChars (key : String) (v : Json) : List Char :=
  stringChars key ++ ':' :: v.chars

theorem charsMembers_cons (key : String) (v : Json) (ms : List (String × Json)) :
    charsMembers ((key, v) :: ms) = ',' :: (memberChars key v ++ charsMembers ms) := by
  simp [charsMembers, memberChars]

theorem chars_obj_cons (key : String) (v : Json) (ms : List (String × Json)) :
    (obj ((key, v) :: ms)).chars = '{' :: (memberChars key v ++ charsMembers ms) := by
  simp [chars, memberChars]

theorem length_filter_key_le {α : Type} {ms : List (String × α)} (once : (ms.map (·.1)).Nodup)
    (key : String) : (ms.filter (·.1 = key)).length ≤ 1 := by
  have count := List.nodup_iff_count_le_one.mp once key
  rwa [List.count, List.countP_map, List.countP_eq_length_filter] at count

theorem spread_member (key : String) (v : Json) (cs : List Char) :
    spread (memberChars key v ++ cs) =
      spread (stringChars key) ++ ':' :: (spread v.chars ++ spread cs) := by
  rw [memberChars, spread_append, spread_append, spread_cons_of_ascii (by decide)]
  simp

theorem spread_key (key : String) : ∃ cs, spread (stringChars key) = '"' :: cs :=
  ⟨_, spread_cons_of_ascii (by decide) _⟩

theorem skipSpace_key (key : String) (rest : List Char) :
    skipSpace (spread (stringChars key) ++ rest) = spread (stringChars key) ++ rest := by
  obtain ⟨cs, first⟩ := spread_key key
  rw [first]
  exact skipSpace_cons (by decide) _

theorem readKey?_spread (key : String) (rest : List Char) :
    readKey? (spread (stringChars key) ++ ':' :: rest) = some (key, rest) := by
  have bytes : spread (stringChars key) ++ ':' :: rest =
      '"' :: ((spread key.toList).flatMap escape ++ '"' :: ':' :: rest) := by
    have same : spread (stringChars key) = quoted (spread key.toList) := spread_quoted key.toList
    simp [same, quoted]
  have spelled := spelledUpTo?_spread (stringChars key) (':' :: rest)
  have whole : ofChars? (stringChars key) = some (.str key) := (Scalar.str key).ofChars?_chars
  have colon : skipSpace (':' :: rest) = ':' :: rest := skipSpace_cons (by decide) rest
  rw [whole, bytes] at spelled
  rw [bytes]
  simp only [readKey?, readUnits?_escaped, spelled, colon]

theorem spread_charsMembers_nil : spread (charsMembers []) = ['}'] := by
  rw [charsMembers]
  exact spread_cons_of_ascii (by decide) []

theorem spread_charsMembers_cons (key : String) (v : Json) (ms : List (String × Json)) :
    spread (charsMembers ((key, v) :: ms)) =
      ',' :: spread (memberChars key v ++ charsMembers ms) := by
  rw [charsMembers_cons, spread_cons_of_ascii (by decide)]

theorem ends_charsMembers (ms : List (String × Json)) : Ends (spread (charsMembers ms)) := by
  rcases ms with _ | ⟨⟨key, v⟩, ms⟩
  · rw [spread_charsMembers_nil]
    rintro c ⟨⟩
    decide
  · rw [spread_charsMembers_cons]
    rintro c ⟨⟩
    decide

theorem spelledUpTo?_scalar {v : Json} (scalar : Scalar v) (rest : List Char) :
    spelledUpTo? (spread v.chars ++ rest) rest = some v := by
  rw [spelledUpTo?_spread, scalar.ofChars?_chars]

theorem readValue?_scalar {v : Json} (fuel : Nat) (scalar : Scalar v) {rest : List Char}
    (ends : Ends rest) : ∃ w, readValue? (fuel + 1) (spread v.chars ++ rest) = some (w, rest) := by
  obtain ⟨w, scalar', same⟩ := scalar.exists_spread
  exact ⟨w, same ▸ scalar'.readValue?_chars fuel ends⟩

section wanted

variable (names : List String)

theorem readWanted?_member (fuel : Nat) (key : String) {v : Json} (scalar : Scalar v)
    (ms : List (String × Json)) :
    readWanted? names (fuel + 2) (spread (memberChars key v ++ charsMembers ms)) =
      match ms with
      | [] => some ([(key, v)].filter (·.1 ∈ names), [])
      | (k, w) :: ms =>
        (readWanted? names (fuel + 1) (spread (memberChars k w ++ charsMembers ms))).map
          fun (found, rest) => ([(key, v)].filter (·.1 ∈ names) ++ found, rest) := by
  obtain ⟨w, passed⟩ := readValue?_scalar fuel scalar (ends_charsMembers ms)
  have spelled := spelledUpTo?_scalar scalar (spread (charsMembers ms))
  have kept : (if key ∈ names then some [(key, v)] else some []) =
      some ([(key, v)].filter (·.1 ∈ names)) := by
    by_cases wanted : key ∈ names <;> simp [wanted]
  rw [spread_member, readWanted?, skipSpace_key, readKey?_spread]
  simp only [passed, spelled, Option.map_some, kept]
  rcases ms with _ | ⟨⟨k, w⟩, ms⟩
  · rw [spread_charsMembers_nil, skipSpace_cons (by decide)]
    rfl
  · rw [spread_charsMembers_cons, skipSpace_cons (by decide)]
    rfl

theorem readWanted?_members (fuel : Nat) (key : String) {v : Json} (scalar : Scalar v)
    (ms : List (String × Json)) (scalars : ∀ m ∈ ms, Scalar m.2) :
    readWanted? names (fuel + ms.length + 2) (spread (memberChars key v ++ charsMembers ms)) =
      some (((key, v) :: ms).filter (·.1 ∈ names), []) := by
  induction ms generalizing key v with
  | nil => exact readWanted?_member names fuel key scalar []
  | cons m ms ih =>
    obtain ⟨here, behind⟩ := List.forall_mem_cons.mp scalars
    have step := readWanted?_member names (fuel + ms.length + 1) key scalar (m :: ms)
    simp only [ih m.1 here behind, Option.map_some, ← List.filter_append] at step
    exact step

end wanted

theorem length_le_length_charsMembers (ms : List (String × Json)) :
    ms.length ≤ (spread (charsMembers ms)).length := by
  induction ms with
  | nil => exact Nat.zero_le _
  | cons m ms ih =>
    obtain ⟨key, v⟩ := m
    rw [spread_charsMembers_cons, spread_append, List.length_cons, List.length_cons,
      List.length_append]
    omega

theorem byteChars_obj (key : String) (v : Json) (ms : List (String × Json)) :
    byteChars (utf8 (obj ((key, v) :: ms)).chars) =
        '{' :: spread (memberChars key v ++ charsMembers ms) ∧
      ms.length < (utf8 (obj ((key, v) :: ms)).chars).length := by
  have same : byteChars (utf8 (obj ((key, v) :: ms)).chars) =
      '{' :: spread (memberChars key v ++ charsMembers ms) := by
    rw [chars_obj_cons]
    exact spread_cons_of_ascii (by decide) _
  have size := congrArg List.length same
  have many := length_le_length_charsMembers ms
  rw [byteChars, List.length_map, List.length_cons, spread_append, List.length_append] at size
  exact ⟨same, by omega⟩

theorem ofBytesWanted?_obj (names : List String) (key : String) {v : Json} (scalar : Scalar v)
    (ms : List (String × Json)) (scalars : ∀ m ∈ ms, Scalar m.2) :
    ofBytesWanted? names (utf8 (obj ((key, v) :: ms)).chars) =
      some (.obj (((key, v) :: ms).filter (·.1 ∈ names))) := by
  obtain ⟨same, many⟩ := byteChars_obj key v ms
  generalize utf8 (obj ((key, v) :: ms)).chars = bytes at same many ⊢
  have found := readWanted?_members names (2 * bytes.length - ms.length) key scalar ms scalars
  -- the fuel counts bytes, the induction counts members
  have fuel : 2 * bytes.length - ms.length + ms.length + 2 = 2 * bytes.length + 2 := by omega
  obtain ⟨cs, first⟩ := spread_key key
  rw [fuel, spread_member, first] at found
  unfold ofBytesWanted?
  rw [same, skipSpace_cons (by decide), spread_member, first]
  rw [List.cons_append] at found ⊢
  simp [skipSpace_cons (show isSpace '"' = false by decide), found, skipSpace_nil]

end SessionGateway.Json

namespace SessionGateway.SignedToken

open Json

theorem readClaim_scalar (name : String) {v : Json} (scalar : Scalar v) {rest : List Char}
    (ends : Ends rest) : readClaim name (spread v.chars ++ rest) = (some v, rest) := by
  obtain ⟨w, passed⟩ :=
    readValue?_scalar (2 * (spread v.chars ++ rest).length + 1) scalar ends
  have inside := scalar.attempt_value (2 * (spread v.chars ++ rest).length + 1) deepest ends
  have spelled := spelledUpTo?_scalar scalar rest
  unfold readClaim
  rw [scalar.attempt_scalar ends, inside, passed]
  simp only [ite_self, if_true, spelled]

theorem readClaims?_member (fuel : Nat) (name : String) {v : Json} (scalar : Scalar v)
    (ms : List (String × Json)) :
    readClaims? (fuel + 1) (spread (memberChars name v ++ charsMembers ms)) =
      match ms with
      | [] => some [(name, some v)]
      | (k, w) :: ms =>
        (readClaims? fuel (spread (memberChars k w ++ charsMembers ms))).map
          ((name, some v) :: ·) := by
  rw [spread_member, readClaims?, skipSpace_key, readKey?_spread]
  simp only [readClaim_scalar name scalar (ends_charsMembers ms)]
  rcases ms with _ | ⟨⟨k, w⟩, ms⟩
  · rw [spread_charsMembers_nil, skipSpace_cons (by decide)]
    rfl
  · rw [spread_charsMembers_cons, skipSpace_cons (by decide)]
    rfl

theorem readClaims?_members (fuel : Nat) (name : String) {v : Json} (scalar : Scalar v)
    (ms : List (String × Json)) (scalars : ∀ m ∈ ms, Scalar m.2) :
    readClaims? (fuel + ms.length + 1) (spread (memberChars name v ++ charsMembers ms)) =
      some (((name, v) :: ms).map fun (k, w) => (k, some w)) := by
  induction ms generalizing name v with
  | nil => exact readClaims?_member fuel name scalar []
  | cons m ms ih =>
    obtain ⟨here, behind⟩ := List.forall_mem_cons.mp scalars
    have step := readClaims?_member (fuel + ms.length + 1) name scalar (m :: ms)
    simp only [ih m.1 here behind, Option.map_some] at step
    exact step

theorem audience?_obj (name : String) {v : Json} (scalar : Scalar v) (ms : List (String × Json))
    (scalars : ∀ m ∈ ms, Scalar m.2) (once : (((name, v) :: ms).map (·.1)).Nodup)
    (unaddressed : ∀ m ∈ (name, v) :: ms, m.1 ≠ "aud") :
    audience? (utf8 (obj ((name, v) :: ms)).chars) = some false := by
  obtain ⟨same, many⟩ := byteChars_obj name v ms
  generalize utf8 (obj ((name, v) :: ms)).chars = bytes at same many ⊢
  have found := readClaims?_members (bytes.length - ms.length) name scalar ms scalars
  have fuel : bytes.length - ms.length + ms.length + 1 = bytes.length + 1 := by omega
  rw [fuel] at found
  have single (key : String) :
      ((((name, v) :: ms).map fun (k, w) => (k, some w)).filter (·.1 = key)).length ≤ 1 := by
    rw [List.filter_map, List.length_map]
    exact length_filter_key_le once key
  have none : (((name, v) :: ms).map fun (k, w) => (k, some w)).lookup "aud" = none := by
    rw [List.lookup_eq_none_iff]
    intro m member
    obtain ⟨⟨k, w⟩, given, rfl⟩ := List.mem_map.mp member
    simpa using (unaddressed _ given).symm
  unfold audience?
  rw [same, skipSpace_cons (by decide)]
  simp only [found, none, single]
  simp

end SessionGateway.SignedToken
