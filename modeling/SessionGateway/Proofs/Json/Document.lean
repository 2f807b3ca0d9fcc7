import SessionGateway.Proofs.Json.Members

/-! Documents of any depth read back from their text. A number stops at the mark behind it, so a
document is read whatever follows it as long as that is no more of a number. -/

namespace SessionGateway.Json

/-- A document of values, with no part that is kept as its source. -/
inductive Plain : Json → Prop
  | null : Plain null
  | bool (b : Bool) : Plain (bool b)
  | int (n : Int) : Plain (int n)
  | str (s : String) : Plain (str s)
  | arr {vs : List Json} (items : ∀ v ∈ vs, Plain v) : Plain (arr vs)
  | obj {ms : List (String × Json)} (values : ∀ m ∈ ms, Plain m.2) : Plain (obj ms)

/-- The document is read from its text, and what follows it is left. -/
def Readable (v : Json) : Prop :=
  ∀ (fuel : Nat) (rest : List Char), 2 * v.chars.length ≤ fuel → Ends rest →
    readValue? fuel (v.chars ++ rest) = some (v, rest)

theorem chars_arr_cons (v : Json) (vs : List Json) :
    (arr (v :: vs)).chars = '[' :: (v.chars ++ charsItems vs) := by
  simp [chars]

theorem charsItems_cons (v : Json) (vs : List Json) :
    charsItems (v :: vs) = ',' :: (v.chars ++ charsItems vs) := by
  simp [charsItems]

theorem ends_charsItems (vs : List Json) (rest : List Char) : Ends (charsItems vs ++ rest) := by
  cases vs <;> (rw [charsItems]; rintro c ⟨⟩; decide)

theorem ends_charsMembers_append (ms : List (String × Json)) (rest : List Char) :
    Ends (charsMembers ms ++ rest) := by
  rcases ms with _ | ⟨⟨key, v⟩, ms⟩ <;> (rw [charsMembers]; rintro c ⟨⟩; decide)

theorem Plain.opens {v : Json} (plain : Plain v) :
    ∃ c cs, v.chars = c :: cs ∧ isSpace c = false ∧ c ≠ ']' := by
  cases plain with
  | null => exact ⟨'n', _, by rw [chars]; rfl, by decide, by decide⟩
  | bool b =>
    cases b
    · exact ⟨'f', _, by rw [chars]; rfl, by decide, by decide⟩
    · exact ⟨'t', _, by rw [chars]; rfl, by decide, by decide⟩
  | int n =>
    obtain ⟨c, cs, first, numeric⟩ := intChars_append n []
    refine ⟨c, cs, by rw [chars_int, ← first, List.append_nil], isSpace_of_numeric numeric, ?_⟩
    rintro rfl
    exact absurd numeric (by decide)
  | str s => exact ⟨'"', _, by rw [chars_str]; rfl, by decide, by decide⟩
  | @arr vs items =>
    cases vs with
    | nil => exact ⟨'[', _, by rw [chars], by decide, by decide⟩
    | cons v vs => exact ⟨'[', _, chars_arr_cons v vs, by decide, by decide⟩
  | @obj ms values =>
    rcases ms with _ | ⟨⟨key, v⟩, ms⟩
    · exact ⟨'{', _, by rw [chars], by decide, by decide⟩
    · exact ⟨'{', _, chars_obj_cons key v ms, by decide, by decide⟩

section items

theorem readItems?_item {v : Json} (readable : Readable v) (vs : List Json) (fuel : Nat)
    (enough : 2 * v.chars.length ≤ fuel) (rest : List Char) :
    readItems? (fuel + 1) (v.chars ++ (charsItems vs ++ rest)) =
      match vs with
      | [] => some ([v], rest)
      | w :: ws =>
        (readItems? fuel (w.chars ++ (charsItems ws ++ rest))).map
          fun (ws, rest) => (v :: ws, rest) := by
  rw [readItems?, readable fuel _ enough (ends_charsItems vs rest)]
  cases vs with
  | nil =>
    rw [charsItems]
    simp [skipSpace_cons (show isSpace ']' = false by decide)]
  | cons w ws =>
    rw [charsItems_cons]
    simp [skipSpace_cons (show isSpace ',' = false by decide)]

theorem readItems?_items {v : Json} (vs : List Json) (readable : ∀ w ∈ v :: vs, Readable w)
    (fuel : Nat) (enough : 2 * (v.chars.length + (charsItems vs).length) ≤ fuel)
    (rest : List Char) :
    readItems? fuel (v.chars ++ (charsItems vs ++ rest)) = some (v :: vs, rest) := by
  -- The fuel that is left at an item covers the text from there on.
  induction vs generalizing v fuel with
  | nil =>
    obtain ⟨here, -⟩ := List.forall_mem_cons.mp readable
    rw [charsItems, List.length_singleton] at enough
    obtain ⟨fuel, rfl⟩ := Nat.exists_eq_add_of_le' (show 1 ≤ fuel by omega)
    exact readItems?_item here [] fuel (by omega) rest
  | cons w ws ih =>
    obtain ⟨here, behind⟩ := List.forall_mem_cons.mp readable
    rw [charsItems_cons, List.length_cons, List.length_append] at enough
    obtain ⟨fuel, rfl⟩ := Nat.exists_eq_add_of_le' (show 1 ≤ fuel by omega)
    have found := ih behind fuel (by omega)
    rw [readItems?_item here (w :: ws) fuel (by omega) rest]
    simp only [found, Option.map_some]

end items

section members

theorem readText?_key (key : String) (rest : List Char) :
    ∃ inner, stringChars key ++ rest = '"' :: inner ∧
      readText? inner = some (some key.toList, rest) :=
  ⟨key.toList.flatMap escape ++ '"' :: rest, by simp [stringChars], readText?_escaped _ rest⟩

theorem readMembers?_member (key : String) {v : Json} (readable : Readable v)
    (ms : List (String × Json)) (fuel : Nat) (enough : 2 * v.chars.length ≤ fuel)
    (rest : List Char) :
    readMembers? (fuel + 1) (memberChars key v ++ (charsMembers ms ++ rest)) =
      match ms with
      | [] => some ([(some key.toList, v)], rest)
      | (k, w) :: ms =>
        (readMembers? fuel (memberChars k w ++ (charsMembers ms ++ rest))).map
          fun (ms, rest) => ((some key.toList, v) :: ms, rest) := by
  have value := readable fuel _ enough (ends_charsMembers_append ms rest)
  obtain ⟨inner, first, named⟩ :=
    readText?_key key (':' :: (v.chars ++ (charsMembers ms ++ rest)))
  have whole : memberChars key v ++ (charsMembers ms ++ rest) = '"' :: inner := by
    rw [← first]
    simp [memberChars]
  rw [whole, readMembers?, skipSpace_cons (by decide)]
  simp only [named, skipSpace_cons (show isSpace ':' = false by decide), value]
  rcases ms with _ | ⟨⟨k, w⟩, ms⟩
  · rw [charsMembers]
    simp [skipSpace_cons (show isSpace '}' = false by decide)]
  · rw [charsMembers_cons]
    simp [skipSpace_cons (show isSpace ',' = false by decide)]

def spelledKeys (ms : List (String × Json)) : List (Option (List Char) × Json) :=
  ms.map fun (key, v) => (some key.toList, v)

theorem readMembers?_members (key : String) {v : Json} (ms : List (String × Json))
    (readable : ∀ m ∈ (key, v) :: ms, Readable m.2) (fuel : Nat)
    (enough : 2 * ((memberChars key v).length + (charsMembers ms).length) ≤ fuel)
    (rest : List Char) :
    readMembers? fuel (memberChars key v ++ (charsMembers ms ++ rest)) =
      some (spelledKeys ((key, v) :: ms), rest) := by
  have inside (k : String) (w : Json) : w.chars.length < (memberChars k w).length := by
    rw [memberChars, List.length_append, List.length_cons]
    omega
  have long := inside key v
  induction ms generalizing key v fuel with
  | nil =>
    have here : Readable v := readable _ List.mem_cons_self
    obtain ⟨fuel, rfl⟩ := Nat.exists_eq_add_of_le' (show 1 ≤ fuel by omega)
    exact readMembers?_member key here [] fuel (by omega) rest
  | cons m ms ih =>
    obtain ⟨k, w⟩ := m
    have here : Readable v := readable _ List.mem_cons_self
    have behind := (List.forall_mem_cons.mp readable).2
    rw [charsMembers_cons, List.length_cons, List.length_append] at enough
    obtain ⟨fuel, rfl⟩ := Nat.exists_eq_add_of_le' (show 1 ≤ fuel by omega)
    have found := ih k behind fuel (by omega) (inside k w)
    rw [readMembers?_member key here ((k, w) :: ms) fuel (by omega) rest]
    simp only [found, Option.map_some]
    rfl

theorem objectAt_spelledKeys (cs rest : List Char) (ms : List (String × Json)) :
    objectAt cs rest (spelledKeys ms) = .obj ms := by
  have all : (spelledKeys ms).mapM (fun m => m.1.map fun key => (String.ofList key, m.2)) =
      some ms := by
    induction ms with
    | nil => rfl
    | cons m ms ih =>
      rw [spelledKeys] at ih ⊢
      simp [ih]
  unfold objectAt
  split
  · next read => rw [Option.some.inj (read.symm.trans all)]
  · next read => cases read.symm.trans all

end members

theorem Plain.readable_of_step {v : Json} (plain : Plain v)
    (step : ∀ (fuel : Nat) (rest : List Char), 2 * v.chars.length ≤ fuel + 1 → Ends rest →
      readValue? (fuel + 1) (v.chars ++ rest) = some (v, rest)) : Readable v := by
  intro fuel rest enough ends
  obtain ⟨c, cs, first, -⟩ := plain.opens
  have filled : 0 < v.chars.length := by simp [first]
  obtain ⟨fuel, rfl⟩ := Nat.exists_eq_add_of_le' (show 1 ≤ fuel by omega)
  exact step fuel rest enough ends

theorem readable_arr {vs : List Json} (items : ∀ v ∈ vs, Plain v)
    (readable : ∀ v ∈ vs, Readable v) : Readable (arr vs) := by
  refine (Plain.arr items).readable_of_step fun fuel rest enough ends => ?_
  cases vs with
  | nil =>
    rw [chars, readValue?]
    rfl
  | cons v vs =>
    rw [chars_arr_cons, List.length_cons, List.length_append] at enough
    have found := readItems?_items vs readable fuel (by omega) rest
    obtain ⟨c, cs, first, graphic, apart⟩ := (items v List.mem_cons_self).opens
    rw [first, List.cons_append] at found
    rw [chars_arr_cons, first, readValue?]
    simp [skipSpace_cons (show isSpace '[' = false by decide), skipSpace_cons graphic, apart,
      found]

theorem readable_obj {ms : List (String × Json)} (values : ∀ m ∈ ms, Plain m.2)
    (readable : ∀ m ∈ ms, Readable m.2) : Readable (obj ms) := by
  refine (Plain.obj values).readable_of_step fun fuel rest enough ends => ?_
  rcases ms with _ | ⟨⟨key, v⟩, ms⟩
  · rw [chars, readValue?]
    rfl
  · rw [chars_obj_cons, List.length_cons, List.length_append] at enough
    have found := readMembers?_members key ms readable fuel (by omega) rest
    have first : memberChars key v ++ (charsMembers ms ++ rest) =
        '"' :: (key.toList.flatMap escape ++
          '"' :: ':' :: (v.chars ++ (charsMembers ms ++ rest))) := by
      simp [memberChars, stringChars]
    rw [chars_obj_cons, List.cons_append, List.append_assoc, readValue?,
      skipSpace_cons (by decide)]
    rw [first] at found ⊢
    simp [skipSpace_cons (show isSpace '"' = false by decide), found, objectAt_spelledKeys]

theorem Plain.readable {v : Json} (plain : Plain v) : Readable v := by
  -- By induction on the document; the parts of an array or an object have room in its text.
  induction plain with
  | null => exact Plain.null.readable_of_step fun fuel rest _ _ => by rw [chars, readValue?]; rfl
  | bool b =>
    refine (Plain.bool b).readable_of_step fun fuel rest _ _ => ?_
    cases b <;> (rw [chars, readValue?]; rfl)
  | int n =>
    refine (Plain.int n).readable_of_step fun fuel rest _ ends => ?_
    rw [chars_int, readValue?_intChars fuel n ends]
  | str s =>
    refine (Plain.str s).readable_of_step fun fuel rest _ _ => ?_
    rw [chars_str, readValue?_quoted, String.ofList_toList]
  | arr items ih => exact readable_arr items ih
  | obj values ih => exact readable_obj values ih

theorem parse?_render {v : Json} (plain : Plain v) : parse? v.render = some v := by
  have ends : Ends [] := by simp [Ends]
  have whole := plain.readable (2 * v.chars.length + 2) [] (by omega) ends
  rw [List.append_nil] at whole
  rw [parse?, render, String.toList_ofList, ofChars?, whole]
  simp [skipSpace_nil]

end SessionGateway.Json
