import Mathlib.Data.List.Forall2
import Mathlib.Data.List.Induction
import SessionGateway.Request

/-! Header names. A look-up takes the name in any case, and setting a header lowers its name, so a
header that was set is always found, and of several with one name the last. A decoder keeps the
names as they are spelled: of decoded headers a look-up sees only those that are spelled in lower
case. -/

namespace SessionGateway

namespace Text

/-- The same character, or a capital letter from A to Z and its small form. -/
def SameLetter (c d : Char) : Prop :=
  c = d ∨ (c.isUpper ∧ d.toNat = c.toNat + 32) ∨ (d.isUpper ∧ c.toNat = d.toNat + 32)

theorem isUpper_iff {c : Char} : c.isUpper = true ↔ 65 ≤ c.toNat ∧ c.toNat ≤ 90 := by
  unfold Char.isUpper
  rw [decide_eq_true_iff]
  exact and_congr UInt32.le_iff_toNat_le UInt32.le_iff_toNat_le

theorem toNat_toLower (c : Char) :
    c.toLower.toNat = if c.isUpper then c.toNat + 32 else c.toNat := by
  by_cases upper : c.isUpper
  · have small : c.toLower.val = c.val + 32 :=
      congrArg Char.val (dif_pos (of_decide_eq_true upper))
    have range := isUpper_iff.mp upper
    rw [if_pos upper, ← Char.toNat_val, small, UInt32.toNat_add, Char.toNat_val]
    exact Nat.mod_eq_of_lt (by simp only [UInt32.reduceToNat]; omega)
  · have same : c.toLower = c := dif_neg fun range => upper (decide_eq_true range)
    rw [if_neg upper, same]

theorem sameLetter_iff {c d : Char} : SameLetter c d ↔ c.toLower = d.toLower := by
  simp only [SameLetter, ← Char.toNat_inj, toNat_toLower, isUpper_iff]
  split <;> split <;> omega

/-- Equal, except that ASCII letters may differ in their case. -/
def SameName (a b : String) : Prop :=
  List.Forall₂ SameLetter a.toList b.toList

theorem sameName_iff {a b : String} : SameName a b ↔ asciiLower a = asciiLower b := by
  have letters : SameLetter = fun c d => c.toLower = d.toLower := by
    funext c d
    exact propext sameLetter_iff
  unfold SameName asciiLower
  rw [letters, String.ofList_inj, ← List.forall₂_eq_eq_eq, List.forall₂_map_left_iff,
    List.forall₂_map_right_iff]

instance (a b : String) : Decidable (SameName a b) :=
  decidable_of_iff _ sameName_iff.symm

theorem toLower_toLower (c : Char) : c.toLower.toLower = c.toLower := by
  simp only [← Char.toNat_inj, toNat_toLower, isUpper_iff]
  split
  · rw [if_neg (by omega)]
  · rfl

theorem asciiLower_asciiLower (s : String) : asciiLower (asciiLower s) = asciiLower s := by
  have once : Char.toLower ∘ Char.toLower = Char.toLower := funext toLower_toLower
  rw [asciiLower, asciiLower, String.toList_ofList, List.map_map, once]

theorem sameName_asciiLower (name : String) : SameName (asciiLower name) name :=
  sameName_iff.mpr (asciiLower_asciiLower name)

end Text

namespace Json

theorem given_of_fields? {v w : Json} {names : List String} {slots : List Slot} {i : Nat}
    (fields : v.fields? names = some slots) (slot : slots[i]? = some (.given w)) :
    (∃ ms name, v = obj ms ∧ names[i]? = some name ∧ ms.lookup name = some w) ∨
      ∃ vs, v = arr vs ∧ vs[i]? = some w := by
  cases v with
  | obj ms =>
    simp only [fields?, Option.ite_none_right_eq_some, Option.some.injEq] at fields
    obtain ⟨-, rfl⟩ := fields
    rw [List.getElem?_map, Option.map_eq_some_iff] at slot
    obtain ⟨name, named, slot⟩ := slot
    refine .inl ⟨ms, name, rfl, named, ?_⟩
    cases member : ms.lookup name with
    | none =>
      rw [member] at slot
      cases slot
    | some w' =>
      rw [member] at slot
      cases slot
      rfl
  | arr vs =>
    simp only [fields?, Option.ite_none_right_eq_some, Option.some.injEq] at fields
    obtain ⟨-, rfl⟩ := fields
    refine .inr ⟨vs, rfl, ?_⟩
    rw [List.getElem?_append] at slot
    split at slot
    · rw [List.getElem?_map, Option.map_eq_some_iff] at slot
      obtain ⟨w', here, same⟩ := slot
      cases same
      exact here
    · cases List.eq_of_mem_replicate (List.mem_of_getElem? slot)
  | null => cases fields
  | bool => cases fields
  | int => cases fields
  | str => cases fields
  | raw => cases fields

end Json

namespace Request

open Text

variable {r : Request}

theorem header_withHeader (r : Request) (given value name : String) :
    (r.withHeader given value).header name =
      if SameName given name then some value else r.header name := by
  simp only [header, withHeader, Std.ExtTreeMap.getElem?_insert,
    Std.LawfulEqCmp.compare_eq_iff_eq, sameName_iff]

def withHeaders (r : Request) (given : List (String × String)) : Request :=
  given.foldl (fun r h => r.withHeader h.1 h.2) r

/-- The value of the last of the headers that has the name. -/
def lastNamed (name : String) (given : List (String × String)) : Option String :=
  (given.filter fun h => SameName h.1 name).getLast?.map (·.2)

theorem withHeaders_concat (r : Request) (before : List (String × String)) (h : String × String) :
    r.withHeaders (before ++ [h]) = (r.withHeaders before).withHeader h.1 h.2 :=
  List.foldl_concat _ _ _ _

theorem header_withHeaders (r : Request) (given : List (String × String)) (name : String) :
    (r.withHeaders given).header name = (lastNamed name given).or (r.header name) := by
  -- the last header decides, so the induction takes it off first
  induction given using List.reverseRecOn with
  | nil => rfl
  | append_singleton before h ih =>
    rw [withHeaders_concat, header_withHeader, ih, lastNamed, lastNamed, List.filter_append]
    by_cases same : SameName h.1 name
    · simp [same]
    · simp [same]

theorem mem_headers_withHeaders {given : List (String × String)} {key : String} :
    key ∈ (r.withHeaders given).headers ↔ key ∈ r.headers ∨ ∃ h ∈ given, asciiLower h.1 = key := by
  induction given using List.reverseRecOn with
  | nil => simp [withHeaders]
  | append_singleton before h ih =>
    rw [withHeaders_concat, withHeader, Std.ExtTreeMap.mem_insert,
      Std.LawfulEqCmp.compare_eq_iff_eq, ih]
    simp only [List.mem_append, List.mem_singleton, or_and_right, exists_or, exists_eq_left]
    rw [or_comm, or_assoc]

/-- The look-up of the name gives the value of a stored header that has it in some spelling, or
nothing if there is no such header. -/
def Finds (r : Request) (name : String) : Prop :=
  match r.header name with
  | some value => ∃ stored : String, r.headers[stored]? = some value ∧ SameName stored name
  | none => ∀ stored ∈ r.headers, ¬ SameName stored name

theorem finds_iff {name : String} :
    r.Finds name ↔ ∀ stored ∈ r.headers, SameName stored name → asciiLower name ∈ r.headers := by
  unfold Finds
  cases found : r.header name with
  | some value =>
    have present : asciiLower name ∈ r.headers :=
      Std.ExtTreeMap.mem_iff_isSome_getElem?.mpr (Option.isSome_of_eq_some found)
    exact iff_of_true ⟨_, found, sameName_asciiLower name⟩ fun _ _ _ => present
  | none =>
    have absent : asciiLower name ∉ r.headers := fun present =>
      Option.isSome_iff_ne_none.mp (Std.ExtTreeMap.mem_iff_isSome_getElem?.mp present) found
    exact forall₂_congr fun _ _ => imp_congr_right fun _ => (iff_false_intro absent).symm

theorem finds_withHeaders_iff {given : List (String × String)} {name : String} :
    (r.withHeaders given).Finds name ↔
      ((∃ stored ∈ r.headers, SameName stored name) →
        asciiLower name ∈ r.headers ∨ ∃ h ∈ given, SameName h.1 name) := by
  simp only [finds_iff, mem_headers_withHeaders, sameName_iff]
  constructor
  · rintro found ⟨stored, present, same⟩
    exact found stored (.inl present) same
  · rintro found stored (present | ⟨h, set, rfl⟩) same
    · exact found ⟨stored, present, same⟩
    · exact .inr ⟨h, set, (asciiLower_asciiLower h.1).symm.trans same⟩

variable {ms : List (String × Json)} {headers : Std.ExtTreeMap String String}

theorem headersOfJson?_concat_eq_some {m : String × Json} :
    headersOfJson? (.obj (ms ++ [m])) = some headers ↔
      ∃ earlier, headersOfJson? (.obj ms) = some earlier ∧
        ∃ value, m.2.text? = some value ∧ earlier.insert m.1 value = headers := by
  simp [headersOfJson?, List.foldlM_append, Option.bind_eq_some_iff]

theorem getElem?_of_headersOfJson? (read : headersOfJson? (.obj ms) = some headers)
    (name : String) :
    headers[name]? = (ms.reverse.lookup name).bind Json.text? := by
  induction ms using List.reverseRecOn generalizing headers with
  | nil =>
    cases read
    rfl
  | append_singleton before m ih =>
    obtain ⟨earlier, first, value, text, rfl⟩ := headersOfJson?_concat_eq_some.mp read
    rw [List.reverse_concat, List.lookup_cons, Std.ExtTreeMap.getElem?_insert, ih first]
    by_cases same : m.1 = name
    · simp [same, text]
    · simp [same, beq_false_of_ne (Ne.symm same)]

theorem mem_of_headersOfJson? (read : headersOfJson? (.obj ms) = some headers) (name : String) :
    name ∈ headers ↔ name ∈ ms.map (·.1) := by
  induction ms using List.reverseRecOn generalizing headers with
  | nil =>
    cases read
    simp
  | append_singleton before m ih =>
    obtain ⟨earlier, first, value, -, rfl⟩ := headersOfJson?_concat_eq_some.mp read
    rw [Std.ExtTreeMap.mem_insert, Std.LawfulEqCmp.compare_eq_iff_eq, ih first, List.map_append,
      List.mem_append, List.map_singleton, List.mem_singleton, or_comm, eq_comm]

/-- The members that the document gives for the headers, be it an object or an array of fields. -/
def GivesHeaders (v : Json) (ms : List (String × Json)) : Prop :=
  (∃ fields, v = .obj fields ∧ fields.lookup "headers" = some (.obj ms)) ∨
    ∃ fields, v = .arr fields ∧ fields[3]? = some (.obj ms)

theorem givesHeaders_of_ofJson? {v : Json} (decoded : ofJson? v = some r) :
    ∃ ms, GivesHeaders v ms ∧ headersOfJson? (.obj ms) = some r.headers := by
  unfold ofJson? at decoded
  obtain ⟨slots, fields, rest⟩ := Option.bind_eq_some_iff.mp decoded
  split at rest
  case h_1 method path query given body remoteAddress receivedAt =>
    simp only [Option.bind_eq_bind, Option.bind_eq_some_iff] at rest
    obtain ⟨_, -, _, -, _, -, headers, required, _, -, _, -, _, -, rest⟩ := rest
    obtain rfl := Option.some.inj rest
    cases given with
    | given w =>
      cases w with
      | obj ms =>
        refine ⟨ms, ?_, required⟩
        rcases Json.given_of_fields? (i := 3) fields rfl with
          ⟨members, name, object, named, member⟩ | array
        · cases named
          exact .inl ⟨members, object, member⟩
        · exact .inr array
      | null | bool | int | str | arr | raw => cases required
    | absent | cut => cases required
  case h_2 => cases rest

/-- Headers that are set on a request are found under their names in any case, the last of a name
before the others and all of them before those that the request had. A new request had none. A
decoded request had those of its document under the names as they are spelled there, and these are
not found under a name unless some header, of the document or set later, is stored under that name
in lower case. -/
theorem header_found_iff (r : Request) (given : List (String × String)) :
    let sent := r.withHeaders given
    (∀ name, sent.header name = (lastNamed name given).or (r.header name)) ∧
    sent.bearerToken =
      ((lastNamed "authorization" given).or (r.header "authorization")).bind bearerOf ∧
    (r.headers = ∅ → (∀ name, sent.Finds name ∧ sent.header name = lastNamed name given) ∧
      sent.bearerToken = (lastNamed "authorization" given).bind bearerOf) ∧
    ∀ v, ofJson? v = some r → ∃ ms, GivesHeaders v ms ∧
      (∀ stored : String, r.headers[stored]? = (ms.reverse.lookup stored).bind Json.text?) ∧
      ∀ name, sent.Finds name ↔
        ((∃ m ∈ ms, SameName m.1 name) →
          (∃ m ∈ ms, m.1 = asciiLower name) ∨ ∃ h ∈ given, SameName h.1 name) := by
  intro sent
  have found := r.header_withHeaders given
  have bearer := congrArg (·.bind bearerOf) (found "authorization")
  refine ⟨found, bearer, fun bare => ?_, fun v decoded => ?_⟩
  · have nothing (name : String) : r.header name = none := by
      rw [header, bare]
      exact Std.ExtTreeMap.getElem?_empty
    have last (name : String) : sent.header name = lastNamed name given := by
      rw [found, nothing, Option.or_none]
    refine ⟨fun name => ⟨finds_withHeaders_iff.mpr ?_, last name⟩, ?_⟩
    · rintro ⟨stored, present, -⟩
      rw [bare] at present
      exact absurd present Std.ExtTreeMap.not_mem_empty
    · rw [← last]
      rfl
  · obtain ⟨ms, document, read⟩ := givesHeaders_of_ofJson? decoded
    have stored_iff := mem_of_headersOfJson? read
    refine ⟨ms, document, getElem?_of_headersOfJson? read, fun name => ?_⟩
    rw [finds_withHeaders_iff]
    simp only [stored_iff, List.mem_map, exists_exists_and_eq_and]

theorem header_hidden_by_capital :
    let v : Json := .obj [("method", .str "Get"), ("path", .str "x"),
      ("headers", .obj [("Authorization", .str "Bearer abc")]),
      ("received_at", .str "1970-01-01T00:00:00Z")]
    let given := [("authorization", "Basic x"), ("AUTHORIZATION", "Bearer def")]
    ∃ r, ofJson? v = some r ∧ r.headers["Authorization"]? = some "Bearer abc" ∧
      ¬ r.Finds "authorization" ∧ r.bearerToken = none ∧
      (r.withHeaders given).Finds "authorization" ∧
      (r.withHeaders given).bearerToken = some "def" ∧
      (withHeaders {} given).bearerToken = some "def" := by
  intro v given
  obtain ⟨r, decoded⟩ : ∃ r, ofJson? v = some r :=
    Option.isSome_iff_exists.mp (by decide +kernel)
  have only (ms) (document : GivesHeaders v ms) : ms = [("Authorization", .str "Bearer abc")] := by
    rcases document with ⟨fields, object, member⟩ | ⟨fields, array, -⟩
    · rw [← Json.obj.inj object] at member
      cases member
      rfl
    · exact Json.noConfusion array
  obtain ⟨-, -, -, taken⟩ := header_found_iff r []
  obtain ⟨ms, document, stored, hidden⟩ := taken v decoded
  obtain rfl := only ms document
  obtain ⟨found, bearer, -, later⟩ := header_found_iff r given
  obtain ⟨ms, document, -, seen⟩ := later v decoded
  obtain rfl := only ms document
  obtain ⟨-, anew⟩ := (header_found_iff {} given).2.2.1 rfl
  have capital : r.headers["Authorization"]? = some "Bearer abc" := by
    rw [stored]
    decide +kernel
  have missing : r.header "authorization" = none := by
    rw [header, stored]
    decide +kernel
  refine ⟨r, decoded, capital, ?_, ?_, ?_, ?_, ?_⟩
  · intro finds
    have unseen := (hidden "authorization").mp finds
    revert unseen
    decide +kernel
  · rw [bearerToken, missing]
    rfl
  · refine (seen "authorization").mpr fun _ => .inr ?_
    decide +kernel
  · rw [bearer, missing]
    decide +kernel
  · rw [anew]
    decide +kernel

end Request

end SessionGateway
