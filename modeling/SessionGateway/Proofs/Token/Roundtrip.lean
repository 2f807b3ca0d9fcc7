import SessionGateway.Proofs.Json.Record
import SessionGateway.Proofs.Session.Manager
import SessionGateway.Token.Signed

/-! What was signed is read back. A token is taken apart at its last two points, which no letter of
its parts can be, and each part holds the bytes of a document of scalars. -/

namespace SessionGateway

theorem Text.cutLast?_append {sep : Char} {cs : List Char} (clean : sep ∉ cs) (s : String) :
    cutLast? sep (s ++ .ofList [sep] ++ .ofList cs) = some (s, .ofList cs) := by
  have backwards : (s ++ .ofList [sep] ++ .ofList cs : String).toList.reverse =
      cs.reverse ++ sep :: s.toList.reverse := by simp
  have passed : ∀ c ∈ cs.reverse, (c != sep) = true := fun c member => by
    have inside : c ∈ cs := List.mem_reverse.mp member
    exact bne_iff_ne.mpr fun same => clean (same ▸ inside)
  unfold cutLast?
  rw [backwards, List.dropWhile_append_of_pos passed, List.takeWhile_append_of_pos passed]
  simp

theorem Bytes.Base64Url.point_not_mem_encode (bs : List UInt8) : '.' ∉ encode bs := by
  have other (n : Nat) : letter n ≠ '.' := by
    have small : ∀ n < 64, letter n ≠ '.' := by decide
    by_cases bound : n < 64
    · exact small n bound
    · unfold letter
      rw [if_neg (by omega), if_neg (by omega), if_neg (by omega), if_neg (by omega)]
      decide
  fun_induction encode bs with
  | case1 a b c rest ih => simp [ih, (other _).symm]
  | case2 a b => simp [(other _).symm]
  | case3 a => simp [(other _).symm]
  | case4 => simp

namespace Uuid

theorem length_chars (u : Uuid) : u.chars.length = 36 := by
  have size : (Bytes.hex u.bytes).length = 32 := by rw [Bytes.length_hex, u.size]
  simp [chars, hyphenated, size]

theorem unhyphenated?_hyphenated {digits : List Char} (size : digits.length = 32) :
    unhyphenated? (hyphenated digits) = some digits := by
  have join (start n : Nat) :
      (digits.drop start).take n ++ digits.drop (start + n) = digits.drop start := by
    rw [← List.drop_drop, List.take_append_drop]
  have groups : digits.take 8 ++ (digits.drop 8).take 4 ++ (digits.drop 12).take 4 ++
      (digits.drop 16).take 4 ++ digits.drop 20 = digits := by
    simp only [List.append_assoc]
    rw [join 16 4, join 12 4, join 8 4, List.take_append_drop]
  have same : (hyphenated digits).take 8 ++ ((hyphenated digits).drop 9).take 4 ++
      ((hyphenated digits).drop 14).take 4 ++ ((hyphenated digits).drop 19).take 4 ++
      (hyphenated digits).drop 24 = digits := by
    refine Eq.trans ?_ groups
    simp [hyphenated, List.drop_append, List.drop_take, size]
  simp only [unhyphenated?, same, if_true]

theorem parse?_render (u : Uuid) : parse? u.render = some u := by
  have size : (Bytes.hex u.bytes).length = 32 := by rw [Bytes.length_hex, u.size]
  rw [parse?, render, String.toList_ofList, ofChars?, u.length_chars]
  simp [ofGroups?, chars, unhyphenated?_hyphenated size, ofDigits?, Bytes.ofHex?_hex]

end Uuid

theorem Uuid.faithful : Json.Faithful toJson ofJson? where
  plain _ := .str _
  read_write u := by
    rw [ofJson?, toJson, Json.faithful_text.read_write, Option.bind_some, parse?_render]

theorem Json.faithful_int64 : Faithful ofInt64 int64? where
  plain _ := .int _
  read_write n := by
    rw [ofInt64, int64?, int?, if_pos ⟨n.minValue_le_toInt, n.toInt_le⟩, Option.map_some,
      Int64.ofInt_toInt]

namespace Claims

def members (c : Claims) : List (String × Json) :=
  [("sub", .str c.sub), ("iat", .ofInt64 c.iat), ("exp", .ofInt64 c.exp)]

theorem toJson_eq (c : Claims) : c.toJson = .obj (("sid", c.sid.toJson) :: c.members) := rfl

theorem scalar_ofInt64 (n : Int64) : Json.Scalar (.ofInt64 n) := by
  have low := n.minValue_le_toInt
  have high := n.toInt_le
  refine .int ?_
  have bounds : Int64.minValue.toInt = -9223372036854775808 ∧
    Int64.maxValue.toInt = 9223372036854775807 := by decide
  omega

theorem scalar_members (c : Claims) : ∀ m ∈ c.members, Json.Scalar m.2 := by
  simp [members, Json.Scalar.str, scalar_ofInt64]

theorem faithful : Json.Faithful toJson ofJson? where
  plain c := .obj (by
    simp [Uuid.faithful.plain, Json.faithful_text.plain, Json.faithful_int64.plain])
  read_write c := by
    simp [toJson, ofJson?, names, Json.fields?_obj, Uuid.faithful.read_write,
      Json.faithful_text.read_write, Json.faithful_int64.read_write]

end Claims

namespace SignedToken

theorem partBytes_encodeText (cs : List Char) :
    partBytes (encodeText (.ofList cs)) = .ok (Json.utf8 cs) := by
  rw [partBytes, encodeText, String.toList_ofList, Bytes.Base64Url.decode?_encode,
    Json.toUTF8_ofList]

theorem headerAlgorithm_headerText : headerAlgorithm (encodeText headerText) = .ok "HS256" := by
  have read := Json.ofBytesWanted?_obj headerFields "typ" (Json.Scalar.str "JWT")
    [("alg", .str "HS256")] (by simp [Json.Scalar.str])
  have kept : ([("typ", Json.str "JWT"), ("alg", .str "HS256")].filter (·.1 ∈ headerFields)) =
      [("typ", Json.str "JWT"), ("alg", .str "HS256")] := by
    simp [headerFields]
  have named : algorithm? (.obj [("typ", .str "JWT"), ("alg", .str "HS256")]) = some "HS256" := by
    rfl
  rw [headerAlgorithm, headerText, Json.render, partBytes_encodeText]
  simp only [read, kept, Option.bind_some, named]

theorem payloadClaims_toJson (c : Claims) :
    payloadClaims (encodeText c.toJson.render) = .ok (c, false) := by
  have sid : Json.Scalar c.sid.toJson := .str c.sid.render
  have read := Json.ofBytesWanted?_obj Claims.names "sid" sid c.members c.scalar_members
  have kept : (("sid", c.sid.toJson) :: c.members).filter (·.1 ∈ Claims.names) =
      ("sid", c.sid.toJson) :: c.members := by
    simp [Claims.members, Claims.names]
  have unaddressed := audience?_obj "sid" sid c.members c.scalar_members (by simp [Claims.members])
    (by simp [Claims.members])
  rw [kept, ← Claims.toJson_eq] at read
  rw [← Claims.toJson_eq] at unaddressed
  rw [payloadClaims, Json.render, partBytes_encodeText]
  simp only [read, Option.bind_some, Claims.faithful.read_write, unaddressed]

theorem cutLast?_part (front : String) (bytes : List UInt8) :
    Text.cutLast? '.' (front ++ "." ++ .ofList (Bytes.Base64Url.encode bytes)) =
      some (front, .ofList (Bytes.Base64Url.encode bytes)) :=
  Text.cutLast?_append (Bytes.Base64Url.point_not_mem_encode bytes) front

theorem validateWith_issueWith (mac : Mac) (secret : List UInt8) (c : Claims) (wall : Int) :
    validateWith mac secret wall (issueWith mac secret c) =
      if c.exp.toInt < 0 then .error (.invalid Fault.missingExpiry.text)
      else if c.exp.toInt < wall then .error .expired
      else .ok c := by
  let message := encodeText headerText ++ "." ++ encodeText c.toJson.render
  -- the message has a point of its own, so the signature has to come off at the last one
  have outer : Text.cutLast? '.' (issueWith mac secret c) =
      some (message, signature mac secret message) := cutLast?_part message _
  have inner : Text.cutLast? '.' message =
      some (encodeText headerText, encodeText c.toJson.render) :=
    cutLast?_part (encodeText headerText) _
  unfold validateWith
  simp only [outer, inner, headerAlgorithm_headerText, payloadClaims_toJson]
  simp

/-- Claims that are signed are read back from the token until they expire, whatever they say and
whatever the messages are signed with; and so the token of a new session is good for its user until
it expires. -/
theorem issued_validates (mac : Mac) (secret : List UInt8) (lifetime : Span) :
    let issuer := issuerWith mac secret lifetime
    (∀ (c : Claims) (now : Int), ∃ token, (issuer now).issue c = .ok token ∧
      ∀ t, (issuer t).validate token =
        if c.exp.toInt < 0 then .error (.invalid "Missing required claim: exp")
        else if c.exp.toInt < t then .error .expired
        else .ok c) ∧
    ∀ (m m' : SessionManager) (ctx : SessionContext) (uuid : Uuid) (p : Principal)
      (credential : List UInt8) (issued : IssuedSession) (now : Int),
      ctx.issuer = issuer now → m.create ctx uuid p credential = (.ok issued, m') →
      let c := Claims.issued uuid p.user ctx.now lifetime
      c.sid = issued.session.uuid ∧ c.sub = issued.session.principal.user ∧
        ∀ t : Nat, (issuer t).validate issued.token = .ok c ↔ t ≤ c.exp.toInt := by
  intro issuer
  refine ⟨fun c now => ⟨issueWith mac secret c, rfl, validateWith_issueWith mac secret c⟩, ?_⟩
  intro m m' ctx uuid p credential issued now same created c
  obtain ⟨rfl, rfl, minted⟩ := SessionManager.create_eq_ok created
  rw [same] at minted
  have token : issued.token = issueWith mac secret c := (Except.ok.inj minted).symm
  refine ⟨rfl, rfl, fun t => ?_⟩
  have judged := validateWith_issueWith mac secret c t
  rw [token]
  change validateWith mac secret t (issueWith mac secret c) = _ ↔ _
  rw [judged]
  constructor
  · intro good
    by_contra late
    split at good
    · cases good
    · rw [if_pos (by omega)] at good
      cases good
  · intro early
    rw [if_neg (by omega), if_neg (by omega)]

theorem issued_validates_escaped :
    let secret := "secret".toUTF8.toList
    let issuer := issuerWith Bytes.Hmac.sha256 secret (.ofSeconds 2592000)
    let ctx : SessionContext := ⟨issuer 0, fun _ => none, .epoch⟩
    let p := Principal.named "\"\\\n\x07é" .epoch
    let x : Session := ⟨.zero, p, .epoch, .epoch, ⟨21600, 0, by decide, by decide⟩, [], false⟩
    let c : Claims := ⟨.zero, p.user, 0, 2592000⟩
    let created := (SessionManager.ofSettings {}).create ctx .zero p []
    created = (.ok ⟨x, issueWith Bytes.Hmac.sha256 secret c⟩, created.2) ∧
      (issuer 2592000).validate (issueWith Bytes.Hmac.sha256 secret c) = .ok c := by
  intro secret issuer ctx p x c created
  have granted : Session.expiry ctx.now (SessionManager.ofSettings {}).settings.ttl =
      .ok x.expiresAt :=
    Session.expiry_eq_ok.mpr ⟨by decide, by decide +kernel⟩
  have issued : Claims.issued .zero p.user .epoch (.ofSeconds 2592000) = c := by decide +kernel
  have answer : created = (.ok ⟨x, issueWith Bytes.Hmac.sha256 secret c⟩, created.2) := by
    refine Prod.ext ?_ rfl
    change (SessionManager.create _ ctx .zero p []).1 = _
    rw [← issued, SessionManager.create, Session.start, granted]
    rfl
  have judged := (issued_validates Bytes.Hmac.sha256 secret (.ofSeconds 2592000)).2
    _ _ ctx .zero p [] _ 0 rfl answer
  rw [issued] at judged
  exact ⟨answer, (judged.2.2 2592000).mpr (by decide)⟩

end SignedToken

end SessionGateway
