import SessionGateway.Plugin.Message
import SessionGateway.Proofs.Clock.Rfc3339
import SessionGateway.Proofs.Json.Record
import SessionGateway.Proofs.Session.RecordBytes
import SessionGateway.Proofs.Token.Roundtrip
import SessionGateway.Request
import SessionGateway.Session.Record

/-! Settings, sessions, principals, requests, claims and plugin messages come back from the texts of
their documents. Each type is put together from the types of its fields. What holds times comes back
with the times as they are written, so it is the same only if they are legible. -/

namespace SessionGateway

open Json (ReadsAs Faithful Plain faithful_text faithful_bool faithful_word faithful_bytes)

theorem Instant.readsAsWritten : ReadsAs asWritten toJson ofJson? where
  plain _ := .str _
  read_write t := by
    rw [ofJson?, toJson, faithful_text.read_write, Option.bind_some, Rfc3339.parse?_render]

theorem Retention.faithful : Faithful toJson ofJson? :=
  Json.faithful_label (by rintro (_ | _) <;> simp) (by rintro (_ | _) (_ | _) <;> simp [label])

theorem StorageKind.faithful : Faithful toJson ofJson? :=
  Json.faithful_label (by rintro (_ | _) <;> simp) (by rintro (_ | _) (_ | _) <;> simp [label])

theorem SessionSettings.faithful : Faithful toJson ofJson? where
  plain s := .obj (by simp [faithful_word.plain, Retention.faithful.plain])
  read_write s := by
    simp [toJson, ofJson?, Json.fields?_obj, faithful_word.read_write,
      Retention.faithful.read_write]

theorem TokenSettings.faithful : Faithful toJson ofJson? where
  plain s := .obj (by simp [faithful_text.plain, faithful_word.plain])
  read_write s := by
    simp [toJson, ofJson?, Json.fields?_obj, faithful_text.read_write, faithful_word.read_write]

theorem PluginSettings.faithful : Faithful toJson ofJson? := by
  have directory := faithful_text.option (by simp)
  have allowList := faithful_text.list.option (by simp)
  refine ⟨fun s => .obj (by simp [directory.plain, allowList.plain]), fun s => ?_⟩
  simp [toJson, ofJson?, Json.fields?_obj, directory.read_write, allowList.read_write]

theorem StorageSettings.faithful : Faithful toJson ofJson? where
  plain s := .obj (by simp [faithful_text.plain, StorageKind.faithful.plain])
  read_write s := by
    simp [toJson, ofJson?, Json.fields?_obj, faithful_text.read_write,
      StorageKind.faithful.read_write]

theorem AuditSettings.faithful : Faithful toJson ofJson? := by
  have endpoints := faithful_text.list
  refine ⟨fun s => .obj (by simp [endpoints.plain, faithful_bool.plain]), fun s => ?_⟩
  simp [toJson, ofJson?, Json.fields?_obj, endpoints.read_write, faithful_bool.read_write]

theorem Settings.faithful : Faithful toJson ofJson? where
  plain s := .obj (by
    simp [SessionSettings.faithful.plain, TokenSettings.faithful.plain,
      PluginSettings.faithful.plain, StorageSettings.faithful.plain, AuditSettings.faithful.plain])
  read_write s := by
    simp [toJson, ofJson?, Json.fields?_obj, SessionSettings.faithful.read_write,
      TokenSettings.faithful.read_write, PluginSettings.faithful.read_write,
      StorageSettings.faithful.read_write, AuditSettings.faithful.read_write]

theorem SessionRecord.readsAsWritten : ReadsAs asWritten toJson ofJson? where
  plain r := .obj (by
    simp [Uuid.faithful.plain, faithful_text.plain, Instant.readsAsWritten.plain,
      faithful_bytes.plain, faithful_bool.plain])
  read_write r := by
    simp [toJson, ofJson?, Json.fields?_obj, Uuid.faithful.read_write, faithful_text.read_write,
      Instant.readsAsWritten.read_write, faithful_bytes.read_write, faithful_bool.read_write,
      asWritten]

theorem Role.faithful : Faithful toJson ofJson? :=
  Json.faithful_label mem_all (by rintro (_ | _ | _ | _) (_ | _ | _ | _) <;> simp [label])

theorem RoleSet.faithful : Faithful (fun s : RoleSet => .arr (s.toList.map Role.toJson))
    (fun v => (v.list? Role.ofJson?).map ofList) where
  plain s := Role.faithful.list.plain s.toList
  read_write s := by
    rw [Role.faithful.list.read_write, Option.map_some, ofList_toList]

theorem PermissionSet.grantsOfJson?_eq :
    grantsOfJson? = Json.map? fun v => (v.list? Role.ofJson?).map RoleSet.ofList := by
  funext v
  cases v <;> simp [grantsOfJson?, Json.map?, Function.comp_def]

theorem PermissionSet.faithful : Faithful toJson ofJson? := by
  have grants := RoleSet.faithful.map
  rw [← grantsOfJson?_eq] at grants
  refine ⟨fun p => .obj (by simp [grants.plain]), fun p => ?_⟩
  simp [toJson, ofJson?, Json.fields?_obj, grants.read_write]

namespace Principal

def asWritten (p : Principal) : Principal :=
  { p with
    createdAt := p.createdAt.asWritten
    lastLogin := p.lastLogin.map Instant.asWritten }

theorem asWritten_eq_self_iff {p : Principal} :
    p.asWritten = p ↔ p.createdAt.Legible ∧ ∀ t ∈ p.lastLogin, t.Legible := by
  cases p with
  | mk _ _ _ _ _ lastLogin =>
    cases lastLogin <;> simp [asWritten, Instant.asWritten_eq_self_iff]

theorem readsAsWritten : ReadsAs asWritten toJson ofJson? := by
  have roles := faithful_text.list
  have lastLogin := Instant.readsAsWritten.option (by simp [Instant.toJson])
  refine ⟨fun p => .obj (by
    simp [faithful_text.plain, PermissionSet.faithful.plain, roles.plain,
      Instant.readsAsWritten.plain, lastLogin.plain]), fun p => ?_⟩
  simp [toJson, ofJson?, Json.fields?_obj, faithful_text.read_write,
    PermissionSet.faithful.read_write, roles.read_write, Instant.readsAsWritten.read_write,
    lastLogin.read_write, asWritten]

end Principal

theorem Method.faithful : Faithful toJson ofJson? where
  plain
    | get | put | post | delete | patch => .str _
    | other name => .obj (by simp [faithful_text.plain])
  read_write
    | get | put | post | delete | patch => by rfl
    | other name => by rfl

theorem Request.headersOfJson?_eq : headersOfJson? = Json.map? Json.text? := by
  funext v
  cases v <;> rfl

def Request.asWritten (r : Request) : Request :=
  { r with receivedAt := r.receivedAt.asWritten }

theorem Request.asWritten_eq_self_iff {r : Request} : r.asWritten = r ↔ r.receivedAt.Legible := by
  cases r
  simp [asWritten, Instant.asWritten_eq_self_iff]

theorem Request.readsAsWritten : ReadsAs asWritten toJson ofJson? := by
  have text := faithful_text.option (by simp)
  have headers := faithful_text.map
  rw [← headersOfJson?_eq] at headers
  refine ⟨fun r => .obj (by
    simp [Method.faithful.plain, faithful_text.plain, text.plain, headers.plain,
      faithful_bytes.plain, Instant.readsAsWritten.plain]), fun r => ?_⟩
  simp [toJson, ofJson?, Json.fields?_obj, Method.faithful.read_write, faithful_text.read_write,
    text.read_write, headers.read_write, faithful_bytes.read_write,
    Instant.readsAsWritten.read_write, asWritten]

theorem DataOperation.faithful : Faithful toJson ofJson? :=
  Json.faithful_label (by rintro (_ | _ | _) <;> simp)
    (by rintro (_ | _ | _) (_ | _ | _) <;> simp [label])

def DataEvent.asWritten (e : DataEvent) : DataEvent :=
  { e with occurredAt := e.occurredAt.asWritten }

theorem DataEvent.asWritten_eq_self_iff {e : DataEvent} :
    e.asWritten = e ↔ e.occurredAt.Legible := by
  cases e
  simp [asWritten, Instant.asWritten_eq_self_iff]

theorem DataEvent.readsAsWritten : ReadsAs asWritten toJson ofJson? := by
  have key := faithful_text.option (by simp)
  refine ⟨fun e => .obj (by
    simp [faithful_text.plain, DataOperation.faithful.plain, key.plain,
      Instant.readsAsWritten.plain]), fun e => ?_⟩
  simp [toJson, ofJson?, Json.fields?_obj, faithful_text.read_write,
    DataOperation.faithful.read_write, key.read_write, Instant.readsAsWritten.read_write, asWritten]

theorem Response.faithful : Faithful toJson ofJson? where
  plain r := .obj (by simp [Plain.int, faithful_text.plain, faithful_bytes.plain])
  read_write r := by
    have status : (Json.int r.status.toNat).unsigned? 16 = some r.status.toNat :=
      Json.unsigned?_int r.status.toNat_lt
    simp [toJson, ofJson?, Json.fields?_obj, status, faithful_text.read_write,
      faithful_bytes.read_write]

/-- Every value is what is read from the text of its document, with its times as they are written;
it is the same value exactly if they are legible. The method of a request comes back as it was even
when another method has the name of a known one. -/
theorem documents_read_back :
    (∀ s : Settings, Settings.parse? s.toJson.render = some s) ∧
    (∀ r : SessionRecord,
      (Json.parse? r.toJson.render).bind SessionRecord.ofJson? = some r.asWritten ∧
      (r.asWritten = r ↔ r.Legible)) ∧
    (∀ p : PermissionSet, (Json.parse? p.toJson.render).bind PermissionSet.ofJson? = some p) ∧
    (∀ p : Principal,
      (Json.parse? p.toJson.render).bind Principal.ofJson? = some p.asWritten ∧
      (p.asWritten = p ↔ p.createdAt.Legible ∧ ∀ t ∈ p.lastLogin, t.Legible)) ∧
    (∀ m : Method, (Json.parse? m.toJson.render).bind Method.ofJson? = some m) ∧
    (∀ r : Request,
      (Json.parse? r.toJson.render).bind Request.ofJson? = some r.asWritten ∧
      (r.asWritten = r ↔ r.receivedAt.Legible)) ∧
    (∀ c : Claims, (Json.parse? c.toJson.render).bind Claims.ofJson? = some c) ∧
    (∀ e : DataEvent,
      (Json.parse? e.toJson.render).bind DataEvent.ofJson? = some e.asWritten ∧
      (e.asWritten = e ↔ e.occurredAt.Legible)) ∧
    ∀ r : Response, (Json.parse? r.toJson.render).bind Response.ofJson? = some r :=
  ⟨Settings.faithful.parse?_render,
    fun r => ⟨SessionRecord.readsAsWritten.parse?_render r, SessionRecord.asWritten_eq_self_iff⟩,
    PermissionSet.faithful.parse?_render,
    fun p => ⟨Principal.readsAsWritten.parse?_render p, Principal.asWritten_eq_self_iff⟩,
    Method.faithful.parse?_render,
    fun r => ⟨Request.readsAsWritten.parse?_render r, Request.asWritten_eq_self_iff⟩,
    Claims.faithful.parse?_render,
    fun e => ⟨DataEvent.readsAsWritten.parse?_render e, DataEvent.asWritten_eq_self_iff⟩,
    Response.faithful.parse?_render⟩

/-- A second and a half after 2100-01-01T00:00:30 is also written as half a second after
2100-01-01T00:00:31, and that is what is read. -/
theorem document_of_other_record :
    let t : Instant := ⟨4102444830, 1500000000, by decide, by decide⟩
    let t' : Instant := ⟨4102444831, 500000000, by decide, by decide⟩
    let record (expiresAt : Instant) : SessionRecord :=
      ⟨.zero, "kim", .epoch, .epoch, expiresAt, [], false⟩
    record t ≠ record t' ∧
      (Json.parse? (record t).toJson.render).bind SessionRecord.ofJson? = some (record t') := by
  intro t t' record
  have written : (record t).asWritten = record t' := by decide +kernel
  exact ⟨by decide, written ▸ SessionRecord.readsAsWritten.parse?_render (record t)⟩

/-- A known method and another one of the same name do not share a text. -/
example : (Method.other "GET").toJson.render ≠ Method.get.toJson.render := by decide +kernel

end SessionGateway
