import SessionGateway.Proofs.Settings.Check
import SessionGateway.Settings.Environment

/-! What the environment makes of settings. Each variable decides its own field and nothing else, so
laying the same environment over the result changes nothing. A text that its reader refuses ends the
overlay at the first such variable; otherwise the rules decide. -/

namespace SessionGateway.Settings

variable {α : Type} (lookup : String → Option String)

/-- What becomes of a field. An unset variable leaves it alone, and the text of one that is set says
what it is. -/
def Follows (name : String) (read : String → Except String α) (before after : α) : Prop :=
  match lookup name with
  | none => after = before
  | some text => read text = .ok after

section follows

variable {lookup} {name : String} {read : String → Except String α} {before after : α}

theorem follows_ok_iff {value : String → α} :
    Follows lookup name (fun text => .ok (value text)) before after ↔
      after = (lookup name).elim before value := by
  unfold Follows
  cases lookup name with
  | none => exact Iff.rfl
  | some text =>
    change Except.ok (value text) = .ok after ↔ after = value text
    rw [Except.ok.injEq, eq_comm]

theorem Follows.again (h : Follows lookup name read before after) :
    Follows lookup name read after after := by
  unfold Follows at h ⊢
  split
  · rfl
  · next text set =>
    rw [set] at h
    exact h

end follows

/-- What is said against the text of a variable, if it is set and its reader refuses it. -/
def refusal? (name : String) (read : String → Except String α) : Option String :=
  (lookup name).bind fun text =>
    match read text with
    | .ok _ => none
    | .error message => some message

theorem readVariable_cases (name : String) (read : String → Except String α) (before : α) :
    (∃ after, readVariable lookup name read before = .ok after ∧ refusal? lookup name read = none ∧
      ∀ x, Follows lookup name read before x ↔ x = after) ∨
    ∃ message, readVariable lookup name read before = .error (.badVariable name message) ∧
      refusal? lookup name read = some message ∧ ∀ x, ¬ Follows lookup name read before x := by
  unfold readVariable refusal? Follows
  cases lookup name with
  | none => exact .inl ⟨before, rfl, rfl, fun x => Iff.rfl⟩
  | some text =>
    change (∃ after, (read text).mapError _ = _ ∧ _ ∧ ∀ x, read text = .ok x ↔ _) ∨
      ∃ message, (read text).mapError _ = _ ∧ _ ∧ ∀ x, ¬ read text = .ok x
    cases value : read text with
    | ok after =>
      refine .inl ⟨after, rfl, by simp [value], fun x => ?_⟩
      rw [Except.ok.injEq, eq_comm]
    | error message => exact .inr ⟨message, rfl, by simp [value], fun x given => by cases given⟩

/-- The settings `d` are the settings `c` under the environment. -/
structure Overlaid (c d : Settings) : Prop where
  directory : Follows lookup environment.pluginDirectory (fun text => .ok (some text))
    c.plugins.directory d.plugins.directory
  allowList : Follows lookup environment.allowList (fun text => .ok (allowedNames text))
    c.plugins.allowList d.plugins.allowList
  ttl : Follows lookup environment.sessionTtl seconds c.session.ttlSecs d.session.ttlSecs
  retention : Follows lookup environment.retention Retention.parse
    c.session.retention d.session.retention
  kind : Follows lookup environment.storageKind StorageKind.parse c.storage.kind d.storage.kind
  path : Follows lookup environment.dataDirectory (fun text => .ok text)
    c.storage.path d.storage.path
  secret : Follows lookup environment.tokenSecret (fun text => .ok text)
    c.token.secret d.token.secret
  others : d.session.sweepIntervalSecs = c.session.sweepIntervalSecs ∧
    d.session.sweepGraceSecs = c.session.sweepGraceSecs ∧
    d.session.queueCapacity = c.session.queueCapacity ∧
    d.session.drainTickSecs = c.session.drainTickSecs ∧
    d.token.lifetimeSecs = c.token.lifetimeSecs ∧ d.audit = c.audit

/-- The variables whose texts can be refused, in the order in which they are read. -/
def refusals : List (String × Option String) :=
  [(environment.sessionTtl, refusal? lookup environment.sessionTtl seconds),
    (environment.retention, refusal? lookup environment.retention Retention.parse),
    (environment.storageKind, refusal? lookup environment.storageKind StorageKind.parse)]

/-- The first variable whose text is refused, and what is said against it. -/
def firstRefusal? : Option (String × String) :=
  (refusals lookup).findSome? fun (name, message?) => message?.map fun message => (name, message)

theorem Overlaid.again {lookup : String → Option String} {c d : Settings}
    (h : Overlaid lookup c d) : Overlaid lookup d d :=
  ⟨h.directory.again, h.allowList.again, h.ttl.again, h.retention.again, h.kind.again,
    h.path.again, h.secret.again, rfl, rfl, rfl, rfl, rfl, rfl⟩

section laid

variable (c : Settings) (ttl : UInt64) (retention : Retention) (kind : StorageKind)

/-- The settings with what was read for the three variables whose texts can be refused, and with the
texts of the others. -/
def laid : Settings where
  session := { c.session with ttlSecs := ttl, retention := retention }
  token := { c.token with secret := (lookup environment.tokenSecret).elim c.token.secret id }
  plugins := {
    directory := (lookup environment.pluginDirectory).elim c.plugins.directory some
    allowList := (lookup environment.allowList).elim c.plugins.allowList allowedNames }
  storage := {
    kind := kind
    path := (lookup environment.dataDirectory).elim c.storage.path id }
  audit := c.audit

variable {lookup c ttl retention kind}

theorem overlaid_eq_laid
    (readTtl : readVariable lookup environment.sessionTtl seconds c.session.ttlSecs = .ok ttl)
    (readRetention : readVariable lookup environment.retention Retention.parse c.session.retention =
      .ok retention)
    (readKind : readVariable lookup environment.storageKind StorageKind.parse c.storage.kind =
      .ok kind) : c.overlaid lookup = .ok (laid lookup c ttl retention kind) := by
  have directory : (lookup environment.pluginDirectory).or c.plugins.directory =
      (lookup environment.pluginDirectory).elim c.plugins.directory some := by
    cases lookup environment.pluginDirectory <;> rfl
  have given (name unset : String) : (lookup name).getD unset = (lookup name).elim unset id := by
    cases lookup name <;> rfl
  rw [overlaid, readTtl, readRetention, readKind, directory, given, given]
  rfl

theorem overlaid_iff_eq_laid
    (isTtl : ∀ x, Follows lookup environment.sessionTtl seconds c.session.ttlSecs x ↔ x = ttl)
    (isRetention : ∀ x, Follows lookup environment.retention Retention.parse c.session.retention x ↔
      x = retention)
    (isKind : ∀ x, Follows lookup environment.storageKind StorageKind.parse c.storage.kind x ↔
      x = kind) (x : Settings) :
    Overlaid lookup c x ↔ x = laid lookup c ttl retention kind := by
  constructor
  · intro h
    have directory := follows_ok_iff.mp h.directory
    have allowList := follows_ok_iff.mp h.allowList
    have path := follows_ok_iff.mp h.path
    have secret := follows_ok_iff.mp h.secret
    have ttl := (isTtl _).mp h.ttl
    have retention := (isRetention _).mp h.retention
    have kind := (isKind _).mp h.kind
    obtain ⟨interval, grace, capacity, tick, lifetime, audit⟩ := h.others
    rcases x with ⟨⟨_, _, _, _, _, _⟩, ⟨_, _⟩, ⟨_, _⟩, ⟨_, _⟩, _⟩
    subst ttl retention kind directory allowList path secret interval grace capacity tick lifetime
      audit
    rfl
  · rintro rfl
    exact ⟨follows_ok_iff.mpr rfl, follows_ok_iff.mpr rfl, (isTtl _).mpr rfl,
      (isRetention _).mpr rfl, (isKind _).mpr rfl, follows_ok_iff.mpr rfl, follows_ok_iff.mpr rfl,
      rfl, rfl, rfl, rfl, rfl, rfl⟩

end laid

theorem overlaid_cases (c : Settings) :
    (∃ d, c.overlaid lookup = .ok d ∧ firstRefusal? lookup = none ∧
      ∀ x, Overlaid lookup c x ↔ x = d) ∨
    ∃ name message, c.overlaid lookup = .error (.badVariable name message) ∧
      firstRefusal? lookup = some (name, message) ∧ ∀ x, ¬ Overlaid lookup c x := by
  unfold firstRefusal? refusals
  obtain ⟨ttl, read₁, fine₁, isTtl⟩ | ⟨message, read₁, refused, unmet⟩ :=
    readVariable_cases lookup environment.sessionTtl seconds c.session.ttlSecs
  · obtain ⟨retention, read₂, fine₂, isRetention⟩ | ⟨message, read₂, refused, unmet⟩ :=
      readVariable_cases lookup environment.retention Retention.parse c.session.retention
    · obtain ⟨kind, read₃, fine₃, isKind⟩ | ⟨message, read₃, refused, unmet⟩ :=
        readVariable_cases lookup environment.storageKind StorageKind.parse c.storage.kind
      · exact .inl ⟨_, overlaid_eq_laid read₁ read₂ read₃, by simp [fine₁, fine₂, fine₃],
          overlaid_iff_eq_laid isTtl isRetention isKind⟩
      · refine .inr ⟨environment.storageKind, message, ?_, by simp [fine₁, fine₂, refused],
          fun x h => unmet _ h.kind⟩
        rw [overlaid, read₁, read₂, read₃]
        rfl
    · refine .inr ⟨environment.retention, message, ?_, by simp [fine₁, refused],
        fun x h => unmet _ h.retention⟩
      rw [overlaid, read₁, read₂]
      rfl
  · refine .inr ⟨environment.sessionTtl, message, ?_, by simp [refused],
      fun x h => unmet _ h.ttl⟩
    rw [overlaid, read₁]
    rfl

theorem overlay_cases (c : Settings) :
    (∃ d, firstRefusal? lookup = none ∧ (∀ x, Overlaid lookup c x ↔ x = d) ∧
      (c.overlay lookup = .ok d ∧ d.Usable ∨
        (∃ reason, c.overlay lookup = .error (.invalid reason)) ∧ ¬ d.Usable)) ∨
    ∃ name message, c.overlay lookup = .error (.badVariable name message) ∧
      firstRefusal? lookup = some (name, message) ∧ ∀ x, ¬ Overlaid lookup c x := by
  unfold overlay
  obtain ⟨d, laid, fine, only⟩ | ⟨name, message, refused, first, unmet⟩ := overlaid_cases lookup c
  · refine .inl ⟨d, fine, only, ?_⟩
    rw [laid]
    rcases decides_check d with ⟨passed, usable⟩ | ⟨⟨reason, invalid⟩, broken⟩
    · refine .inl ⟨?_, usable⟩
      change (d.check >>= fun _ => pure d) = .ok d
      rw [passed]
      rfl
    · refine .inr ⟨⟨reason, ?_⟩, broken⟩
      change (d.check >>= fun _ => pure d) = .error (.invalid reason)
      rw [invalid]
      rfl
  · exact .inr ⟨name, message, by rw [refused]; rfl, first, unmet⟩

section outcome

variable {lookup} {c d : Settings}

theorem overlay_eq_ok_iff : c.overlay lookup = .ok d ↔ Overlaid lookup c d ∧ d.Usable := by
  obtain ⟨d', -, only, ⟨laid, usable⟩ | ⟨⟨reason, invalid⟩, broken⟩⟩ |
    ⟨name, message, refused, -, unmet⟩ := overlay_cases lookup c
  · rw [laid, only, Except.ok.injEq]
    exact ⟨fun same => same ▸ ⟨rfl, usable⟩, fun h => h.1.symm⟩
  · rw [invalid, only]
    exact ⟨fun ok => (by cases ok), fun h => absurd (h.1 ▸ h.2) broken⟩
  · rw [refused]
    exact ⟨fun ok => (by cases ok), fun h => absurd h.1 (unmet d)⟩

theorem overlaid_of_accepted (c : Settings) (fine : firstRefusal? lookup = none) :
    ∃ d, ∀ x, Overlaid lookup c x ↔ x = d := by
  obtain ⟨d, -, only, -⟩ | ⟨name, message, -, first, -⟩ := overlay_cases lookup c
  · exact ⟨d, only⟩
  · rw [fine] at first
    cases first

theorem overlay_eq_badVariable_iff {name message : String} :
    c.overlay lookup = .error (.badVariable name message) ↔
      firstRefusal? lookup = some (name, message) := by
  obtain ⟨d, fine, -, ⟨laid, -⟩ | ⟨⟨reason, invalid⟩, -⟩⟩ | ⟨name', message', refused, first, -⟩ :=
    overlay_cases lookup c
  · simp [laid, fine]
  · simp [invalid, fine]
  · simp [refused, first]

theorem overlay_eq_invalid_iff :
    (∃ reason, c.overlay lookup = .error (.invalid reason)) ↔
      firstRefusal? lookup = none ∧ ∃ d, Overlaid lookup c d ∧ ¬ d.Usable := by
  obtain ⟨d, fine, only, ⟨laid, usable⟩ | ⟨⟨reason, invalid⟩, broken⟩⟩ |
    ⟨name, message, refused, first, -⟩ := overlay_cases lookup c
  · simp [laid, only, usable]
  · exact ⟨fun _ => ⟨fine, d, (only d).mpr rfl, broken⟩, fun _ => ⟨reason, invalid⟩⟩
  · simp [refused, first]

end outcome

/-- The overlay succeeds with settings exactly if they agree with the environment in the fields that
it decides and with the base in all others, and no rule is broken; they pass the check, and laying
the environment over them again changes nothing. It fails at the first variable whose text is
refused, and if there is none, then exactly if the one outcome breaks a rule. -/
theorem overlay_exact (c : Settings) :
    (∀ d, c.overlay lookup = .ok d ↔ Overlaid lookup c d ∧ d.Usable) ∧
    (∀ d, c.overlay lookup = .ok d → d.check = .ok () ∧ d.overlay lookup = .ok d) ∧
    (∀ name message, c.overlay lookup = .error (.badVariable name message) ↔
      firstRefusal? lookup = some (name, message)) ∧
    (firstRefusal? lookup = none → ∃ d, ∀ x, Overlaid lookup c x ↔ x = d) ∧
    ((∃ reason, c.overlay lookup = .error (.invalid reason)) ↔
      firstRefusal? lookup = none ∧ ∃ d, Overlaid lookup c d ∧ ¬ d.Usable) := by
  refine ⟨fun d => overlay_eq_ok_iff, fun d ok => ?_, fun name message => overlay_eq_badVariable_iff,
    overlaid_of_accepted c, overlay_eq_invalid_iff⟩
  obtain ⟨laid, usable⟩ := overlay_eq_ok_iff.mp ok
  exact ⟨(decides_check d).eq_ok_iff.mpr usable, overlay_eq_ok_iff.mpr ⟨laid.again, usable⟩⟩

theorem overlay_exact_mixed :
    let set : String → Option String := fun name =>
      [(environment.storageKind, "Memory"), (environment.sessionTtl, " +120\n"),
        (environment.retention, "Soft-Invalidate"), (environment.allowList, " , "),
        (environment.tokenSecret, "s")].lookup name
    let broken : String → Option String := fun name =>
      [(environment.storageKind, "disk"), (environment.sessionTtl, "18446744073709551616")].lookup
        name
    let base : Settings := { plugins.allowList := some ["reports"] }
    let laid : Settings :=
      { session := { ttlSecs := 120, retention := .softInvalidate }
        token.secret := "s"
        storage.kind := .memory }
    base.overlay set = .ok laid ∧ laid.overlay set = .ok laid ∧
      base.overlay broken =
        .error (.badVariable environment.sessionTtl "number too large to fit in target type") := by
  intro set broken base laid
  obtain ⟨-, again, -⟩ := overlay_exact set base
  obtain ⟨-, -, refused, -⟩ := overlay_exact broken base
  have ok : base.overlay set = .ok laid := rfl
  exact ⟨ok, (again laid ok).2, (refused _ _).mpr rfl⟩

end SessionGateway.Settings
