import SessionGateway.Settings.Basic

/-! What settings have to satisfy. Each rule is decided by one check, and checks in a row decide
whether all of their rules hold. -/

namespace SessionGateway.Settings

/-- A number of seconds between the least that makes sense and ten years. -/
def InRange (least : Nat) (n : UInt64) : Prop :=
  least ≤ n.toNat ∧ n.toNat ≤ longestSeconds

structure Usable (s : Settings) : Prop where
  ttl : InRange 1 s.session.ttlSecs
  grace : InRange 0 s.session.sweepGraceSecs
  interval : InRange 1 s.session.sweepIntervalSecs
  tick : InRange 1 s.session.drainTickSecs
  lifetime : InRange 1 s.token.lifetimeSecs
  capacity : s.session.queueCapacity ≠ 0
  secret : s.token.secret ≠ ""

/-- A check that passes if the rule holds, and else calls the settings invalid. -/
def Decides (check : Except SettingsError Unit) (rule : Prop) : Prop :=
  check = .ok () ∧ rule ∨ (∃ reason, check = .error (.invalid reason)) ∧ ¬ rule

section decides

variable {check check' : Except SettingsError Unit} {rule rule' : Prop}

theorem Decides.and (h : Decides check rule) (h' : Decides check' rule') :
    Decides (check >>= fun _ => check') (rule ∧ rule') := by
  rcases h with ⟨rfl, holds⟩ | ⟨⟨reason, rfl⟩, broken⟩
  · rcases h' with ⟨rfl, holds'⟩ | ⟨⟨reason, rfl⟩, broken'⟩
    · exact .inl ⟨rfl, holds, holds'⟩
    · exact .inr ⟨⟨reason, rfl⟩, fun both => broken' both.2⟩
  · exact .inr ⟨⟨reason, rfl⟩, fun both => broken both.1⟩

theorem decides_ite (bad : Prop) [Decidable bad] (reason : String) (h : Decides check rule) :
    Decides (if bad then .error (.invalid reason) else check) (¬ bad ∧ rule) := by
  by_cases broken : bad
  · rw [if_pos broken]
    exact .inr ⟨⟨reason, rfl⟩, fun both => both.1 broken⟩
  · rw [if_neg broken]
    exact h.imp (And.imp_right fun holds => ⟨broken, holds⟩)
      (And.imp_right fun unmet both => unmet both.2)

theorem decides_pass : Decides (.ok ()) True :=
  .inl ⟨rfl, trivial⟩

theorem Decides.eq_ok_iff (h : Decides check rule) : check = .ok () ↔ rule := by
  rcases h with ⟨rfl, holds⟩ | ⟨⟨reason, rfl⟩, broken⟩ <;> simp [*]

theorem Decides.congr (h : Decides check rule) (same : rule ↔ rule') : Decides check rule' :=
  propext same ▸ h

end decides

theorem decides_checkSeconds (name : String) (least : Nat) (n : UInt64) :
    Decides (checkSeconds name least n) (InRange least n) := by
  refine (decides_ite _ _ decides_pass).congr ?_
  rw [InRange, and_true]
  omega

theorem decides_check (s : Settings) : Decides s.check s.Usable := by
  have rules := (decides_checkSeconds "session.ttl_secs" 1 s.session.ttlSecs).and <|
    (decides_checkSeconds "session.sweep_grace_secs" 0 s.session.sweepGraceSecs).and <|
    (decides_checkSeconds "session.sweep_interval_secs" 1 s.session.sweepIntervalSecs).and <|
    (decides_checkSeconds "session.drain_tick_secs" 1 s.session.drainTickSecs).and <|
    (decides_checkSeconds "token.lifetime_secs" 1 s.token.lifetimeSecs).and <|
    decides_ite (s.session.queueCapacity = 0) "session.queue_capacity must be > 0" <|
    decides_ite (s.token.secret = "") "token.secret must not be empty" decides_pass
  refine rules.congr ⟨?_, ?_⟩
  · rintro ⟨ttl, grace, interval, tick, lifetime, capacity, secret, -⟩
    exact ⟨ttl, grace, interval, tick, lifetime, capacity, secret⟩
  · rintro ⟨ttl, grace, interval, tick, lifetime, capacity, secret⟩
    exact ⟨ttl, grace, interval, tick, lifetime, capacity, secret, trivial⟩

/-- Settings that nobody changed are usable. -/
example : Settings.check {} = .ok () := rfl

end SessionGateway.Settings
