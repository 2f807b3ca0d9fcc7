import SessionGateway.Gateway.Basic

/-! The hook of a process with several gateways. A start may put a chain into it, and every close of a
gateway that ever did so empties it, whoever came later. So the last chain stays exactly as long as
no such gateway is closed. -/

namespace SessionGateway

namespace Gateway

/-- Whether a start puts the chain of the gateway into the hook. -/
def installs (o : GatewayOptions) : Bool :=
  let plugins := Scan.run o.opener o.settings.plugins o.settings.plugins.directory
  o.installsHook && plugins.registry.hasAudit

theorem ownsHook_start {o : GatewayOptions} {host : Host} {g : Gateway}
    (started : start o host = .ok g) : g.ownsHook = installs o := by
  unfold start at started
  split at started
  · cases started
  · cases started
  · cases started
    rfl

theorem hook_start {o : GatewayOptions} {host : Host} {g : Gateway}
    (started : start o host = .ok g) :
    g.host.hook = if g.ownsHook then some g.audit else host.hook := by
  unfold start at started
  split at started
  · cases started
  · cases started
  · cases started
    simp only
    split <;> rfl

theorem ownsHook_close (g : Gateway) : g.close.2.ownsHook = g.ownsHook := rfl

theorem hook_close (g : Gateway) : g.close.2.host.hook = if g.ownsHook then none else g.host.hook :=
  rfl

end Gateway

/-- A process and the gateways that were started in it, closed or not. They share its hook. -/
structure Process where
  hook : Option AuditChain := none
  gateways : List Gateway := []

inductive ProcessStep where
  | start (o : GatewayOptions) (host : Host)
  | close (i : Nat)

namespace Process

def after (p : Process) : ProcessStep → Process
  | .start o host =>
    match Gateway.start o { host with hook := p.hook } with
    | .error _ => p
    | .ok g => { hook := g.host.hook, gateways := p.gateways ++ [g] }
  | .close i =>
    match p.gateways[i]? with
    | none => p
    | some g =>
      let closed := (Gateway.close { g with host.hook := p.hook }).2
      { hook := closed.host.hook, gateways := p.gateways.set i closed }

def run (p : Process) (steps : List ProcessStep) : Process :=
  steps.foldl after p

def owns (p : Process) (i : Nat) : Bool :=
  p.gateways[i]?.any (·.ownsHook)

def releases (p : Process) : ProcessStep → Bool
  | .start _ _ => false
  | .close i => p.owns i

/-- Reports an error of the database from anywhere in the process. -/
def report (p : Process) (host : Host) (elapsed : Nat) (context : RequestContext)
    (message : String) : Option (AuditReport × List PluginCall) :=
  Gateway.reportError { host with hook := p.hook } elapsed context message

end Process

/-- The step is not the start of a gateway with a chain for the hook. -/
def ProcessStep.Quiet : ProcessStep → Prop
  | .start o _ => Gateway.installs o = false
  | .close _ => True

namespace Process

variable {p : Process} {step : ProcessStep}

theorem owns_after (quiet : step.Quiet) (i : Nat) : (p.after step).owns i = p.owns i := by
  cases step with
  | start o host =>
    cases started : Gateway.start o { host with hook := p.hook } with
    | error e => rw [after, started]
    | ok g =>
      have guest : g.ownsHook = false := (Gateway.ownsHook_start started).trans quiet
      rw [after, started, owns, owns, List.getElem?_append]
      split
      · rfl
      · next beyond =>
        rw [List.getElem?_eq_none (Nat.le_of_not_lt beyond)]
        cases i - p.gateways.length <;> simp [guest]
  | close j =>
    cases known : p.gateways[j]? with
    | none => rw [after, known]
    | some g =>
      simp only [after, known, owns, List.getElem?_set]
      split
      · next same =>
        subst same
        obtain ⟨bound, -⟩ := List.getElem?_eq_some_iff.mp known
        rw [if_pos bound, known]
        exact Gateway.ownsHook_close { g with host.hook := p.hook }
      · rfl

theorem hook_after (quiet : step.Quiet) :
    (p.after step).hook = if p.releases step then none else p.hook := by
  cases step with
  | start o host =>
    cases started : Gateway.start o { host with hook := p.hook } with
    | error e =>
      rw [after, started]
      rfl
    | ok g =>
      have guest : g.ownsHook = false := (Gateway.ownsHook_start started).trans quiet
      rw [after, started]
      change g.host.hook = p.hook
      rw [Gateway.hook_start started, guest]
      rfl
  | close i =>
    cases known : p.gateways[i]? with
    | none => simp [after, releases, owns, known]
    | some g =>
      simp only [after, releases, owns, known, Gateway.hook_close, Option.any_some]

theorem releases_after (quiet : step.Quiet) : (p.after step).releases = p.releases := by
  funext step'
  cases step' with
  | start o host => rfl
  | close i => exact owns_after quiet i

theorem hook_run {steps : List ProcessStep} (quiet : ∀ step ∈ steps, step.Quiet) :
    (p.run steps).hook = if steps.any p.releases then none else p.hook := by
  induction steps generalizing p with
  | nil => rfl
  | cons step steps ih =>
    obtain ⟨first, rest⟩ := List.forall_mem_cons.mp quiet
    change ((p.after step).run steps).hook = _
    rw [ih rest, releases_after first, hook_after first, List.any_cons]
    cases p.releases step <;> cases steps.any p.releases <;> rfl

theorem releases_run {steps : List ProcessStep} (quiet : ∀ step ∈ steps, step.Quiet) :
    (p.run steps).releases = p.releases := by
  induction steps generalizing p with
  | nil => rfl
  | cons step steps ih =>
    obtain ⟨first, rest⟩ := List.forall_mem_cons.mp quiet
    exact (ih rest).trans (releases_after first)

/-- A gateway that put its chain into the hook, and was the last one to do so, is the one to which
errors are reported, until any gateway that ever owned the hook is closed. After that they are
reported to nobody. -/
theorem report_eq_of_last_installation {before after : List ProcessStep} {o : GatewayOptions}
    {host : Host} {g : Gateway}
    (started : Gateway.start o { host with hook := (run {} before).hook } = .ok g)
    (owner : g.ownsHook = true) (last : ∀ step ∈ after, step.Quiet) :
    let p := run {} (before ++ .start o host :: after)
    p.hook = (if after.any p.releases then none else some g.audit) ∧
      ∀ host' elapsed context message, p.report host' elapsed context message =
        if after.any p.releases then none
        else some (g.audit.dispatch true
          (.sendError elapsed context.principal context.request message)) := by
  intro p
  let p₀ := run {} before
  let p₁ := p₀.after (.start o host)
  have split : p = p₁.run after := List.foldl_append
  have installed : p₁.hook = some g.audit := by
    change (p₀.after (.start o host)).hook = _
    rw [Process.after, started]
    change g.host.hook = _
    rw [Gateway.hook_start started, if_pos owner]
  have hook : p.hook = if after.any p.releases then none else some g.audit := by
    rw [split, releases_run last, hook_run last, installed]
  refine ⟨hook, fun host' elapsed context message => ?_⟩
  change p.hook.map _ = _
  rw [hook]
  cases after.any p.releases <;> rfl

theorem report_lost_after_close :
    let auditor : Auditor := ⟨"recorder", fun _ => .ok ()⟩
    let recorder : StaticModule :=
      ⟨⟨"recorder", "recorder", "1", { audit := true }, .ok ()⟩, [.audit auditor]⟩
    let o : GatewayOptions :=
      { opener := ⟨fun _ => .ok ["recorder.so"], fun _ => .ok recorder.handle⟩ }
    let host : Host := { now := .epoch, wall := 0 }
    let p := run {} [.start o host, .start o host, .close 0]
    p.hook.isNone = true ∧ (p.gateways.map fun g => g.health.auditHook) = [true, true] ∧
      (p.gateways.map fun g => g.health.shuttingDown) = [true, false] ∧
      ∀ host' elapsed context message, (p.report host' elapsed context message).isNone = true := by
  intro auditor recorder o host p
  obtain ⟨g, started⟩ :
      ∃ g, Gateway.start o { host with hook := (run {} [.start o host]).hook } = .ok g := ⟨_, rfl⟩
  have owner : g.ownsHook = true := by cases started; rfl
  have last : ∀ step ∈ [ProcessStep.close 0], step.Quiet := by simp [ProcessStep.Quiet]
  have released : [ProcessStep.close 0].any p.releases = true := by decide +kernel
  obtain ⟨hook, reports⟩ := report_eq_of_last_installation started owner last
  have empty : p.hook = none := hook.trans (if_pos released)
  refine ⟨by rw [empty]; rfl, by decide +kernel, by decide +kernel, ?_⟩
  intro host' elapsed context message
  have lost : p.report host' elapsed context message = none :=
    (reports host' elapsed context message).trans (if_pos released)
  rw [lost]
  rfl

end Process

end SessionGateway
