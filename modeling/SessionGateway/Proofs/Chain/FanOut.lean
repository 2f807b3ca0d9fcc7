import Mathlib.Data.List.Perm.Basic
import SessionGateway.Chain.Audit
import SessionGateway.Chain.DataEvent
import SessionGateway.Proofs.Plugin.Listing

/-! Whom an event reaches. Auditors and listeners are all called, each once, and what one of them
ends with changes neither who is called nor how often. An inline audit reports who failed and why;
in the background the deliveries end in any order. -/

namespace SessionGateway

inductive Outcome.FailsWith {α : Type} : Outcome α → String → Prop
  | error (e : PluginError) : FailsWith (.error e) e.message
  | crash (c : Crash) : FailsWith (.crash c) ("panicked: " ++ c.reason)

theorem Outcome.failure?_eq_some {α : Type} {o : Outcome α} {reason : String} :
    o.failure? = some reason ↔ o.FailsWith reason := by
  constructor
  · intro failed
    cases o with
    | ok value => cases failed
    | error e =>
      obtain rfl := Option.some.inj failed
      exact .error e
    | crash c =>
      obtain rfl := Option.some.inj failed
      exact .crash c
  · rintro (e | c)
    · rfl
    · rfl

theorem DataListener.accepts_iff {l : DataListener} {change : DataEvent} :
    l.accepts change = true ↔ l.notify change = .ok () := by
  unfold accepts
  cases l.notify change <;> simp [Outcome.failure?]

/-- The event is about a request for an endpoint that is kept out of the audit. -/
def AuditEvent.Excluded (event : AuditEvent) (s : AuditSettings) : Prop :=
  ∃ request ∈ event.request?, ∃ segment ∈ request.firstSegment, segment ∈ s.excludedEndpoints

theorem AuditEvent.not_excluded_login (method : String) (status : LoginStatus)
    (session : Option Uuid) (user : String) (s : AuditSettings) :
    ¬ (login method status session user).Excluded s := by
  rintro ⟨request, about, -⟩
  cases about

namespace AuditChain

def delivery (event : AuditEvent) (p : PluginId × Auditor) : PluginCall :=
  .audit p.2.source event

/-- In the background the auditors that are left are called one at a time and in any order, whatever
the calls before have ended with. -/
inductive Background (event : AuditEvent) :
    List (PluginId × Auditor) → List PluginCall → Prop
  | idle : Background event [] []
  | call (before : List (PluginId × Auditor)) (p : PluginId × Auditor)
    (after : List (PluginId × Auditor)) {calls : List PluginCall}
    (rest : Background event (before ++ after) calls) :
    Background event (before ++ p :: after) (delivery event p :: calls)

theorem background_iff_perm {event : AuditEvent} {ps : List (PluginId × Auditor)}
    {calls : List PluginCall} :
    Background event ps calls ↔ calls.Perm (ps.map (delivery event)) := by
  constructor
  · intro h
    induction h with
    | idle => rfl
    | call before p after rest ih =>
      exact (ih.cons _).trans (List.perm_middle.symm.map (delivery event))
  · intro h
    induction calls generalizing ps with
    | nil =>
      obtain rfl := List.map_eq_nil_iff.mp h.nil_eq.symm
      exact .idle
    | cons call calls ih =>
      obtain ⟨p, member, rfl⟩ := List.mem_map.mp (h.mem_iff.mp List.mem_cons_self)
      obtain ⟨before, after, rfl⟩ := List.append_of_mem member
      have left := h.trans (List.perm_middle.map (delivery event))
      exact .call before p after (ih left.cons_inv)

theorem any_isExcluded (r : Registry) (s : AuditSettings) (mode : AuditMode) (event : AuditEvent) :
    event.request?.any { ofRegistry r s with mode }.isExcluded = true ↔ event.Excluded s := by
  simp only [AuditEvent.Excluded, Option.any_eq_true, isExcluded, ofRegistry,
    List.contains_iff_mem, Option.mem_def]

theorem dispatch_of_excluded {c : AuditChain} {event : AuditEvent}
    (excluded : event.request?.any c.isExcluded = true) (background : Bool) :
    c.dispatch background event = ({ excluded := true }, []) :=
  if_pos excluded

theorem dispatch_of_included {c : AuditChain} {event : AuditEvent}
    (included : ¬ event.request?.any c.isExcluded = true) (background : Bool) :
    c.dispatch background event =
      ({ dispatched := c.auditors.length,
         failures := if c.mode = .detached ∧ background then [] else c.failures event },
        c.auditors.map (delivery event)) :=
  if_neg included

theorem listsById_failures (r : Registry) (s : AuditSettings) (mode : AuditMode)
    (event : AuditEvent) :
    ListsById (fun id reason => ∃ a, r.auditors[id]? = some a ∧ (a.deliver event).FailsWith reason)
      ({ ofRegistry r s with mode }.failures event) := by
  have listed := (ListsById.toList r.auditors).filterMap fun a => (a.deliver event).failure?
  simp only [Outcome.failure?_eq_some] at listed
  exact listed

end AuditChain

namespace Registry

def notification (change : DataEvent) (p : PluginId × DataListener) : PluginCall :=
  .dataEvent p.2.source change

structure SameAudience (r r' : Registry) : Prop where
  auditors : ∀ id : PluginId,
    (r.auditors[id]?).map Auditor.source = (r'.auditors[id]?).map Auditor.source
  listeners : ∀ id : PluginId,
    (r.listeners[id]?).map DataListener.source = (r'.listeners[id]?).map DataListener.source

theorem SameAudience.deliveries {r r' : Registry} (same : r.SameAudience r') (event : AuditEvent) :
    r.auditors.toList.map (AuditChain.delivery event) =
      r'.auditors.toList.map (AuditChain.delivery event) := by
  have sources := ListsById.map_toList_congr same.auditors
  have calls := congrArg (List.map fun source => PluginCall.audit source event) sources
  rw [List.map_map, List.map_map] at calls
  exact calls

theorem SameAudience.notifications {r r' : Registry} (same : r.SameAudience r')
    (change : DataEvent) :
    r.listeners.toList.map (notification change) =
      r'.listeners.toList.map (notification change) := by
  have sources := ListsById.map_toList_congr same.listeners
  have calls := congrArg (List.map fun source => PluginCall.dataEvent source change) sources
  rw [List.map_map, List.map_map] at calls
  exact calls

theorem listsById_accepting (r : Registry) (change : DataEvent) :
    ListsById (fun id l => r.listeners[id]? = some l ∧ l.notify change = .ok ())
      (r.listeners.toList.filter fun p => p.2.accepts change) := by
  have listed := (ListsById.toList r.listeners).filter fun p => p.2.accepts change
  simp only [DataListener.accepts_iff] at listed
  exact listed

/-- An audit event that is about an excluded endpoint reaches nobody; a login never is. Any other
calls each auditor once: in the order of the ids and with the failures reported in that order, or in
the background in any order. A change of data calls each listener once and counts those that
accept it. Nobody's behavior changes who is called. -/
theorem events_reach_all (r : Registry) (s : AuditSettings) (mode : AuditMode) (background : Bool)
    (event : AuditEvent) (change : DataEvent) :
    let c : AuditChain := { AuditChain.ofRegistry r s with mode }
    let report := (c.dispatch background event).1
    let calls := (c.dispatch background event).2
    (event.Excluded s → report = { excluded := true } ∧ calls = []) ∧
    (∀ method status session user, ¬ (AuditEvent.login method status session user).Excluded s) ∧
    (¬ event.Excluded s → ∃ ps, ListsById (fun id a => r.auditors[id]? = some a) ps ∧
      calls = ps.map (AuditChain.delivery event) ∧
      report.excluded = false ∧ report.dispatched = ps.length ∧
      if mode = .detached ∧ background then
        report.failures = [] ∧ ∀ ended, AuditChain.Background event ps ended ↔ ended.Perm calls
      else
        ListsById (fun id reason => ∃ a, r.auditors[id]? = some a ∧
          (a.deliver event).FailsWith reason) report.failures) ∧
    (∃ ps accepting, ListsById (fun id l => r.listeners[id]? = some l) ps ∧
      ListsById (fun id l => r.listeners[id]? = some l ∧ l.notify change = .ok ()) accepting ∧
      r.publish change = (accepting.length, ps.map (notification change))) ∧
    ∀ r', r.SameAudience r' →
      ({ AuditChain.ofRegistry r' s with mode }.dispatch background event).2 = calls ∧
      (r'.publish change).2 = (r.publish change).2 := by
  intro c report calls
  have excluded : event.request?.any c.isExcluded = true ↔ event.Excluded s :=
    AuditChain.any_isExcluded r s mode event
  refine ⟨fun h => ?_, fun _ _ _ _ => AuditEvent.not_excluded_login _ _ _ _ s, fun h => ?_,
    ⟨_, _, .toList r.listeners, r.listsById_accepting change, rfl⟩, fun r' same => ⟨?_, ?_⟩⟩
  · exact Prod.mk.inj (AuditChain.dispatch_of_excluded (excluded.mpr h) background)
  · obtain ⟨reported, called⟩ := Prod.mk.inj
      (AuditChain.dispatch_of_included (mt excluded.mp h) background)
    have reported : report = _ := reported
    have called : calls = _ := called
    refine ⟨_, .toList r.auditors, called, by rw [reported], by rw [reported]; rfl, ?_⟩
    split
    · next detached =>
      refine ⟨by rw [reported]; exact if_pos detached, fun ended => ?_⟩
      rw [AuditChain.background_iff_perm, called]
      rfl
    · next inline =>
      have failures : report.failures = c.failures event := by
        rw [reported]
        exact if_neg inline
      rw [failures]
      exact AuditChain.listsById_failures r s mode event
  · by_cases h : event.Excluded s
    · have excluded' := (AuditChain.any_isExcluded r' s mode event).mpr h
      change _ = (c.dispatch background event).2
      rw [AuditChain.dispatch_of_excluded excluded',
        AuditChain.dispatch_of_excluded (excluded.mpr h)]
    · have included' := mt (AuditChain.any_isExcluded r' s mode event).mp h
      change _ = (c.dispatch background event).2
      rw [AuditChain.dispatch_of_included included',
        AuditChain.dispatch_of_included (mt excluded.mp h)]
      exact (same.deliveries event).symm
  · exact (same.notifications change).symm

theorem events_reach_all_despite_failures :
    let failing : Auditor := ⟨"sink", fun _ => .error (.failed "sink offline")⟩
    let crashing : Auditor := ⟨"trace", fun _ => .crash ⟨some "boom"⟩⟩
    let recorder : Auditor := ⟨"log", fun _ => .ok ()⟩
    let r := ((Registry.addAuditor {} "c" recorder).addAuditor "a" failing).addAuditor "b" crashing
    let quiet := { r with auditors := r.auditors.map fun _ a => ⟨a.source, fun _ => .ok ()⟩ }
    let s : AuditSettings := { excludedEndpoints := ["health"] }
    let event (path : String) : AuditEvent := .receive (.named "ann" .epoch) { path }
    let dispatch (r : Registry) (path : String) :=
      { AuditChain.ofRegistry r s with mode := .inline }.dispatch true (event path)
    dispatch r "/health/x" = ({ excluded := true }, []) ∧
      (∃ ps, ListsById (fun id a => r.auditors[id]? = some a) ps ∧ ps.length = 3 ∧
        (dispatch r "tables").2 = ps.map (AuditChain.delivery (event "tables"))) ∧
      (dispatch r "tables").1.failures =
        [("a", "Plugin call failed: sink offline"), ("b", "panicked: boom")] ∧
      (dispatch quiet "tables").2 = (dispatch r "tables").2 ∧
      (dispatch quiet "tables").1.failures = [] := by
  intro failing crashing recorder r quiet s event dispatch
  have excluded : (event "/health/x").Excluded s := ⟨_, rfl, "health", by decide +kernel, by decide⟩
  have included : ¬ (event "tables").Excluded s := by
    rintro ⟨request, about, segment, first, member⟩
    cases about
    have tables : Request.firstSegment { path := "tables" } = some "tables" := by decide +kernel
    obtain rfl := Option.some.inj (tables.symm.trans first)
    exact absurd member (by decide)
  have same : r.SameAudience quiet := by
    refine ⟨fun id => ?_, fun _ => rfl⟩
    rw [Std.ExtTreeMap.getElem?_map, Option.map_map]
    rfl
  let change : DataEvent := { table := "tables", operation := .insert }
  obtain ⟨nobody, -⟩ := events_reach_all r s .inline true (event "/health/x") change
  obtain ⟨-, -, all, -, others⟩ := events_reach_all r s .inline true (event "tables") change
  obtain ⟨ps, listed, called, -, counted, -⟩ := all included
  have three : (dispatch r "tables").1.dispatched = 3 := by decide +kernel
  exact ⟨Prod.ext (nobody excluded).1 (nobody excluded).2,
    ⟨ps, listed, counted.symm.trans three, called⟩, by decide +kernel, (others quiet same).1,
    by decide +kernel⟩

end Registry

end SessionGateway
