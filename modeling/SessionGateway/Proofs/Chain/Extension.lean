import SessionGateway.Chain.Extension
import SessionGateway.Proofs.Chain.Validation

/-! Which handler a request reaches. Somebody has to serve the request, and the access that its
method needs has to be granted; otherwise no handler runs. -/

namespace SessionGateway

namespace Verb

def method : Verb → Method
  | get => .get
  | put => .put
  | post => .post

theorem ofMethod?_eq_some {m : Method} {verb : Verb} :
    ofMethod? m = some verb ↔ m = verb.method := by
  cases verb <;> cases m <;> simp [ofMethod?, method]

end Verb

/-- Reading needs the role to read, the other methods that of writing. -/
def Request.accessOn (request : Request) (principal : Principal) (segment : String) : Access where
  principal
  role := if request.method = .get then .read else .write
  resource := "#" ++ segment
  request

inductive Routed.Answers : Outcome Response → Outcome Routed → Prop
  | handled (response : Response) : Answers (.ok response) (.ok (.handled response))
  | notImplemented (what : String) : Answers (.error (.notImplemented what)) (.ok .notImplemented)
  | failed (e : PluginError) (other : ∀ what, e ≠ .notImplemented what) :
    Answers (.error e) (.error e)
  | crashed (c : Crash) : Answers (.crash c) (.crash c)

namespace Registry

variable (r : Registry) (principal : Principal) (request : Request)

theorem answers_routed (o : Outcome Response) : Routed.Answers o (routed o) := by
  cases o with
  | ok response => exact .handled response
  | crash c => exact .crashed c
  | error e =>
    cases e with
    | notImplemented what => exact .notImplemented what
    | _ => exact .failed _ fun what same => by cases same

/-- The extension holds the first segment of the request, and the method is one of those that
extensions serve. -/
structure Serves (segment : String) (e : Extension) (verb : Verb) : Prop where
  addressed : request.firstSegment = some segment
  holder : ∃ id, r.extensions[segment]? = some (id, e)
  method : request.method = verb.method

section Serves

variable {r principal request} {segment : String} {e : Extension} {verb : Verb}

theorem Serves.route (h : r.Serves request segment e verb) :
    r.route principal request =
      let a := request.accessOn principal segment
      if (a.decide r).1 then
        (routed (e.handle verb principal request),
          (a.decide r).2 ++ [.handle e.source verb principal request])
      else (.ok .denied, (a.decide r).2) := by
  obtain ⟨id, holder⟩ := h.holder
  have served := Verb.ofMethod?_eq_some.mpr h.method
  have role : verb.role = if request.method = .get then .read else .write := by
    rw [h.method]
    cases verb <;> rfl
  unfold Registry.route Request.accessOn
  rw [h.addressed]
  simp only [holder, served, role]
  rfl

theorem Serves.route_of_granted (h : r.Serves request segment e verb)
    (granted : (request.accessOn principal segment).Granted r) :
    (r.route principal request).2.filter PluginCall.isHandling =
        [.handle e.source verb principal request] ∧
      Routed.Answers (e.handle verb principal request) (r.route principal request).1 := by
  rw [h.route, if_pos ((Access.decide_iff _ r).mpr granted), List.filter_append]
  exact ⟨congrArg (· ++ _) (Access.handlings_consult _ r.validators), answers_routed _⟩

theorem Serves.route_of_refused (h : r.Serves request segment e verb)
    (refused : ¬ (request.accessOn principal segment).Granted r) :
    (r.route principal request).2.filter PluginCall.isHandling = [] ∧
      (r.route principal request).1 = .ok .denied := by
  rw [h.route, if_neg fun allowed => refused ((Access.decide_iff _ r).mp allowed)]
  exact ⟨Access.handlings_consult _ r.validators, rfl⟩

theorem route_of_not_serves (h : ∀ segment e verb, ¬ r.Serves request segment e verb) :
    r.route principal request = (.ok .notImplemented, []) := by
  unfold Registry.route
  cases hs : request.firstSegment with
  | none => rfl
  | some segment =>
    cases holder : r.extensions[segment]? with
    | none => simp only [holder]
    | some owner =>
      cases served : Verb.ofMethod? request.method with
      | none => simp only [holder]
      | some verb =>
        have method := Verb.ofMethod?_eq_some.mp served
        exact absurd ⟨hs, ⟨owner.1, holder⟩, method⟩ (h segment owner.2 verb)

theorem not_serves_of_claims (unclaimed : r.claims request = false) :
    ¬ r.Serves request segment e verb := by
  intro h
  obtain ⟨id, holder⟩ := h.holder
  rw [claims, h.addressed, Option.any_some, Std.ExtTreeMap.contains_eq_isSome_getElem?, holder]
    at unclaimed
  cases unclaimed

end Serves

theorem fst_route_eq_of_perm {s : Registry} (extensions : r.extensions = s.extensions)
    (validators : r.validators.Perm s.validators) :
    (r.route principal request).1 = (s.route principal request).1 := by
  unfold Registry.route
  rw [extensions]
  cases request.firstSegment with
  | none => rfl
  | some segment =>
    cases holder : s.extensions[segment]? with
    | none => simp only [holder]
    | some owner =>
      cases served : Verb.ofMethod? request.method with
      | none => simp only [holder]
      | some verb =>
        simp only [holder, Access.fst_decide_eq_of_perm _ validators]
        split <;> rfl

/-- Exactly the requests that somebody serves and for which access is granted reach a handler: the
one of the holder for the method, called once, whose answer is passed on. If access is not granted
the request is denied, and if nobody serves it no plugin is called at all. -/
theorem route_reaches_handler_iff :
    let answer := (r.route principal request).1
    let calls := (r.route principal request).2
    let handlings := calls.filter PluginCall.isHandling
    (handlings ≠ [] ↔ ∃ segment e verb, r.Serves request segment e verb ∧
        (request.accessOn principal segment).Granted r) ∧
      (∀ segment e verb, r.Serves request segment e verb →
        ((request.accessOn principal segment).Granted r →
          handlings = [.handle e.source verb principal request] ∧
            Routed.Answers (e.handle verb principal request) answer) ∧
        (¬ (request.accessOn principal segment).Granted r →
          handlings = [] ∧ answer = .ok .denied)) ∧
      ((∀ segment e verb, ¬ r.Serves request segment e verb) →
        answer = .ok .notImplemented ∧ calls = []) ∧
      (r.claims request = false → answer = .ok .notImplemented) := by
  intro answer calls handlings
  have unserved (h : ∀ segment e verb, ¬ r.Serves request segment e verb) :
      answer = .ok .notImplemented ∧ calls = [] :=
    Prod.mk.inj (route_of_not_serves h)
  refine ⟨⟨fun reached => ?_, ?_⟩, fun segment e verb serves => ⟨serves.route_of_granted,
    serves.route_of_refused⟩, unserved,
    fun unclaimed => (unserved fun _ _ _ => not_serves_of_claims unclaimed).1⟩
  · by_cases served : ∃ segment e verb, r.Serves request segment e verb
    · obtain ⟨segment, e, verb, serves⟩ := served
      by_cases granted : (request.accessOn principal segment).Granted r
      · exact ⟨segment, e, verb, serves, granted⟩
      · exact absurd (serves.route_of_refused granted).1 reached
    · have quiet : calls = [] :=
        (unserved fun segment e verb serves => served ⟨segment, e, verb, serves⟩).2
      exact absurd (congrArg (List.filter PluginCall.isHandling) quiet) reached
  · rintro ⟨segment, e, verb, serves, granted⟩
    have called : handlings = _ := (serves.route_of_granted granted).1
    rw [called]
    exact List.cons_ne_nil _ _

theorem route_reaches_handler_of_put :
    let e : Extension := ⟨"reports", ["/reports/"], fun _ _ _ => .error (.notImplemented "put")⟩
    let v : Validator := ⟨"guard", fun a => if a.role = .write then .ok true else .error ⟨none⟩⟩
    let r := (({} : Registry).addExtension "/reports/" "reports" e).addValidator "guard" v
    let p : Principal :=
      { Principal.named "ann" .epoch with permissions := .ofGrants [("*", .admin)] }
    let put : Request := { method := .put, path := "//reports/7" }
    let get : Request := { put with method := .get }
    (r.route p put).2.filter PluginCall.isHandling = [.handle "reports" .put p put] ∧
      (r.route p put).1 = .ok .notImplemented ∧
      (r.route p get).2.filter PluginCall.isHandling = [] ∧ (r.route p get).1 = .ok .denied := by
  intro e v r p put get
  have registry : r = { validators := [("guard", v)],
                        extensions := Std.ExtTreeMap.insert ∅ "reports" ("reports", e) } := by
    have segment : claimedSegment? "/reports/" = some "reports" := by decide +kernel
    simp only [r, addExtension, segment]
    rfl
  have holder : ∃ id, r.extensions["reports"]? = some (id, e) :=
    ⟨"reports", registry ▸ Std.ExtTreeMap.getElem?_insert_self⟩
  have chain : r.validators = [("guard", v)] := registry ▸ rfl
  have grant : ("*", Role.admin) ∈ p.permissions.pairs := by decide +kernel
  have granted : (put.accessOn p "reports").Granted r :=
    ⟨by rw [chain]; simp [v, put, Request.accessOn], ("*", .admin), grant, .inr rfl, .inr rfl⟩
  have refused : ¬ (get.accessOn p "reports").Granted r := by
    intro granted
    have crash := granted.validators ("guard", v) (chain ▸ List.mem_singleton_self _)
    cases crash
  have ofPut : r.Serves put "reports" e .put := ⟨by decide +kernel, holder, rfl⟩
  have ofGet : r.Serves get "reports" e .get := ⟨by decide +kernel, holder, rfl⟩
  obtain ⟨-, outcomes, -, -⟩ := route_reaches_handler_iff r p put
  obtain ⟨called, answered⟩ := (outcomes "reports" e .put ofPut).1 granted
  obtain ⟨-, outcomes, -, -⟩ := route_reaches_handler_iff r p get
  obtain ⟨quiet, denied⟩ := (outcomes "reports" e .get ofGet).2 refused
  refine ⟨called, ?_, quiet, denied⟩
  generalize (r.route p put).1 = answer at answered
  cases answered with
  | notImplemented => rfl
  | failed _ other => exact absurd rfl (other "put")

end Registry

end SessionGateway
