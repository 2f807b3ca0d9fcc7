import SessionGateway.Proofs.Chain.Extension
import SessionGateway.Proofs.Plugin.Registration
import SessionGateway.Proofs.Request.Path

/-! Claims on path segments and the requests that they receive. Registering reads a segment off the
text of a claim, routing reads one off the path of a request. A claim that is refused is for no text
that a request could have as its first segment, so the last claim of a segment gets its requests. -/

namespace SessionGateway

structure Claim where
  text : String
  id : PluginId
  extension : Extension

namespace Claim

def segment (c : Claim) : String :=
  Text.strip '/' c.text

def latest? (segment : String) (claims : List Claim) : Option Claim :=
  claims.reverse.find? (·.segment = segment)

theorem segment_of_latest? {segment : String} {claims : List Claim} {c : Claim}
    (h : latest? segment claims = some c) : c.segment = segment := by
  simpa using List.find?_some h

theorem latest?_append (segment : String) (before after : List Claim) :
    latest? segment (before ++ after) = (latest? segment after).or (latest? segment before) := by
  rw [latest?, List.reverse_append, List.find?_append]
  rfl

/-- A text that can stand between the slashes of a path. -/
def Routable (segment : String) : Prop :=
  segment ≠ "" ∧ '/' ∉ segment.toList

theorem claimedSegment?_of_routable {c : Claim} (h : Routable c.segment) :
    claimedSegment? c.text = some c.segment :=
  if_neg <| not_or.mpr ⟨h.1, fun inner => h.2 (List.contains_iff_mem.mp inner)⟩

theorem claimedSegment?_of_not_routable {c : Claim} (h : ¬ Routable c.segment) :
    claimedSegment? c.text = none :=
  if_pos <| (not_and_or.mp h).imp not_not.mp
    fun inner => List.contains_iff_mem.mpr (not_not.mp inner)

end Claim

namespace Request

theorem routable_of_firstSegment {request : Request} {segment : String}
    (h : request.firstSegment = some segment) : Claim.Routable segment :=
  (of_firstSegment h).2

/-- The extension that the first segment of a request leads to, with the id of its module. -/
def destination? (request : Request) (r : Registry) : Option (PluginId × Extension) :=
  request.firstSegment.bind fun segment => r.extensions[segment]?

end Request

namespace Registration

def claims : Registration → List Claim
  | entry id (.extend e) => e.claimed.map fun text => ⟨text, id, e⟩
  | _ => []

end Registration

inductive RegistryCall where
  | register (c : Registration)
  | claim (c : Claim)

def RegistryCall.claims : RegistryCall → List Claim
  | register c => c.claims
  | claim c => [c]

namespace Registry

def claim (r : Registry) (c : Claim) : Option PluginId × Registry :=
  (r.holder? c.text, r.addExtension c.text c.id c.extension)

def call (r : Registry) : RegistryCall → Registry
  | .register c => r.register c
  | .claim c => (r.claim c).2

def ofCalls (cs : List RegistryCall) : Registry :=
  cs.foldl call {}

variable {segment : String}

theorem getElem?_extensions_claim (routable : Claim.Routable segment) (r : Registry) (c : Claim) :
    (r.claim c).2.extensions[segment]? =
      if c.segment = segment then some (c.id, c.extension) else r.extensions[segment]? := by
  by_cases h : Claim.Routable c.segment
  · simp only [claim, addExtension, Claim.claimedSegment?_of_routable h,
      Std.ExtTreeMap.getElem?_insert, Std.LawfulEqCmp.compare_eq_iff_eq]
  · have other : c.segment ≠ segment := fun same => h (same ▸ routable)
    simp only [claim, addExtension, Claim.claimedSegment?_of_not_routable h, if_neg other]

theorem getElem?_extensions_foldl_claim (routable : Claim.Routable segment) (cs : List Claim)
    (r : Registry) :
    (cs.foldl (fun r c => (r.claim c).2) r).extensions[segment]? =
      ((Claim.latest? segment cs).map fun c => (c.id, c.extension)).or r.extensions[segment]? := by
  induction cs generalizing r with
  | nil => rfl
  | cons c cs ih =>
    rw [List.foldl_cons, ih, getElem?_extensions_claim routable, ← List.singleton_append,
      Claim.latest?_append, Option.map_or, Option.or_assoc]
    by_cases same : c.segment = segment <;> simp [Claim.latest?, same]

theorem extensions_call (r : Registry) (c : RegistryCall) :
    (r.call c).extensions = (c.claims.foldl (fun r c => (r.claim c).2) r).extensions := by
  cases c with
  | claim c => rw [call, RegistryCall.claims, List.foldl_cons, List.foldl_nil]
  | register c =>
    cases c with
    | contract id m => rfl
    | entry id e =>
      cases e with
      | extend e =>
        simp only [call, register, addEntry, RegistryCall.claims, Registration.claims,
          List.foldl_map, claim]
      | _ => rfl

theorem getElem?_extensions_ofCalls (routable : Claim.Routable segment) (cs : List RegistryCall) :
    let claims := cs.flatMap RegistryCall.claims
    (ofCalls cs).extensions[segment]? =
      (Claim.latest? segment claims).map fun c => (c.id, c.extension) := by
  -- A segment is held by the last claim on it.
  have run (cs : List RegistryCall) (r : Registry) : (cs.foldl call r).extensions[segment]? =
      ((Claim.latest? segment (cs.flatMap RegistryCall.claims)).map
        fun c => (c.id, c.extension)).or r.extensions[segment]? := by
    induction cs generalizing r with
    | nil => rfl
    | cons c cs ih =>
      rw [List.foldl_cons, ih, extensions_call, getElem?_extensions_foldl_claim routable,
        List.flatMap_cons, Claim.latest?_append, Option.map_or, Option.or_assoc]
  exact (run cs {}).trans Option.or_none

theorem claim_of_routable {c : Claim} (h : Claim.Routable c.segment) (cs : List RegistryCall) :
    ((ofCalls cs).claim c).1 =
      (Claim.latest? c.segment (cs.flatMap RegistryCall.claims)).map Claim.id := by
  rw [claim, holder?, Claim.claimedSegment?_of_routable h, Option.bind_some,
    getElem?_extensions_ofCalls h, Option.map_map]
  rfl

theorem claim_of_not_routable {c : Claim} (h : ¬ Claim.Routable c.segment) (r : Registry) :
    r.claim c = (none, r) := by
  rw [claim, holder?, addExtension, Claim.claimedSegment?_of_not_routable h]
  rfl

/-- Whatever a registry is filled with: a request goes to the extension and the module of the last
claim whose text, without the slashes around it, is the first non-empty piece of the path, and to
nobody if there is no such claim. A claim on a text that no path has between its slashes changes
nothing; any other is answered with the module of the last claim on its segment before. -/
theorem routed_to_latest_claim (cs : List RegistryCall) (request : Request) :
    let r := ofCalls cs
    let claims := cs.flatMap RegistryCall.claims
    let latest? := ((Text.pieces '/' request.path).find? (· ≠ "")).bind (Claim.latest? · claims)
    request.destination? r = latest?.map (fun c => (c.id, c.extension)) ∧
      (∀ segment e verb, r.Serves request segment e verb ↔
        request.method = verb.method ∧ ∃ c ∈ latest?, c.segment = segment ∧ c.extension = e) ∧
      (∀ c : Claim, Claim.Routable c.segment →
        (r.claim c).1 = (Claim.latest? c.segment claims).map Claim.id) ∧
      ∀ c : Claim, ¬ Claim.Routable c.segment → r.claim c = (none, r) := by
  intro r claims latest?
  have named : latest? = request.firstSegment.bind (Claim.latest? · claims) := by
    rw [Request.firstSegment_eq_find?]
  refine ⟨?_, fun segment e verb => ⟨?_, ?_⟩, fun c h => claim_of_routable h cs,
    fun c h => claim_of_not_routable h r⟩
  · rw [named, Request.destination?]
    cases addressed : request.firstSegment with
    | none => rfl
    | some segment =>
      exact getElem?_extensions_ofCalls (Request.routable_of_firstSegment addressed) cs
  · rintro ⟨addressed, ⟨id, holder⟩, method⟩
    rw [getElem?_extensions_ofCalls (Request.routable_of_firstSegment addressed)] at holder
    obtain ⟨c, found, same⟩ := Option.map_eq_some_iff.mp holder
    refine ⟨method, c, ?_, Claim.segment_of_latest? found, (Prod.mk.inj same).2⟩
    rw [named, addressed]
    exact found
  · rintro ⟨method, c, found, rfl, rfl⟩
    rw [named] at found
    obtain ⟨segment, addressed, found⟩ := Option.bind_eq_some_iff.mp found
    obtain rfl := Claim.segment_of_latest? found
    refine ⟨addressed, ⟨c.id, ?_⟩, method⟩
    rw [getElem?_extensions_ofCalls (Request.routable_of_firstSegment addressed), found]
    rfl

theorem routed_to_latest_claim_taken :
    let page (name : String) (claimed : List String) : Extension :=
      ⟨name, claimed, fun _ _ _ => .error (.notImplemented name)⟩
    let entry := EntryPoint.extend (page "pages" ["reports", "/charts/", "a/b", ""])
    let cs : List RegistryCall :=
      [.register (.entry "pages" entry), .claim ⟨"//charts", "late", page "late" []⟩]
    let r := ofCalls cs
    let owner (path : String) := (Request.destination? { path } r).map (·.1)
    owner "/reports" = some "pages" ∧ owner "//charts/q1" = some "late" ∧ owner "a/b" = none ∧
      (r.claim ⟨"/reports/", "late", page "late" []⟩).1 = some "pages" ∧
      r.claim ⟨"/a/b/", "late", page "late" []⟩ = (none, r) := by
  intro page entry cs r owner
  have owned (path : String) : owner path = _ :=
    congrArg (Option.map Prod.fst) (routed_to_latest_claim cs { path }).1
  obtain ⟨-, -, answered, refused⟩ := routed_to_latest_claim cs {}
  have routable : Claim.Routable (Claim.segment ⟨"/reports/", "late", page "late" []⟩) := by
    unfold Claim.Routable; decide +kernel
  have inner : ¬ Claim.Routable (Claim.segment ⟨"/a/b/", "late", page "late" []⟩) := by
    unfold Claim.Routable; decide +kernel
  refine ⟨(owned _).trans ?_, (owned _).trans ?_, (owned _).trans ?_,
    (answered _ routable).trans ?_, refused _ inner⟩
  all_goals decide +kernel

end Registry

end SessionGateway
