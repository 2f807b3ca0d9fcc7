import SessionGateway.Chain.Authentication
import SessionGateway.Proofs.Plugin.Listing

/-! Who recognizes a login. It is the first authenticator, in the order of the ids, that answers
with a seed, and nobody behind it is asked. Those that fail, crash or do not know the user are only
passed over, so the answer is the same without them. -/

namespace SessionGateway

theorem Authenticator.seed?_eq_some {a : Authenticator} {login : LoginRequest} {seed : Seed} :
    a.seed? login = some seed ↔ a.recognize login = .ok (some seed) := by
  unfold seed?
  cases a.recognize login <;> simp

theorem Authenticator.seed?_eq_none {a : Authenticator} {login : LoginRequest} :
    a.seed? login = none ↔ ∀ seed, a.recognize login ≠ .ok (some seed) := by
  simp only [Option.eq_none_iff_forall_ne_some, ne_eq, seed?_eq_some]

namespace LoginRequest

variable (login : LoginRequest)

def question (p : PluginId × Authenticator) : PluginCall :=
  .authenticate p.2.source login

theorem ask_append {before : List (PluginId × Authenticator)}
    (passed : ∀ p ∈ before, p.2.seed? login = none) (rest : List (PluginId × Authenticator)) :
    login.ask (before ++ rest) =
      ((login.ask rest).1, before.map login.question ++ (login.ask rest).2) := by
  induction before with
  | nil => rfl
  | cons p before ih =>
    have later := ih fun q hq => passed q (List.mem_cons_of_mem _ hq)
    rw [List.cons_append, ask, passed p List.mem_cons_self, later]
    rfl

theorem ask_of_passed {ps : List (PluginId × Authenticator)}
    (passed : ∀ p ∈ ps, p.2.seed? login = none) :
    login.ask ps = (none, ps.map login.question) := by
  have asked := login.ask_append passed []
  simpa [ask] using asked

/-- No authenticator answers with a seed. -/
def Unrecognized (r : Registry) : Prop :=
  ∀ (id : PluginId) a seed, r.authenticators[id]? = some a → a.recognize login ≠ .ok (some seed)

/-- The authenticator with this id answers with the seed, and none that comes before it answers with
any. -/
structure FirstRecognized (r : Registry) (id : PluginId) (seed : Seed) : Prop where
  recognized : ∃ a, r.authenticators[id]? = some a ∧ a.recognize login = .ok (some seed)
  first : ∀ (earlier : PluginId) a other, earlier < id → r.authenticators[earlier]? = some a →
    a.recognize login ≠ .ok (some other)

variable {login} {r r' : Registry} {id : PluginId} {seed : Seed}

theorem Unrecognized.recognizedBy (h : login.Unrecognized r) :
    ∃ ps, ListsById (fun id a => r.authenticators[id]? = some a) ps ∧
      login.recognizedBy r = (none, ps.map login.question) := by
  have listed := ListsById.toList r.authenticators
  refine ⟨_, listed, login.ask_of_passed fun p member => Authenticator.seed?_eq_none.mpr ?_⟩
  exact fun seed => h p.1 p.2 seed ((listed.mem_iff p).mp member)

theorem FirstRecognized.recognizedBy (h : login.FirstRecognized r id seed) :
    ∃ ps, ListsById (fun i a => r.authenticators[i]? = some a ∧ i ≤ id) ps ∧
      login.recognizedBy r = (some ⟨id, seed⟩, ps.map login.question) := by
  obtain ⟨a, held, recognized⟩ := h.recognized
  have listed := ListsById.toList r.authenticators
  obtain ⟨before, after, split⟩ := List.append_of_mem ((listed.mem_iff (id, a)).mpr held)
  have ascending := split ▸ listed.ascending
  obtain ⟨-, behind, apart⟩ := List.pairwise_append.mp ascending
  have below : ∀ p ∈ before, p.1 < id := fun p hp => apart p hp _ List.mem_cons_self
  have above : ∀ p ∈ after, id < p.1 := (List.pairwise_cons.mp behind).1
  refine ⟨before ++ [(id, a)], ⟨?_, fun p => ?_⟩, ?_⟩
  · exact ascending.sublist (List.Sublist.append_left (by simp) before)
  · rw [← listed.mem_iff, split]
    constructor
    · intro member
      rcases List.mem_append.mp member with member | member
      · exact ⟨List.mem_append_left _ member, String.not_lt.mp (String.lt_asymm (below p member))⟩
      · obtain rfl := List.mem_singleton.mp member
        exact ⟨by simp, String.le_refl _⟩
    · rintro ⟨member, upTo⟩
      rcases List.mem_append.mp member with member | member
      · exact List.mem_append_left _ member
      · rcases List.mem_cons.mp member with rfl | member
        · simp
        · exact absurd (above p member) (String.not_lt.mpr upTo)
  · have passed : ∀ p ∈ before, p.2.seed? login = none := by
      intro p hp
      have held := (listed.mem_iff p).mp (split ▸ List.mem_append_left _ hp)
      exact Authenticator.seed?_eq_none.mpr fun other => h.first p.1 p.2 other (below p hp) held
    rw [LoginRequest.recognizedBy, split, login.ask_append passed, ask,
      Authenticator.seed?_eq_some.mpr recognized, List.map_append]
    rfl

theorem unrecognized_or_first (login : LoginRequest) (r : Registry) :
    login.Unrecognized r ∨ ∃ id seed, login.FirstRecognized r id seed := by
  have listed := ListsById.toList r.authenticators
  cases found : r.authenticators.toList.find? fun p => (p.2.seed? login).isSome with
  | none =>
    refine .inl fun id a seed held recognized => ?_
    have passed := List.find?_eq_none.mp found _ ((listed.mem_iff (id, a)).mpr held)
    exact passed (by rw [Authenticator.seed?_eq_some.mpr recognized]; rfl)
  | some p =>
    obtain ⟨answers, before, after, split, passed⟩ := List.find?_eq_some_iff_append.mp found
    obtain ⟨seed, recognized⟩ := Option.isSome_iff_exists.mp answers
    have ascending := split ▸ listed.ascending
    obtain ⟨-, behind, -⟩ := List.pairwise_append.mp ascending
    have held : r.authenticators[p.1]? = some p.2 := (listed.mem_iff p).mp (by simp [split])
    refine .inr ⟨p.1, seed, ⟨p.2, held, Authenticator.seed?_eq_some.mp recognized⟩, ?_⟩
    intro earlier a other less held recognized
    have member := (listed.mem_iff (earlier, a)).mpr held
    rw [split] at member
    rcases List.mem_append.mp member with member | member
    · have silent := passed _ member
      rw [Authenticator.seed?_eq_some.mpr recognized] at silent
      cases silent
    · rcases List.mem_cons.mp member with rfl | member
      · exact String.lt_irrefl _ less
      · exact String.lt_asymm less ((List.pairwise_cons.mp behind).1 _ member)

/-- The second registry has the authenticators of the first, except for some that do not recognize
the login. -/
structure Spares (login : LoginRequest) (r r' : Registry) : Prop where
  kept : ∀ (id : PluginId) a, r'.authenticators[id]? = some a → r.authenticators[id]? = some a
  silent : ∀ (id : PluginId) a seed, r.authenticators[id]? = some a →
    r'.authenticators[id]? = none → a.recognize login ≠ .ok (some seed)

theorem Spares.unrecognized (h : login.Spares r r') (unknown : login.Unrecognized r) :
    login.Unrecognized r' :=
  fun id a seed held => unknown id a seed (h.kept id a held)

theorem Spares.firstRecognized (h : login.Spares r r') (first : login.FirstRecognized r id seed) :
    login.FirstRecognized r' id seed := by
  obtain ⟨a, held, recognized⟩ := first.recognized
  refine ⟨⟨a, ?_, recognized⟩, fun earlier b other less held' =>
    first.first earlier b other less (h.kept earlier b held')⟩
  cases left : r'.authenticators[id]? with
  | none => exact absurd recognized (h.silent id a seed held left)
  | some b => exact (h.kept id b left).symm.trans held

theorem Spares.fst_recognizedBy (h : login.Spares r r') :
    (login.recognizedBy r').1 = (login.recognizedBy r).1 := by
  rcases login.unrecognized_or_first r with unknown | ⟨id, seed, first⟩
  · obtain ⟨ps, -, answer⟩ := unknown.recognizedBy
    obtain ⟨ps', -, answer'⟩ := (h.unrecognized unknown).recognizedBy
    rw [answer, answer']
  · obtain ⟨ps, -, answer⟩ := first.recognizedBy
    obtain ⟨ps', -, answer'⟩ := (h.firstRecognized first).recognizedBy
    rw [answer, answer']

end LoginRequest

end SessionGateway
