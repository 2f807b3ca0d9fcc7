import Mathlib.Data.List.TakeWhile
import SessionGateway.Proofs.Text.Pieces
import SessionGateway.Request

/-! How a path falls apart: slashes, the first segment, and behind one more slash the sub-path. The
segment is the first piece between slashes that is not empty, and the parts fit together for every
path. -/

namespace SessionGateway.Request

section chars

variable (cs : List Char)

def tailChars : List Char :=
  (cs.dropWhile isSlash).dropWhile (!isSlash ·)

theorem restChars_eq : restChars cs = (tailChars cs).drop 1 := rfl

theorem chars_eq : cs = cs.takeWhile isSlash ++ (segmentChars cs ++ tailChars cs) := by
  rw [segmentChars, tailChars, List.takeWhile_append_dropWhile, List.takeWhile_append_dropWhile]

theorem takeWhile_isSlash :
    cs.takeWhile isSlash = List.replicate (cs.takeWhile isSlash).length '/' := by
  refine List.eq_replicate_iff.mpr ⟨rfl, fun c member => ?_⟩
  have slash : isSlash c = true := List.mem_takeWhile_imp member
  exact beq_iff_eq.mp slash

theorem slash_not_mem_segmentChars : '/' ∉ segmentChars cs :=
  fun slash => by cases List.mem_takeWhile_imp slash

theorem tailChars_eq : tailChars cs = [] ∨ tailChars cs = '/' :: restChars cs := by
  have stop := List.head?_dropWhile_not (!isSlash ·) (cs.dropWhile isSlash)
  rw [← tailChars] at stop
  rw [restChars_eq]
  cases left : tailChars cs with
  | nil => exact .inl rfl
  | cons c rest =>
    rw [left] at stop
    have slash : isSlash c = true := by simpa using stop
    obtain rfl : c = '/' := beq_iff_eq.mp slash
    exact .inr rfl

theorem dropWhile_isSlash_eq_nil : cs.dropWhile isSlash = [] ↔ ∀ c ∈ cs, c = '/' := by
  simp only [List.dropWhile_eq_nil_iff, isSlash, beq_iff_eq]

theorem segmentChars_eq_nil : segmentChars cs = [] ↔ ∀ c ∈ cs, c = '/' := by
  rw [← dropWhile_isSlash_eq_nil, segmentChars]
  have stop := List.head?_dropWhile_not isSlash cs
  cases left : cs.dropWhile isSlash with
  | nil => simp
  | cons c rest =>
    rw [left] at stop
    have first : isSlash c = false := stop
    simp [first]

end chars

variable (request : Request)

theorem firstSegment_eq :
    request.firstSegment =
      if segmentChars request.path.toList = [] then none
      else some (.ofList (segmentChars request.path.toList)) := by
  rw [firstSegment]
  cases segmentChars request.path.toList <;> rfl

theorem firstSegment_eq_find? :
    request.firstSegment = (Text.pieces '/' request.path).find? (· ≠ "") := by
  have nonempty : (fun piece => decide (piece ≠ "")) ∘ String.ofList =
      fun cs => decide (cs ≠ []) := by
    funext cs
    simp only [Function.comp, ne_eq, String.ofList_eq_empty_iff]
  rw [firstSegment_eq, Text.pieces, List.find?_map, nonempty, Text.find?_splitOn_ne_nil,
    apply_ite (Option.map String.ofList)]
  rfl

theorem of_firstSegment {r : Request} {segment : String} (h : r.firstSegment = some segment) :
    segment = .ofList (segmentChars r.path.toList) ∧ segment ≠ "" ∧ '/' ∉ segment.toList := by
  rw [firstSegment_eq] at h
  split at h
  · cases h
  · next filled =>
    obtain rfl := Option.some.inj h
    refine ⟨rfl, fun empty => filled (String.ofList_eq_empty_iff.mp empty), ?_⟩
    rw [String.toList_ofList]
    exact slash_not_mem_segmentChars _

def slashes (n : Nat) : String :=
  .ofList (List.replicate n '/')

theorem path_eq : ∃ n, request.path =
    slashes n ++ .ofList (segmentChars request.path.toList) ++
      .ofList (tailChars request.path.toList) := by
  refine ⟨(request.path.toList.takeWhile isSlash).length, ?_⟩
  rw [slashes, ← takeWhile_isSlash, ← String.ofList_append, ← String.ofList_append,
    List.append_assoc, ← chars_eq, String.ofList_toList]

/-- Every path is slashes only, without a segment and a sub-path, or it is its first segment behind
some slashes, with nothing more or with one slash and the sub-path behind it. -/
theorem segment_and_subPath_split :
    (request.firstSegment = none ↔ ∀ c ∈ request.path.toList, c = '/') ∧
    (request.firstSegment = none → request.subPath = "") ∧
    ∀ segment, request.firstSegment = some segment →
      segment ≠ "" ∧ '/' ∉ segment.toList ∧
      ∃ n, (request.path = slashes n ++ segment ∧ request.subPath = "") ∨
        request.path = slashes n ++ segment ++ "/" ++ request.subPath := by
  have blank : request.firstSegment = none ↔ ∀ c ∈ request.path.toList, c = '/' := by
    rw [firstSegment_eq, ← segmentChars_eq_nil]
    simp only [ite_eq_left_iff, reduceCtorEq, imp_false, not_not]
  refine ⟨blank, fun absent => ?_, fun segment found => ?_⟩
  · have slashed := (dropWhile_isSlash_eq_nil _).mpr (blank.mp absent)
    rw [subPath, restChars_eq, tailChars, slashed]
    rfl
  · obtain ⟨rfl, filled, clean⟩ := of_firstSegment found
    obtain ⟨n, whole⟩ := request.path_eq
    refine ⟨filled, clean, n, ?_⟩
    rw [subPath]
    rcases tailChars_eq request.path.toList with ended | cut
    · refine .inl ⟨?_, ?_⟩
      · rw [ended] at whole
        simpa using whole
      · rw [restChars_eq, ended]
        rfl
    · refine .inr ?_
      rw [cut, ← List.singleton_append, String.ofList_append, ← String.append_assoc] at whole
      exact whole

theorem segment_and_subPath_split_slashed :
    let request : Request := { path := "//reports//q1/" }
    request.firstSegment = some "reports" ∧ request.subPath = "/q1/" ∧
      ∃ n, request.path = slashes n ++ "reports" ++ "/" ++ request.subPath := by
  intro request
  have segment : request.firstSegment = some "reports" := by decide +kernel
  have rest : request.subPath = "/q1/" := by decide +kernel
  obtain ⟨-, -, n, ⟨-, ended⟩ | cut⟩ := request.segment_and_subPath_split.2.2 "reports" segment
  · exact absurd (rest.symm.trans ended) (by decide)
  · exact ⟨segment, rest, n, cut⟩

end SessionGateway.Request
