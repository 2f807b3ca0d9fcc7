import SessionGateway.Text.Pieces

/-! The first piece of a text that is not empty: what stands between the separators at its start and
the next one. -/

namespace SessionGateway.Text

variable (sep : Char) (cs : List Char)

theorem splitOn_eq_takeWhile_cons :
    ∃ rest, cs.splitOn sep = cs.takeWhile (· != sep) :: rest := by
  induction cs with
  | nil => exact ⟨[], rfl⟩
  | cons c cs ih =>
    obtain ⟨rest, first⟩ := ih
    rw [List.splitOn_cons_eq_if_modifyHead, List.takeWhile_cons]
    by_cases same : c = sep
    · simp [same]
    · simp [same, first]

theorem find?_splitOn_ne_nil :
    (cs.splitOn sep).find? (· ≠ []) =
      let piece := (cs.dropWhile (· == sep)).takeWhile (· != sep)
      if piece = [] then none else some piece := by
  induction cs with
  | nil => rfl
  | cons c cs ih =>
    rw [List.splitOn_cons_eq_if_modifyHead, List.dropWhile_cons]
    by_cases same : c = sep
    · simpa [same] using ih
    · obtain ⟨rest, first⟩ := splitOn_eq_takeWhile_cons sep cs
      simp [same, first]

end SessionGateway.Text
