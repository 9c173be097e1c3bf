/-!
Cutting text at a separator.  `cutAt` cuts at the first separator and `splitAt` at every one; both lose
nothing but the separators.
-/

namespace Testbed.Text

/-- The text before the first separator, and the text after it if there is one. -/
def cutAt (mark : Char) : List Char → List Char × Option (List Char)
  | [] => ([], none)
  | c :: rest =>
    if c = mark then ([], some rest)
    else
      let (before, after) := cutAt mark rest
      (c :: before, after)

/-- The pieces between separators; there is always at least one. -/
def splitAt (mark : Char) : List Char → List (List Char)
  | [] => [[]]
  | c :: rest =>
    if c = mark then [] :: splitAt mark rest
    else
      match splitAt mark rest with
      | piece :: pieces => (c :: piece) :: pieces
      | [] => [[c]]

/-- What is cut at a mark is what stands before the first one and what stands behind it. -/
theorem cutAt_some {mark : Char} {cs before after : List Char}
    (h : cutAt mark cs = (before, some after)) : cs = before ++ mark :: after ∧ mark ∉ before := by
  induction cs generalizing before after with
  | nil => simp [cutAt] at h
  | cons c rest ih =>
    rw [cutAt] at h
    split at h
    · next heq =>
      simp only [Prod.mk.injEq, Option.some.injEq] at h
      obtain ⟨rfl, rfl⟩ := h
      simp [heq]
    · next hne =>
      simp only [Prod.mk.injEq] at h
      obtain ⟨rfl, hafter⟩ := h
      have := ih (Prod.ext rfl hafter)
      exact ⟨congrArg (c :: ·) this.1, by simp [Ne.symm hne, this.2]⟩

end Testbed.Text
