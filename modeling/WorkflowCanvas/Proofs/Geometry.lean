import WorkflowCanvas.Geometry
import WorkflowCanvas.Proofs.Json.ReadBack
/-!
# Points and rectangles as documents

A coordinate that is no number, or infinite, is written as null and lost.
Points and rectangles of finite coordinates are read back.
-/


namespace WorkflowCanvas

open Document (ReadsAs WellFormed Written)

/-- Both coordinates are finite. -/
structure Point.IsFinite (p : Point) : Prop where
  x : p.x.isFinite = true
  y : p.y.isFinite = true

/-- Both corners are finite. -/
structure Rect.IsFinite (r : Rect) : Prop where
  upperLeft : r.upperLeft.IsFinite
  lowerRight : r.lowerRight.IsFinite

/-- **A finite point is read back.** -/
theorem Point.IsFinite.readsAs {p : Point} (h : p.IsFinite) :
    ReadsAs Point.ofDocument? p.toDocument p := by
  have hx := ReadsAs.number h.x
  have hy := ReadsAs.number h.y
  refine ⟨Written.obj (.cons hx.wellFormed (.cons hy.wellFormed .nil)) (by decide), ?_⟩
  intro d' hre
  obtain ⟨r, hr, hholds⟩ := Record.exists_holds hre ["x", "y"]
  have hreadX := hholds.required "x" hx rfl (by simp)
  have hreadY := hholds.required "y" hy rfl (by simp)
  rw [Point.ofDocument?, hr]
  simp [hreadX, hreadY]

/-- **A finite rectangle is read back.** -/
theorem Rect.IsFinite.readsAs {r : Rect} (h : r.IsFinite) :
    ReadsAs Rect.ofDocument? r.toDocument r := by
  have hupper := h.upperLeft.readsAs
  have hlower := h.lowerRight.readsAs
  refine ⟨Written.obj (.cons hupper.wellFormed (.cons hlower.wellFormed .nil)) (by decide), ?_⟩
  intro d' hre
  obtain ⟨r', hr', hholds⟩ := Record.exists_holds hre ["upperLeft", "lowerRight"]
  have hreadUpper := hholds.required "upperLeft" hupper rfl (by simp)
  have hreadLower := hholds.required "lowerRight" hlower rfl (by simp)
  rw [Rect.ofDocument?, hr']
  simp [hreadUpper, hreadLower]

end WorkflowCanvas
