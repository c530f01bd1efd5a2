import WorkflowCanvas.Json.Record
/-!
# Points and rectangles

The plane of the canvas, with `y` growing downward: a rectangle is given
by its upper left and its lower right corner. Where two coordinates are
equal the smaller and the larger are the second one, which shows for zeros
of opposite sign, and a coordinate that is no number loses to one that is.
-/


namespace WorkflowCanvas

/-- A point on the canvas. -/
structure Point where
  x : Float
  y : Float
deriving BEq, DecidableEq

/-- A rectangle with sides parallel to the axes. -/
structure Rect where
  upperLeft : Point
  lowerRight : Point
deriving BEq, DecidableEq

namespace Point

/-- The point where the axes meet. -/
def zero : Point := ⟨0, 0⟩

/-- A point from its document. -/
def ofDocument? (d : Document) : Option Point := do
  let r ← Record.of? (Record.plain ["x", "y"]) d
  let x ← r.required "x" Document.asFloat?
  let y ← r.required "y" Document.asFloat?
  return ⟨x, y⟩

/-- The document of a point. -/
def toDocument (p : Point) : Document :=
  .obj [("x", Document.number p.x), ("y", Document.number p.y)]

end Point

namespace Rect

/-- The smaller of two coordinates. -/
def lesser (a b : Float) : Float := if b.isNaN || a < b then a else b

/-- The larger of two coordinates. -/
def greater (a b : Float) : Float := if b.isNaN || a > b then a else b

/-- The rectangle at an origin with a size. -/
def ofOrigin (origin : Point) (width height : Float) : Rect :=
  ⟨origin, ⟨origin.x + width, origin.y + height⟩⟩

/-- The smallest rectangle over two points, grown on all sides. -/
def spanning (a b : Point) (padding : Float) : Rect :=
  ⟨⟨lesser a.x b.x - padding, lesser a.y b.y - padding⟩,
   ⟨greater a.x b.x + padding, greater a.y b.y + padding⟩⟩

/-- The point in the middle. -/
def center (r : Rect) : Point :=
  ⟨(r.upperLeft.x + r.lowerRight.x) / 2, (r.upperLeft.y + r.lowerRight.y) / 2⟩

/-- The horizontal extent. -/
def width (r : Rect) : Float := r.lowerRight.x - r.upperLeft.x

/-- The vertical extent. -/
def height (r : Rect) : Float := r.lowerRight.y - r.upperLeft.y

/-- The smallest rectangle over two rectangles. -/
def union (r s : Rect) : Rect :=
  ⟨⟨lesser r.upperLeft.x s.upperLeft.x, lesser r.upperLeft.y s.upperLeft.y⟩,
   ⟨greater r.lowerRight.x s.lowerRight.x, greater r.lowerRight.y s.lowerRight.y⟩⟩

/-- A rectangle from its document. -/
def ofDocument? (d : Document) : Option Rect := do
  let r ← Record.of? (Record.plain ["upperLeft", "lowerRight"]) d
  let upperLeft ← r.required "upperLeft" Point.ofDocument?
  let lowerRight ← r.required "lowerRight" Point.ofDocument?
  return ⟨upperLeft, lowerRight⟩

/-- The document of a rectangle. -/
def toDocument (r : Rect) : Document :=
  .obj [("upperLeft", r.upperLeft.toDocument), ("lowerRight", r.lowerRight.toDocument)]

end Rect

end WorkflowCanvas
