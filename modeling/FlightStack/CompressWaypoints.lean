import FlightStack.BaseController

/-! `TaskController::compress_waypoints`: the points of a straight run are merged,
corners stay, and a long run gets a point in its middle. -/

namespace FlightStack
variable {α : Type} [Arithmetic α]

/-- A row of coordinates: x, y, z, and what follows, the yaw first. -/
structure WaypointRow (α : Type) extends Position α where
  rest : List α

namespace CompressWaypoints

def crossProduct (prev curr next : WaypointRow α) : α :=
  (curr.x - prev.x) * (next.y - curr.y) - (curr.y - prev.y) * (next.x - curr.x)

def dotProduct (prev curr next : WaypointRow α) : α :=
  (curr.x - prev.x) * (next.x - curr.x) + (curr.y - prev.y) * (next.y - curr.y)

/-- A point of the same line, where the direction is reversed -/
def isUturn (prev curr next : WaypointRow α) : Bool :=
  if |crossProduct prev curr next| ≤ 1e-6 then dotProduct prev curr next < -1e-6 else false

def isKept (prev curr next : WaypointRow α) : Bool :=
  1e-6 < |crossProduct prev curr next| || isUturn prev curr next

/-- The row that is added for a long run has four elements, whatever the others have. -/
def midpoint (lineStart lineEnd : WaypointRow α) : WaypointRow α where
  x := (lineStart.x + lineEnd.x) / 2
  y := (lineStart.y + lineEnd.y) / 2
  z := (lineStart.z + lineEnd.z) / 2
  rest := [lineStart.rest.head?.getD 0]

/-- The variables of the loop. -/
structure Scan (α : Type) where
  waypoints : List (WaypointRow α)
  lineStartIdx : Nat
  currentLinePoints : List Nat

/-- What is done with the run collected so far when it ends at `lineEnd`. -/
def merge (raw : List (WaypointRow α)) (lineEnd : Nat) (scan : Scan α) : List (WaypointRow α) :=
  if 4 ≤ scan.currentLinePoints.length then
    match raw[scan.lineStartIdx]?, raw[lineEnd]? with
    | some lineStart, some lineEnd => scan.waypoints ++ [midpoint lineStart lineEnd]
    | _, _ => scan.waypoints
  else scan.waypoints

/-- The body of the loop. -/
def visit (raw : List (WaypointRow α)) (scan : Scan α) (i : Nat) : Scan α :=
  match raw[i - 1]?, raw[i]?, raw[i + 1]? with
  | some prev, some curr, some next =>
    if isKept prev curr next then ⟨merge raw (i - 1) scan ++ [curr], i, []⟩
    else { scan with
      lineStartIdx := if scan.currentLinePoints.isEmpty then i - 1 else scan.lineStartIdx
      currentLinePoints := scan.currentLinePoints ++ [i] }
  | _, _, _ => scan

def compressWaypoints (raw : List (WaypointRow α)) : List (WaypointRow α) :=
  match raw with
  | first :: _ :: _ :: _ =>
    let scan := (List.range' 1 (raw.length - 2)).foldl (visit raw) ⟨[first], 0, []⟩
    merge raw (raw.length - 2) scan ++ raw.getLast?.toList
  | _ => raw

end CompressWaypoints
end FlightStack
