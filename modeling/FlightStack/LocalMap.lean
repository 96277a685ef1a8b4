import FlightStack.ImuProcess

/-! `lasermap_fov_segment` of FAST-LIO: the map is kept in a box around the lidar, which
moves when the lidar comes near to one of its faces. -/

namespace FlightStack
variable {α : Type}

structure BoxPointType (α : Type) where
  vertexMin : V3D α
  vertexMax : V3D α

namespace LocalMap

structure Parameters (α : Type) where
  detRange : α
  cubeLen : α

variable [Arithmetic α]

def movThreshold : α := 1.5

/-- The distance from a face up to which the map is moved -/
def Parameters.nearEdge (params : Parameters α) : α := movThreshold * params.detRange

def Parameters.movDist (params : Parameters α) : α :=
  max ((params.cubeLen - 2 * movThreshold * params.detRange) * 0.5 * 0.9) (params.detRange * (movThreshold - 1))

/-- `dist_to_map_edge` for an axis -/
def distToMapEdge (localMap : BoxPointType α) (posLid : V3D α) (i : Fin 3) : α × α :=
  (|posLid i - localMap.vertexMin i|, |posLid i - localMap.vertexMax i|)

/-- The body of the loop over the axes, which moves the map and notes what is left behind -/
def moveAxis (params : Parameters α) (localMap : BoxPointType α) (posLid : V3D α)
    (moved : BoxPointType α × List (BoxPointType α)) (i : Fin 3) : BoxPointType α × List (BoxPointType α) :=
  let (newMap, cubNeedrm) := moved
  let movDist := params.movDist
  if (distToMapEdge localMap posLid i).1 ≤ params.nearEdge then
    ({ vertexMax := Function.update newMap.vertexMax i (newMap.vertexMax i - movDist)
       vertexMin := Function.update newMap.vertexMin i (newMap.vertexMin i - movDist) },
      cubNeedrm ++ [{ localMap with vertexMin := Function.update localMap.vertexMin i (localMap.vertexMax i - movDist) }])
  else if (distToMapEdge localMap posLid i).2 ≤ params.nearEdge then
    ({ vertexMax := Function.update newMap.vertexMax i (newMap.vertexMax i + movDist)
       vertexMin := Function.update newMap.vertexMin i (newMap.vertexMin i + movDist) },
      cubNeedrm ++ [{ localMap with vertexMax := Function.update localMap.vertexMax i (localMap.vertexMin i + movDist) }])
  else moved

/-- There is no map before it is initialized. The boxes are those that `Delete_Point_Boxes`
is called with. -/
def lasermapFovSegment (params : Parameters α) (localMap : Option (BoxPointType α)) (posLid : V3D α) :
    BoxPointType α × List (BoxPointType α) :=
  match localMap with
  | none =>
    ({ vertexMin := fun i => posLid i - params.cubeLen / 2, vertexMax := fun i => posLid i + params.cubeLen / 2 }, [])
  | some localMap =>
    if ∃ i, (distToMapEdge localMap posLid i).1 ≤ params.nearEdge ∨ (distToMapEdge localMap posLid i).2 ≤ params.nearEdge
    then (List.finRange 3).foldl (moveAxis params localMap posLid) (localMap, [])
    else (localMap, [])

def step (params : Parameters α) (localMap : Option (BoxPointType α)) (posLid : V3D α) :
    Option (Option (BoxPointType α) × List (BoxPointType α)) :=
  some (some (lasermapFovSegment params localMap posLid).1, (lasermapFovSegment params localMap posLid).2)

end LocalMap

/-- The calls for one scan after the other, each with the position of the lidar -/
def localMap [Arithmetic α] (params : LocalMap.Parameters α) :
    Machine (Option (BoxPointType α)) (V3D α) (BoxPointType α) where
  initial := none
  step := LocalMap.step params

end FlightStack
