import FlightStack.CustomMessages

/-! `Preprocess` of FAST-LIO, for the messages of the Livox driver. -/

namespace FlightStack

/-- `pcl::PointXYZINormal`. Its `curvature` is the time of the point in its scan, in milliseconds. -/
structure PointXYZINormal (α : Type) extends PointXYZI α where
  curvature : α

/-- `giveFeature` is what `give_feature` appends to `pl_surf` for the points of a line.
How it finds planes and edges among them is not modelled. -/
structure Preprocess (α : Type) where
  nScans : Nat
  blind : α
  pointFilterNum : Nat
  featureEnabled : Bool
  giveFeature : List (PointXYZINormal α) → List (PointXYZINormal α)

namespace Preprocess
variable {α : Type}

/-- Whether a point is of a line and a return that are used -/
def isValid (pre : Preprocess α) (point : Lddc.CustomPoint α) : Bool :=
  point.line.toNat < pre.nScans && (point.tag &&& 0x30 == 0x10 || point.tag &&& 0x30 == 0x00)

variable [Arithmetic α]

def fullPoint (point : Lddc.CustomPoint α) : PointXYZINormal α :=
  ⟨⟨⟨point.x, point.y, point.z⟩, (point.reflectivity.toNat : α)⟩, point.offsetTime.toNat / 10 ^ 6⟩

/-- What `pl_full` holds where no point was written to it -/
def unset : PointXYZINormal α := ⟨⟨⟨0, 0, 0⟩, 0⟩, 0⟩

/-- Two points that do not count as the same -/
def apart (first second : Point α) : Bool :=
  1e-7 < |first.x - second.x| || 1e-7 < |first.y - second.y| || 1e-7 < |first.z - second.z|

def outsideBlind (pre : Preprocess α) (point : Point α) : Bool :=
  pre.blind * pre.blind < point.x * point.x + point.y * point.y + point.z * point.z

structure LineLoop (α : Type) where
  plFull : Nat → PointXYZINormal α
  plBuff : Nat → List (PointXYZINormal α) := fun _ => []

/-- The body of the loop of `avia_handler` with features -/
def lineRound (pre : Preprocess α) (points : List (Lddc.CustomPoint α)) (loop : LineLoop α) (i : Nat) : LineLoop α :=
  match points[i]? with
  | none => loop
  | some point =>
    if pre.isValid point then
      let full := fullPoint point
      let line := point.line.toNat
      { plFull := Function.update loop.plFull i full
        plBuff := if apart full.toPoint (loop.plFull (i - 1)).toPoint
          then Function.update loop.plBuff line (loop.plBuff line ++ [full]) else loop.plBuff }
    else loop

/-- What the lines of a message give. A line with five points or less is passed over. -/
def lineFeatures (pre : Preprocess α) (msg : Lddc.CustomMsg α) : List (PointXYZINormal α) :=
  let buffers := ((List.range' 1 (msg.pointNum.toNat - 1)).foldl (pre.lineRound msg.points) { plFull := fun _ => unset }).plBuff
  (List.range pre.nScans).flatMap fun j => if (buffers j).length ≤ 5 then [] else pre.giveFeature (buffers j)

structure AviaLoop (α : Type) where
  plFull : Nat → PointXYZINormal α
  plSurf : List (PointXYZINormal α) := []
  validNum : Nat := 0

/-- The body of the loop of `avia_handler` without features -/
def aviaRound (pre : Preprocess α) (points : List (Lddc.CustomPoint α)) (loop : AviaLoop α) (i : Nat) : AviaLoop α :=
  match points[i]? with
  | none => loop
  | some point =>
    if pre.isValid point then
      if (loop.validNum + 1) % pre.pointFilterNum = 0 then
        let full := fullPoint point
        { plFull := Function.update loop.plFull i full
          plSurf := if apart full.toPoint (loop.plFull (i - 1)).toPoint && pre.outsideBlind full.toPoint
            then loop.plSurf ++ [full] else loop.plSurf
          validNum := loop.validNum + 1 }
      else { loop with validNum := loop.validNum + 1 }
    else loop

/-- The first point of a message is passed over. -/
def aviaHandler (pre : Preprocess α) (msg : Lddc.CustomMsg α) : List (PointXYZINormal α) :=
  if pre.featureEnabled then pre.lineFeatures msg
  else ((List.range' 1 (msg.pointNum.toNat - 1)).foldl (pre.aviaRound msg.points) { plFull := fun _ => unset }).plSurf

end Preprocess
end FlightStack
