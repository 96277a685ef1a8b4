import FlightStack.LivoxToPcl

/-! The two nodes together. What `LivoxToPointCloud2` publishes is what
`PoleDetectionNode` receives, and its timer runs between the messages. -/

namespace FlightStack
variable {α : Type} [Arithmetic α]

namespace Pipeline
open LivoxToPointCloud2 PoleDetectionNode

inductive Event (α : Type) where
  | livox (message : CustomMsg α)
  | process

omit [Arithmetic α] in
/-- `pcl::fromROSMsg`, into points that have no intensity -/
def fromROSMsg (message : PointCloud2 α) : List (Point α) := message.points.map PointXYZI.toPoint

def step (pcl : Pcl α) (pclFilters : PclFilters α) (parameters : DetectionParameters α) (node : PoleDetectionNode α) :
    Event α → Option (PoleDetectionNode α × List (List (Pole α)))
  | .livox message =>
    match customMsgCallback pclFilters message with
    | some published => PoleDetectionNode.step pcl parameters node (.lidar (fromROSMsg published))
    | none => some (node, [])
  | .process => PoleDetectionNode.step pcl parameters node .process

abbrev History (α : Type) := List (Entry (PoleDetectionNode α) (Event α) (List (Pole α)))

end Pipeline

def pipeline (pcl : Pcl α) (pclFilters : PclFilters α) (parameters : DetectionParameters α) :
    Machine (PoleDetectionNode α) (Pipeline.Event α) (List (Pole α)) where
  initial := .initial
  step := Pipeline.step pcl pclFilters parameters

end FlightStack
