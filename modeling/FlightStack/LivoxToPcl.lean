import FlightStack.PoleDetection

/-! `LivoxToPointCloud2`: the points of a Livox message are cut to a box, thinned
out, and sent on. A message that leaves nothing is not sent on. -/

namespace FlightStack

/-- `livox_ros_driver2::msg::CustomPoint` -/
structure CustomPoint (α : Type) where
  x : α
  y : α
  z : α
  reflectivity : UInt8

/-- `livox_ros_driver2::msg::CustomMsg`. The callback reads the first `pointNum`
points, so there must be as many. -/
structure CustomMsg (α : Type) where
  frameId : String
  pointNum : Nat
  points : List (CustomPoint α)
  counted : pointNum ≤ points.length

/-- `pcl::PointXYZI` -/
structure PointXYZI (α : Type) extends Point α where
  intensity : α

/-- `sensor_msgs::msg::PointCloud2`, as `pcl::toROSMsg` fills it -/
structure PointCloud2 (α : Type) where
  frameId : String
  points : List (PointXYZI α)

/-- The names of the fields a filter may be set to. -/
inductive Axis where
  | x
  | y
  | z
  deriving DecidableEq, Repr

def Axis.of {α : Type} : Axis → Point α → α
  | .x => Point.x
  | .y => Point.y
  | .z => Point.z

/-- `pcl::PassThrough::filter`, from the field and the limits set before -/
abbrev PassThrough (α : Type) := Axis → α → α → List (PointXYZI α) → List (PointXYZI α)

/-- `pcl::VoxelGrid::filter`, from the three leaf sizes set before -/
abbrev VoxelGrid (α : Type) := α → α → α → List (PointXYZI α) → List (PointXYZI α)

/-- The filters of PCL that the first node calls -/
structure PclFilters (α : Type) where
  passThrough : PassThrough α
  voxelGrid : VoxelGrid α

namespace LivoxToPointCloud2
variable {α : Type} [Arithmetic α]

def filters : List (Axis × α × α) := [(.x, 0, 2), (.y, -2, 2), (.z, -1, 1)]

/-- The loop over the filters. It ends early when no point is left. -/
def passFilters (pass : PassThrough α) : List (Axis × α × α) → List (PointXYZI α) → List (PointXYZI α)
  | [], cloud => cloud
  | (axis, minVal, maxVal) :: rest, cloud =>
    if cloud.isEmpty then cloud else passFilters pass rest (pass axis minVal maxVal cloud)

def applyFilters (pclFilters : PclFilters α) (cloud : List (PointXYZI α)) : List (PointXYZI α) :=
  let currentCloud := passFilters pclFilters.passThrough filters cloud
  if currentCloud.isEmpty then currentCloud else pclFilters.voxelGrid 0.05 0.05 0.05 currentCloud

/-- The loop that fills the cloud. -/
def fillCloud (message : CustomMsg α) : List (PointXYZI α) :=
  (message.points.take message.pointNum).map fun point =>
    ⟨⟨point.x, point.y, point.z⟩, (point.reflectivity.toNat : α)⟩

def customMsgCallback (pclFilters : PclFilters α) (message : CustomMsg α) : Option (PointCloud2 α) :=
  if message.pointNum = 0 then none
  else
    let filteredCloud := applyFilters pclFilters (fillCloud message)
    if filteredCloud.isEmpty then none else some ⟨message.frameId, filteredCloud⟩

end LivoxToPointCloud2
end FlightStack
