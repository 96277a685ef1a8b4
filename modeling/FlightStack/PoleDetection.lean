import FlightStack.Arithmetic
import FlightStack.Library.Machine

/-! `PoleDetectionNode`: poles are cut out of a point cloud, matched with the ones
that are tracked already, and published. Counters and ids are counted without the
bound of the `int` they are kept in. -/

namespace FlightStack
variable {α : Type} [Arithmetic α]

structure Point (α : Type) where
  x : α
  y : α
  z : α

/-- The calls into PCL. A cluster is a list of indices into the cloud. -/
structure Pcl (α : Type) where
  /-- `EuclideanClusterExtraction::extract`, from the tolerance and the two sizes set before -/
  extract : α → Int → Int → List (Point α) → List (List Nat)
  getMinMax3D : List (Point α) → Point α × Point α

structure PoleInfo (α : Type) where
  id : Nat
  lostCount : Nat
  x : α
  y : α
  isUpdated : Bool
  isInitialized : Bool
  isUsed : Bool
  detected : Bool
  diameter : α
  distance : α

def PoleInfo.construct (x y d : α) : PoleInfo α where
  id := 0
  lostCount := 0
  x
  y
  isUpdated := false
  isInitialized := false
  isUsed := false
  detected := false
  diameter := d
  distance := sqrt (x * x + y * y)

structure DetectionParameters (α : Type) where
  clusterTolerance : α
  minClusterSize : Int
  maxClusterSize : Int
  poleRadiusThreshold : α
  minValidDistance : α
  minHeight : α
  poleAssociationThreshold : α
  filterAlpha : α
  publishXMin : α
  publishXMax : α
  publishYMin : α
  publishYMax : α

/-- The values `declareParameters` gives them. -/
def DetectionParameters.declared : DetectionParameters α where
  clusterTolerance := 0.1
  minClusterSize := 1
  maxClusterSize := 10000
  poleRadiusThreshold := 0.3
  minValidDistance := 0.1
  minHeight := 0.2
  poleAssociationThreshold := 0.5
  filterAlpha := 0.7
  publishXMin := 0.1
  publishXMax := 2
  publishYMin := -1
  publishYMax := 1

/-- `msg_tool::msg::Pole` -/
structure Pole (α : Type) where
  id : Nat
  x : α
  y : α
  detected : Bool
  distance : α
  diameter : α

structure PoleDetectionNode (α : Type) where
  poleList : List (PoleInfo α)
  poleNumCount : Nat
  cloud : List (Point α)
  newData : Bool

namespace PoleDetectionNode

def initial : PoleDetectionNode α := ⟨[], 0, [], false⟩

def calculateDistance (x y : α) : α := sqrt (x * x + y * y)

def isPositionInValidRange (parameters : DetectionParameters α) (x y : α) : Bool :=
  parameters.publishXMin ≤ x && x ≤ parameters.publishXMax &&
    parameters.publishYMin ≤ y && y ≤ parameters.publishYMax

/-! Candidates -/

/-- The first loop over a cluster: its highest point, from the lower corner on. -/
def highest (low : α) (cluster : List (Point α)) : α :=
  cluster.foldl (fun maxZ point => if maxZ < point.z then point.z else maxZ) low

/-- The second loop: the sums over the points near the top, and how many there are. -/
def topRegion (maxZ : α) (cluster : List (Point α)) : α × α × Nat :=
  cluster.foldl (fun (topX, topY, topPointCount) point =>
    if maxZ - 0.1 ≤ point.z then (topX + point.x, topY + point.y, topPointCount + 1)
    else (topX, topY, topPointCount)) (0, 0, 0)

def analyzePoleCandidate (pcl : Pcl α) (parameters : DetectionParameters α) (cluster : List (Point α)) :
    Option (PoleInfo α) :=
  if cluster.isEmpty then none
  else
    let (minPt, maxPt) := pcl.getMinMax3D cluster
    let width := maxPt.x - minPt.x
    let depth := maxPt.y - minPt.y
    let height := maxPt.z - minPt.z
    let diameter := max width depth
    let maxZ := highest minPt.z cluster
    let (sumX, sumY, topPointCount) := topRegion maxZ cluster
    if topPointCount = 0 then none
    else
      let topX := sumX / topPointCount
      let topY := sumY / topPointCount
      let distance := sqrt (topX * topX + topY * topY)
      if diameter < parameters.poleRadiusThreshold ∧ parameters.minHeight < height ∧ maxZ < 2 ∧
          parameters.minValidDistance < distance then some (.construct topX topY diameter)
      else none

/-- The first loop of `analyzeClusters`: the poles of one frame, inside the range
that is published. -/
def detectedPoles (pcl : Pcl α) (parameters : DetectionParameters α) (cloud : List (Point α))
    (clusterIndices : List (List Nat)) : List (PoleInfo α) :=
  clusterIndices.filterMap fun indices =>
    let cluster := indices.filterMap (cloud[·]?)
    if cluster.isEmpty then none
    else (analyzePoleCandidate pcl parameters cluster).filter fun candidate =>
      isPositionInValidRange parameters candidate.x candidate.y

/-! Association -/

/-- The low-pass filter. The first update takes the position as it is. -/
def update (parameters : DetectionParameters α) (pole : PoleInfo α) (x y : α) : PoleInfo α :=
  if pole.isInitialized then
    { pole with
      x := parameters.filterAlpha * x + (1 - parameters.filterAlpha) * pole.x
      y := parameters.filterAlpha * y + (1 - parameters.filterAlpha) * pole.y }
  else { pole with x, y, isInitialized := true }

/-- `distance_to_inlist` -/
def distanceToInlist (pole candidate : PoleInfo α) : α :=
  sqrt ((candidate.x - pole.x) ^ 2 + (candidate.y - pole.y) ^ 2)

/-- The inner loop: the nearest candidate that is not used, counting from `u`, and
its distance. Without one the distance stays at what the loop began with. -/
def nearest (pole : PoleInfo α) : List (PoleInfo α) → Nat → α → Option (Nat × PoleInfo α) → α × Option (Nat × PoleInfo α)
  | [], _, best, num => (best, num)
  | candidate :: rest, u, best, num =>
    if candidate.isUsed then nearest pole rest (u + 1) best num
    else
      let distance := distanceToInlist pole candidate
      if distance < best then nearest pole rest (u + 1) distance (some (u, candidate))
      else nearest pole rest (u + 1) best num

/-- A pole that is found again. -/
def matched (parameters : DetectionParameters α) (pole candidate : PoleInfo α) : PoleInfo α :=
  let updated := update parameters { pole with isUpdated := true, lostCount := 0, detected := true } candidate.x candidate.y
  { updated with distance := calculateDistance updated.x updated.y }

def missed (pole : PoleInfo α) : PoleInfo α := { pole with lostCount := pole.lostCount + 1, detected := false }

/-- The outer loop. It leaves the poles and the candidates, which are marked as used. -/
def associate (parameters : DetectionParameters α) :
    List (PoleInfo α) → List (PoleInfo α) → List (PoleInfo α) × List (PoleInfo α)
  | [], candidates => ([], candidates)
  | pole :: rest, candidates =>
    if pole.isUpdated then
      let (poles, left) := associate parameters rest candidates
      (pole :: poles, left)
    else
      match nearest pole candidates 0 1000 none with
      | (best, some (num, candidate)) =>
        if best < parameters.poleAssociationThreshold then
          let (poles, left) := associate parameters rest
            (candidates.modify num fun candidate => { candidate with isUsed := true })
          (matched parameters pole candidate :: poles, left)
        else
          let (poles, left) := associate parameters rest candidates
          (missed pole :: poles, left)
      | (_, none) =>
        let (poles, left) := associate parameters rest candidates
        (missed pole :: poles, left)

/-- The loop that erases lost poles, from the last index to the first. -/
def eraseLost : Nat → List (PoleInfo α) → List (PoleInfo α)
  | 0, poles => poles
  | index + 1, poles =>
    match poles[index]? with
    | some pole => eraseLost index (if 5 < pole.lostCount then poles.eraseIdx index else poles)
    | none => eraseLost index poles

/-- The loop that appends what is left. It counts the new poles. -/
def appendNew (poleNumCount : Nat) : List (PoleInfo α) → List (PoleInfo α) → Nat → List (PoleInfo α) × Nat
  | [], poles, newPolesCount => (poles, newPolesCount)
  | candidate :: rest, poles, newPolesCount =>
    if candidate.isUsed then appendNew poleNumCount rest poles newPolesCount
    else appendNew poleNumCount rest
      (poles ++ [{ candidate with id := poleNumCount + newPolesCount, detected := true }]) (newPolesCount + 1)

/-- Every frame begins with this loop over the list. -/
def reset (pole : PoleInfo α) : PoleInfo α := { pole with isUpdated := false }

/-- What `analyzeClusters` does with the candidates of a frame. -/
def track (parameters : DetectionParameters α) (candidates : List (PoleInfo α)) (node : PoleDetectionNode α) :
    PoleDetectionNode α :=
  let (poles, left) := associate parameters (node.poleList.map reset) candidates
  let kept := eraseLost poles.length poles
  let (poleList, newPolesCount) := appendNew node.poleNumCount left kept 0
  { node with poleList, poleNumCount := node.poleNumCount + newPolesCount }

def analyzeClusters (pcl : Pcl α) (parameters : DetectionParameters α) (cloud : List (Point α))
    (clusterIndices : List (List Nat)) (node : PoleDetectionNode α) : PoleDetectionNode α :=
  track parameters (detectedPoles pcl parameters cloud clusterIndices) node

/-! Callbacks -/

def performClustering (pcl : Pcl α) (parameters : DetectionParameters α) (cloud : List (Point α)) : List (List Nat) :=
  pcl.extract parameters.clusterTolerance parameters.minClusterSize parameters.maxClusterSize cloud

def publishPoleDetection (polelist : List (PoleInfo α)) : List (Pole α) :=
  polelist.map fun pole => ⟨pole.id, pole.x, pole.y, pole.detected, pole.distance, pole.diameter⟩

def lidarCallback (message : List (Point α)) (node : PoleDetectionNode α) : PoleDetectionNode α :=
  { node with cloud := message, newData := true }

/-- The timer. An empty cloud is left for the next tick. -/
def processPointCloud (pcl : Pcl α) (parameters : DetectionParameters α) (node : PoleDetectionNode α) :
    PoleDetectionNode α × List (List (Pole α)) :=
  if node.newData = false ∨ node.cloud.isEmpty then (node, [])
  else
    let cloud := node.cloud
    let analyzed := analyzeClusters pcl parameters cloud (performClustering pcl parameters cloud)
      { node with newData := false }
    (analyzed, [publishPoleDetection analyzed.poleList])

inductive Event (α : Type) where
  | lidar (message : List (Point α))
  | process

def step (pcl : Pcl α) (parameters : DetectionParameters α) (node : PoleDetectionNode α) :
    Event α → Option (PoleDetectionNode α × List (List (Pole α)))
  | .lidar message => some (lidarCallback message node, [])
  | .process => some (processPointCloud pcl parameters node)

abbrev History (α : Type) := List (Entry (PoleDetectionNode α) (Event α) (List (Pole α)))

end PoleDetectionNode

def poleDetectionNode (pcl : Pcl α) (parameters : DetectionParameters α) :
    Machine (PoleDetectionNode α) (PoleDetectionNode.Event α) (List (Pole α)) where
  initial := .initial
  step := PoleDetectionNode.step pcl parameters

end FlightStack
