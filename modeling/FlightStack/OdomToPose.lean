import FlightStack.Rclcpp
import FlightStack.Library.Machine

/-! `odom_to_pose_node`: the odometry of the lidar becomes the vision pose of the
autopilot. The first ten messages only serve to find the height the lidar starts at. -/

namespace FlightStack
variable {α : Type} [Arithmetic α]

/-- The members of `OdomToPoseNode`. The messages are kept as the poses they carry. -/
structure OdomToPoseNode (α : Type) where
  receiveData : Pose α
  sendData : Pose α
  offset : α
  lidarHeight : α
  checktime : Nat
  sumOffset : α
  dataReady : Bool

namespace OdomToPoseNode

def construct : OdomToPoseNode α where
  receiveData := ⟨⟨0, 0, 0⟩, ⟨0, 0, 0, 1⟩⟩
  sendData := ⟨⟨0, 0, 0⟩, ⟨0, 0, 0, 1⟩⟩
  offset := 0
  lidarHeight := 0
  checktime := 0
  sumOffset := 0
  dataReady := false

def radarCb (msg : Pose α) (node : OdomToPoseNode α) : OdomToPoseNode α :=
  if node.checktime < 10 then
    { node with receiveData := msg, checktime := node.checktime + 1, sumOffset := node.sumOffset + msg.position.z }
  else
    let node := if node.checktime = 10 then
        { node with offset := node.sumOffset / 10, checktime := node.checktime + 1 }
      else node
    let lidarHeight := msg.position.z - node.offset
    { node with
      receiveData := msg, lidarHeight
      sendData := ⟨⟨msg.position.x, msg.position.y, lidarHeight⟩, msg.orientation⟩
      dataReady := true }

def timerCb (node : OdomToPoseNode α) : List (Pose α) :=
  if node.dataReady && 10 < node.checktime then [node.sendData] else []

end OdomToPoseNode

inductive OdomEvent (α : Type) where
  | odometry (msg : Pose α)
  | tick

/-- The node under its executor: one callback at a time, in any order. -/
def odomToPose : Machine (OdomToPoseNode α) (OdomEvent α) (Pose α) where
  initial := .construct
  step node event := match event with
    | .odometry msg => some (node.radarCb msg, [])
    | .tick => some (node, node.timerCb)

end FlightStack
