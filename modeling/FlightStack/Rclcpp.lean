import FlightStack.Arithmetic

/-! The parts of rclcpp and of the message packages that the flight node reads.
Times remember which clock they came from; mixing clocks throws. -/

namespace FlightStack

inductive ClockType where
  | system
  | ros
  deriving DecidableEq, Repr

/-- `rclcpp::Time`. A default-constructed time is zero on the system clock. -/
structure Time where
  nanoseconds : Int := 0
  clock : ClockType := .system
  deriving DecidableEq, Repr

/-- What ends the node from inside a callback: the two exceptions of `Time`, and
an element access past the end of a vector. -/
inductive Fault where
  | subtract (left right : Time)
  | compare (left right : Time)
  | access (index : Nat)
  deriving DecidableEq, Repr

namespace Time

/-- A reading of the node's own clock, `get_clock()->now()`. -/
def now (reading : Int) : Time := ⟨reading, .ros⟩

def sub (left right : Time) : Except Fault Int :=
  if left.clock = right.clock then .ok (left.nanoseconds - right.nanoseconds) else .error (.subtract left right)

def ge (left right : Time) : Except Fault Bool :=
  if left.clock = right.clock then .ok (right.nanoseconds ≤ left.nanoseconds) else .error (.compare left right)

/-- `time + Duration::from_nanoseconds(span)` -/
def add (time : Time) (span : Int) : Time := { time with nanoseconds := time.nanoseconds + span }

end Time

/-- `Duration::seconds` -/
def seconds {α : Type} [Arithmetic α] (span : Int) : α := span / 10 ^ 9

inductive Response where
  | success
  | rejected
  | exception
  deriving DecidableEq, Repr

structure Position (α : Type) where
  x : α
  y : α
  z : α

structure Quaternion (α : Type) where
  x : α
  y : α
  z : α
  w : α

structure Pose (α : Type) where
  position : Position α
  orientation : Quaternion α

/-- `mavros_msgs::msg::State`, as far as it is read. -/
structure VehicleState where
  mode : String := ""
  armed : Bool := false
  deriving DecidableEq, Repr

end FlightStack
