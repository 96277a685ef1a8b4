import FlightStack.Proofs.PointAccount

/-! The points of a lidar are a rigid image of what it measured if it has extrinsic
parameters. Those that a handler starts with are no rotation. -/

namespace FlightStack.Proofs
open LidarPubHandler

/-- Where a lidar saw the points of a packet, in metres -/
noncomputable def measured (pkt : RawPacket) : List (Point ℝ) :=
  match pkt.rawData with
  | .cartesianHigh points => (points.take pkt.pointNum).map fun raw => ⟨raw.x / 1000, raw.y / 1000, raw.z / 1000⟩
  | .cartesianLow points => (points.take pkt.pointNum).map fun raw => ⟨raw.x / lowUnit, raw.y / lowUnit, raw.z / lowUnit⟩
  | .spherical points => (points.take pkt.pointNum).map sphericalSource
  | .unknown => []

/-- What a lidar counts to a metre in its translation -/
noncomputable def unitOf : RawData → ℝ
  | .cartesianLow _ => lowUnit
  | _ => 1000

/-- A point moved by extrinsic parameters -/
structure Brought (extrinsic : ExtParameterDetailed ℝ) (unit : ℝ) (seen : Point ℝ) (point : PointXyzlt ℝ) : Prop where
  x : point.x = along extrinsic.rotation₀ seen.x seen.y seen.z + extrinsic.trans.x / unit
  y : point.y = along extrinsic.rotation₁ seen.x seen.y seen.z + extrinsic.trans.y / unit
  z : point.z = along extrinsic.rotation₂ seen.x seen.y seen.z + extrinsic.trans.z / unit

theorem cartesianPoint_brought (unit : ℝ) (extrinsic : ExtParameterDetailed ℝ) {pkt : RawPacket}
    (plain : pkt.extrinsicEnable = false) (raw : CartesianRawPoint) (i : Nat) :
    Brought extrinsic unit ⟨raw.x / unit, raw.y / unit, raw.z / unit⟩ (cartesianPoint unit extrinsic pkt raw i) := by
  constructor
  all_goals
    simp only [cartesianPoint, plain, along, Bool.false_eq_true, if_false]
    ring

theorem sphericalPoint_brought (extrinsic : ExtParameterDetailed ℝ) {pkt : RawPacket}
    (plain : pkt.extrinsicEnable = false) (raw : SpherPoint) (i : Nat) :
    Brought extrinsic 1000 (sphericalSource raw) (sphericalPoint extrinsic pkt raw i) := by
  constructor
  all_goals simp only [sphericalPoint, plain, Bool.false_eq_true, if_false]

theorem processed_brought (extrinsic : ExtParameterDetailed ℝ) {pkt : RawPacket} (plain : pkt.extrinsicEnable = false)
    {i : Nat} {point : PointXyzlt ℝ} (held : (processed extrinsic pkt)[i]? = some point) :
    ∃ seen, (measured pkt)[i]? = some seen ∧ Brought extrinsic (unitOf pkt.rawData) seen point := by
  rw [processed] at held
  rw [measured]
  cases kind : pkt.rawData with
  | cartesianHigh points =>
    rw [kind] at held
    simp only [List.getElem?_mapIdx, Option.map_eq_some_iff] at held
    obtain ⟨raw, inside, rfl⟩ := held
    refine ⟨_, ?_, cartesianPoint_brought 1000 extrinsic plain raw i⟩
    simp only [List.getElem?_map, inside, Option.map_some]
  | cartesianLow points =>
    rw [kind] at held
    simp only [List.getElem?_mapIdx, Option.map_eq_some_iff] at held
    obtain ⟨raw, inside, rfl⟩ := held
    refine ⟨_, ?_, cartesianPoint_brought lowUnit extrinsic plain raw i⟩
    simp only [List.getElem?_map, inside, Option.map_some]
  | spherical points =>
    rw [kind] at held
    simp only [List.getElem?_mapIdx, Option.map_eq_some_iff] at held
    obtain ⟨raw, inside, rfl⟩ := held
    refine ⟨_, ?_, sphericalPoint_brought extrinsic plain raw i⟩
    simp only [List.getElem?_map, inside, Option.map_some]
  | unknown =>
    rw [kind] at held
    simp at held

/-- The square of the distance of two points of the cloud -/
def cloudDistance (first second : PointXyzlt ℝ) : ℝ :=
  (first.x - second.x) ^ 2 + (first.y - second.y) ^ 2 + (first.z - second.z) ^ 2

def seenDistance (first second : Point ℝ) : ℝ :=
  (first.x - second.x) ^ 2 + (first.y - second.y) ^ 2 + (first.z - second.z) ^ 2

/-- Roll, pitch and yaw one after the other keep the length of a vector. -/
theorem detailed_length (param : ExtParameter ℝ) (x y z : ℝ) :
    along (detailed param).rotation₀ x y z ^ 2 + along (detailed param).rotation₁ x y z ^ 2 +
      along (detailed param).rotation₂ x y z ^ 2 = x ^ 2 + y ^ 2 + z ^ 2 := by
  have roll : sin (param.roll * pi / 180) ^ 2 + cos (param.roll * pi / 180) ^ 2 = 1 := Real.sin_sq_add_cos_sq _
  have pitch : sin (param.pitch * pi / 180) ^ 2 + cos (param.pitch * pi / 180) ^ 2 = 1 := Real.sin_sq_add_cos_sq _
  have yaw : sin (param.yaw * pi / 180) ^ 2 + cos (param.yaw * pi / 180) ^ 2 = 1 := Real.sin_sq_add_cos_sq _
  simp only [along, detailed]
  generalize sin (param.roll * pi / 180) = sr at *
  generalize cos (param.roll * pi / 180) = cr at *
  generalize sin (param.pitch * pi / 180) = sp at *
  generalize cos (param.pitch * pi / 180) = cp at *
  generalize sin (param.yaw * pi / 180) = sy at *
  generalize cos (param.yaw * pi / 180) = cy at *
  -- the vector after the roll is (x, cr y - sr z, sr y + cr z)
  linear_combination ((cp * x + sp * (sr * y + cr * z)) ^ 2 + (cr * y - sr * z) ^ 2) * yaw +
    (x ^ 2 + (sr * y + cr * z) ^ 2) * pitch + (y ^ 2 + z ^ 2) * roll

theorem Brought.distance {extrinsic : ExtParameterDetailed ℝ} {unit : ℝ} {first second : Point ℝ}
    {image other : PointXyzlt ℝ} (one : Brought extrinsic unit first image) (two : Brought extrinsic unit second other) :
    cloudDistance image other =
      along extrinsic.rotation₀ (first.x - second.x) (first.y - second.y) (first.z - second.z) ^ 2 +
        along extrinsic.rotation₁ (first.x - second.x) (first.y - second.y) (first.z - second.z) ^ 2 +
        along extrinsic.rotation₂ (first.x - second.x) (first.y - second.y) (first.z - second.z) ^ 2 := by
  rw [cloudDistance, one.x, one.y, one.z, two.x, two.y, two.z]
  simp only [along]
  ring

/-- The points of every packet of a lidar lie to each other as they were seen exactly
if the lidar has extrinsic parameters. -/
theorem rigid_iff_configured (lidarExtrinsics : BitVec 32 → Option (ExtParameter ℝ)) (id : BitVec 32) :
    (∀ (pkt : RawPacket), pkt.extrinsicEnable = false → ∀ (i j : Nat) (first second : PointXyzlt ℝ),
      (processed (extrinsicOf lidarExtrinsics id) pkt)[i]? = some first →
      (processed (extrinsicOf lidarExtrinsics id) pkt)[j]? = some second →
      ∃ seen other, (measured pkt)[i]? = some seen ∧ (measured pkt)[j]? = some other ∧
        cloudDistance first second = seenDistance seen other) ↔ lidarExtrinsics id ≠ none := by
  constructor
  · intro rigid absent
    -- two points, one a metre above the other
    obtain ⟨seen, other, inside, within, same⟩ := rigid ⟨id, false, 1, 2, 0, 0, .cartesianHigh [⟨0, 0, 0, 0, 0⟩, ⟨0, 0, 1000, 0, 0⟩]⟩
      rfl 0 1 _ _ rfl rfl
    obtain rfl := Option.some.inj inside
    obtain rfl := Option.some.inj within
    simp [cloudDistance, seenDistance, cartesianPoint, along, extrinsicOf, absent, construct] at same
  · intro present pkt plain i j first second held more
    obtain ⟨param, configured⟩ := Option.ne_none_iff_exists'.mp present
    obtain ⟨seen, inside, one⟩ := processed_brought _ plain held
    obtain ⟨other, within, two⟩ := processed_brought _ plain more
    refine ⟨seen, other, inside, within, ?_⟩
    rw [one.distance two, extrinsicOf, configured, Option.map_some, Option.getD_some, detailed_length, seenDistance]

end FlightStack.Proofs
