import FlightStack.Proofs.FlightPhases
import FlightStack.Proofs.CommandAuthority
import FlightStack.Proofs.LaunchRequests
import FlightStack.Proofs.DisarmGuard
import FlightStack.Proofs.Emergency
import FlightStack.Proofs.SetpointStream
import FlightStack.Proofs.StuckTimer
import FlightStack.Proofs.WaypointOrder
import FlightStack.Proofs.Fence
import FlightStack.Proofs.Compression
import FlightStack.Proofs.DistinctFrames
import FlightStack.Proofs.TrackBound
import FlightStack.Proofs.ClusterOrder
import FlightStack.Proofs.PlausiblePoles
import FlightStack.Proofs.FilteredUpdates
import FlightStack.Proofs.VanishedPoles
import FlightStack.Proofs.TallStructures
import FlightStack.Library.Thinning
import FlightStack.Proofs.KeyPoints
import FlightStack.Proofs.StuckAlarms
import FlightStack.OdomToPose
import FlightStack.Proofs.HeightZeroing
import FlightStack.Proofs.TiltLanding
import FlightStack.Library.NearestPoint
import FlightStack.Library.Radial
import FlightStack.Proofs.BodyFrame
import FlightStack.Proofs.ConeSteering
import FlightStack.Proofs.Follower
import FlightStack.Proofs.TrackedPoint
import FlightStack.Proofs.SegmentProgress
import FlightStack.Library.Views
import FlightStack.Proofs.HeadingFree
import FlightStack.Hover
import FlightStack.Proofs.HoverMachine
import FlightStack.Library.WhileLoop
import FlightStack.Proofs.YawWrapping
import FlightStack.Proofs.YawAgreement
import FlightStack.Proofs.CandidateGeometry
import FlightStack.Library.RingBuffer
import FlightStack.LidarQueue
import FlightStack.Library.LockStep
import FlightStack.Proofs.QueueContents
import FlightStack.LdsThreads
import FlightStack.Proofs.FrameDelivery
import FlightStack.Proofs.WakeUp
import FlightStack.Proofs.ThreadSafety
import FlightStack.CacheIndex
import FlightStack.Proofs.LidarPlaces
import FlightStack.LidarConfig
import FlightStack.Proofs.Handshake
import FlightStack.Proofs.Sampling
import FlightStack.Proofs.ConfiguredValues
import FlightStack.Proofs.PointAccount
import FlightStack.Proofs.FrameCuts
import FlightStack.Proofs.PublishSchedule
import FlightStack.Driver
import FlightStack.Library.Parts
import FlightStack.Proofs.EndToEnd
import FlightStack.Proofs.Extrinsics
import FlightStack.Proofs.PublishedLidars
import FlightStack.CustomMessages
import FlightStack.Proofs.MessageTimes
import FlightStack.Preprocess
import FlightStack.Proofs.ThinnedScans
import FlightStack.ImuProcess
import FlightStack.LaserMapping
import FlightStack.Proofs.ScanTimes
import FlightStack.Proofs.ScanEnds
import FlightStack.Proofs.ImuPartition
import FlightStack.Proofs.ImuStart
import FlightStack.Proofs.FilterClock
import FlightStack.Proofs.Undistortion
import FlightStack.LocalMap
import FlightStack.Proofs.LocalMapMoves
import FlightStack.Proofs.PointTimes
