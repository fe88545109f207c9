import DenseDmg.Fault
import DenseDmg.Radio.Frame
import DenseDmg.Time

/-!
# Link events

What the network reports to the measurement: associations, completed beam trainings, the start
of a data transfer interval, and frames received.
-/

namespace DenseDmg

/-- A station has joined a network. -/
structure Associated where
  node : NodeId
  address : MacAddress
  accessPoint : MacAddress
  /-- Association identifier. -/
  aid : Nat
deriving DecidableEq, Inhabited

/-- A station has lost its network. -/
structure Deassociated where
  node : NodeId
  address : MacAddress
  accessPoint : MacAddress
deriving DecidableEq, Inhabited

/-- What is known of a device when its trainings are subscribed to. -/
structure TrainingContext where
  node : NodeId
  role : Role
  /-- The address of the network's access point. -/
  bssid : MacAddress
deriving DecidableEq, Inhabited

/-- A device has completed a beam training. -/
structure TrainingCompleted where
  context : TrainingContext
  peer : MacAddress
  period : AccessPeriod
  side : TrainingSide
  initiatorSwept : Bool
  responderSwept : Bool
  sector : Nat
  antenna : Nat
deriving DecidableEq, Inhabited

/-- A data transfer interval has begun for a station. -/
structure TransferStarted where
  node : NodeId
  address : MacAddress
  bssid : MacAddress
  associated : Bool
  duration : Time
deriving DecidableEq, Inhabited

/-- A frame has been received. -/
structure FrameReceived where
  receiver : MacAddress
  transmitter : MacAddress
  kind : FrameKind
  /-- Signal-to-noise ratio in dB. -/
  snr : Float
deriving Inhabited

inductive LinkEvent
  | associated (event : Associated)
  | deassociated (event : Deassociated)
  | trainingCompleted (event : TrainingCompleted)
  | transferStarted (event : TransferStarted)
  | frameReceived (event : FrameReceived)

end DenseDmg
