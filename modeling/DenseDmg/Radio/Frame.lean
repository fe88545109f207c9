/-!
# Frames, roles and access periods

The kinds of frame that the measurements tell apart, the two kinds of station, and the parts of
a beacon interval in which a training may take place.
-/

namespace DenseDmg

inductive FrameKind
  | data
  /-- The beacon that the access point sweeps over its sectors. -/
  | beacon
  | sectorSweep
  | sweepFeedback
  | sweepAck
  | management
deriving DecidableEq, Inhabited

namespace FrameKind

def all : List FrameKind := [data, beacon, sectorSweep, sweepFeedback, sweepAck, management]

def text : FrameKind → String
  | data => "QoS-Data"
  | beacon => "DMG-Beacon"
  | sectorSweep => "SSW"
  | sweepFeedback => "SSW-FBCK"
  | sweepAck => "SSW-ACK"
  | management => "Mgmt"

/-- Frames of a beam training, whose quality is always logged. -/
def isTraining : FrameKind → Bool
  | beacon | sectorSweep | sweepFeedback | sweepAck => true
  | data | management => false

def isData (k : FrameKind) : Bool := k == data

/-- The kind whose text is given. -/
def ofText? (s : String) : Option FrameKind := all.find? fun k => k.text == s

end FrameKind

/-- Whether a device serves a network or takes part in one. -/
inductive Role
  | station
  | accessPoint
deriving DecidableEq, Inhabited

/-- The number under which the training log shows a role. -/
def Role.code : Role → Nat
  | .station => 0
  | .accessPoint => 1

/-- A part of a beacon interval. -/
inductive AccessPeriod
  /-- Beacon transmission interval. -/
  | beaconTransmission
  /-- Association beamforming training. -/
  | associationTraining
  /-- Data transfer interval, on-demand training included. -/
  | dataTransfer
deriving DecidableEq, Inhabited

namespace AccessPeriod

def all : List AccessPeriod := [beaconTransmission, associationTraining, dataTransfer]

def text : AccessPeriod → String
  | beaconTransmission => "BTI"
  | associationTraining => "A-BFT"
  | dataTransfer => "DTI"

def ofText? (s : String) : Option AccessPeriod := all.find? fun p => p.text == s

end AccessPeriod

/-- Which end of a training a device was. -/
inductive TrainingSide
  | initiator
  | responder
deriving DecidableEq, Inhabited

end DenseDmg
