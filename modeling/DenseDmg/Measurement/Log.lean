import DenseDmg.Network.LinkEvent

/-!
# The training log and the quality log

One line for every completed training and one for every frame whose quality is of interest, each
file under a header line.
-/

namespace DenseDmg

/-! ## Trainings -/

def trainingHeader : String := "SRC_ID,DST_ID,TRACE_IDX,SECTOR_ID,ANTENNA_ID,ROLE,BSS_ID,Timestamp"

structure TrainingRecord where
  source : NodeId
  peer : NodeId
  traceIndex : Nat
  sector : Nat
  antenna : Nat
  role : Role
  accessPoint : NodeId
  time : Time
deriving DecidableEq, Inhabited

/-- The log counts nodes from one; its readers keep zero for themselves. -/
def loggedNode (node : NodeId) : Nat := node + 1

/-- The columns of the log, all of them whole numbers. -/
def TrainingRecord.columns (r : TrainingRecord) : List Nat :=
  [loggedNode r.source, loggedNode r.peer, r.traceIndex, r.sector, r.antenna, r.role.code,
    loggedNode r.accessPoint, r.time.nanos]

def TrainingRecord.text (r : TrainingRecord) : String :=
  ",".intercalate (r.columns.map toString)

/-- The pieces in which a line is written: the columns and the commas between them. -/
def TrainingRecord.pieces (r : TrainingRecord) : List (List Char) :=
  (r.columns.map (Nat.toDigits 10)).intersperse [',']

/-- The line that tells people of a completed training. -/
def TrainingCompleted.notice (e : TrainingCompleted) : String :=
  s!"DMG STA: {e.context.node} Address: {e.peer.text} Sector ID: {e.sector} Antenna ID: {e.antenna}"

/-! ## Frame quality -/

def qualityHeader : String := "TIME,SRC,DST,SNR"

structure QualityRecord where
  time : Time
  transmitter : MacAddress
  receiver : MacAddress
  snr : Float
deriving Inhabited

def QualityRecord.text (r : QualityRecord) : String :=
  s!"{r.time.nanos},{r.transmitter.text},{r.receiver.text},{String.ofList (plainFloat r.snr)}"

/-- The pieces in which a line is written. -/
def QualityRecord.pieces (r : QualityRecord) : List (List Char) :=
  Nat.toDigits 10 r.time.nanos :: [','] :: r.transmitter.pieces ++ [','] :: r.receiver.pieces ++
    [','] :: plainPieces r.snr

/-- A record of either log. -/
inductive LogRecord
  | training (record : TrainingRecord)
  | quality (record : QualityRecord)
deriving Inhabited

/-- Training frames are always of interest, data frames on request, others never. -/
def FrameKind.isLogged (reportData : Bool) (k : FrameKind) : Bool :=
  (k.isData && reportData) || k.isTraining

/-! ## Associations -/

def Associated.notice (e : Associated) : String :=
  s!"DMG STA {e.address.text} associated with DMG PCP/AP {e.accessPoint.text}, Association ID (AID) = {e.aid}"

def Deassociated.notice (e : Deassociated) : String :=
  s!"DMG STA {e.address.text} deassociated from DMG PCP/AP {e.accessPoint.text}"

end DenseDmg
