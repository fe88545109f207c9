import DenseDmg.Time

/-!
# The radio channel

Free-space loss between points, antennas whose codebook divides the circle into equal sectors,
and a small deterministic fading that differs from one channel trace to the next.  Floating-point
expressions keep their order of operations: the logs show every digit of the results.
-/

namespace DenseDmg

/-- A point in space, in metres. -/
structure Position where
  x : Float
  y : Float
  z : Float
deriving Inhabited

def pi : Float := 3.141592653589793

def fullTurn : Float := 2.0 * pi

namespace Position

def distance (a b : Position) : Float :=
  let dx := b.x - a.x
  let dy := b.y - a.y
  let dz := b.z - a.z
  (dx * dx + dy * dy + dz * dz).sqrt

/-- The direction of `b` from `a` in the horizontal plane, from zero up to a full turn.  The
arctangent lies within half a turn of zero, so at most one turn is to be added. -/
def azimuth (a b : Position) : Float :=
  let angle := Float.atan2 (b.y - a.y) (b.x - a.x)
  if angle < 0.0 then angle + fullTurn.abs else angle

end Position

/-- One end of a link: its node, where it stands and into how many sectors its codebook divides
the circle. -/
structure Endpoint where
  node : Nat
  position : Position
  sectors : Nat
deriving Inhabited

structure ChannelConfig where
  /-- How many traces of the channel follow each other; the last one stays. -/
  numTraces : Nat
  tracePeriod : Time
  /-- Transmit power in dBm. -/
  txPower : Float
  /-- Noise figure of the receivers in dB. -/
  noiseFigure : Float
deriving Inhabited

namespace Channel

/-- Carrier frequency of the second channel, in Hz. -/
def carrier : Float := 60.48e9

/-- Bandwidth of a channel, in Hz. -/
def bandwidth : Float := 2.16e9

/-- In m/s. -/
def speedOfLight : Float := 299792458.0

/-- How far the gain falls at most away from the centre of a sector, in dB. -/
def maxSidelobeLoss : Float := 20.0

/-- How far one trace differs from another, in dB. -/
def fadingDepth : Float := 1.5

/-- The trace in force at an instant. -/
def traceIndex (c : ChannelConfig) (now : Time) : Nat :=
  min (now.nanos / max c.tracePeriod.nanos 1) (c.numTraces - 1)

/-! ## Antennas -/

/-- The angle that one sector covers. -/
def sectorWidth (sectors : Nat) : Float := fullTurn / countFloat (max sectors 1)

/-- The sector of a codebook that faces a point; sectors are counted from one. -/
def bestSector (origin target : Position) (sectors : Nat) : Nat :=
  let facing := (origin.azimuth target / sectorWidth sectors).floor.toUInt8.toNat
  min facing (max sectors 1 - 1) + 1

/-- The gain towards a point when a given sector is in use, in dBi. -/
def sectorGain (origin target : Position) (sector sectors : Nat) : Float :=
  let width := sectorWidth sectors
  let centre := (countFloat sector - 0.5) * width
  let away := (origin.azimuth target - centre).abs
  let error := if pi < away then fullTurn - away else away
  let peak := 10.0 * (countFloat (max sectors 1)).log10 + 3.0
  let loss := 12.0 * (error / width * (error / width))
  peak - (if loss < maxSidelobeLoss then loss else maxSidelobeLoss)

/-! ## Links -/

/-- Free-space loss in dB; ends closer than a decimetre count as a decimetre apart. -/
def pathLoss (a b : Position) : Float :=
  let d := a.distance b
  let d := if 0.1 < d then d else 0.1
  20.0 * (4.0 * pi * d * carrier / speedOfLight).log10

/-- Thermal noise in the channel's bandwidth, in dBm. -/
def noiseFloor (c : ChannelConfig) : Float := -174.0 + 10.0 * bandwidth.log10 + c.noiseFigure

/-- Signal-to-noise ratio of a frame from `tx` to `rx` when both use their best sectors, in dB. -/
def snr (c : ChannelConfig) (tx rx : Endpoint) (now : Time) : Float :=
  let txSector := bestSector tx.position rx.position tx.sectors
  let rxSector := bestSector rx.position tx.position rx.sectors
  let gain := sectorGain tx.position rx.position txSector tx.sectors +
    sectorGain rx.position tx.position rxSector rx.sectors
  let trace := countFloat (traceIndex c now)
  let fading := fadingDepth * (0.7 * trace + 0.3 * countFloat (tx.node + rx.node)).sin
  c.txPower + gain - pathLoss tx.position rx.position - noiseFloor c + fading

end Channel

end DenseDmg
