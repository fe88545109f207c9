import DenseDmg.Fault
import DenseDmg.Text.Letters
import DenseDmg.Decimal.Reading
import DenseDmg.Word

/-!
# Kinds of traffic

The named variants that a scenario chooses from, and data rates.  Each reads its name from a
text with blank characters around it set aside, or gives the fault that names the text.
-/

namespace DenseDmg

/-- How a sender paces its packets: at a constant rate, or as fast as the air allows. -/
inductive AppKind
  | onOff
  | bulk
deriving DecidableEq, Inhabited

def AppKind.parse (s : String) : Except Fault AppKind :=
  let word := String.ofList (lower (trim s.toList))
  if word == "onoff" || word == "on-off" || word == "on_off" then .ok .onOff
  else if word == "bulk" then .ok .bulk
  else .error (.unknownVariant "application type" s)

inductive SocketKind
  | udp
  | tcp
deriving DecidableEq, Inhabited

/-- The short names, and the long ones in which a short name stands between a qualifier and the
word for a factory of sockets; either of these may be missing. -/
def SocketKind.parse (s : String) : Except Fault SocketKind :=
  let word := lower (trim s.toList)
  let word := (after? "ns3::".toList word).getD word
  let word := String.ofList ((before? "socketfactory".toList word).getD word)
  if word == "udp" then .ok .udp
  else if word == "tcp" then .ok .tcp
  else .error (.unknownVariant "socket type" s)

/-- Congestion control. -/
inductive TcpVariant
  | newReno
  | hybla
  | highSpeed
  | vegas
  | scalable
  | veno
  | bic
  | westwood
  | westwoodPlus
deriving DecidableEq, Inhabited

namespace TcpVariant

def all : List TcpVariant :=
  [newReno, hybla, highSpeed, vegas, scalable, veno, bic, westwood, westwoodPlus]

def name : TcpVariant → String
  | newReno => "NewReno"
  | hybla => "Hybla"
  | highSpeed => "HighSpeed"
  | vegas => "Vegas"
  | scalable => "Scalable"
  | veno => "Veno"
  | bic => "Bic"
  | westwood => "Westwood"
  | westwoodPlus => "WestwoodPlus"

/-- Names are compared letter by letter; the fault carries the name without blanks around it. -/
def parse (s : String) : Except Fault TcpVariant :=
  let word := String.ofList (trim s.toList)
  match all.find? fun v => v.name == word with
  | some v => .ok v
  | none => .error (.unknownVariant "TCP variant" word)

end TcpVariant

/-! ## Data rates -/

/-- A rate in bit/s. -/
structure DataRate where
  bps : Nat
deriving DecidableEq, Inhabited

namespace DataRate

def text (r : DataRate) : String := s!"{r.bps}bps"

/-- The units of a rate and how many bit/s they are; a longer unit stands before the shorter one
that it ends in. -/
def units : List (List Char × Float) :=
  [("Gbps".toList, 1e9), ("Mbps".toList, 1e6), ("kbps".toList, 1e3), ("Kbps".toList, 1e3),
    ("bps".toList, 1.0)]

/-- The number and the unit of a rate. -/
def split? (cs : List Char) : Option (List Char × Float) :=
  units.findSome? fun (name, factor) => (before? name cs).map fun number => (number, factor)

/-- A number and a unit, blank characters around both set aside.  The rate is at least one bit/s
and is rounded to whole bits. -/
def parse (s : String) : Except Fault DataRate :=
  let bps := (split? (trim s.toList)).bind fun (number, factor) =>
    (readFloat? (trim number)).map (· * factor)
  match bps with
  | some x =>
    if !x.isFinite || x < 1.0 then .error (.invalidValue "data rate" s)
    else .ok ⟨roundedWord x⟩
  | none => .error (.invalidValue "data rate" s)

end DataRate

end DenseDmg
