import DenseDmg.Dense
import DenseDmg.Directory
import DenseDmg.Measurement.Handover

/-!
# The command line

A call of the program names a scenario document and values that replace fields of it, and the
files to write.  `Invocation.ofArgs` reads the arguments, `Options.scenario` makes the scenario,
and `Options.execute` says what a call does to a directory of files.
-/

namespace DenseDmg

structure Options where
  config : Option String := none
  applicationType : Option String := none
  packetSize : Option Nat := none
  dataRate : Option String := none
  maxBytes : Option Nat := none
  socketType : Option String := none
  tcpVariant : Option String := none
  phyMode : Option String := none
  simulationTime : Option Float := none
  numStas : Option Nat := none
  biThreshold : Option Nat := none
  csv : Bool := false
  reportDataSnr : Option Bool := none
  numTraces : Option Nat := none
  trainingOut : String := "slsResults.csv"
  qualityOut : String := "snrValues.csv"
  summaryOut : Option String := none
deriving Inhabited

/-! ## Values -/

/-- Paths must not be empty. -/
def readPath? (s : String) : Option String := if s.isEmpty then none else some s

/-- A whole number from zero to a limit; a sign may stand in front, also before zero. -/
def readSigned? (limit : Nat) (s : String) : Option Nat :=
  match s.toList with
  | '-' :: ds => (digitsValue? ds).filter (· == 0)
  | cs => readWord? limit cs

def readTruth? (s : String) : Option Bool :=
  if s == "true" then some true else if s == "false" then some false else none

/-- The options that take a value, and how each value is read into the options; `none` for a
value that cannot be read. -/
def valued : List (String × (Options → String → Option Options)) := [
  ("config", fun o s => (readPath? s).map fun v => { o with config := some v }),
  ("application-type", fun o s => some { o with applicationType := some s }),
  ("packet-size", fun o s => (readSigned? lastLong s).map fun v => { o with packetSize := some v }),
  ("data-rate", fun o s => some { o with dataRate := some s }),
  ("max-packets", fun o s => (readWord? lastWord s.toList).map fun v =>
    { o with maxBytes := some v }),
  ("socket-type", fun o s => some { o with socketType := some s }),
  ("tcp-variant", fun o s => some { o with tcpVariant := some s }),
  ("phy-mode", fun o s => some { o with phyMode := some s }),
  ("simulation-time", fun o s => (readFloat? s.toList).map fun v =>
    { o with simulationTime := some v }),
  ("num-stas", fun o s => (readSigned? lastShort s).map fun v => { o with numStas := some v }),
  ("bi-threshold", fun o s => (readSigned? lastShort s).map fun v =>
    { o with biThreshold := some v }),
  ("report-data-snr", fun o s => (readTruth? s).map fun v => { o with reportDataSnr := some v }),
  ("qd-traces", fun o s => (readSigned? lastLong s).map fun v => { o with numTraces := some v }),
  ("sls-out", fun o s => (readPath? s).map fun v => { o with trainingOut := v }),
  ("snr-out", fun o s => (readPath? s).map fun v => { o with qualityOut := v }),
  ("summary-json", fun o s => (readPath? s).map fun v => { o with summaryOut := some v })]

/-! ## Arguments -/

/-- What a call asks for. -/
inductive Invocation
  | run (options : Options)
  | help
  /-- Arguments that make no sense. -/
  | rejected
deriving Inhabited

/-- Whether an argument can be the value of the option before it. -/
def isPlainValue (s : String) : Bool :=
  match s.toList with
  | '-' :: _ :: _ => false
  | _ => true

/-- The name and the value of an option written as one argument, behind its dashes. -/
def splitAssignment (cs : List Char) : String × Option String :=
  let name := cs.takeWhile (· != '=')
  (String.ofList name,
    match cs.dropWhile (· != '=') with
    | _ :: value => some (String.ofList value)
    | [] => none)

/-- Read arguments from left to right; no option may be given twice. -/
def Invocation.read (o : Options) (seen : List String) : List String → Invocation
  | [] => .run o
  | arg :: rest =>
    match arg.toList with
    | ['-', '-'] => if rest.isEmpty then .run o else .rejected
    | '-' :: '-' :: body =>
      let (name, value) := splitAssignment body
      if seen.contains name then .rejected
      else if name == "csv" then
        if value.isSome then .rejected
        else Invocation.read { o with csv := true } (name :: seen) rest
      else if name == "help" then if value.isSome then .rejected else .help
      else
        match valued.lookup name with
        | none => .rejected
        | some set =>
          match value, rest with
          | some v, rest =>
            match set o v with
            | some o => Invocation.read o (name :: seen) rest
            | none => .rejected
          | none, v :: rest =>
            match if isPlainValue v then set o v else none with
            | some o => Invocation.read o (name :: seen) rest
            | none => .rejected
          | none, [] => .rejected
    | '-' :: 'h' :: _ => .help
    | _ => .rejected

def Invocation.ofArgs (args : List String) : Invocation := Invocation.read {} [] args

namespace Options

/-! ## The scenario -/

/-- Replace the fields of a document that options name. -/
def override (o : Options) (s : ScenarioSpec) : ScenarioSpec :=
  let app := s.application
  { s with
    application :=
      { app with
        kind := o.applicationType.getD app.kind
        packetSize := o.packetSize.getD app.packetSize
        dataRate := o.dataRate.getD app.dataRate
        maxBytes := o.maxBytes.getD app.maxBytes
        socket := o.socketType.getD app.socket
        tcpVariant := o.tcpVariant.getD app.tcpVariant }
    phyMode := o.phyMode.getD s.phyMode
    simulationTime := o.simulationTime.getD s.simulationTime
    numStas := o.numStas.getD s.numStas
    mac := { s.mac with biThreshold := o.biThreshold.getD s.mac.biThreshold }
    output :=
      { s.output with
        csv := o.csv || s.output.csv
        reportDataSnr := o.reportDataSnr.getD s.output.reportDataSnr }
    channel := { s.channel with numTraces := o.numTraces.getD s.channel.numTraces } }

/-- The scenario of a call, given how documents are read from files: the document, if one is
named, with the fields replaced that options name. -/
def scenario (o : Options) (document : String → Option String) : Except Fault Scenario := do
  let spec : ScenarioSpec ← match o.config with
    | none => .ok {}
    | some path =>
      match document path with
      | some raw => ScenarioSpec.ofDocument raw
      | none => .error .inaccessible
  (o.override spec).resolve

/-- The streams of a call. -/
def outputs (o : Options) : Outputs :=
  ⟨.fresh "stdout", .fresh o.trainingOut, .fresh o.qualityOut⟩

end Options

/-! ## Help -/

/-- The options in the order in which they are explained: what stands for the value, if there is
one, and the explanation. -/
def explanations : List (String × String) := [
  ("config <CONFIG>", "场景 JSON；命令行参数会覆盖其中的同名字段"),
  ("application-type <APPLICATION_TYPE>", "发送应用类型：onoff 或 bulk"),
  ("packet-size <PACKET_SIZE>", "应用层包大小（字节）"),
  ("data-rate <DATA_RATE>", "应用数据速率，例如 300Mbps"),
  ("max-packets <MAX_PACKETS>", "每个发送端最多发送的字节数（0 表示不限）"),
  ("socket-type <SOCKET_TYPE>", "socket 类型：udp / tcp（或 ns3::UdpSocketFactory 这类全名）"),
  ("tcp-variant <TCP_VARIANT>",
    "TCP 变体：" ++ ", ".intercalate (TcpVariant.all.map TcpVariant.name)),
  ("phy-mode <PHY_MODE>", "802.11ad PHY 模式，例如 DMG_MCS12"),
  ("simulation-time <SIMULATION_TIME>", "仿真时长（秒）"),
  ("num-stas <NUM_STAS>", "DMG STA 数量"),
  ("bi-threshold <BI_THRESHOLD>", "每隔多少个信标间隔强制做一次 CBAP TxSS"),
  ("csv", "使用 CSV 输出，并关闭所有事件说明与结束报告"),
  ("report-data-snr <REPORT_DATA_SNR>",
    "是否记录数据帧的 SNR（控制帧总是记录） [possible values: true, false]"),
  ("qd-traces <QD_TRACES>", "Q-D 信道快照数量"),
  ("sls-out <SLS_OUT>", "SLS 结果文件 [default: slsResults.csv]"),
  ("snr-out <SNR_OUT>", "SNR 记录文件 [default: snrValues.csv]"),
  ("summary-json <SUMMARY_JSON>", "结束时把统计汇总写成 JSON")]

/-- What the program prints when it is asked for help: every explanation stands on a line of its
own below the option. -/
def helpLines : List String :=
  ["IEEE 802.11ad 单 AP 密集场景：Q-D 信道下的吞吐量与波束训练记录", "",
    "Usage: qd_dense_scenario [OPTIONS]", "", "Options:"] ++
    explanations.flatMap (fun (option, explanation) =>
      ["      --" ++ option, "          " ++ explanation]) ++
    ["  -h, --help", "          Print help"]

/-! ## Effects -/

/-- What a call leaves: its exit code, the lines it printed, and the directory. -/
structure Report where
  exit : Nat
  printed : List String
  directory : Directory
deriving Inhabited

namespace Options

/-- Write the logs into their files.  If the two paths lead to one file, the order counts in which
the logs are handed on. -/
def writeLogs (o : Options) (d : Directory) (x : Experiment) : Directory :=
  if d.place o.trainingOut = d.place o.qualityOut then
    d.write o.trainingOut (merged (handovers x.history.toList))
  else
    (d.write o.trainingOut (fileText x.outputs.training.written)).write o.qualityOut
      (fileText x.outputs.quality.written)

/-- The effects of a run that has ended: the printed table and the two logs, and the summary if
there is one and a file was named for it. -/
def settle (o : Options) (d : Directory) (w : World) (answer : Except Fault Summary) : Report :=
  let printed := w.experiment.outputs.console.written.toList
  let d := o.writeLogs d w.experiment
  match answer, o.summaryOut with
  | .error _, _ => ⟨1, printed, d⟩
  | .ok _, none => ⟨0, printed, d⟩
  | .ok summary, some path =>
    if d.canCreate path then ⟨0, printed, d.write path summary.json.pretty⟩
    else ⟨1, printed, d⟩

/--
What a call does to a directory.  The two logs are created, empty, once the scenario has been
accepted and before it is run.  `none` if the run takes more than `fuel` events.
-/
def execute (o : Options) (fuel : Nat) (d : Directory) : Option Report :=
  match o.scenario d.read? with
  | .error _ => some ⟨1, [], d⟩
  | .ok scenario =>
    if !d.canCreate o.trainingOut then some ⟨1, [], d⟩
    else
      let d := d.write o.trainingOut ""
      if !d.canCreate o.qualityOut then some ⟨1, [], d⟩
      else
        let d := d.write o.qualityOut ""
        match DenseRun.build scenario o.outputs with
        | .error _ => some ⟨1, [], d⟩
        | .ok run => (run.run fuel).map fun (w, answer) => o.settle d w answer

end Options

/-- What the program does in a directory when it is called with the given arguments. -/
def Invocation.execute (fuel : Nat) (args : List String) (d : Directory) : Option Report :=
  match Invocation.ofArgs args with
  | .run o => o.execute fuel d
  | .help => some ⟨0, helpLines, d⟩
  | .rejected => some ⟨2, [], d⟩

end DenseDmg
