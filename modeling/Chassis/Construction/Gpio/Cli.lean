import Chassis.Construction.Gpio.Pin

namespace Chassis.Gpio
open Effect Json

def chassisGpios : List GpioInfo :=
  [sysreset, nvmro, gdiscrete, psenable, ps1inh, ps1fail, ps2inh, ps2fail]

structure Cli where
  availableGpios : List GpioInfo
  chassisGpios : List GpioInfo

/-- A pointer goes into one of the two lists. -/
inductive Target where
  | available (index : Nat)
  | chassis (index : Nat)
  deriving DecidableEq, Repr

/-- Each command is a process of its own. -/
def Cli.construct : Cli := ⟨Gpio.availableGpios, Gpio.chassisGpios⟩

namespace Cli

def gpio (cli : Cli) : Target → Option GpioInfo
  | .available index => cli.availableGpios[index]?
  | .chassis index => cli.chassisGpios[index]?

def setStatus (cli : Cli) (status : Int) : Target → Cli
  | .available index => { cli with
      availableGpios := cli.availableGpios.modify index fun gpio => { gpio with status := status } }
  | .chassis index => { cli with
      chassisGpios := cli.chassisGpios.modify index fun gpio => { gpio with status := status } }

def ischassisgpio (cli : Cli) (targetGpio : GpioInfo) : Bool :=
  cli.chassisGpios.any fun gpio => gpio.name == targetGpio.name

def getGpioByName (cli : Cli) (name : List UInt8) : Option Target :=
  (cli.availableGpios.findIdx? fun gpio => ascii gpio.name == name).map .available

def getChassisGpioByName (cli : Cli) (name : List UInt8) : Option Target :=
  (cli.chassisGpios.findIdx? fun gpio => ascii gpio.name == name).map .chassis

/-- The lines of the backplane come before the signals of the chassis. -/
def target (cli : Cli) (name : List UInt8) : Option Target :=
  (cli.getGpioByName name).orElse fun _ => cli.getChassisGpioByName name

/-- Both setters reject an input and a value that is not a bit. One of them publishes the value
before it drives the line. -/
def setWith (publish : GpioInfo → Program interface Cli Unit) (target : Target) (value : Int) :
    Program interface Cli Int := do
  let cli ← Program.read
  match cli.gpio target with
  | none => pure (-1)
  | some gpio =>
      if gpio.input then pure (-1)
      else if value ≠ 0 ∧ value ≠ 1 then pure (-1)
      else
        Program.tryCatch (do
          publish gpio
          attempt (.openChip gpio.chip) id .gpioError
          attempt (.getLine gpio.chip gpio.line) id .gpioError
          attempt (.requestOutput gpio.chip gpio.line value) id .gpioError
          Program.modify fun cli => cli.setStatus value target
          attempt (.release gpio.chip gpio.line) id .gpioError
          pure 0) fun _ => pure (-1)

def setgpio (target : Target) (value : Int) : Program interface Cli Int :=
  setWith (fun _ => pure ()) target value

def setdbusgpio (target : Target) (value : Int) : Program interface Cli Int :=
  setWith (fun gpio => attempt (.setValueProperty (Boot.gpioPath gpio.name) value) id .dbusError)
    target value

def readgpio (target : Target) : Program interface Cli Int := do
  let cli ← Program.read
  match cli.gpio target with
  | none => pure (-1)
  | some gpio =>
      Program.tryCatch (readLine gpio fun value cli => cli.setStatus value target)
        fun _ => pure (-1)

/-- The conversion to an integer cuts the fraction off. -/
def truncate (value : ℚ) : Int := value.num.tdiv value.den

def readdbusgpio (target : Target) : Program interface Cli Int := do
  let cli ← Program.read
  match cli.gpio target with
  | none => pure (-1)
  | some gpio =>
      Program.tryCatch (do
        let value ← fetch (.getValueProperty (Boot.gpioPath gpio.name)) id .dbusError
        Program.modify fun cli => cli.setStatus (truncate value) target
        pure (truncate value)) fun _ => pure (-1)

/-- One of the two loops over the lines of the backplane visits those with the given direction. -/
def readDirection (input : Bool) : Program interface Cli Unit := do
  let cli ← Program.read
  Program.forEach (fun index => do
    let cli ← Program.read
    match cli.availableGpios[index]? with
    | none => pure ()
    | some gpio =>
        if gpio.input = input then do
          let _ ← readgpio (.available index)
          pure ()
        else pure ()) (List.range cli.availableGpios.length)

def readChassis : Program interface Cli Unit := do
  let cli ← Program.read
  Program.forEach (fun index => do
    let _ ← readdbusgpio (.chassis index)
    pure ()) (List.range cli.chassisGpios.length)

def readallpins : Program interface Cli Unit := do
  readDirection true
  readDirection false
  readChassis

/-- The signals of the chassis are set and read over the bus. -/
def setv (cli : Cli) (target : Target) (cvalue : Int) : Program interface Cli Int :=
  if (cli.gpio target).any cli.ischassisgpio then setdbusgpio target cvalue
  else setgpio target cvalue

def getv (cli : Cli) (target : Target) : Program interface Cli Int :=
  if (cli.gpio target).any cli.ischassisgpio then readdbusgpio target else readgpio target

/-- The value is converted after the name has been found, and the conversion may throw. -/
def set (cname csetting : List UInt8) : Program interface Cli Int := do
  let cli ← Program.read
  match cli.target cname with
  | none => pure (-1)
  | some target =>
      match Monitor.stoi csetting with
      | none => .throw .stoiError
      | some cvalue => do
          let _ ← cli.setv target cvalue
          pure 0

def get (cname : List UInt8) : Program interface Cli Int := do
  let cli ← Program.read
  match cli.target cname with
  | none => pure (-1)
  | some target => do
      let _ ← cli.getv target
      pure 0

/-- The arguments behind the name of the program select a command. Every other one only prints. -/
def processArgument : List (List UInt8) → Program interface Cli Int
  | [] => pure 0
  | argument :: rest =>
      if argument = ascii "set" ∨ argument = ascii "Set" then
        match rest with
        | [cname, csetting] => set cname csetting
        | _ => pure 0
      else if argument = ascii "get" ∨ argument = ascii "Get" then
        match rest with
        | [cname] => get cname
        | _ => pure 0
      else if argument = ascii "all" ∨ argument = ascii "All" then do
        readallpins
        pure 0
      else pure 0

end Cli

end Chassis.Gpio
