import Chassis.Construction.Boot.Manager

namespace Chassis.Gpio
open Effect

structure GpioInfo where
  input : Bool
  chip : Nat
  line : Nat
  status : Int
  name : String
  deriving DecidableEq, Repr

/-- The chip and the line identify a line of the board. -/
def GpioInfo.place (gpio : GpioInfo) : Nat × Nat := (gpio.chip, gpio.line)

def bpGpioOut : List GpioInfo :=
  [⟨false, 0, 8, 0, "BP_GPIO_OUT0"⟩, ⟨false, 0, 9, 0, "BP_GPIO_OUT1"⟩,
    ⟨false, 0, 10, 0, "BP_GPIO_OUT2"⟩, ⟨false, 0, 11, 0, "BP_GPIO_OUT3"⟩,
    ⟨false, 0, 12, 0, "BP_GPIO_OUT4"⟩, ⟨false, 0, 13, 0, "BP_GPIO_OUT5"⟩,
    ⟨false, 0, 14, 0, "BP_GPIO_OUT6"⟩, ⟨false, 0, 15, 0, "BP_GPIO_OUT7"⟩]

def bpGpioIn : List GpioInfo :=
  [⟨true, 0, 0, 0, "BP_GPIO_IN0"⟩, ⟨true, 0, 1, 0, "BP_GPIO_IN1"⟩,
    ⟨true, 0, 2, 0, "BP_GPIO_IN2"⟩, ⟨true, 0, 3, 0, "BP_GPIO_IN3"⟩,
    ⟨true, 0, 4, 0, "BP_GPIO_IN4"⟩, ⟨true, 0, 5, 0, "BP_GPIO_IN5"⟩,
    ⟨true, 0, 6, 0, "BP_GPIO_IN6"⟩, ⟨true, 0, 7, 0, "BP_GPIO_IN7"⟩]

def sysreset : GpioInfo := ⟨false, 1, 0, 0, "sysreset"⟩
def nvmro : GpioInfo := ⟨true, 2, 4, 0, "nvmro"⟩
def gdiscrete : GpioInfo := ⟨false, 2, 0, 0, "gdiscrete"⟩
def psenable : GpioInfo := ⟨false, 2, 3, 0, "psenable"⟩
def ps1inh : GpioInfo := ⟨false, 2, 2, 0, "ps1inh"⟩
def ps1fail : GpioInfo := ⟨true, 3, 0, 0, "ps1fail"⟩
def ps2inh : GpioInfo := ⟨false, 2, 1, 0, "ps2inh"⟩
def ps2fail : GpioInfo := ⟨true, 3, 1, 0, "ps2fail"⟩

/-- Both programs build the same list. -/
def availableGpios : List GpioInfo := bpGpioOut ++ bpGpioIn ++ [nvmro, ps1fail, ps2fail]

inductive Fault where
  | nullPointer
  deriving DecidableEq, Repr

/-- The two programs call the rest of the system as the manager does. -/
abbrev interface : Interface := ⟨Boot.Op, Boot.Op.Answer, Boot.Exception, Fault⟩

variable {State : Type}

def attempt (op : Boot.Op) (answer : op.Answer → Bool) (exception : Boot.Exception) :
    Program interface State Unit := do
  let result ← Program.ask (I := interface) op
  if answer result then pure () else .throw exception

def fetch {Value : Type} (op : Boot.Op) (answer : op.Answer → Option Value)
    (exception : Boot.Exception) : Program interface State Value := do
  let result ← Program.ask (I := interface) op
  match answer result with
  | some value => pure value
  | none => .throw exception

/-- Both programs request a line as an input, whatever its declaration says. They record its value
before they release it. -/
def readLine (gpio : GpioInfo) (record : Int → State → State) : Program interface State Int := do
  attempt (.openChip gpio.chip) id .gpioError
  attempt (.getLine gpio.chip gpio.line) id .gpioError
  attempt (.requestInput gpio.chip gpio.line) id .gpioError
  let value ← fetch (.getValue gpio.chip gpio.line) id .gpioError
  Program.modify (record value)
  attempt (.release gpio.chip gpio.line) id .gpioError
  pure value

end Chassis.Gpio
