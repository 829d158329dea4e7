import Chassis.Construction.Gpio.Pin

namespace Chassis.Gpio
open Effect

/-- The monitor has its lines and the value of the object exposed under each name. -/
structure GpioMonitor where
  availableGpios : List GpioInfo
  gpioIfaces : String → Option Int

namespace GpioMonitor

def setStatus (monitor : GpioMonitor) (index : Nat) (status : Int) : GpioMonitor :=
  { monitor with
    availableGpios := monitor.availableGpios.modify index fun gpio =>
      { gpio with status := status } }

/-- The result says whether the value has changed. It is false after an exception. -/
def readgpio (index : Nat) : Program interface GpioMonitor Bool := do
  let monitor ← Program.read
  match monitor.availableGpios[index]? with
  | none => pure false
  | some gpio =>
      Program.tryCatch (do
        let value ← readLine gpio fun value monitor => monitor.setStatus index value
        pure (decide (value ≠ gpio.status))) fun _ => pure false

/-- A name without an object has a null pointer in the map. -/
def updateBus (index : Nat) : Program interface GpioMonitor Unit := do
  let monitor ← Program.read
  match monitor.availableGpios[index]? with
  | none => pure ()
  | some gpio =>
      match monitor.gpioIfaces gpio.name with
      | none => .fault .nullPointer
      | some _ => Program.modify fun monitor => { monitor with
          gpioIfaces := Function.update monitor.gpioIfaces gpio.name (some gpio.status) }

def readallpins : Program interface GpioMonitor Unit := do
  let monitor ← Program.read
  Program.forEach (fun index => do
    let gpiostatus ← readgpio index
    if gpiostatus then updateBus index else pure ()) (List.range monitor.availableGpios.length)

def initallpins : Program interface GpioMonitor Unit := do
  let monitor ← Program.read
  Program.forEach (fun index => do
    let _ ← readgpio index
    pure ()) (List.range monitor.availableGpios.length)

def exposeGpio (gpio : GpioInfo) : Program interface GpioMonitor Unit :=
  Program.modify fun monitor => { monitor with
    gpioIfaces := Function.update monitor.gpioIfaces gpio.name (some gpio.status) }

def exposeGpios : Program interface GpioMonitor Unit := do
  let monitor ← Program.read
  Program.forEach exposeGpio monitor.availableGpios
  Program.forEach exposeGpio [sysreset, gdiscrete, psenable, ps1inh, ps2inh]

/-- The constructor runs on a monitor without lines and objects. -/
def construct : Program interface GpioMonitor Unit := do
  Program.modify fun monitor => { monitor with availableGpios := Gpio.availableGpios }
  initallpins
  exposeGpios

end GpioMonitor

end Chassis.Gpio
