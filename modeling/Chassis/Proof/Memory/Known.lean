import Chassis.Construction.Manager.Passthrough
import Chassis.Effect.Twin
import Mathlib.Data.List.Forall2

namespace Chassis.Vita4611
open Effect Program

/-- What a device has told during the start: whether its last FRU is enumerated further, whether its
number of records and its dynamic flag are stored, the record that is being read, and the sensors
that a full record describes. -/
structure Told where
  own : Bool
  counted : Bool
  dynamic : Bool
  sdrheader : List UInt8
  sdrvals : List UInt8
  described : List UInt8
  deriving DecidableEq

def Told.nothing : Told := ⟨false, false, false, [], [], []⟩

/-- The parts of a run that meet different uninitialised contents. -/
inductive Phase where
  | starting
  | serving
  | forwarding
  | polling
  deriving DecidableEq

/-- What the devices have told, by their IPMI addresses. -/
structure Known where
  phase : Phase
  told : UInt8 → Told

def Known.fresh : Known := ⟨.starting, fun _ => .nothing⟩

/-- The caller gets a reply. -/
def DBusReply.paid (answer : DBusReply) : Bool := (readReply answer).1.isSome

def DBusReply.data (answer : DBusReply) : List UInt8 :=
  match (readReply answer).1 with
  | some response => response.data
  | none => []

/-- The enumeration of a FRU stops at an answer of another defining body. -/
def DBusReply.own (answer : DBusReply) : Bool :=
  match (readReply answer).1 with
  | some response => response.data.getD 0 0 == vita4611VsoIdentifier
  | none => true

/-- The first section of a record starts behind its header, and the last one is short. -/
def Told.readSdr (told : Told) (request data : List UInt8) : Told :=
  if request.getD 4 0 = 0 then { told with sdrheader := data, sdrvals := [] }
  else
    let sdrvals := told.sdrvals ++ data.drop 2
    { told with
      sdrvals := sdrvals
      described :=
        if request.getD 5 0 ≠ 0x16 ∧ told.sdrheader.getD 5 0 = 1 then
          sdrvals.getD 2 0 :: told.described
        else told.described }

/-- The two numbers of an answer are stored when the FRU is not skipped. -/
def Told.hear (told : Told) (arguments : Ipmb.SendRequest) (answer : DBusReply) : Told :=
  if arguments.netfn = netfnVita4611 ∧ arguments.cmd = vita4611GetMandatorySensorNumbersCmd then
    { told with own := answer.own }
  else if arguments.netfn = netfnSE ∧ arguments.cmd = ipmitoolCmdGetSdrInfo then
    { told with dynamic := told.dynamic || (told.own && answer.paid) }
  else if arguments.netfn = netfnStorage ∧ arguments.cmd = ipmitoolCmdGetSdrInfo then
    { told with counted := told.counted || (told.own && answer.paid) }
  else if arguments.netfn = netfnSE ∧ arguments.cmd = ipmitoolCmdGetSdr then
    told.readSdr arguments.dataReceived answer.data
  else told

def Known.put (known : Known) (addr : UInt8) (told : Told) : Known :=
  { known with told := Function.update known.told addr told }

/-- Only the answers of the start matter for what is stored. -/
def Known.observe (known : Known) : (op : Op) → op.Answer → Known
  | .sendRequest arguments, answer =>
      if known.phase = .starting then
        known.put arguments.addr ((known.told arguments.addr).hear arguments answer)
      else known
  | _, _ => known

/-- Reading the records of a device takes its stored number of records and answers to all requests
for a record. A forwarded command takes a completion code, unless it asks for the capabilities. -/
def Known.SoundReply (known : Known) (arguments : Ipmb.SendRequest) (answer : DBusReply) : Prop :=
  ((known.phase = .starting ∨ known.phase = .polling) → arguments.netfn = netfnSE →
    (arguments.cmd = ipmitoolCmdGetSdr → answer.paid = true) ∧
      (arguments.cmd = ipmitoolCmdReserveSdrRepo → 2 ≤ answer.data.length →
        (known.told arguments.addr).counted = true)) ∧
  (known.phase = .forwarding →
    arguments.netfn = netfnVita4611 ∧ arguments.cmd = vita4611GetVsoCapsCmd ∨
      answer ≠ .methodError)

instance Known.decidableSoundReply (known : Known) (arguments : Ipmb.SendRequest)
    (answer : DBusReply) : Decidable (known.SoundReply arguments answer) :=
  inferInstanceAs (Decidable ((_ → _ → _ ∧ _) ∧ _))

def Known.Sound (known : Known) : (op : Op) → op.Answer → Prop
  | .sendRequest arguments, answer => known.SoundReply arguments answer
  | _, _ => True

instance Known.decidableSound (known : Known) :
    (op : Op) → (answer : op.Answer) → Decidable (known.Sound op answer)
  | .sendRequest arguments, answer => known.decidableSoundReply arguments answer
  | .stopUnit, _ | .startUnit, _ | .setFanPwm _, _ | .getFanPwm, _ | .unitActiveState, _
  | .openBus, _ | .selectAddress _, _ | .probe _, _ | .createSensorObject _, _
  | .indeterminate, _ => isTrue trivial

/-- Two runs may differ only in the contents of uninitialised memory. -/
def memoryWatch : Watch interface Known where
  agree := fun op first second => op ≠ .indeterminate → first = second
  observe := Known.observe
  sound := Known.Sound

instance (known : Known) (op : Op) (answer : op.Answer) :
    Decidable (memoryWatch.sound known op answer) :=
  known.decidableSound op answer

end Chassis.Vita4611
