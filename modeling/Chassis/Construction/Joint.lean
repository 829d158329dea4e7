import Chassis.Construction.Bridge.Channel
import Chassis.Construction.Manager.Device
import Chassis.Effect.Thread

namespace Chassis
open Effect Vita4611

variable {count : Nat}

/-- The constructor of a device runs in the chassis manager while the bridge serves everyone. -/
structure Joint (count : Nat) where
  bridge : Ipmb.Bridge count
  thread : Thread interface Vita4611Device Unit
  pending : Option Nat
  asked : List (Nat × Ipmb.SendRequest)

/-- A call to the bridge is answered with the reply, and any other call by default. -/
def replying (reply : DBusReply) : (op : Op) → op.Answer
  | .sendRequest _ => reply
  | op => (default : op.Answer)

/-- Every client but the constructor acts through the events of the bridge. -/
inductive JointEvent (count : Nat) where
  | bridge (event : Ipmb.Event count)
  | ask
  | reply
  | lose (failed : Bool)
  | answer (answers : (op : Op) → op.Answer)

namespace Joint

/-- The constructor of a device at an address starts on a fresh bridge. -/
def initial [Libm] (channels : Fin count → Ipmb.IpmbChannel) (junk : Vita4611Device)
    (ipmiAddress : UInt8) : Joint count where
  bridge := .initial channels
  thread := .start (Vita4611Device.construct 0 ipmiAddress) (Vita4611Device.blank junk)
  pending := none
  asked := []

/-- The next request of the constructor becomes a call of the bridge. -/
def ask (joint : Joint count) : Option (Joint count) :=
  match joint.pending, joint.thread.waiting with
  | none, some (.sendRequest arguments) =>
      (joint.bridge.step (.sendRequest arguments)).map fun bridge =>
        { joint with
          bridge := bridge
          pending := some joint.bridge.nextCall
          asked := joint.asked ++ [(joint.bridge.nextCall, arguments)] }
  | _, _ => none

/-- The constructor gets the answer of the bridge after its call has returned. -/
def reply (joint : Joint count) : Option (Joint count) :=
  match joint.pending with
  | none => none
  | some call =>
      match (joint.bridge.calls call).map Ipmb.Call.status with
      | some (.returned outcome) => some { joint with
          thread := joint.thread.resume (replying (.reply outcome.reply))
          pending := none }
      | _ => none

/-- The bus may fail a pending call with a method error or an exception. -/
def lose (joint : Joint count) (failed : Bool) : Option (Joint count) :=
  match joint.pending with
  | none => none
  | some _ => some { joint with
      thread := joint.thread.resume (replying (if failed then .methodError else .exception))
      pending := none }

/-- A call that is no request is answered by the rest of the system. -/
def answer (joint : Joint count) (answers : (op : Op) → op.Answer) : Option (Joint count) :=
  match joint.pending, joint.thread.waiting with
  | none, some (.sendRequest _) => none
  | none, some _ => some { joint with thread := joint.thread.resume answers }
  | _, _ => none

def step (joint : Joint count) : JointEvent count → Option (Joint count)
  | .bridge event => (joint.bridge.step event).map fun bridge => { joint with bridge := bridge }
  | .ask => joint.ask
  | .reply => joint.reply
  | .lose failed => joint.lose failed
  | .answer answers => joint.answer answers

end Joint

end Chassis
