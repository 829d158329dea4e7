import Chassis.Automaton.Run
import Chassis.Construction.Network.Handler

namespace Chassis.Netipmid

/-- Besides packets there are late answers of the host, the timer of the cleaning, and the other
instances of the daemon, which end sessions over the bus. -/
inductive Event where
  | packet (moment : Moment) (elsewhere : Elsewhere) (inPacket : List UInt8)
  | answered (moment : Moment) (session : Session) (inMessage : Message) (header : SessionHeader)
      (outPayload : List UInt8)
  | cleaned (now : Nat)
  | tornDown (sessionID : UInt32)

/-- An exception of a packet is logged. Nothing goes on after undefined behaviour. -/
def survived {Value : Type} : Manager × Result Value → Option Manager
  | (_, .error .undefined) => none
  | (manager, _) => some manager

/-- Only active sessions are ended from outside, and only requests of sessions are handed on. -/
def Daemon.step (daemon : Daemon) (manager : Manager) : Event → Option Manager
  | .packet moment elsewhere inPacket =>
      (Handler.processIncoming daemon moment elsewhere manager inPacket).bind survived
  | .answered moment session inMessage header outPayload =>
      if inMessage.bmcSessionID = sessionZero then none
      else survived (Handler.send daemon moment manager session inMessage header outPayload)
  | .cleaned now => some (manager.cleanStaleEntries now)
  | .tornDown sessionID =>
      match manager.find sessionID with
      | none => some manager
      | some session =>
          if session.state = .active then
            some (manager.update sessionID fun session => { session with state := .tearDownInProgress })
          else some manager

/-- The states of a daemon that has been started for one of the network instances. -/
def Daemon.Reachable (daemon : Daemon) (ipmiNetworkInstance : UInt8) : Manager → Prop :=
  Automaton.Reachable daemon.step (managerInit ipmiNetworkInstance)

end Chassis.Netipmid
