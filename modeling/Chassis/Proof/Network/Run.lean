import Chassis.Construction.Network.Daemon
import Chassis.Proof.Network.Accept
import Chassis.Proof.Network.Handler
import Chassis.Proof.Network.Request

namespace Chassis.Netipmid
open Automaton Data Effect LittleEndian Manager

/-- The time at which an event is taken. Nothing is timed where a session is ended from outside. -/
def Event.now : Event → Nat
  | .packet moment _ _ | .answered moment _ _ _ _ => moment.now
  | .cleaned now => now
  | .tornDown _ => 0

/-- What an event may do to the sessions. -/
def Event.Permits (daemon : Daemon) (manager : Manager) : Event → Manager.Permits
  | .packet moment _ inPacket => {
      now := moment.now
      deed := fun sessionID session deed => ∃ message header own,
        Parser.unflatten daemon.crypto manager inPacket = .ok (message, header) ∧
        manager.find message.bmcSessionID = some own ∧
        (message.Permits moment own.currentPrivilege).deed sessionID session deed
      cleans := ∃ message header,
        Parser.unflatten daemon.crypto manager inPacket = .ok (message, header) ∧
        message.payloadType = payloadTypeOpenSessionRequest
      opens := fun request randoms => ∃ message header,
        Parser.unflatten daemon.crypto manager inPacket = .ok (message, header) ∧
        message.payloadType = payloadTypeOpenSessionRequest ∧
        request = OpenSessionRequest.ofBytes message.payload ∧ randoms = moment.randoms }
  | .answered moment _ inMessage _ _ =>
      { Manager.Permits.noting moment.now with
        deed := fun sessionID _ deed => deed = .counted ∧ inMessage.bmcSessionID = sessionID }
  | .cleaned now => { Manager.Permits.noting now with cleans := True }
  | .tornDown ended =>
      { Manager.Permits.noting 0 with
        deed := fun sessionID _ deed => deed = .tornDown ∧ sessionID = ended }

variable {daemon : Daemon} {manager after : Manager}

theorem survived_some {Value : Type} {done : Manager × Result Value}
    (going : survived done = some after) : done.1 = after := by
  unfold survived at going
  split at going
  · cases going
  · exact Option.some.inj going

theorem Manager.Steps.mono {weak strong : Manager.Permits}
    (deeds : ∀ {sessionID session deed}, strong.deed sessionID session deed →
      weak.deed sessionID session deed)
    (cleans : strong.cleans → weak.cleans)
    (opens : ∀ {request randoms}, strong.opens request randoms → weak.opens request randoms)
    (timed : strong.now = weak.now) (steps : Steps daemon strong manager after) :
    Steps daemon weak manager after := by
  induction steps with
  | refl => exact .refl
  | tail _ step ih =>
      refine ih.tail ?_
      cases step with
      | cleaned now permitted => exact .cleaned _ (now.trans timed) (cleans permitted)
      | touched found now => exact .touched found (timed ▸ now)
      | deed found ordinary permitted => exact .deed found ordinary (deeds permitted)
      | opened vacant drawn permitted => exact .opened vacant drawn (opens permitted)

/-- Every event acts through the steps that it permits. -/
theorem step_steps (kept : manager.Kept daemon) {event : Event}
    (taken : daemon.step manager event = some after) :
    Steps daemon (event.Permits daemon manager) manager after := by
  cases event with
  | packet moment elsewhere inPacket =>
      obtain ⟨⟨changed, reaction⟩, returned, going⟩ := Option.bind_eq_some_iff.mp taken
      have same := survived_some going
      dsimp only at same
      subst same
      rcases processIncoming_steps kept returned with
        rfl | ⟨message, header, session, accepted, found, steps⟩
      · exact .refl
      · exact steps.mono
          (fun permitted => ⟨message, header, session, accepted, found, permitted⟩)
          (fun permitted => ⟨message, header, accepted, permitted⟩)
          (fun permitted => ⟨message, header, accepted, permitted⟩) rfl
  | answered moment session inMessage header outPayload =>
      simp only [Daemon.step] at taken
      split at taken
      · cases taken
      next ordinary =>
        rw [← survived_some taken]
        exact send_steps (fun zero => absurd zero ordinary) (fun _ => ⟨rfl, rfl⟩)
  | cleaned now =>
      cases taken
      exact .single (.cleaned manager rfl trivial)
  | tornDown ended =>
      simp only [Daemon.step] at taken
      split at taken
      · cases taken
        exact .refl
      next session found =>
        split at taken
        next active =>
          cases taken
          have ordinary : ended ≠ sessionZero := by
            rintro rfl
            obtain ⟨lastTime, zero⟩ := kept.zero
            rw [zero, Option.some.injEq] at found
            rw [← found] at active
            cases active
          rw [kept.sound.update_found found]
          have torn : ((Event.tornDown ended).Permits daemon manager).deed ended session .tornDown :=
            ⟨rfl, rfl⟩
          exact .single (.deed found ordinary torn)
        · cases taken
          exact .refl

/-- The tables, the first session and the keys are right in every state of a run. -/
theorem reachable_kept {ipmiNetworkInstance : UInt8} (small : ipmiNetworkInstance < 4)
    (reached : daemon.Reachable ipmiNetworkInstance manager) : manager.Kept daemon :=
  reached.invariant (Kept daemon) (managerInit_kept daemon small)
    fun _ _ _ kept _ taken => (step_steps kept taken).kept kept

section Sample

def rootAccounts : Accounts where
  ipmiUserGetUserId userName := if userName = rootName then 1 else invalidUserId
  ipmiUserCheckEnabled userId := userId = 1
  ipmiUserGetPassword userName := if userName = rootName then rootKey.take 6 else []
  ipmiUserPamAuthenticate userName passwd := userName = rootName ∧ passwd = rootKey.take 6
  ipmiUserGetPrivilegeAccess userId _ := if userId = 1 then some ⟨privilegeAdmin, true⟩ else none
  getChannelAccessData _ := some ⟨2, privilegeAdmin⟩

def rootDaemon : Daemon := ⟨rootCrypto, fun _ => 0, 1⟩

def rootMoment : Moment where
  now := 0
  accounts := rootAccounts
  randoms := [1]
  memory := (List.replicate 16 0, List.replicate 16 0)
  bmcRandomNum := some bmcRandom
  iv := bmcIv
  closeOtherNetInstanceSession _ _ _ := ccInvalidSessionId

/-- A packet of the setup of a session. -/
def setupPacket (payloadType : UInt8) (payload : List UInt8) : Event :=
  .packet rootMoment (fun _ _ _ => .ok [])
    (Ipmi20Parser.sessionHeader payloadType 0 0 payload.length ++ payload)

def rootOpen : List UInt8 :=
  [0, 0, 0, 0] ++ word 0xA0A2A3A4 ++ [0, 0, 0, 8, 3, 0, 0, 0, 1, 0, 0, 8, 4, 0, 0, 0] ++
    [2, 0, 0, 8, 1, 0, 0, 0]

def rootRakp1 : List UInt8 := [0, 0, 0, 0] ++ word 1 ++ consoleRandom ++ [0x14, 0, 0, 4] ++ rootName

def rootRakp3 : List UInt8 := [0, 0, 0, 0] ++ word 1 ++ rootCode3

/-- The messages that set up the session of the user. -/
def rootSetup : List Event :=
  [ setupPacket payloadTypeOpenSessionRequest rootOpen, setupPacket payloadTypeRakp1 rootRakp1,
    setupPacket payloadTypeRakp3 rootRakp3 ]

def rootChallenged : Manager :=
  (run rootDaemon.step (managerInit 0) (rootSetup.take 2)).get (by decide +kernel)

def rootActive : Manager :=
  (run rootDaemon.step (managerInit 0) rootSetup).get (by decide +kernel)

theorem rootChallenged_reached : rootDaemon.Reachable 0 rootChallenged :=
  reach_of_run (Option.some_get _).symm fun _ _ _ => trivial

theorem rootActive_reached : rootDaemon.Reachable 0 rootActive :=
  reach_of_run (Option.some_get _).symm fun _ _ _ => trivial

theorem rootActive_taken :
    rootDaemon.step rootChallenged (setupPacket payloadTypeRakp3 rootRakp3) = some rootActive := by
  decide +kernel

def rootActiveSession : Session := (rootActive.find 1).get (by decide +kernel)

theorem rootActive_found : rootActive.find 1 = some rootActiveSession := (Option.some_get _).symm

/-- The request of the session for the level of an administrator. -/
def levelEvent : Event := .packet rootMoment (fun _ _ _ => .ok []) levelPacket

/-- What one more event makes of the active session. -/
def rootAfter (event : Event) : Manager := (rootDaemon.step rootActive event).getD rootActive

def rootAfterSession (event : Event) : Session :=
  ((rootAfter event).find 1).getD rootActiveSession

/-- A third message without any code. -/
def codeless : Event := setupPacket payloadTypeRakp3 ([0, 0, 0, 0] ++ word 1)

/-- A first message with another name. -/
def otherName : Event :=
  setupPacket payloadTypeRakp1 ([0, 0, 0, 0] ++ word 1 ++ consoleRandom ++ [0x14, 0, 0, 1, 0x78])

end Sample

end Chassis.Netipmid
