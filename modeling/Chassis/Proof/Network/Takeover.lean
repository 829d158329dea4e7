import Chassis.Proof.Network.Answer
import Chassis.Proof.Network.Completion

namespace Chassis.Netipmid
open Automaton Data Effect LittleEndian Manager

variable {daemon : Daemon} {moment : Moment} {elsewhere : Elsewhere} {manager after : Manager}

section Frame

variable {session own : Session} {inMessage outMessage : Message} {outPayload : List UInt8}

/-- An answer changes nothing but the count of the answers in its session. -/
theorem send_found {header : SessionHeader} (found : manager.find inMessage.bmcSessionID = some own) :
    ∃ sequenceOut, (Handler.send daemon moment manager session inMessage header outPayload).1.find
      inMessage.bmcSessionID = some { own with sequenceOut := sequenceOut } := by
  unfold Handler.send
  split
  · exact ⟨_, found⟩
  · exact ⟨_, found⟩
  next outMessage created =>
    have counted : ∃ sequenceOut, (manager.update inMessage.bmcSessionID fun _ =>
        (Parser.flatten daemon.crypto moment.iv outMessage header
          ((manager.find inMessage.bmcSessionID).getD session)).2).find inMessage.bmcSessionID =
            some { own with sequenceOut := sequenceOut } := by
      rw [find_update, if_pos rfl, found, Option.getD_some, Option.map_some]
      rcases flatten_cases daemon.crypto moment.iv outMessage header own with same | ⟨_, next⟩
      · rw [same]
        exact ⟨_, rfl⟩
      · rw [next]
        exact ⟨_, rfl⟩
    dsimp only
    split <;> exact counted

theorem send_others {header : SessionHeader} {other : UInt32} (apart : other ≠ inMessage.bmcSessionID) :
    (Handler.send daemon moment manager session inMessage header outPayload).1.find other =
      manager.find other := by
  unfold Handler.send
  split
  · rfl
  · rfl
  · dsimp only
    split <;> rw [find_update, if_neg apart]

/-- Sealing an answer may throw, but is never undefined. -/
theorem flatten_defined (crypto : Crypto) (iv : Block) (outMessage : Message) (session : Session) :
    (Parser.flatten crypto iv outMessage .ipmi20 session).1 ≠ .error .undefined := by
  have codes : ∀ packet payloadLen own, Ipmi20Parser.addIntegrityData crypto packet payloadLen own ≠
      .error .undefined := by
    intro packet payloadLen own undefined
    cases known : own.integrityAlgoInterface <;>
      simp [Ipmi20Parser.addIntegrityData, Session.getIntegrityAlgo, known, raise] at undefined
  have ciphers : ∀ own, Ipmi20Parser.cipherPayload crypto iv outMessage own ≠ .error .undefined := by
    intro own undefined
    cases encrypted : outMessage.isPacketEncrypted <;> cases known : own.cryptAlgoInterface <;>
      simp [Ipmi20Parser.cipherPayload, Session.getCryptAlgo, encrypted, known, raise] at undefined
  intro undefined
  rw [Parser.flatten, Ipmi20Parser.flatten, bind_eq_error] at undefined
  rcases undefined with failed | ⟨body, _, failed⟩
  · exact ciphers _ failed
  · by_cases authenticated : outMessage.isPacketAuthenticated = true
    · simp only [authenticated, if_true] at failed
      exact codes _ _ _ failed
    · simp only [authenticated] at failed
      cases failed

/-- The daemon goes on after whatever is not undefined. -/
theorem survived_map {Value Mapped : Type} (map : Value → Mapped) {done : Manager × Result Value}
    (defined : done.2 ≠ .error .undefined) : survived (done.1, done.2.map map) = some done.1 := by
  obtain ⟨after, reply⟩ := done
  cases reply with
  | ok reply => rfl
  | error failure =>
      cases failure with
      | undefined => exact absurd rfl defined
      | runtimeError text => rfl

/-- An answer to a message of version 2.0 is never undefined. -/
theorem send_defined (created : inMessage.createResponse outPayload = .ok (some outMessage)) :
    (Handler.send daemon moment manager session inMessage .ipmi20 outPayload).2 ≠ .error .undefined := by
  have defined := flatten_defined daemon.crypto moment.iv outMessage
    ((manager.find inMessage.bmcSessionID).getD session)
  unfold Handler.send
  rw [created]
  dsimp only
  intro undefined
  split at undefined
  · cases undefined
  next failed => exact defined failed
  · cases undefined

end Frame

section Requested

variable {session : Session} {message : Message} {rqSeq : UInt8} {request : Lanplus.IpmiRq}
  {packet : List UInt8}

/-- What the command of a request has done stands once it is answered. -/
theorem step_requests
    (parsed : Parser.unflatten daemon.crypto manager packet = .ok (message, .ipmi20))
    (requests : message.Requests rqSeq request)
    (found : manager.find message.bmcSessionID = some session)
    (enabled : session.sessionUserPrivAccess.ipmiEnabled = true) {done : Manager} {ccode : UInt8}
    {data : List UInt8}
    (ran : Table.executeCommand daemon moment elsewhere
      (manager.update message.bmcSessionID fun _ => { session with lastTime := moment.now })
      message.bmcSessionID (commandOf request) request.data =
        some (done, .ok (.payload (ccode :: data)))) :
    ∃ after, daemon.step manager (.packet moment elsewhere packet) = some after ∧
      (∀ own, done.find message.bmcSessionID = some own → ∃ sequenceOut,
        after.find message.bmcSessionID = some { own with sequenceOut := sequenceOut }) ∧
      ∀ other, other ≠ message.bmcSessionID → after.find other = done.find other := by
  have processed : Handler.processIncoming daemon moment elsewhere manager packet = _ :=
    processIncoming_requests parsed requests found enabled
  rw [ran, Option.map_some, Handler.react] at processed
  generalize same : ({ message with rcSessionID := session.remoteConsoleSessionID } : Message) =
    inMessage at processed
  have number : inMessage.bmcSessionID = message.bmcSessionID := by rw [← same]
  have type : inMessage.payloadType = payloadTypeIpmi := by rw [← same, requests.type]
  have wire : inMessage.payload = Lanplus.getIpmiPayloadWireRep rqSeq request := by
    rw [← same, requests.wire]
  have responded : inMessage.responsePayload (ccode :: data) =
      .ok (responseWire rqSeq request ccode data) := by
    rw [Message.responsePayload, if_pos type, wire, lanResponse_request]
  have created := createResponse_ok (by rw [type]; decide) responded
  generalize heard : ({ session with lastTime := moment.now } : Session) = own at processed
  have survives : (Handler.send daemon moment done own inMessage .ipmi20 (ccode :: data)).2 ≠
      .error .undefined := send_defined created
  exists (Handler.send daemon moment done own inMessage .ipmi20 (ccode :: data)).1
  refine ⟨?_, ?_, ?_⟩
  · rw [Daemon.step, processed, Option.bind_some]
    exact survived_map _ survives
  · intro own found
    rw [← number] at found ⊢
    exact send_found found
  · intro other apart
    rw [← number] at apart
    exact send_others apart

/-- The state of a session in which its commands are run. -/
def Session.Serves (session : Session) : Prop :=
  session.state = .setupInProgress ∨ session.state = .active

/-- A level that the user, the channel and the setup of the session all permit. -/
structure Session.Grants (session : Session) (level : UInt8) : Prop where
  known : privilegeUser ≤ level ∧ level ≤ privilegeOem
  asked : level ≤ session.reqMaxPrivLevel &&& reqMaxPrivMask
  user : level ≤ session.sessionUserPrivAccess.privilege
  channel : level ≤ session.sessionChannelAccess.privLimit

theorem Session.Grants.minPriv {level : UInt8} (grants : session.Grants level) :
    ¬ session.minPriv < level := by
  have user := grants.user
  have channel := grants.channel
  rw [Session.minPriv]
  split <;> rw [UInt8.not_lt] <;> assumption

theorem setPrivilegeLevel_granted {level : UInt8} (grants : session.Grants level) :
    session.setPrivilegeLevel level = ({ session with currentPrivilege := level }, [ccOk, level]) := by
  obtain ⟨least, most⟩ := grants.known
  rw [UInt8.le_iff_toNat_le] at least most
  have known : level ≠ 0 ∧ ¬ (level = privilegeCallback ∨ privilegeOem < level) := by
    constructor
    · rintro rfl
      exact absurd least (by decide)
    · rintro (rfl | above)
      · exact absurd least (by decide)
      · rw [UInt8.lt_iff_toNat_lt] at above
        omega
  have asked : ¬ session.reqMaxPrivLevel &&& reqMaxPrivMask < level := UInt8.not_lt.mpr grants.asked
  rw [Session.setPrivilegeLevel, if_neg known.1, if_neg known.2, if_neg asked, if_neg grants.minPriv]

/-- A command for sessions is run in a session that is set up or active. -/
theorem executeCommand_served {sessionID inCommand : UInt32} {functor : Functor}
    (registered : commandTable.lookup inCommand = some ⟨functor, false⟩)
    (ordinary : sessionID ≠ sessionZero) (found : manager.find sessionID = some session)
    (serves : session.Serves) (commandData : List UInt8) :
    Table.executeCommand daemon moment elsewhere manager sessionID inCommand commandData =
      (functor.run daemon moment elsewhere manager sessionID commandData).map fun done =>
        (done.1, done.2.map Output.payload) := by
  have open_ : ¬ (session.state ≠ .setupInProgress ∧ session.state ≠ .active) := by
    rintro ⟨other, neither⟩
    exact serves.elim other neither
  simp only [Table.executeCommand, registered, Manager.getSession, found, if_neg open_,
    NetIpmidEntry.executeCommand, ordinary, and_false, if_false]

/-- The request for a level. -/
def levelRq (level : UInt8) : Lanplus.IpmiRq := ⟨6, 0, 0x3B, [level]⟩

/-- The request to close a session by its number. -/
def closeRq (sessionID : UInt32) : Lanplus.IpmiRq := ⟨6, 0, 0x3C, word sessionID⟩

theorem executeCommand_level {sessionID : UInt32} (ordinary : sessionID ≠ sessionZero)
    (found : manager.find sessionID = some session) (serves : session.Serves) {level : UInt8}
    (grants : session.Grants level) :
    Table.executeCommand daemon moment elsewhere manager sessionID (commandOf (levelRq level)) [level] =
      some (manager.update sessionID fun _ => { session with currentPrivilege := level },
        .ok (.payload (ccOk :: [level]))) := by
  have small := forall_byte (fun byte => !(byte ≤ privilegeOem) ||
    (byte >>> 4 == 0 && byte &&& 0xF == byte)) (by decide +kernel) level
  have most := grants.known.2
  simp only [most, decide_true, Bool.not_true, Bool.false_or, Bool.and_eq_true, beq_iff_eq] at small
  have registered : commandTable.lookup (commandOf (levelRq level)) =
      some ⟨.setSessionPrivilegeLevel, false⟩ := by
    rw [show commandOf (levelRq level) = netFnApp ||| 0x3B by
      simp only [commandOf, levelRq]; decide]
    decide
  rw [executeCommand_served registered ordinary found serves]
  simp only [Functor.run, setSessionPrivilegeLevel, small.1, ne_eq, not_true_eq_false, if_false,
    Manager.getSession, found, small.2, setPrivilegeLevel_granted grants]
  rfl

/-- A session is closed by one with no lower level. -/
theorem executeCommand_close (sound : manager.Sound) {sessionID other : UInt32}
    (ordinary : sessionID ≠ sessionZero) (found : manager.find sessionID = some session)
    (serves : session.Serves) {victim : Session} (taken : other ≠ sessionZero)
    (stands : manager.find other = some victim)
    (lower : victim.currentPrivilege ≤ session.currentPrivilege) :
    Table.executeCommand daemon moment elsewhere manager sessionID (commandOf (closeRq other))
        (word other) =
      some (manager.update other fun session => { session with state := .tearDownInProgress },
        .ok (.payload (ccOk :: []))) := by
  have network := sound.network taken (by rw [stands]; rfl)
  have number : readWord (field (word other) 0 4) = other := by
    rw [field, List.drop_zero, List.take_of_length_le (by simp), readWord_word]
  have five : ¬ (4 : Nat) = 5 := by decide
  have within : ¬ session.currentPrivilege < victim.currentPrivilege := UInt8.not_lt.mpr lower
  have registered : commandTable.lookup (commandOf (closeRq other)) =
      some ⟨.closeSession, false⟩ := by
    rw [show commandOf (closeRq other) = netFnApp ||| 0x3C by
      simp only [commandOf, closeRq]; decide]
    decide
  have taken' : ¬ other = 0 := taken
  rw [executeCommand_served registered ordinary found serves]
  simp only [Functor.run, closeSession, number, length_word, five, if_false, taken, taken', ne_eq,
    not_true_eq_false, false_and, and_false, Manager.getSession, found, network, true_or, if_true,
    closeMyNetInstanceSession, stands, within, stopSession, Option.map_some]
  rfl

variable (moment elsewhere) in
/-- A session is raised to any level that it grants. -/
theorem step_level (parsed : Parser.unflatten daemon.crypto manager packet = .ok (message, .ipmi20))
    {level : UInt8} (requests : message.Requests rqSeq (levelRq level))
    (ordinary : message.bmcSessionID ≠ sessionZero)
    (found : manager.find message.bmcSessionID = some session) (serves : session.Serves)
    (enabled : session.sessionUserPrivAccess.ipmiEnabled = true) (grants : session.Grants level) :
    ∃ after sequenceOut, daemon.step manager (.packet moment elsewhere packet) = some after ∧
      after.find message.bmcSessionID = some { session with
        lastTime := moment.now
        currentPrivilege := level
        sequenceOut := sequenceOut } ∧
      ∀ other, other ≠ message.bmcSessionID → after.find other = manager.find other := by
  let heard : Session := { session with lastTime := moment.now }
  let noted := manager.update message.bmcSessionID fun _ => heard
  have stands : noted.find message.bmcSessionID = some heard := find_updated found _
  have known : heard.Grants level := ⟨grants.known, grants.asked, grants.user, grants.channel⟩
  have ran : Table.executeCommand daemon moment elsewhere noted message.bmcSessionID
      (commandOf (levelRq level)) [level] = _ := executeCommand_level ordinary stands serves known
  obtain ⟨after, taken, own, others⟩ := step_requests parsed requests found enabled ran
  obtain ⟨sequenceOut, raised⟩ := own _ (find_updated stands _)
  refine ⟨after, sequenceOut, taken, raised, ?_⟩
  intro other apart
  rw [others other apart, find_update, if_neg apart, find_update, if_neg apart]

variable (moment elsewhere) in
/-- A session ends any other one that has no higher level. -/
theorem step_close (sound : manager.Sound)
    (parsed : Parser.unflatten daemon.crypto manager packet = .ok (message, .ipmi20))
    {other : UInt32} (requests : message.Requests rqSeq (closeRq other))
    (ordinary : message.bmcSessionID ≠ sessionZero)
    (found : manager.find message.bmcSessionID = some session) (serves : session.Serves)
    (enabled : session.sessionUserPrivAccess.ipmiEnabled = true) {victim : Session}
    (taken : other ≠ sessionZero) (apart : other ≠ message.bmcSessionID)
    (stands : manager.find other = some victim)
    (lower : victim.currentPrivilege ≤ session.currentPrivilege) :
    ∃ after, daemon.step manager (.packet moment elsewhere packet) = some after ∧
      after.find other = some { victim with state := .tearDownInProgress } := by
  let heard : Session := { session with lastTime := moment.now }
  let noted := manager.update message.bmcSessionID fun _ => heard
  have touching : noted.Sound := by
    apply sound.update
    intro before stood
    rw [found, Option.some.injEq] at stood
    exact ⟨by rw [← stood], by rw [← stood]⟩
  have standing : noted.find other = some victim := by rw [find_update, if_neg apart, stands]
  have ran : Table.executeCommand daemon moment elsewhere noted message.bmcSessionID
      (commandOf (closeRq other)) (word other) = _ :=
    executeCommand_close touching ordinary (find_updated found _) serves taken standing lower
  obtain ⟨after, closed, _, others⟩ := step_requests parsed requests found enabled ran
  refine ⟨after, closed, ?_⟩
  rw [others other apart]
  exact find_updated standing _

end Requested

section Named

variable {session : Session} {role userId : UInt8} {name passwd : List UInt8}
  {privAccess : PrivAccess} {channelAccess : ChannelAccess}

/-- What a first message for an admitted user makes of a session. Nobody asks in which state it is. -/
structure Session.Renamed (before after : Session) (role : UInt8) (name : List UInt8)
    (privAccess : PrivAccess) (channelAccess : ChannelAccess) : Prop where
  keys : before.SameKeys after
  userName : after.userName = name
  reqMaxPrivLevel : after.reqMaxPrivLevel = role
  user : after.sessionUserPrivAccess = privAccess
  channel : after.sessionChannelAccess = channelAccess

theorem rakp12_renamed {request : RAKP1request} (auth : session.authAlgoInterface.isSome)
    (admitted : Admitted daemon moment request.reqMaxPrivilegeLevel request.userName passwd userId
      privAccess channelAccess) :
    session.Renamed (session.rakp12 daemon moment request).1 request.reqMaxPrivilegeLevel
        request.userName privAccess channelAccess ∧
      ∃ outPayload, (session.rakp12 daemon moment request).2 = .ok outPayload := by
  obtain ⟨_, keys, userName, _⟩ := Session.rakp12_frame daemon moment request session
  obtain ⟨algo, known⟩ := Option.isSome_iff_exists.mp auth
  obtain ⟨random, drawn⟩ := Option.isSome_iff_exists.mp admitted.drawn
  have level := not_not_intro admitted.level
  have permitted : ¬ (request.reqMaxPrivilegeLevel &&& userNameOnlyLookupMask = userNamePrivLookup ∧
      request.reqMaxPrivilegeLevel &&& reqMaxPrivMask ≠ privAccess.privilege) :=
    fun wrong => wrong.2 (admitted.asked wrong.1)
  have fits : ¬ userKeyMaxLength < passwd.length := Nat.not_lt.mpr admitted.short
  have shape : ∃ own outPayload, session.rakp12 daemon moment request = (own, .ok outPayload) ∧
      own.reqMaxPrivLevel = request.reqMaxPrivilegeLevel ∧ own.sessionUserPrivAccess = privAccess ∧
      own.sessionChannelAccess = channelAccess := by
    simp only [Session.rakp12, Session.getAuthAlgo, known, drawn, level, if_false, Session.identify,
      admitted.user, readAccess, admitted.access, admitted.channel, admitted.enabled, admitted.known,
      ne_eq, not_false_eq_true, and_self, decide_true]
    rw [if_neg (by exact permitted)]
    simp only [Session.challenge, fits, if_false]
    exact ⟨_, _, rfl, rfl, rfl, rfl⟩
  obtain ⟨own, outPayload, same, asked, user, channel⟩ := shape
  rw [same] at keys userName ⊢
  exact ⟨⟨keys, userName, asked, user, channel⟩, outPayload, rfl⟩

/-- The first message of a setup, for a session of somebody else's choice. -/
def rakp1Packet (sessionID : UInt32) (random : Block) (role : UInt8) (name : List UInt8) :
    List UInt8 :=
  plainPacket payloadTypeRakp1 sessionZero 0 ([0, 0, 0, 0] ++ word sessionID ++ List.ofFn random ++
    [role, 0, 0, UInt8.ofNat name.length] ++ name)

/-- The first message is run for the session that it names. Whoever has sent it is not asked for any
proof. -/
theorem step_renamed (elsewhere : Elsewhere) (kept : manager.Kept daemon) {sessionID : UInt32}
    (ordinary : sessionID ≠ sessionZero) (found : manager.find sessionID = some session)
    (short : name.length ≤ 16) (random : Block)
    (admitted : Admitted daemon moment role name passwd userId privAccess channelAccess) :
    ∃ after own, daemon.step manager (.packet moment elsewhere (rakp1Packet sessionID random role name)) =
        some after ∧
      after.find sessionID = some own ∧ session.Renamed own role name privAccess channelAccess ∧
      ∀ other, other ≠ sessionZero → other ≠ sessionID → after.find other = manager.find other := by
  obtain ⟨lastTime, zero⟩ := kept.zero
  unfold rakp1Packet
  generalize wire : [0, 0, 0, 0] ++ word sessionID ++ List.ofFn random ++
    [role, 0, 0, UInt8.ofNat name.length] ++ name = inPayload
  have size := rakp1_length wire
  rw [rakp1MinimumSize] at size
  let noted := manager.update sessionZero fun _ =>
    { sessionZeroEntry with lastTime := moment.now }
  have others : ∀ other, other ≠ sessionZero → noted.find other = manager.find other := by
    intro other apart
    rw [find_update, if_neg apart]
  have stood : noted.find sessionID = some session := (others sessionID ordinary).trans found
  have ran : RAKP12 daemon moment noted inPayload = _ := RAKP12_rakp1 wire short ordinary stood
  let request : RAKP1request :=
    ⟨0, sessionID, List.ofFn random, role, UInt8.ofNat name.length, name⟩
  obtain ⟨renamed, outPayload, answered⟩ := rakp12_renamed (kept.secured ordinary found).auth
    (show Admitted daemon moment request.reqMaxPrivilegeLevel request.userName passwd userId
      privAccess channelAccess from admitted)
  dsimp only [request] at answered ran renamed
  rw [answered] at ran
  have processed : Handler.processIncoming daemon moment elsewhere manager
      (plainPacket payloadTypeRakp1 sessionZero 0 inPayload) = _ := processIncoming_setup kept zero
    (show commandTable.lookup (payloadTypeRakp1.toUInt32 <<< 16) = some ⟨.RAKP12, true⟩ by decide)
    (show payloadTypeRakp1 < 0x40 by decide)
    (show payloadTypeRakp1 ≠ payloadTypeIpmi ∧ payloadTypeRakp1 ≠ payloadTypeSol by decide)
    (rakp1_nonempty wire) (show inPayload.length < 2 ^ 16 by omega)
  refine ⟨_, _, ?_, find_updated stood fun _ => _, renamed, ?_⟩
  · rw [Daemon.step, processed, Functor.run]
    exact congrArg (fun done => (Option.map _ (some done)).bind survived) ran
  · intro other apart different
    rw [find_update, if_neg different, others other apart]

end Named

section Takeover

variable {ipmiNetworkInstance : UInt8} (small : ipmiNetworkInstance < 4)
  (reached : daemon.Reachable ipmiNetworkInstance manager) {session : Session}
  {role userId level : UInt8} {name passwd : List UInt8} {privAccess : PrivAccess}
  {channelAccess : ChannelAccess}

/-- A level that the channel permits to a user who asks for the role. -/
structure Permitted (role level : UInt8) (privAccess : PrivAccess) (channelAccess : ChannelAccess) :
    Prop where
  enabled : privAccess.ipmiEnabled = true
  known : privilegeUser ≤ level ∧ level ≤ privilegeOem
  asked : level ≤ role &&& reqMaxPrivMask
  user : level ≤ privAccess.privilege
  channel : level ≤ channelAccess.privLimit

theorem Session.Renamed.grants {own : Session}
    (renamed : session.Renamed own role name privAccess channelAccess)
    (permitted : Permitted role level privAccess channelAccess) : own.Grants level where
  known := permitted.known
  asked := by rw [renamed.reqMaxPrivLevel]; exact permitted.asked
  user := by rw [renamed.user]; exact permitted.user
  channel := by rw [renamed.channel]; exact permitted.channel

theorem Session.Renamed.enabled {own : Session}
    (renamed : session.Renamed own role name privAccess channelAccess)
    (permitted : Permitted role level privAccess channelAccess) :
    own.sessionUserPrivAccess.ipmiEnabled = true := by
  rw [renamed.user]
  exact permitted.enabled

theorem root_admitted : Admitted rootDaemon rootMoment 0x14 rootName (rootKey.take 6) 1
    ⟨privilegeAdmin, true⟩ ⟨2, privilegeAdmin⟩ := by
  constructor <;> decide

theorem root_permitted : Permitted 0x14 privilegeAdmin ⟨privilegeAdmin, true⟩ ⟨2, privilegeAdmin⟩ := by
  constructor <;> decide

/-- Another session has been opened beside the active one. -/
def rootJoined : Manager :=
  (run rootDaemon.step (managerInit 0) (rootSetup ++ [.packet { rootMoment with randoms := [2] }
    (fun _ _ _ => .ok []) (plainPacket payloadTypeOpenSessionRequest 0 0 rootOpen)])).get
      (by decide +kernel)

theorem rootJoined_reached : rootDaemon.Reachable 0 rootJoined :=
  reach_of_run (Option.some_get _).symm fun _ _ _ => trivial

include small reached

/-- In every state of a run, the owner of an active session reaches every level of any user whose name he
knows: a first message with the name, which anybody can send, and the command for the level. -/
theorem level_escalated {client : Lanplus.IpmiSession} (agreed : Agreed client session)
    (found : manager.find client.bmcId = some session) (active : session.state = .active)
    (short : name.length ≤ 16) (random : Block)
    (admitted : Admitted daemon moment role name passwd userId privAccess channelAccess)
    (permitted : Permitted role level privAccess channelAccess) {oem : Option Lanplus.Oem}
    (other : oem ≠ some .icts) {iv : Block} {entries waiting : List Lanplus.RqEntry}
    {currSeq rqSeq : UInt8} {isRetry : Bool} {packet : List UInt8} {sending : Lanplus.IpmiSession}
    (built : Lanplus.ipmiLanplusBuildV2xIpmiCmd daemon.crypto oem iv client entries currSeq isRetry
      (levelRq level) = .ok (packet, sending, waiting, rqSeq)) :
    ∃ after raised, run daemon.step manager
        [ .packet moment elsewhere (rakp1Packet client.bmcId random role name),
          .packet moment elsewhere packet ] = some after ∧
      after.find client.bmcId = some raised ∧ raised.state = .active ∧ raised.userName = name ∧
      raised.currentPrivilege = level := by
  have kept := reachable_kept small reached
  have ordinary := active_ordinary small reached found active
  obtain ⟨middle, own, first, stands, renamed, _⟩ :=
    step_renamed elsewhere kept ordinary found short random admitted
  have same : Agreed client own := by
    refine ⟨agreed.active, agreed.integrity, agreed.confidentiality, ?_, ?_⟩
    · rw [renamed.keys.integrity, agreed.codes]
    · rw [renamed.keys.crypt, agreed.cipher]
  obtain ⟨_, _, _, parsed⟩ := buildV2xIpmiCmd_sealed other agreed (by simp [levelRq]) built
  have running : own.state = .active := renamed.keys.state.trans active
  obtain ⟨after, sequenceOut, raising, raised, _⟩ :=
    step_level moment elsewhere (parsed stands same)
      ⟨rfl, rfl⟩ ordinary stands (Or.inr running)
      (renamed.enabled permitted) (renamed.grants permitted)
  refine ⟨after, _, ?_, raised, running, renamed.userName, rfl⟩
  rw [run_cons, first, Option.bind_some, run_cons, raising]
  rfl

omit small reached in
theorem level_escalated_root :
    ∃ after raised, run rootDaemon.step rootActive
        [ .packet rootMoment (fun _ _ _ => .ok []) (rakp1Packet 1 bmcRandom 0x14 rootName),
          .packet rootMoment (fun _ _ _ => .ok []) levelPacket ] = some after ∧
      after.find 1 = some raised ∧ raised.state = .active ∧ raised.userName = rootName ∧
      raised.currentPrivilege = privilegeAdmin :=
  level_escalated (by decide) rootActive_reached
    (show Agreed rootClient rootActiveSession from
      ⟨rfl, rfl, rfl, by decide +kernel, by decide +kernel⟩)
    rootActive_found (by decide +kernel) (by decide) bmcRandom root_admitted root_permitted
    (by decide : (none : Option Lanplus.Oem) ≠ some .icts)
    (show Lanplus.ipmiLanplusBuildV2xIpmiCmd rootCrypto none consoleIv rootClient [] 0 false
      (levelRq privilegeAdmin) = .ok (levelPacket, { rootClient with outSeq := 11 }, [⟨1, 0x3B⟩], 1)
      by decide +kernel)

/-- A request that is neither encrypted nor sealed. -/
def requestPacket (sessionID : UInt32) (request : Lanplus.IpmiRq) : List UInt8 :=
  plainPacket payloadTypeIpmi sessionID 0 (Lanplus.getIpmiPayloadWireRep 0 request)

omit small reached in
/-- A session that has no keys yet hears plain requests. -/
theorem requestPacket_parsed (kept : manager.Kept daemon) {sessionID : UInt32}
    (ordinary : sessionID ≠ sessionZero) (found : manager.find sessionID = some session)
    (setup : session.state = .setupInProgress) {request : Lanplus.IpmiRq}
    (short : request.data.length ≤ 4) :
    Parser.unflatten daemon.crypto manager (requestPacket sessionID request) =
      .ok (plainMessage payloadTypeIpmi sessionID 0 (Lanplus.getIpmiPayloadWireRep 0 request),
        .ipmi20) := by
  apply unflatten_plain daemon.crypto found
  · exact fun _ => (kept.secured ordinary found).unlocked setup
  · decide
  · simp [Lanplus.getIpmiPayloadWireRep]
  · simp [Lanplus.getIpmiPayloadWireRep]
    omega

/-- In every state of a run, three plain messages for a session that has only been opened end every other
session, up to the levels of any user whose name is known. Nobody has to know a password for it. -/
theorem ended_without_password {sessionID : UInt32} (found : manager.find sessionID = some session)
    (setup : session.state = .setupInProgress) (short : name.length ≤ 16) (random : Block)
    (admitted : Admitted daemon moment role name passwd userId privAccess channelAccess)
    (permitted : Permitted role level privAccess channelAccess) {other : UInt32} {victim : Session}
    (stands : manager.find other = some victim) (active : victim.state = .active)
    (lower : victim.currentPrivilege ≤ level) :
    ∃ after, run daemon.step manager
        [ .packet moment elsewhere (rakp1Packet sessionID random role name),
          .packet moment elsewhere (requestPacket sessionID (levelRq level)),
          .packet moment elsewhere (requestPacket sessionID (closeRq other)) ] = some after ∧
      after.find other = some { victim with state := .tearDownInProgress } := by
  have kept := reachable_kept small reached
  have taken := active_ordinary small reached stands active
  have ordinary : sessionID ≠ sessionZero := by
    rintro rfl
    obtain ⟨lastTime, zero⟩ := kept.zero
    rw [zero, Option.some.injEq] at found
    rw [← found] at setup
    cases setup
  have apart : other ≠ sessionID := by
    rintro rfl
    rw [found, Option.some.injEq] at stands
    rw [← stands, setup] at active
    cases active
  obtain ⟨middle, own, first, known, renamed, others⟩ :=
    step_renamed elsewhere kept ordinary found short random admitted
  have still : middle.Kept daemon := reachable_kept small (reached.next trivial first)
  have opened : own.state = .setupInProgress := renamed.keys.state.trans setup
  have heard := requestPacket_parsed still ordinary known opened
    (show (levelRq level).data.length ≤ 4 by simp [levelRq])
  obtain ⟨raised, sequenceOut, second, leveled, rest⟩ := step_level moment elsewhere heard ⟨rfl, rfl⟩
    ordinary known (Or.inl opened) (renamed.enabled permitted) (renamed.grants permitted)
  have yet : raised.Kept daemon :=
    reachable_kept small ((reached.next trivial first).next trivial second)
  have victim_stands : raised.find other = some victim :=
    (rest other apart).trans ((others other taken apart).trans stands)
  have asked := requestPacket_parsed yet ordinary leveled opened
    (show (closeRq other).data.length ≤ 4 by simp [closeRq])
  obtain ⟨after, third, ended⟩ := step_close moment elsewhere yet.sound asked ⟨rfl, rfl⟩ ordinary leveled
    (Or.inl opened) (renamed.enabled permitted) taken apart victim_stands lower
  refine ⟨after, ?_, ended⟩
  rw [run_cons, first, Option.bind_some, run_cons, second, Option.bind_some, run_cons, third]
  rfl

omit small reached in
theorem ended_without_password_root :
    ∃ after, run rootDaemon.step rootJoined
        [ .packet rootMoment (fun _ _ _ => .ok []) (rakp1Packet 2 bmcRandom 0x14 rootName),
          .packet rootMoment (fun _ _ _ => .ok []) (requestPacket 2 (levelRq privilegeAdmin)),
          .packet rootMoment (fun _ _ _ => .ok []) (requestPacket 2 (closeRq 1)) ] = some after ∧
      after.find 1 = some { rootActiveSession with state := .tearDownInProgress } :=
  ended_without_password (by decide) rootJoined_reached
    (show rootJoined.find 2 = some ((rootJoined.find 2).get (by decide +kernel)) from
      (Option.some_get _).symm)
    (by decide +kernel) (by decide) bmcRandom root_admitted root_permitted
    (show rootJoined.find 1 = some rootActiveSession by decide +kernel) (by decide +kernel)
    (by decide +kernel)

end Takeover

end Chassis.Netipmid
