import Chassis.Construction.Lanplus.Setup
import Chassis.Proof.Network.Challenge
import Chassis.Proof.Network.Console
import Chassis.Proof.Network.Quiet

namespace Chassis.Netipmid
open Data Effect LittleEndian Manager Ipmi20Parser

/-- One message of the client to a controller of no special make, and the answer to it that the client
goes on with. -/
def Exchanged (daemon : Daemon) (moment : Moment) (manager : Manager) (client : Lanplus.IpmiSession)
    (payload : Lanplus.Payload) (after : Manager) (waiting : Lanplus.IpmiSession)
    (response : Lanplus.IpmiRs) : Prop :=
  ∃ iv elsewhere packet reply entries previousId stale left,
    Lanplus.ipmiLanplusSendPayload daemon.crypto none iv client payload = .ok (packet, waiting) ∧
    Handler.processIncoming daemon moment elsewhere manager packet = some (after, .ok (.packet reply)) ∧
    Lanplus.ipmiLanPollSingle daemon.crypto waiting entries previousId stale reply =
      .ok (.response response, left)

variable {daemon : Daemon} {moment : Moment} {manager after : Manager}
  {client waiting : Lanplus.IpmiSession}

section Send

theorem sendPayload_sent {crypto : Crypto} {iv : Block} {payload : Lanplus.Payload}
    {packet : List UInt8} (inactive : client.sessionState ≠ .active)
    (fits : payload.wire.length < 2 ^ 16)
    (sent : Lanplus.ipmiLanplusSendPayload crypto none iv client payload = .ok (packet, waiting)) :
    packet = plainPacket payload.payloadType sessionZero 0 payload.wire ∧
      waiting = { client with
        outSeq := Lanplus.nextOutSeq client.outSeq
        sessionState := payload.sentState client.sessionState } := by
  by_cases sendable : payload.sendable client.sessionState = true
  · rw [sendPayload_plain crypto none iv inactive sendable fits] at sent
    cases sent
    exact ⟨rfl, rfl⟩
  · rw [Lanplus.ipmiLanplusSendPayload, if_pos (by simpa using sendable)] at sent
    cases sent

/-- A manager in which only the time of the first session has been noted. -/
structure Noted (daemon : Daemon) (manager noted : Manager) : Prop where
  kept : noted.Kept daemon
  others : ∀ {sessionID}, sessionID ≠ sessionZero → noted.find sessionID = manager.find sessionID
  length : noted.sessionsMap.length = manager.sessionsMap.length
  network : noted.ipmiNetworkInstance = manager.ipmiNetworkInstance

theorem noted_update (kept : manager.Kept daemon) {session : Session}
    (found : manager.find sessionZero = some session) (now : Nat) :
    Noted daemon manager (manager.update sessionZero fun _ => { session with lastTime := now }) := by
  constructor
  · have step : Step daemon (.noting now) manager _ := .touched found (Or.inr rfl)
    exact step.kept kept
  · intro sessionID ordinary
    rw [find_update, if_neg ordinary]
  · simp [Manager.update]
  · rfl

/-- A message of the setup is run outside of sessions, and so is what the client reads. -/
theorem exchanged_setup {payload : Lanplus.Payload} {response : Lanplus.IpmiRs}
    (exchanged : Exchanged daemon moment manager client payload after waiting response)
    (kept : manager.Kept daemon) (inactive : client.sessionState ≠ .active)
    (nonempty : payload.wire ≠ []) (fits : payload.wire.length < 2 ^ 16) {functor : Functor}
    (registered : commandTable.lookup (payload.payloadType.toUInt32 <<< 16) = some ⟨functor, true⟩)
    (apart : payload.payloadType ≠ payloadTypeIpmi ∧ payload.payloadType ≠ payloadTypeSol) :
    waiting = { client with
      outSeq := Lanplus.nextOutSeq client.outSeq
      sessionState := payload.sentState client.sessionState } ∧
    ∃ noted outPayload elsewhere entries left previousId stale, Noted daemon manager noted ∧
      functor.run daemon moment elsewhere noted sessionZero payload.wire =
        some (after, .ok outPayload) ∧
      Lanplus.ipmiLanPollSingle daemon.crypto waiting entries previousId stale
        (plainPacket (responseType payload.payloadType) sessionZero 0 outPayload) =
          .ok (.response response, left) := by
  obtain ⟨iv, elsewhere, packet, reply, entries, previousId, stale, left, sent, heard, polled⟩ :=
    exchanged
  have known := sendPayload_sent inactive fits sent
  obtain ⟨lastTime, zero⟩ := kept.zero
  rw [known.1, processIncoming_setup kept zero registered (payloadType_lt payload) apart nonempty fits,
    Option.map_eq_some_iff] at heard
  obtain ⟨⟨done, answered⟩, ran, same⟩ := heard
  cases answered with
  | error failure => cases same
  | ok outPayload =>
      cases same
      exact ⟨known.2, _, outPayload, elsewhere, entries, left, previousId, stale,
        noted_update kept zero moment.now, ran, polled⟩

end Send

section Forward

/-- What the daemon answers to a message of the setup reaches the client. -/
theorem setup_exchanged (moment : Moment) {payload : Lanplus.Payload} (kept : manager.Kept daemon)
    (inactive : client.sessionState ≠ .active)
    (sendable : payload.sendable client.sessionState = true) (nonempty : payload.wire ≠ [])
    (fits : payload.wire.length < 2 ^ 16) {functor : Functor}
    (registered : commandTable.lookup (payload.payloadType.toUInt32 <<< 16) = some ⟨functor, true⟩)
    (apart : payload.payloadType ≠ payloadTypeIpmi ∧ payload.payloadType ≠ payloadTypeSol) :
    ∃ noted waiting, Noted daemon manager noted ∧
      waiting = { client with
        outSeq := Lanplus.nextOutSeq client.outSeq
        sessionState := payload.sentState client.sessionState } ∧
      ∀ (after : Manager) (outPayload : List UInt8) (response : Lanplus.IpmiRs)
        (left : List Lanplus.RqEntry),
        functor.run daemon moment (fun _ _ _ => .ok []) noted sessionZero payload.wire =
          some (after, .ok outPayload) →
        Lanplus.ipmiLanPollSingle daemon.crypto waiting [] 0 []
          (plainPacket (responseType payload.payloadType) sessionZero 0 outPayload) =
            .ok (.response response, left) →
        Exchanged daemon moment manager client payload after waiting response := by
  obtain ⟨lastTime, zero⟩ := kept.zero
  refine ⟨_, _, noted_update kept zero moment.now, rfl, ?_⟩
  intro after outPayload response left ran polled
  refine ⟨fun _ => 0, fun _ _ _ => .ok [], _, _, [], 0, [], left,
    sendPayload_plain daemon.crypto none _ inactive sendable fits, ?_, polled⟩
  rw [processIncoming_setup kept zero registered (payloadType_lt payload) apart nonempty fits, ran]
  rfl

end Forward

section Polled

variable {crypto : Crypto} {entries left : List Lanplus.RqEntry} {previousId sessId sessSeqNum : UInt32}
  {stale outPayload : List UInt8} (short : outPayload.length < 1008)

include short

theorem openSession_polled (waits : client.sessionState = .openSessionSent)
    {response : Lanplus.OpenSessionResponse}
    (polled : Lanplus.ipmiLanPollSingle crypto client entries previousId stale
      (plainPacket payloadTypeOpenSessionResponse sessId sessSeqNum outPayload) =
        .ok (.response (.openSession response), left)) :
    ∃ tail, response = Lanplus.readOpenSessionResponse
      (plainBuffer payloadTypeOpenSessionResponse sessId sessSeqNum outPayload tail) 16 := by
  obtain ⟨tail, read⟩ :=
    pollSingle_openSession sessId sessSeqNum crypto entries previousId stale short waits
  rw [read] at polled
  cases polled
  exact ⟨tail, rfl⟩

theorem rakp2_polled (waits : client.sessionState = .rakp1Sent) {message : Lanplus.Rakp2Message}
    (polled : Lanplus.ipmiLanPollSingle crypto client entries previousId stale
      (plainPacket payloadTypeRakp2 sessId sessSeqNum outPayload) =
        .ok (.response (.rakp2 message), left)) :
    ∃ tail, Lanplus.readRakp2Message
      (plainBuffer payloadTypeRakp2 sessId sessSeqNum outPayload tail) 16 client.authAlg =
        .ok message := by
  obtain ⟨tail, read⟩ :=
    pollSingle_rakp2 sessId sessSeqNum crypto entries previousId stale short waits
  rw [read] at polled
  obtain ⟨own, same, answered⟩ := bind_eq_ok.mp polled
  cases answered
  exact ⟨tail, same⟩

theorem rakp4_polled (waits : client.sessionState = .rakp3Sent) {message : Lanplus.Rakp4Message}
    (polled : Lanplus.ipmiLanPollSingle crypto client entries previousId stale
      (plainPacket payloadTypeRakp4 sessId sessSeqNum outPayload) =
        .ok (.response (.rakp4 message), left)) :
    ∃ tail, Lanplus.readRakp4Message
      (plainBuffer payloadTypeRakp4 sessId sessSeqNum outPayload tail) 16 client.authAlg =
        .ok message := by
  obtain ⟨tail, read⟩ :=
    pollSingle_rakp4 sessId sessSeqNum crypto entries previousId stale short waits
  rw [read] at polled
  obtain ⟨own, same, answered⟩ := bind_eq_ok.mp polled
  cases answered
  exact ⟨tail, same⟩

end Polled

section Opened

theorem word_shape (value : UInt32) :
    ∃ first second third fourth, word value = [first, second, third, fourth] ∧
      readWord [first, second, third, fourth] = value :=
  ⟨_, _, _, _, rfl, readWord_word value⟩

theorem ofBytes_request (ciphers : Lanplus.Ciphers) (privlvl : UInt8) (console : UInt32) :
    OpenSessionRequest.ofBytes (ciphers.request privlvl console) = {
      messageTag := 0
      maxPrivLevel := privlvl &&& 0xF
      remoteConsoleSessionID := console
      authPayload := 0
      authPayloadLen := 8
      authAlgo := ciphers.authAlg &&& 0x3F
      intPayload := 1
      intPayloadLen := 8
      intAlgo := ciphers.integrityAlg &&& 0x3F
      confPayload := 2
      confPayloadLen := 8
      confAlgo := ciphers.cryptAlg &&& 0x3F } := by
  obtain ⟨first, second, third, fourth, shape, read⟩ := word_shape console
  rw [Lanplus.Ciphers.request, shape]
  simp [OpenSessionRequest.ofBytes, field, read]

theorem length_request (ciphers : Lanplus.Ciphers) (privlvl : UInt8) (console : UInt32) :
    (ciphers.request privlvl console).length = openSessionRequestSize := by
  simp [Lanplus.Ciphers.request, openSessionRequestSize]

theorem length_accept (request : OpenSessionRequest) (level : UInt8) (sessionID : UInt32) :
    (request.accept level sessionID).length = 36 := by
  simp [OpenSessionRequest.accept]

theorem read_accept (request : OpenSessionRequest) (level : UInt8) (sessionID : UInt32) :
    Lanplus.readOpenSessionResponse (request.accept level sessionID) 0 = {
      messageTag := request.messageTag
      rakpReturnCode := rakpNoError
      maxPrivLevel := level &&& 0xF
      consoleId := request.remoteConsoleSessionID
      bmcId := sessionID
      authAlg := request.authAlgo
      integrityAlg := request.intAlgo
      cryptAlg := request.confAlgo } := by
  obtain ⟨first, second, third, fourth, console, readConsole⟩ :=
    word_shape request.remoteConsoleSessionID
  obtain ⟨fifth, sixth, seventh, eighth, own, readOwn⟩ := word_shape sessionID
  rw [OpenSessionRequest.accept, console, own]
  simp [Lanplus.readOpenSessionResponse, readConsole, readOwn, rakpNoError]

/-- The client of a session that has been opened for it. -/
structure Began (client : Lanplus.IpmiSession) : Prop where
  state : client.sessionState = .openSessionReceived
  auth : client.authAlg = Lanplus.ipmiAuthRakpHmacSha256
  integrity : client.integrityAlg = Lanplus.ipmiIntegrityHmacSha256128
  confidentiality : client.cryptAlg = Lanplus.ipmiCryptAesCbc128

variable {params : Lanplus.SessionParams}

theorem openSessionRequest_some {opened : Lanplus.IpmiSession} {payload : Lanplus.Payload}
    (requested : Lanplus.openSessionRequest params client = some (opened, payload)) :
    ∃ ciphers level, Lanplus.lanplusGetRequestedCiphers params.cipherSuiteId = some ciphers ∧
      opened = { client with
        consoleId := 0xA0A2A3A4
        requestedAuthAlg := ciphers.authAlg
        requestedIntegrityAlg := ciphers.integrityAlg
        requestedCryptAlg := ciphers.cryptAlg } ∧
      payload = .openRequest (ciphers.request level 0xA0A2A3A4) := by
  rw [Lanplus.openSessionRequest, Option.map_eq_some_iff] at requested
  obtain ⟨ciphers, suite, same⟩ := requested
  rw [Prod.mk.injEq] at same
  exact ⟨ciphers, _, suite, same.1.symm, same.2.symm⟩

theorem readOpenSessionResponse_code (data : List UInt8) (offset : Nat) :
    (Lanplus.readOpenSessionResponse data offset).rakpReturnCode = data.getD (offset + 1) 0 := by
  unfold Lanplus.readOpenSessionResponse
  dsimp only
  split <;> rfl

theorem opened_exchange {opened next : Lanplus.IpmiSession} {payload : Lanplus.Payload}
    {response : Lanplus.OpenSessionResponse} (kept : manager.Kept daemon)
    (inactive : client.sessionState ≠ .active)
    (requested : Lanplus.openSessionRequest params client = some (opened, payload))
    (exchanged : Exchanged daemon moment manager opened payload after waiting (.openSession response))
    (accepted : Lanplus.acceptOpenSession waiting response = (next, true)) :
    next.bmcId ≠ sessionZero ∧ next.authcode = client.authcode ∧ Began next ∧
      ∃ session, after.find next.bmcId = some session ∧ session.Awaits next.consoleId := by
  obtain ⟨ciphers, level, _, rfl, rfl⟩ := openSessionRequest_some requested
  have length := length_request ciphers level 0xA0A2A3A4
  have nonempty : ciphers.request level 0xA0A2A3A4 ≠ [] := by
    intro none
    rw [none] at length
    cases length
  have fits : (ciphers.request level 0xA0A2A3A4).length < 2 ^ 16 := by
    rw [length, openSessionRequestSize]
    omega
  obtain ⟨rfl, noted, outPayload, elsewhere, entries, left, previousId, stale, note, ran, polled⟩ :=
    exchanged_setup exchanged kept inactive nonempty fits
      (show commandTable.lookup (payloadTypeOpenSessionRequest.toUInt32 <<< 16) =
        some ⟨.openSession, true⟩ by decide)
      (show payloadTypeOpenSessionRequest ≠ payloadTypeIpmi ∧
        payloadTypeOpenSessionRequest ≠ payloadTypeSol by decide)
  have answered : openSession moment noted (ciphers.request level 0xA0A2A3A4) =
      some (after, .ok outPayload) := ran
  rcases openSession_answered note.kept.sound length answered with
    ⟨statusCode, wrong, rfl⟩ | ⟨⟨auth, integrity, crypt⟩, sessionID, session, rfl, ordinary, stands, awaits⟩
  · have size : ((OpenSessionRequest.ofBytes (ciphers.request level 0xA0A2A3A4)).refuse
        statusCode).length = 36 := by
      simp [OpenSessionRequest.refuse]
    obtain ⟨tail, rfl⟩ := openSession_polled (by omega) rfl polled
    have refused : (Lanplus.readOpenSessionResponse (plainBuffer payloadTypeOpenSessionResponse
        sessionZero 0 ((OpenSessionRequest.ofBytes (ciphers.request level 0xA0A2A3A4)).refuse
          statusCode) tail) 16).rakpReturnCode ≠ Lanplus.ipmiRakpStatusNoErrors := by
      rw [readOpenSessionResponse_plain (by omega), readOpenSessionResponse_code]
      exact wrong
    rw [Lanplus.acceptOpenSession, if_pos refused] at accepted
    cases accepted
  · obtain ⟨tail, rfl⟩ := openSession_polled (by rw [length_accept]; omega) rfl polled
    have good : ¬ rakpNoError ≠ Lanplus.ipmiRakpStatusNoErrors := by decide
    rw [readOpenSessionResponse_plain (by rw [length_accept]), read_accept, Lanplus.acceptOpenSession,
      if_neg good, Prod.mk.injEq] at accepted
    obtain ⟨rfl, _⟩ := accepted
    refine ⟨ordinary, rfl, ⟨rfl, auth, integrity, crypt⟩, session, stands, ?_⟩
    rw [ofBytes_request] at awaits
    exact awaits

end Opened

section Challenged

variable {params : Lanplus.SessionParams}

theorem ofBytes_rakp1 (bmcId : UInt32) (random : Block) (role : UInt8) (name : List UInt8) :
    RAKP1request.ofBytes ([0, 0, 0, 0] ++ word bmcId ++ List.ofFn random ++
        [role, 0, 0, UInt8.ofNat name.length] ++ name) = {
      messageTag := 0
      managedSystemSessionID := bmcId
      remoteConsoleRandomNumber := List.ofFn random
      reqMaxPrivilegeLevel := role
      userNameLen := UInt8.ofNat name.length
      userName := name } := by
  obtain ⟨first, second, third, fourth, shape, read⟩ := word_shape bmcId
  have block : (List.ofFn random).length = 16 := List.length_ofFn
  have front : ([0, 0, 0, 0] ++ [first, second, third, fourth] ++ List.ofFn random).length = 24 := by
    simp
  have numbers : field ([0, 0, 0, 0] ++ [first, second, third, fourth] ++ List.ofFn random ++
      [role, 0, 0, UInt8.ofNat name.length] ++ name) 8 16 = List.ofFn random := by
    rw [List.append_assoc, List.append_assoc]
    exact field_append _ rfl block
  have back : ∀ index, ([0, 0, 0, 0] ++ [first, second, third, fourth] ++ List.ofFn random ++
      [role, 0, 0, UInt8.ofNat name.length] ++ name).getD (24 + index) 0 =
        ([role, 0, 0, UInt8.ofNat name.length] ++ name).getD index 0 := by
    intro index
    rw [List.append_assoc, List.getD_append_right _ _ _ _ (by omega), front, Nat.add_sub_cancel_left]
  have rest : ([0, 0, 0, 0] ++ [first, second, third, fourth] ++ List.ofFn random ++
      [role, 0, 0, UInt8.ofNat name.length] ++ name).drop 28 = name := by
    apply List.drop_left'
    rw [List.length_append, front]
    rfl
  rw [shape, RAKP1request.ofBytes, numbers, rest, back 0, back 3]
  simp [field, read]

theorem rakp1Message_some (plain : params.oem = none) {random : Block}
    {asking : Lanplus.IpmiSession} {payload : Lanplus.Payload}
    (asked : Lanplus.rakp1Message params (List.ofFn random) client = some (asking, payload)) :
    params.username.length ≤ 16 ∧
      asking = { client with
        consoleRand := List.ofFn random
        requestedRole := params.privlvl ||| params.lookupbit } ∧
      payload = .rakp1 ([0, 0, 0, 0] ++ word client.bmcId ++ List.ofFn random ++
        [params.privlvl ||| params.lookupbit, 0, 0, UInt8.ofNat params.username.length] ++
          params.username) := by
  unfold Lanplus.rakp1Message at asked
  dsimp only at asked
  split at asked
  · cases asked
  next short =>
    cases asked
    have fits : params.username.length ≤ 16 := Nat.le_of_not_lt short
    have other : ¬ (none : Option Lanplus.Oem) = some .i82571spt := by decide
    refine ⟨fits, rfl, ?_⟩
    rw [plain, if_neg other, List.replicate_zero, List.append_nil]

theorem read_rakp2 (tag : UInt8) (console : UInt32) (random guid : Block) {code : List UInt8}
    (size : code.length = 32) :
    Lanplus.readRakp2Message ([tag, rakpNoError, 0, 0] ++ word console ++ List.ofFn random ++
        List.ofFn guid ++ code) 0 Lanplus.ipmiAuthRakpHmacSha256 = .ok {
      messageTag := tag
      rakpReturnCode := rakpNoError
      consoleId := console
      bmcRand := List.ofFn random
      bmcGuid := List.ofFn guid
      keyExchangeAuthCode := code } := by
  obtain ⟨first, second, third, fourth, shape, read⟩ := word_shape console
  have other : Lanplus.ipmiAuthRakpHmacSha256 ≠ Lanplus.ipmiAuthRakpNone := by decide
  have digest : Lanplus.digestOf Lanplus.ipmiAuthRakpHmacSha256 = .ok .sha256 := by decide
  have block : ∀ block : Block, (List.ofFn block).length = 16 := fun _ => List.length_ofFn
  have numbers : (([tag, rakpNoError, 0, 0] ++ word console ++ List.ofFn random ++
      List.ofFn guid ++ code).drop 8).take 16 = List.ofFn random := by
    rw [List.append_assoc, List.append_assoc]
    exact field_append _ (by simp) (block random)
  have own : (([tag, rakpNoError, 0, 0] ++ word console ++ List.ofFn random ++
      List.ofFn guid ++ code).drop 24).take 16 = List.ofFn guid := by
    rw [List.append_assoc]
    exact field_append _ (by simp) (block guid)
  have mac : (([tag, rakpNoError, 0, 0] ++ word console ++ List.ofFn random ++
      List.ofFn guid ++ code).drop 40).take 32 = code := by
    rw [List.drop_left' (by simp), List.take_of_length_le (by omega)]
  simp only [Lanplus.readRakp2Message, if_neg other, digest, Except.map, Digest.length, ok_bind,
    Nat.zero_add, numbers, own, mac, pure_eq_ok]
  simp [shape, read]

/-- The client of a session whose daemon has proved that it knows the password. -/
structure Proven (daemon : Daemon) (client : Lanplus.IpmiSession) : Prop where
  state : client.sessionState = .rakp2Received
  auth : client.authAlg = Lanplus.ipmiAuthRakpHmacSha256
  integrity : client.integrityAlg = Lanplus.ipmiIntegrityHmacSha256128
  confidentiality : client.cryptAlg = Lanplus.ipmiCryptAesCbc128
  code : client.rakp2ReturnCode = Lanplus.ipmiRakpStatusNoErrors
  guid : client.bmcGuid = List.ofFn daemon.guid

/-- Both ends have both random numbers, the name and the level that was asked for, and one password. -/
def Shared (params : Lanplus.SessionParams) (client : Lanplus.IpmiSession) (session : Session) : Prop :=
  session.Challenged client.consoleId client.requestedRole params.username
    ⟨client.authcode, client.bmcRand, client.consoleRand, []⟩

theorem acceptRakp2_ok {crypto : Crypto} {next : Lanplus.IpmiSession}
    {message : Lanplus.Rakp2Message}
    (accepted : Lanplus.acceptRakp2 crypto params client message = .ok (next, true)) :
    message.rakpReturnCode = Lanplus.ipmiRakpStatusNoErrors ∧
      next = { client with
        sessionState := .rakp2Received
        bmcRand := message.bmcRand
        bmcGuid := message.bmcGuid
        rakp2ReturnCode := Lanplus.ipmiRakpStatusNoErrors } := by
  unfold Lanplus.acceptRakp2 at accepted
  dsimp only at accepted
  split at accepted
  · cases accepted
  next fine =>
    obtain ⟨same, _, answered⟩ := bind_eq_ok.mp accepted
    cases same with
    | true =>
        cases answered
        exact ⟨not_not.mp fine, rfl⟩
    | false => cases answered

theorem readRakp2Message_code {data : List UInt8} {offset : Nat} {authAlg : UInt8}
    {message : Lanplus.Rakp2Message} (read : Lanplus.readRakp2Message data offset authAlg = .ok message) :
    message.rakpReturnCode = data.getD (offset + 1) 0 := by
  unfold Lanplus.readRakp2Message at read
  split at read
  all_goals
    obtain ⟨length, _, same⟩ := bind_eq_ok.mp read
    cases same
    rfl

theorem rakp12_exchange (plain : params.oem = none) {random : Block}
    {asking next : Lanplus.IpmiSession} {payload : Lanplus.Payload} {message : Lanplus.Rakp2Message}
    (kept : manager.Kept daemon) (ordinary : client.bmcId ≠ sessionZero) (began : Began client)
    (awaits : ∀ session, manager.find client.bmcId = some session → session.Awaits client.consoleId)
    (shared : client.authcode = paddedKey (moment.accounts.ipmiUserGetPassword params.username))
    (asked : Lanplus.rakp1Message params (List.ofFn random) client = some (asking, payload))
    (exchanged : Exchanged daemon moment manager asking payload after waiting (.rakp2 message))
    (accepted : Lanplus.acceptRakp2 daemon.crypto params waiting message = .ok (next, true)) :
    next.bmcId = client.bmcId ∧ Proven daemon next ∧
      ∃ challenged, after.find client.bmcId = some challenged ∧ Shared params next challenged := by
  obtain ⟨short, rfl, rfl⟩ := rakp1Message_some plain asked
  have inactive : client.sessionState ≠ .active := by
    rw [began.state]
    decide
  generalize role : params.privlvl ||| params.lookupbit = requestedRole at exchanged accepted
  generalize wire : [0, 0, 0, 0] ++ word client.bmcId ++ List.ofFn random ++
    [requestedRole, 0, 0, UInt8.ofNat params.username.length] ++ params.username = inPayload
    at exchanged
  have size : inPayload.length = 28 + params.username.length := by
    rw [← wire]
    simp
    omega
  have nonempty : inPayload ≠ [] := by
    intro none
    rw [none] at size
    simp at size
    omega
  obtain ⟨rfl, noted, outPayload, elsewhere, entries, left, previousId, stale, note, ran, polled⟩ :=
    exchanged_setup exchanged kept inactive nonempty (by change inPayload.length < 2 ^ 16; omega)
      (show commandTable.lookup (payloadTypeRakp1.toUInt32 <<< 16) = some ⟨.RAKP12, true⟩ by decide)
      (show payloadTypeRakp1 ≠ payloadTypeIpmi ∧ payloadTypeRakp1 ≠ payloadTypeSol by decide)
  have answered : RAKP12 daemon moment noted inPayload = (after, .ok outPayload) :=
    Option.some.inj ran
  have fine := (acceptRakp2_ok accepted).1
  have refused : ∀ statusCode, statusCode ≠ rakpNoError → outPayload ≠ rakp2Refuse statusCode := by
    rintro statusCode wrong rfl
    have long : (rakp2Refuse statusCode).length = 40 := by simp [rakp2Refuse]
    obtain ⟨tail, read⟩ := rakp2_polled (by omega) rfl polled
    rw [readRakp2Message_code read, show (16 + 1 : Nat) = 16 + 1 from rfl,
      plainBuffer_getD _ _ _ _ _ 1 (by omega)] at fine
    exact wrong fine
  have request := ofBytes_rakp1 client.bmcId random requestedRole params.username
  rw [wire] at request
  rcases RAKP12_answered (by rw [size, rakp1MinimumSize]; omega) answered with
    ⟨statusCode, wrong, same⟩ | ⟨own, challenged, stood, challenging, rfl⟩
  · exact absurd same (refused statusCode wrong)
  rw [request] at stood challenging
  dsimp only at stood
  rw [note.others ordinary] at stood
  have own_awaits := awaits own stood
  rcases rakp12_answered challenging with
    ⟨statusCode, wrong, same⟩ | ⟨before, drawn, auth, _, proven, _, shape⟩
  · exact absurd same (refused statusCode wrong)
  have long : outPayload.length = 72 := by
    rw [shape]
    simp [daemon.crypto.hmac_length, Digest.length]
  obtain ⟨tail, read⟩ := rakp2_polled (by omega) rfl polled
  have suite : client.authAlg = Lanplus.ipmiAuthRakpHmacSha256 := began.auth
  dsimp only at read
  rw [suite, readRakp2Message_plain (by omega), shape,
    read_rakp2 _ _ _ _ (daemon.crypto.hmac_length ..)] at read
  cases read
  obtain ⟨_, rfl⟩ := acceptRakp2_ok accepted
  refine ⟨rfl, ⟨rfl, began.auth, began.integrity, began.confidentiality, rfl, rfl⟩, challenged, ?_, ?_⟩
  · rw [request]
    dsimp only
    rw [find_update, if_pos rfl, note.others ordinary, stood]
    rfl
  · have unkeyed := own_awaits.unkeyed
    rw [auth, Option.map_some, Option.some.injEq] at unkeyed
    rw [own_awaits.console, unkeyed, ← shared] at proven
    exact proven

end Challenged

section Activated

variable {params : Lanplus.SessionParams}

/-- What the key of the client is made of. -/
def clientSik (crypto : Crypto) (params : Lanplus.SessionParams) (client : Lanplus.IpmiSession) :
    List UInt8 :=
  crypto.hmac .sha256 client.authcode
    (client.consoleRand ++ client.bmcRand ++ client.requestedRole :: Lanplus.nameInput params)

/-- Without a key of the controller the client makes all keys from the password. -/
theorem rakp3Message_eq (plain : params.oem = none) (unkeyed : params.kg.getD 0 0 = 0)
    (proven : Proven daemon client) :
    Lanplus.rakp3Message daemon.crypto params client = .ok
      ({ client with
          sik := clientSik daemon.crypto params client
          k1 := daemon.crypto.hmac .sha256 (clientSik daemon.crypto params client) const1
          k2 := daemon.crypto.hmac .sha256 (clientSik daemon.crypto params client) const2 },
        .rakp3 ([0, 0, 0, 0] ++ word client.bmcId ++ daemon.crypto.hmac .sha256 client.authcode
          (client.bmcRand ++ word client.consoleId ++
            client.requestedRole :: Lanplus.nameInput params))) := by
  have other : Lanplus.ipmiAuthRakpHmacSha256 ≠ Lanplus.ipmiAuthRakpNone := by decide
  have digest : Lanplus.digestOf Lanplus.ipmiAuthRakpHmacSha256 = .ok .sha256 := by decide
  have make : ¬ (none : Option Lanplus.Oem) = some .i82571spt := by decide
  simp only [Lanplus.rakp3Message, proven.state, proven.code, ne_eq, not_true_eq_false, if_false,
    Lanplus.lanplusGenerateRakp3Authcode, Lanplus.lanplusGenerateSik, Lanplus.lanplusGenerateK1,
    Lanplus.lanplusGenerateK2, Lanplus.lanplusGenerateK, Lanplus.lanplusHMAC, proven.auth, if_neg other,
    digest, ok_bind, pure_eq_ok, unkeyed, Lanplus.rakp3MacInput, Lanplus.hashedRole, plain,
    if_neg make]
  rfl

theorem acceptRakp4_ok {crypto : Crypto} {next : Lanplus.IpmiSession}
    {message : Lanplus.Rakp4Message}
    (accepted : Lanplus.acceptRakp4 crypto params client message = .ok (next, true)) :
    message.rakpReturnCode = Lanplus.ipmiRakpStatusNoErrors ∧
      next = { client with sessionState := .active } := by
  unfold Lanplus.acceptRakp4 at accepted
  split at accepted
  · cases accepted
  next fine =>
    obtain ⟨same, _, answered⟩ := bind_eq_ok.mp accepted
    cases same with
    | true =>
        cases answered
        exact ⟨not_not.mp (not_or.mp fine).2, rfl⟩
    | false => cases answered

theorem readRakp4Message_code {data : List UInt8} {offset : Nat} {authAlg : UInt8}
    {message : Lanplus.Rakp4Message} (read : Lanplus.readRakp4Message data offset authAlg = .ok message) :
    message.rakpReturnCode = data.getD (offset + 1) 0 := by
  unfold Lanplus.readRakp4Message at read
  split at read
  all_goals
    obtain ⟨length, _, same⟩ := bind_eq_ok.mp read
    cases same
    rfl

theorem rakp34_exchange (plain : params.oem = none) (unkeyed : params.kg.getD 0 0 = 0)
    {asking next : Lanplus.IpmiSession} {payload : Lanplus.Payload} {message : Lanplus.Rakp4Message}
    (kept : manager.Kept daemon) (ordinary : client.bmcId ≠ sessionZero)
    (proven : Proven daemon client)
    (shared : ∀ session, manager.find client.bmcId = some session → Shared params client session)
    (asked : Lanplus.rakp3Message daemon.crypto params client = .ok (asking, payload))
    (exchanged : Exchanged daemon moment manager asking payload after waiting (.rakp4 message))
    (accepted : Lanplus.acceptRakp4 daemon.crypto params waiting message = .ok (next, true)) :
    next.bmcId = client.bmcId ∧
      ∃ active, after.find client.bmcId = some active ∧ active.state = .active ∧
        active.userName = params.username ∧ active.remoteConsoleSessionID = next.consoleId ∧
        Agreed next active := by
  rw [rakp3Message_eq plain unkeyed proven] at asked
  cases asked
  have inactive : client.sessionState ≠ .active := by
    rw [proven.state]
    decide
  generalize mac : daemon.crypto.hmac .sha256 client.authcode (client.bmcRand ++
    word client.consoleId ++ client.requestedRole :: Lanplus.nameInput params) = code at exchanged
  have size : ([0, 0, 0, 0] ++ word client.bmcId ++ code).length = 40 := by
    rw [← mac]
    simp [daemon.crypto.hmac_length, Digest.length]
  have number : readWord (field ([0, 0, 0, 0] ++ word client.bmcId ++ code) 4 4) = client.bmcId := by
    rw [List.append_assoc, field_append _ (by simp) (by simp), readWord_word]
  generalize [0, 0, 0, 0] ++ word client.bmcId ++ code = inPayload at exchanged size number
  have nonempty : inPayload ≠ [] := by
    intro none
    rw [none] at size
    cases size
  obtain ⟨rfl, noted, outPayload, elsewhere, entries, left, previousId, stale, note, ran, polled⟩ :=
    exchanged_setup exchanged kept inactive nonempty (by change inPayload.length < 2 ^ 16; omega)
      (show commandTable.lookup (payloadTypeRakp3.toUInt32 <<< 16) = some ⟨.RAKP34, true⟩ by decide)
      (show payloadTypeRakp3 ≠ payloadTypeIpmi ∧ payloadTypeRakp3 ≠ payloadTypeSol by decide)
  have answered : RAKP34 daemon moment noted inPayload = (after, .ok outPayload) :=
    Option.some.inj ran
  have fine := (acceptRakp4_ok accepted).1
  have refused : ¬ (outPayload.length = 8 ∧ outPayload.getD 1 0 ≠ rakpNoError) := by
    rintro ⟨short, wrong⟩
    obtain ⟨tail, read⟩ := rakp4_polled (by omega) rfl polled
    rw [readRakp4Message_code read, plainBuffer_getD _ _ _ _ _ 1 (by omega)] at fine
    exact wrong fine
  rcases RAKP34_answered answered with failed | ⟨own, active, stood, activating, rfl⟩
  · exact absurd failed refused
  rw [number, note.others ordinary] at stood
  have challenged : own.Challenged client.consoleId client.requestedRole params.username _ :=
    shared own stood
  rcases rakp34_answered challenged.algo rfl activating with
    failed | ⟨state, integrity, crypt, user, console, _⟩
  · exact absurd failed refused
  have same : daemon.crypto.hmac .sha256 client.authcode (sikInput own
      ⟨client.authcode, client.bmcRand, client.consoleRand, []⟩) =
        clientSik daemon.crypto params client := by
    rw [sikInput, Session.role, challenged.role, challenged.name]
    rfl
  obtain ⟨_, rfl⟩ := acceptRakp4_ok accepted
  refine ⟨rfl, active, ?_, state, user.userName.trans challenged.name, console.trans challenged.console,
    rfl, proven.integrity, proven.confidentiality, ?_, ?_⟩
  · rw [number, find_update, if_pos rfl, note.others ordinary, stood]
    rfl
  · rw [integrity, same]
  · rw [crypt, same]

end Activated

section SetUp

theorem Exchanged.reached {payload : Lanplus.Payload} {response : Lanplus.IpmiRs}
    {ipmiNetworkInstance : UInt8} (reached : daemon.Reachable ipmiNetworkInstance manager)
    (exchanged : Exchanged daemon moment manager client payload after waiting response) :
    daemon.Reachable ipmiNetworkInstance after := by
  obtain ⟨_, elsewhere, packet, reply, _, _, _, _, _, heard, _⟩ := exchanged
  have taken : daemon.step manager (.packet moment elsewhere packet) = some after := by
    rw [Daemon.step, heard]
    rfl
  exact reached.next trivial taken

namespace Session.Undisturbed

variable {before later : Session} (same : before.Undisturbed later)

include same

theorem awaits {console : UInt32} (holds : before.Awaits console) : later.Awaits console := by
  obtain ⟨_, _, _, _, rfl⟩ := same.same
  exact ⟨holds.console, holds.unkeyed⟩

theorem shared {params : Lanplus.SessionParams} (holds : Shared params client before) :
    Shared params client later := by
  obtain ⟨_, _, _, _, rfl⟩ := same.same
  exact ⟨holds.console, holds.role, holds.name, holds.algo⟩

theorem agreed (holds : Agreed client before) : Agreed client later := by
  obtain ⟨_, _, _, _, rfl⟩ := same.same
  exact ⟨holds.active, holds.integrity, holds.confidentiality, holds.codes, holds.cipher⟩

end Session.Undisturbed

/-- Whatever else the daemon does between the three exchanges and after them, a client that comes out of
the last one as active has the keys of its session, as long as the session stands. The session belongs to
the user whose password both ends have, and answers under the number that the client listens to. -/
theorem setup_agrees {ipmiNetworkInstance : UInt8} (small : ipmiNetworkInstance < 4)
    {manager0 manager1 manager2 manager3 manager4 manager5 manager6 : Manager}
    (reached : daemon.Reachable ipmiNetworkInstance manager0) {params : Lanplus.SessionParams}
    (plain : params.oem = none) (unkeyed : params.kg.getD 0 0 = 0)
    (inactive : client.sessionState ≠ .active) {moment1 moment2 moment3 : Moment}
    {opened waiting1 began asking waiting2 proven sending waiting3 done : Lanplus.IpmiSession}
    {payload1 payload2 payload3 : Lanplus.Payload} {random : Block}
    {response : Lanplus.OpenSessionResponse} {message2 : Lanplus.Rakp2Message}
    {message4 : Lanplus.Rakp4Message}
    (password : client.authcode = paddedKey (moment2.accounts.ipmiUserGetPassword params.username))
    (requested : Lanplus.openSessionRequest params client = some (opened, payload1))
    (first : Exchanged daemon moment1 manager0 opened payload1 manager1 waiting1 (.openSession response))
    (accepted1 : Lanplus.acceptOpenSession waiting1 response = (began, true))
    (meanwhile1 : Meanwhile daemon began.bmcId manager1 manager2)
    (asked : Lanplus.rakp1Message params (List.ofFn random) began = some (asking, payload2))
    (second : Exchanged daemon moment2 manager2 asking payload2 manager3 waiting2 (.rakp2 message2))
    (accepted2 : Lanplus.acceptRakp2 daemon.crypto params waiting2 message2 = .ok (proven, true))
    (meanwhile2 : Meanwhile daemon began.bmcId manager3 manager4)
    (sent : Lanplus.rakp3Message daemon.crypto params proven = .ok (sending, payload3))
    (third : Exchanged daemon moment3 manager4 sending payload3 manager5 waiting3 (.rakp4 message4))
    (accepted3 : Lanplus.acceptRakp4 daemon.crypto params waiting3 message4 = .ok (done, true))
    (meanwhile3 : Meanwhile daemon began.bmcId manager5 manager6) {session : Session}
    (stands : manager6.find done.bmcId = some session) :
    Agreed done session ∧ session.userName = params.username ∧
      session.remoteConsoleSessionID = done.consoleId ∧
      (session.state = .active ∨ session.state = .tearDownInProgress) := by
  have reached1 := first.reached reached
  have reached2 := reached1.trans meanwhile1.reachable
  have reached3 := second.reached reached2
  have reached4 := reached3.trans meanwhile2.reachable
  have reached5 := third.reached reached4
  obtain ⟨ordinary, password1, start, session1, stands1, awaits⟩ :=
    opened_exchange (reachable_kept small reached) inactive requested first accepted1
  have awaits2 : ∀ later, manager2.find began.bmcId = some later → later.Awaits began.consoleId := by
    intro later found
    obtain ⟨before, stood, same⟩ := meanwhile_undisturbed small reached1 meanwhile1 found
    rw [stands1, Option.some.injEq] at stood
    exact same.awaits (stood ▸ awaits)
  obtain ⟨number, middle, session3, stands3, shared⟩ :=
    rakp12_exchange plain (reachable_kept small reached2) ordinary start awaits2
      (password1.trans password) asked second accepted2
  rw [← number] at ordinary meanwhile2 meanwhile3 stands3
  have shared4 : ∀ later, manager4.find proven.bmcId = some later → Shared params proven later := by
    intro later found
    obtain ⟨before, stood, same⟩ := meanwhile_undisturbed small reached3 meanwhile2 found
    rw [stands3, Option.some.injEq] at stood
    exact same.shared (stood ▸ shared)
  obtain ⟨last, session5, stands5, active, name, console, agreed⟩ :=
    rakp34_exchange plain unkeyed (reachable_kept small reached4) ordinary middle shared4 sent third
      accepted3
  rw [last] at stands
  obtain ⟨before, stood, same⟩ := meanwhile_undisturbed small reached5 meanwhile3 stands
  rw [stands5, Option.some.injEq] at stood
  subst stood
  refine ⟨same.agreed agreed, ?_, ?_, active ▸ same.state⟩
  · obtain ⟨_, _, _, _, rfl⟩ := same.same
    exact name
  · obtain ⟨_, _, _, _, rfl⟩ := same.same
    exact console

section Sample

def rootParams : Lanplus.SessionParams where
  username := rootName
  privlvl := 4
  lookupbit := 0x10
  kg := List.replicate 20 0
  cipherSuiteId := 17
  oem := none

/-- The client of the user before the setup. -/
def rootStart : Lanplus.IpmiSession := { authcode := rootKey }

def rootOpened : Lanplus.IpmiSession :=
  { rootStart with
    consoleId := 0xA0A2A3A4
    requestedAuthAlg := 3
    requestedIntegrityAlg := 4
    requestedCryptAlg := 1 }

def rootBegan : Lanplus.IpmiSession :=
  { rootOpened with
    sessionState := .openSessionReceived
    outSeq := 1
    maxPrivLevel := 4
    bmcId := 1
    authAlg := 3
    integrityAlg := 4
    cryptAlg := 1 }

def rootAsking : Lanplus.IpmiSession :=
  { rootBegan with consoleRand := consoleRandom, requestedRole := 0x14 }

def rootProven : Lanplus.IpmiSession :=
  { rootAsking with
    sessionState := .rakp2Received
    outSeq := 2
    bmcRand := List.ofFn bmcRandom }

def rootSending : Lanplus.IpmiSession :=
  { rootProven with sik := rootSik, k1 := rootK1, k2 := rootK2 }

def rootDone : Lanplus.IpmiSession := { rootSending with sessionState := .active, outSeq := 3 }

def rootBeganManager : Manager :=
  (Automaton.run rootDaemon.step (managerInit 0) (rootSetup.take 1)).get (by decide +kernel)

/-- One exchange of that setup, with nothing left in the buffer of the client. -/
def rootExchanged (manager : Manager) (client : Lanplus.IpmiSession) (payload : Lanplus.Payload)
    (after : Manager) (waiting : Lanplus.IpmiSession) (reply : List UInt8)
    (response : Lanplus.IpmiRs) : Bool :=
  let packet := plainPacket payload.payloadType sessionZero 0 payload.wire
  Lanplus.ipmiLanplusSendPayload rootCrypto none consoleIv client payload = .ok (packet, waiting) ∧
    Handler.processIncoming rootDaemon rootMoment (fun _ _ _ => .ok []) manager packet =
      some (after, .ok (.packet reply)) ∧
    Lanplus.ipmiLanPollSingle rootCrypto waiting [] 0 [] reply = .ok (.response response, [])

theorem exchanged_root {manager after : Manager} {client waiting : Lanplus.IpmiSession}
    {payload : Lanplus.Payload} {reply : List UInt8} {response : Lanplus.IpmiRs}
    (checked : rootExchanged manager client payload after waiting reply response = true) :
    Exchanged rootDaemon rootMoment manager client payload after waiting response := by
  obtain ⟨sent, heard, polled⟩ := of_decide_eq_true checked
  exact ⟨consoleIv, _, _, reply, [], 0, [], [], sent, heard, polled⟩

def rootOpenReply : List UInt8 :=
  (OpenSessionRequest.ofBytes rootOpen).accept privilegeAdmin 1

def rootReply2 : List UInt8 :=
  [0, 0, 0, 0] ++ word 0xA0A2A3A4 ++ List.ofFn bmcRandom ++ List.replicate 16 0 ++ rootCode2

def rootReply4 : List UInt8 := [0, 0, 0, 0] ++ word 0xA0A2A3A4 ++ rootIcv.take 16

theorem setup_agrees_root :
    Agreed rootDone (rootAfterSession levelEvent) ∧
      (rootAfterSession levelEvent).userName = rootParams.username ∧
      (rootAfterSession levelEvent).remoteConsoleSessionID = rootDone.consoleId ∧
      ((rootAfterSession levelEvent).state = .active ∨
        (rootAfterSession levelEvent).state = .tearDownInProgress) :=
  setup_agrees (by decide) (show rootDaemon.Reachable 0 (managerInit 0) from .start)
    (show rootParams.oem = none from rfl) (by decide)
    (show rootStart.sessionState ≠ .active by decide)
    (show rootStart.authcode = paddedKey (rootMoment.accounts.ipmiUserGetPassword rootParams.username)
      by decide +kernel)
    (show Lanplus.openSessionRequest rootParams rootStart = some (rootOpened, .openRequest rootOpen)
      by decide +kernel)
    (exchanged_root (show rootExchanged (managerInit 0) rootOpened (.openRequest rootOpen)
      rootBeganManager { rootOpened with sessionState := .openSessionSent, outSeq := 1 }
      (plainPacket payloadTypeOpenSessionResponse sessionZero 0 rootOpenReply)
      (.openSession (Lanplus.readOpenSessionResponse rootOpenReply 0)) = true by decide +kernel))
    (show Lanplus.acceptOpenSession _ _ = (rootBegan, true) by decide +kernel)
    .start
    (show Lanplus.rakp1Message rootParams (List.ofFn (Block.ofBytes consoleRandom)) rootBegan =
      some (rootAsking, .rakp1 rootRakp1) by decide +kernel)
    (exchanged_root (show rootExchanged rootBeganManager rootAsking (.rakp1 rootRakp1) rootChallenged
      { rootAsking with sessionState := .rakp1Sent, outSeq := 2 }
      (plainPacket payloadTypeRakp2 sessionZero 0 rootReply2)
      (.rakp2 ⟨0, 0, 0xA0A2A3A4, List.ofFn bmcRandom, List.replicate 16 0, rootCode2⟩) = true
      by decide +kernel))
    (show Lanplus.acceptRakp2 rootCrypto rootParams _ _ = .ok (rootProven, true) by decide +kernel)
    .start
    (show Lanplus.rakp3Message rootCrypto rootParams rootProven =
      .ok (rootSending, .rakp3 rootRakp3) by decide +kernel)
    (exchanged_root (show rootExchanged rootChallenged rootSending (.rakp3 rootRakp3) rootActive
      { rootSending with sessionState := .rakp3Sent, outSeq := 3 }
      (plainPacket payloadTypeRakp4 sessionZero 0 rootReply4)
      (.rakp4 ⟨0, 0, 0xA0A2A3A4, rootIcv.take 16⟩) = true by decide +kernel))
    (show Lanplus.acceptRakp4 rootCrypto rootParams _ _ = .ok (rootDone, true) by decide +kernel)
    (.next .start levelEvent_quiet
      (show rootDaemon.step rootActive levelEvent = some (rootAfter levelEvent) by decide +kernel))
    (show (rootAfter levelEvent).find 1 = some (rootAfterSession levelEvent) by decide +kernel)

end Sample

end SetUp

end Chassis.Netipmid
