import Chassis.Proof.Network.Handshake
import Chassis.Proof.Network.Security

namespace Chassis.Netipmid
open Data Effect LittleEndian Manager Ipmi20Parser

variable {daemon : Daemon} {moment : Moment} {manager after : Manager}

section Admission

/-- The user has a password that fits into the key and is permitted to use the channel. A message that
does not look up the name alone asks for the level of the user. -/
structure Admitted (daemon : Daemon) (moment : Moment) (role : UInt8) (name passwd : List UInt8)
    (userId : UInt8) (privAccess : PrivAccess) (channelAccess : ChannelAccess) : Prop where
  drawn : moment.bmcRandomNum.isSome
  level : privilegeCallback < role &&& reqMaxPrivMask
  user : findUser moment.accounts name = .ok (userId, passwd)
  access : moment.accounts.ipmiUserGetPrivilegeAccess userId daemon.interfaceIndex = some privAccess
  channel : moment.accounts.getChannelAccessData daemon.interfaceIndex = some channelAccess
  enabled : channelAccess.accessMode ≠ channelAccessModeDisabled
  known : privAccess.privilege ≤ privilegeOem
  asked : role &&& userNameOnlyLookupMask = userNamePrivLookup →
    role &&& reqMaxPrivMask = privAccess.privilege
  short : passwd.length ≤ userKeyMaxLength

variable {session : Session} {request : RAKP1request}

theorem identify_admitted {passwd : List UInt8} {userId : UInt8} {privAccess : PrivAccess}
    {channelAccess : ChannelAccess}
    (admitted : Admitted daemon moment request.reqMaxPrivilegeLevel request.userName passwd userId
      privAccess channelAccess) :
    (session.identify daemon moment request).2 = .ok passwd := by
  have permitted : ¬ (request.reqMaxPrivilegeLevel &&& userNameOnlyLookupMask = userNamePrivLookup ∧
      request.reqMaxPrivilegeLevel &&& reqMaxPrivMask ≠ privAccess.privilege) :=
    fun wrong => wrong.2 (admitted.asked wrong.1)
  simp only [Session.identify, admitted.user, readAccess, admitted.access, admitted.channel,
    admitted.enabled, admitted.known, ne_eq, not_false_eq_true, and_self, decide_true]
  rw [if_neg]
  exact permitted

theorem identify_access {named : Session} {passwd : List UInt8}
    (identified : session.identify daemon moment request = (named, .ok passwd)) :
    ∃ userId privAccess channelAccess,
      findUser moment.accounts request.userName = .ok (userId, passwd) ∧
      moment.accounts.ipmiUserGetPrivilegeAccess userId daemon.interfaceIndex = some privAccess ∧
      moment.accounts.getChannelAccessData daemon.interfaceIndex = some channelAccess ∧
      channelAccess.accessMode ≠ channelAccessModeDisabled ∧ privAccess.privilege ≤ privilegeOem ∧
      (request.reqMaxPrivilegeLevel &&& userNameOnlyLookupMask = userNamePrivLookup →
        request.reqMaxPrivilegeLevel &&& reqMaxPrivMask = privAccess.privilege) := by
  unfold Session.identify readAccess at identified
  cases user : findUser moment.accounts request.userName with
  | error statusCode =>
      rw [user] at identified
      cases identified
  | ok found =>
      rw [user] at identified
      dsimp only at identified
      cases access : moment.accounts.ipmiUserGetPrivilegeAccess found.1 daemon.interfaceIndex with
      | none =>
          rw [access] at identified
          cases identified
      | some privAccess =>
          rw [access] at identified
          dsimp only at identified
          cases channel : moment.accounts.getChannelAccessData daemon.interfaceIndex with
          | none =>
              rw [channel] at identified
              cases identified
          | some channelAccess =>
              rw [channel] at identified
              dsimp only at identified
              by_cases allowed : channelAccess.accessMode ≠ channelAccessModeDisabled ∧
                  privAccess.privilege ≤ privilegeOem
              · rw [decide_eq_true allowed] at identified
                dsimp only at identified
                split at identified
                · cases identified
                next matching =>
                  cases identified
                  refine ⟨found.1, privAccess, channelAccess, rfl, access, rfl, allowed.1,
                    allowed.2, ?_⟩
                  intro byLevel
                  by_contra other
                  exact matching ⟨byLevel, other⟩
              · rw [decide_eq_false allowed] at identified
                cases identified

/-- A first message is taken exactly when it is for a user who is admitted. -/
theorem rakp12_accepted_iff (auth : session.authAlgoInterface.isSome) :
    (∃ challenged outPayload, session.rakp12 daemon moment request = (challenged, .ok outPayload) ∧
      outPayload.getD 1 0 = rakpNoError) ↔
    ∃ passwd userId privAccess channelAccess, Admitted daemon moment request.reqMaxPrivilegeLevel
      request.userName passwd userId privAccess channelAccess := by
  obtain ⟨algo, known⟩ := Option.isSome_iff_exists.mp auth
  constructor
  · rintro ⟨challenged, outPayload, answered, accepted⟩
    have refused : ∀ statusCode, statusCode ≠ rakpNoError → outPayload ≠ rakp2Refuse statusCode := by
      rintro statusCode wrong rfl
      exact wrong accepted
    unfold Session.rakp12 Session.getAuthAlgo at answered
    rw [known] at answered
    dsimp only at answered
    cases drawn : moment.bmcRandomNum with
    | none =>
        rw [drawn] at answered
        cases answered
        exact absurd rfl (refused _ (by decide))
    | some random =>
        rw [drawn] at answered
        dsimp only at answered
        split at answered
        · cases answered
          exact absurd rfl (refused _ (by decide))
        next level =>
          split at answered
          next named statusCode identified =>
            cases answered
            exact absurd rfl (refused _ (identify_error identified))
          next named passwd identified =>
            obtain ⟨userId, privAccess, channelAccess, user, access, channel, enabled, permitted,
              asked⟩ := identify_access identified
            unfold Session.challenge at answered
            split at answered
            · cases answered
            next short =>
              exact ⟨passwd, userId, privAccess, channelAccess, by rw [drawn]; rfl, not_not.mp level,
                user, access, channel, enabled, permitted, asked, Nat.le_of_not_lt short⟩
  · rintro ⟨passwd, userId, privAccess, channelAccess, admitted⟩
    obtain ⟨random, drawn⟩ := Option.isSome_iff_exists.mp admitted.drawn
    let heard : Session := { session with
      userName := request.userName
      lastTime := moment.now
      authAlgoInterface := some { algo with
        rcRandomNum := request.remoteConsoleRandomNumber } }
    have identified : (heard.identify daemon moment request).2 = .ok passwd := identify_admitted admitted
    cases named : heard.identify daemon moment request with
    | mk after answer =>
        rw [named] at identified
        dsimp only at identified
        subst identified
        have fits : ¬ userKeyMaxLength < passwd.length := Nat.not_lt.mpr admitted.short
        have level : ¬ ¬ privilegeCallback < request.reqMaxPrivilegeLevel &&& reqMaxPrivMask :=
          not_not_intro admitted.level
        unfold Session.rakp12 Session.getAuthAlgo
        rw [known, drawn]
        dsimp only
        rw [if_neg level, named]
        dsimp only
        unfold Session.challenge
        rw [if_neg fits]
        exact ⟨_, _, rfl, rfl⟩

end Admission

section Opened

/-- The cleaning only takes sessions out. -/
theorem length_cleanStaleEntries_le (manager : Manager) (now : Nat) :
    (manager.cleanStaleEntries now).sessionsMap.length ≤ manager.sessionsMap.length := by
  have step : ∀ activeGrace setupGrace (entries : List (UInt32 × Session)) (start : Manager),
      (entries.foldl (cleanEntry now activeGrace setupGrace) start).sessionsMap.length ≤
        start.sessionsMap.length := by
    intro activeGrace setupGrace entries
    induction entries with
    | nil =>
        intro start
        exact Nat.le_refl _
    | cons entry rest ih =>
        intro start
        apply Nat.le_trans (ih _)
        unfold cleanEntry
        split
        · exact Nat.le_refl _
        split
        · exact Nat.le_refl _
        · exact List.length_filter_le _ _
  exact step _ _ _ _

/-- A number that is free before the cleaning is free after it. -/
theorem drawSessionID_cleaned (sound : manager.Sound) (now : Nat) {randoms : List UInt32}
    (free : ∃ random ∈ randoms, manager.find (manager.sessionIDOf random) = none) :
    ∃ sessionID, (manager.cleanStaleEntries now).drawSessionID randoms = some sessionID := by
  obtain ⟨random, listed, absent⟩ := free
  have network := sessionIDOf_congr (sound.cleanStaleEntries now).2
  apply Option.isSome_iff_exists.mp
  rw [drawSessionID, List.find?_isSome]
  refine ⟨_, List.mem_map_of_mem listed, ?_⟩
  rw [network, find_cleanStaleEntries sound, absent]
  rfl

theorem acceptOpenSession_same {client : Lanplus.IpmiSession} {response : Lanplus.OpenSessionResponse}
    (fine : response.rakpReturnCode = Lanplus.ipmiRakpStatusNoErrors)
    (auth : response.authAlg = client.requestedAuthAlg)
    (integrity : response.integrityAlg = client.requestedIntegrityAlg)
    (crypt : response.cryptAlg = client.requestedCryptAlg) :
    ∃ began, Lanplus.acceptOpenSession client response = (began, true) := by
  rw [Lanplus.acceptOpenSession, if_neg (not_not_intro fine)]
  exact ⟨_, Prod.ext rfl (decide_eq_true ⟨auth, integrity, crypt⟩)⟩

/-- With room for one more session and a free number the first exchange completes. -/
theorem opened_completes {client : Lanplus.IpmiSession} {params : Lanplus.SessionParams}
    (kept : manager.Kept daemon) (state : client.sessionState = .presession)
    (suite : params.cipherSuiteId = 17) (room : manager.sessionsMap.length < maxSessionHandles)
    (free : ∃ random ∈ moment.randoms, manager.find (manager.sessionIDOf random) = none) :
    ∃ opened payload after waiting response began,
      Lanplus.openSessionRequest params client = some (opened, payload) ∧
      Exchanged daemon moment manager opened payload after waiting (.openSession response) ∧
      Lanplus.acceptOpenSession waiting response = (began, true) := by
  have ciphers : Lanplus.lanplusGetRequestedCiphers params.cipherSuiteId = some ⟨3, 4, 1⟩ := by
    rw [suite]
    decide
  obtain ⟨⟨opened, payload⟩, requested⟩ : ∃ done,
      Lanplus.openSessionRequest params client = some done := by
    rw [Lanplus.openSessionRequest, ciphers]
    exact ⟨_, rfl⟩
  obtain ⟨own, level, known, rfl, rfl⟩ := openSessionRequest_some requested
  rw [ciphers, Option.some.injEq] at known
  subst known
  have size := length_request ⟨3, 4, 1⟩ level 0xA0A2A3A4
  have fields := ofBytes_request ⟨3, 4, 1⟩ level 0xA0A2A3A4
  generalize Lanplus.Ciphers.request ⟨3, 4, 1⟩ level 0xA0A2A3A4 = inPayload at requested size fields
  generalize same : ({ client with
    consoleId := 0xA0A2A3A4
    requestedAuthAlg := 3
    requestedIntegrityAlg := 4
    requestedCryptAlg := 1 } : Lanplus.IpmiSession) = opened at requested
  have presession : opened.sessionState = .presession := by rw [← same, state]
  have algorithms : opened.requestedAuthAlg = 3 ∧ opened.requestedIntegrityAlg = 4 ∧
      opened.requestedCryptAlg = 1 := by
    rw [← same]
    exact ⟨rfl, rfl, rfl⟩
  have nonempty : inPayload ≠ [] := by
    intro none
    rw [none] at size
    cases size
  obtain ⟨noted, waiting, note, wait, forward⟩ := setup_exchanged moment kept
    (show opened.sessionState ≠ .active by rw [presession]; decide)
    (show Lanplus.Payload.sendable (.openRequest inPayload) opened.sessionState = true by
      rw [presession]; rfl)
    nonempty (show inPayload.length < 2 ^ 16 by rw [size]; decide)
    (show commandTable.lookup (payloadTypeOpenSessionRequest.toUInt32 <<< 16) =
      some ⟨.openSession, true⟩ by decide)
    (show payloadTypeOpenSessionRequest ≠ payloadTypeIpmi ∧
      payloadTypeOpenSessionRequest ≠ payloadTypeSol by decide)
  have supported : OpenSessionRequest.Supported inPayload := by
    constructor
    · exact size
    all_goals
      rw [fields]
      rfl
  obtain ⟨sessionID, drawn⟩ : ∃ sessionID,
      (noted.cleanStaleEntries moment.now).drawSessionID moment.randoms = some sessionID := by
    apply drawSessionID_cleaned note.kept.sound
    obtain ⟨random, listed, absent⟩ := free
    refine ⟨random, listed, ?_⟩
    rw [sessionIDOf_congr note.network, note.others, absent]
    intro zero
    have stands := kept.sound.zero
    rw [← zero, absent] at stands
    cases stands
  rcases openSession_cases note.kept.sound supported drawn with
    ⟨_, after, slot, answered, _⟩ | ⟨full, _⟩
  · have short := length_accept (OpenSessionRequest.ofBytes inPayload)
      (OpenSessionRequest.ofBytes inPayload).priv sessionID
    have read := read_accept (OpenSessionRequest.ofBytes inPayload)
      (OpenSessionRequest.ofBytes inPayload).priv sessionID
    generalize (OpenSessionRequest.ofBytes inPayload).accept
      (OpenSessionRequest.ofBytes inPayload).priv sessionID = outPayload at answered short read
    have waits : waiting.sessionState = .openSessionSent := by
      rw [wait]
      rfl
    have kept : waiting.requestedAuthAlg = 3 ∧ waiting.requestedIntegrityAlg = 4 ∧
        waiting.requestedCryptAlg = 1 := by
      rw [wait]
      exact algorithms
    obtain ⟨tail, polled⟩ := pollSingle_openSession sessionZero 0 daemon.crypto [] 0 []
      (show outPayload.length < 1008 by omega) waits
    rw [fields] at read
    rw [readOpenSessionResponse_plain (by omega)] at polled
    generalize Lanplus.readOpenSessionResponse outPayload 0 = response at read polled
    obtain ⟨auth, integrity, crypt⟩ := kept
    obtain ⟨began, accepted⟩ := acceptOpenSession_same (show response.rakpReturnCode = _ by rw [read]; rfl)
      (show response.authAlg = waiting.requestedAuthAlg by rw [read, auth]; rfl)
      (show response.integrityAlg = waiting.requestedIntegrityAlg by rw [read, integrity]; rfl)
      (show response.cryptAlg = waiting.requestedCryptAlg by rw [read, crypt]; rfl)
    exact ⟨opened, .openRequest inPayload, after, waiting, response, began, requested,
      forward after outPayload _ [] answered polled, accepted⟩
  · have shrunk := length_cleanStaleEntries_le noted moment.now
    rw [note.length] at shrunk
    omega

end Opened

section Proved

variable {client : Lanplus.IpmiSession} {params : Lanplus.SessionParams}

theorem RAKP12_run {inPayload : List UInt8} {session : Session}
    (size : inPayload.length = rakp1MinimumSize + (RAKP1request.ofBytes inPayload).userNameLen.toNat)
    (short : (RAKP1request.ofBytes inPayload).userNameLen.toNat ≤ userNameMaxLen)
    (ordinary : (RAKP1request.ofBytes inPayload).managedSystemSessionID ≠ sessionZero)
    (found : manager.find (RAKP1request.ofBytes inPayload).managedSystemSessionID = some session) :
    RAKP12 daemon moment manager inPayload =
      (manager.update (RAKP1request.ofBytes inPayload).managedSystemSessionID fun _ =>
        (session.rakp12 daemon moment (RAKP1request.ofBytes inPayload)).1,
        (session.rakp12 daemon moment (RAKP1request.ofBytes inPayload)).2) := by
  have complete : ¬ inPayload.length < rakp1MinimumSize := by omega
  have named : ¬ (userNameMaxLen < (RAKP1request.ofBytes inPayload).userNameLen.toNat ∨
      inPayload.length ≠ rakp1MinimumSize + (RAKP1request.ofBytes inPayload).userNameLen.toNat) := by
    omega
  simp only [RAKP12, if_neg complete, if_neg ordinary, found, if_neg named]

section Rakp1

variable {bmcId : UInt32} {random : Block} {role : UInt8} {name inPayload : List UInt8}
  (wire : [0, 0, 0, 0] ++ word bmcId ++ List.ofFn random ++
    [role, 0, 0, UInt8.ofNat name.length] ++ name = inPayload)

include wire

theorem rakp1_length : inPayload.length = rakp1MinimumSize + name.length := by
  rw [← wire]
  simp [rakp1MinimumSize]
  omega

theorem rakp1_nonempty : inPayload ≠ [] := by
  rintro rfl
  have size := rakp1_length wire
  rw [List.length_nil, rakp1MinimumSize] at size
  omega

/-- A first message is run for the session that it names. -/
theorem RAKP12_rakp1 (short : name.length ≤ 16) (ordinary : bmcId ≠ sessionZero) {session : Session}
    (found : manager.find bmcId = some session) :
    RAKP12 daemon moment manager inPayload =
      let done := session.rakp12 daemon moment
        ⟨0, bmcId, List.ofFn random, role, UInt8.ofNat name.length, name⟩
      (manager.update bmcId fun _ => done.1, done.2) := by
  have size := rakp1_length wire
  have request := ofBytes_rakp1 bmcId random role name
  rw [wire] at request
  have count : (UInt8.ofNat name.length).toNat = name.length := by
    rw [UInt8.toNat_ofNat']
    omega
  have ran : RAKP12 daemon moment manager inPayload = _ := RAKP12_run
    (by rw [request]; dsimp only; rw [count, size])
    (by rw [request]; dsimp only; rw [count]; exact short)
    (by rw [request]; exact ordinary) (by rw [request]; exact found)
  rw [request] at ran
  exact ran

end Rakp1

/-- The code that the client expects in the second message. -/
theorem acceptRakp2_same {crypto : Crypto} {message : Lanplus.Rakp2Message} (plain : params.oem = none)
    (fine : message.rakpReturnCode = Lanplus.ipmiRakpStatusNoErrors)
    (auth : client.authAlg = Lanplus.ipmiAuthRakpHmacSha256)
    (mac : message.keyExchangeAuthCode = crypto.hmac .sha256 client.authcode
      (word client.consoleId ++ word client.bmcId ++ client.consoleRand ++ message.bmcRand ++
        message.bmcGuid ++ client.requestedRole :: Lanplus.nameInput params)) :
    ∃ proven, Lanplus.acceptRakp2 crypto params client message = .ok (proven, true) := by
  have other : Lanplus.ipmiAuthRakpHmacSha256 ≠ Lanplus.ipmiAuthRakpNone := by decide
  have digest : Lanplus.digestOf Lanplus.ipmiAuthRakpHmacSha256 = .ok .sha256 := by decide
  have make : ¬ (none : Option Lanplus.Oem) = some .i82571spt := by decide
  simp only [Lanplus.acceptRakp2, fine, ne_eq, not_true_eq_false, if_false,
    Lanplus.lanplusRakp2HmacMatches, auth, if_neg other, Lanplus.lanplusHMAC, digest, ok_bind,
    pure_eq_ok, Lanplus.rakp2MacInput, Lanplus.hashedRole, plain, if_neg make, mac, beq_self_eq_true,
    Except.ok.injEq, Prod.mk.injEq, and_true, exists_eq']

theorem rakp1Message_asks (client : Lanplus.IpmiSession) (short : params.username.length ≤ 16)
    (random : Block) : ∃ done, Lanplus.rakp1Message params (List.ofFn random) client = some done := by
  have named : ¬ Lanplus.ipmiMaxUserNameLength < params.username.length := by
    rw [Lanplus.ipmiMaxUserNameLength]
    omega
  rw [Lanplus.rakp1Message]
  dsimp only
  rw [if_neg named]
  exact ⟨_, rfl⟩

/-- The client reads the second message as it has been written. -/
theorem pollSingle_accepted {waiting : Lanplus.IpmiSession}
    (waits : waiting.sessionState = .rakp1Sent)
    (suite : waiting.authAlg = Lanplus.ipmiAuthRakpHmacSha256) (crypto : Crypto) (tag : UInt8)
    (console : UInt32) (random guid : Block) {code : List UInt8} (size : code.length = 32) :
    Lanplus.ipmiLanPollSingle crypto waiting [] 0 []
        (plainPacket payloadTypeRakp2 sessionZero 0 ([tag, rakpNoError, 0, 0] ++ word console ++
          List.ofFn random ++ List.ofFn guid ++ code)) = .ok (.response (.rakp2 {
      messageTag := tag
      rakpReturnCode := rakpNoError
      consoleId := console
      bmcRand := List.ofFn random
      bmcGuid := List.ofFn guid
      keyExchangeAuthCode := code }), []) := by
  have long : ([tag, rakpNoError, 0, 0] ++ word console ++ List.ofFn random ++ List.ofFn guid ++
      code).length = 72 := by
    simp [size]
  obtain ⟨tail, polled⟩ := pollSingle_rakp2 sessionZero 0 crypto [] 0 []
    (show _ < 1008 by rw [long]; omega) waits
  rw [polled, suite, readRakp2Message_plain (by rw [long]), read_rakp2 _ _ _ _ size]
  rfl

/-- The code of the second message is made over what the client has noted of the session. -/
theorem rakp2Input_noted {challenged : Session} {algo before : AuthAlgo} {console : UInt32}
    {random : Block} (guid : Block)
    (proven : challenged.Challenged console (params.privlvl ||| params.lookupbit) params.username before)
    (number : challenged.bmcSessionID = client.bmcId)
    (drawn : algo.rcRandomNum = List.ofFn random) :
    rakp2Input challenged algo guid ⟨0, client.bmcId, List.ofFn random,
        params.privlvl ||| params.lookupbit, UInt8.ofNat params.username.length, params.username⟩ =
      word console ++ word client.bmcId ++ List.ofFn random ++ algo.bmcRandomNum ++ List.ofFn guid ++
        (params.privlvl ||| params.lookupbit) :: Lanplus.nameInput params := by
  rw [rakp2Input, proven.console, number, proven.name, drawn]
  simp [Lanplus.nameInput]

/-- For a user who is admitted with the password of the client the second exchange completes. -/
theorem rakp12_completes (plain : params.oem = none) (kept : manager.Kept daemon)
    (ordinary : client.bmcId ≠ sessionZero) (began : Began client) {session : Session}
    (found : manager.find client.bmcId = some session) (awaits : session.Awaits client.consoleId)
    {passwd : List UInt8} {userId : UInt8} {privAccess : PrivAccess} {channelAccess : ChannelAccess}
    (admitted : Admitted daemon moment (params.privlvl ||| params.lookupbit) params.username passwd
      userId privAccess channelAccess)
    (password : client.authcode = paddedKey passwd) (short : params.username.length ≤ 16)
    (random : Block) :
    ∃ asking payload after waiting message proven,
      Lanplus.rakp1Message params (List.ofFn random) client = some (asking, payload) ∧
      Exchanged daemon moment manager asking payload after waiting (.rakp2 message) ∧
      Lanplus.acceptRakp2 daemon.crypto params waiting message = .ok (proven, true) := by
  obtain ⟨⟨asking, payload⟩, asked⟩ := rakp1Message_asks client short random
  obtain ⟨_, asks, rfl⟩ := rakp1Message_some plain asked
  generalize wire : [0, 0, 0, 0] ++ word client.bmcId ++ List.ofFn random ++
    [params.privlvl ||| params.lookupbit, 0, 0, UInt8.ofNat params.username.length] ++
      params.username = inPayload at asked
  have size := rakp1_length wire
  rw [rakp1MinimumSize] at size
  have state : asking.sessionState = .openSessionReceived := by rw [asks, began.state]
  obtain ⟨noted, waiting, note, wait, forward⟩ := setup_exchanged moment kept
    (show asking.sessionState ≠ .active by rw [state]; decide)
    (show Lanplus.Payload.sendable (.rakp1 inPayload) asking.sessionState = true by rw [state]; rfl)
    (rakp1_nonempty wire) (show inPayload.length < 2 ^ 16 by omega)
    (show commandTable.lookup (payloadTypeRakp1.toUInt32 <<< 16) = some ⟨.RAKP12, true⟩ by decide)
    (show payloadTypeRakp1 ≠ payloadTypeIpmi ∧ payloadTypeRakp1 ≠ payloadTypeSol by decide)
  have stood : noted.find client.bmcId = some session := (note.others ordinary).trans found
  have ran : RAKP12 daemon moment noted inPayload = _ := RAKP12_rakp1 wire short ordinary stood
  let request : RAKP1request := ⟨0, client.bmcId, List.ofFn random,
    params.privlvl ||| params.lookupbit, UInt8.ofNat params.username.length, params.username⟩
  have auth : session.authAlgoInterface.isSome := by
    have unkeyed := congrArg Option.isSome awaits.unkeyed
    rwa [Option.isSome_map] at unkeyed
  obtain ⟨challenged, outPayload, answered, accepted⟩ := (rakp12_accepted_iff auth).mpr
    ⟨passwd, userId, privAccess, channelAccess, show Admitted daemon moment
      request.reqMaxPrivilegeLevel request.userName passwd userId privAccess channelAccess from
        admitted⟩
  dsimp only [request] at answered ran
  rw [answered] at ran
  rcases rakp12_answered answered with
    ⟨statusCode, wrong, rfl⟩ | ⟨before, drawn, _, _, proven, number, shape⟩
  · exact absurd accepted wrong
  dsimp only at proven shape
  have key : paddedKey (moment.accounts.ipmiUserGetPassword params.username) = client.authcode := by
    rw [password, (findUser_ok admitted.user).2]
  rw [key, rakp2Input_noted daemon.guid proven (number.trans (kept.sound.own found)) rfl,
    awaits.console] at shape
  dsimp only at shape
  have waits : waiting.sessionState = .rakp1Sent := by
    rw [wait]
    rfl
  have suite : waiting.authAlg = Lanplus.ipmiAuthRakpHmacSha256 := by
    rw [wait, asks]
    exact began.auth
  generalize coded : daemon.crypto.hmac .sha256 client.authcode _ = code at shape
  have polled := pollSingle_accepted waits suite daemon.crypto 0 client.consoleId drawn daemon.guid
    (show code.length = 32 by rw [← coded]; exact daemon.crypto.hmac_length ..)
  rw [← shape] at polled
  let message : Lanplus.Rakp2Message :=
    ⟨0, rakpNoError, client.consoleId, List.ofFn drawn, List.ofFn daemon.guid, code⟩
  obtain ⟨proved, done⟩ := acceptRakp2_same plain
    (show message.rakpReturnCode = Lanplus.ipmiRakpStatusNoErrors from rfl) suite
    (show message.keyExchangeAuthCode = daemon.crypto.hmac .sha256 waiting.authcode _ by
      rw [wait, asks]
      exact coded.symm)
  exact ⟨asking, .rakp1 inPayload, _, waiting, message, proved, asked,
    forward _ outPayload _ [] (congrArg some ran) polled, done⟩

end Proved

section Activated

variable {client : Lanplus.IpmiSession} {params : Lanplus.SessionParams}

theorem RAKP34_run {inPayload : List UInt8} {session : Session}
    (complete : rakp3MinimumSize ≤ inPayload.length)
    (ordinary : readWord (field inPayload 4 4) ≠ sessionZero)
    (found : manager.find (readWord (field inPayload 4 4)) = some session) :
    RAKP34 daemon moment manager inPayload =
      (manager.update (readWord (field inPayload 4 4)) fun _ =>
        (session.rakp34 daemon moment inPayload).1, (session.rakp34 daemon moment inPayload).2) := by
  have long : ¬ inPayload.length < rakp3MinimumSize := by omega
  simp only [RAKP34, if_neg long, if_neg ordinary, found]

theorem read_rakp4 (tag : UInt8) (console : UInt32) {code : List UInt8} (size : code.length = 16) :
    Lanplus.readRakp4Message ([tag, rakpNoError, 0, 0] ++ word console ++ code) 0
        Lanplus.ipmiAuthRakpHmacSha256 = .ok {
      messageTag := tag
      rakpReturnCode := rakpNoError
      consoleId := console
      integrityCheckValue := code } := by
  obtain ⟨first, second, third, fourth, shape, read⟩ := word_shape console
  have other : Lanplus.ipmiAuthRakpHmacSha256 ≠ Lanplus.ipmiAuthRakpNone := by decide
  have length : Lanplus.rakp4Length Lanplus.ipmiAuthRakpHmacSha256 = .ok 16 := by decide
  have value : (([tag, rakpNoError, 0, 0] ++ word console ++ code).drop 8).take 16 = code := by
    rw [List.drop_left' (by simp), List.take_of_length_le (by omega)]
  simp only [Lanplus.readRakp4Message, if_neg other, length, ok_bind, Nat.zero_add, value, pure_eq_ok]
  simp [shape, read]

/-- The check value that the client expects in the fourth message. -/
theorem acceptRakp4_same {crypto : Crypto} {message : Lanplus.Rakp4Message} (plain : params.oem = none)
    (known : client.rakp2ReturnCode = Lanplus.ipmiRakpStatusNoErrors)
    (fine : message.rakpReturnCode = Lanplus.ipmiRakpStatusNoErrors)
    (auth : client.authAlg = Lanplus.ipmiAuthRakpHmacSha256)
    (mac : message.integrityCheckValue = (crypto.hmac .sha256 client.sik
      (client.consoleRand ++ word client.bmcId ++ client.bmcGuid)).take 16) :
    ∃ done, Lanplus.acceptRakp4 crypto params client message = .ok (done, true) := by
  have other : Lanplus.ipmiAuthRakpHmacSha256 ≠ 0 := by decide
  have digest : Lanplus.digestOf Lanplus.ipmiAuthRakpHmacSha256 = .ok .sha256 := by decide
  have length : Lanplus.rakp4Length Lanplus.ipmiAuthRakpHmacSha256 = .ok 16 := by decide
  have make : ¬ (none : Option Lanplus.Oem) = some .intelplus := by decide
  simp only [Lanplus.acceptRakp4, known, fine, ne_eq, not_true_eq_false, or_self, if_false,
    Lanplus.lanplusRakp4HmacMatches, Lanplus.rakp4Mac, plain, auth, if_neg other, make,
    false_and, Lanplus.lanplusHMAC, digest, length, ok_bind, pure_eq_ok, mac, List.take_take,
    Nat.min_self, beq_self_eq_true, if_true, Except.ok.injEq, Prod.mk.injEq, and_true, exists_eq']

/-- Where both ends have one password the third exchange completes. -/
theorem rakp34_completes (moment : Moment) (plain : params.oem = none)
    (unkeyed : params.kg.getD 0 0 = 0) (kept : manager.Kept daemon)
    (ordinary : client.bmcId ≠ sessionZero) (proven : Proven daemon client) {session : Session}
    (found : manager.find client.bmcId = some session) (shared : Shared params client session) :
    ∃ sending payload after waiting message done,
      Lanplus.rakp3Message daemon.crypto params client = .ok (sending, payload) ∧
      Exchanged daemon moment manager sending payload after waiting (.rakp4 message) ∧
      Lanplus.acceptRakp4 daemon.crypto params waiting message = .ok (done, true) := by
  have sent := rakp3Message_eq plain unkeyed proven
  generalize sends : ({ client with
    sik := clientSik daemon.crypto params client
    k1 := daemon.crypto.hmac .sha256 (clientSik daemon.crypto params client) const1
    k2 := daemon.crypto.hmac .sha256 (clientSik daemon.crypto params client) const2 } :
      Lanplus.IpmiSession) = sending at sent
  have right : ([0, 0, 0, 0] ++ word client.bmcId ++ daemon.crypto.hmac .sha256 client.authcode
      (client.bmcRand ++ word client.consoleId ++
        client.requestedRole :: Lanplus.nameInput params)).drop rakp3MinimumSize =
      (AuthAlgo.mk client.authcode client.bmcRand client.consoleRand []).generateHMAC daemon.crypto
        (rakp3Input session ⟨client.authcode, client.bmcRand, client.consoleRand, []⟩) := by
    rw [List.drop_left' (by simp [rakp3MinimumSize]), rakp3Input, Session.role, shared.role,
      shared.name, shared.console]
    rfl
  have number : readWord (field ([0, 0, 0, 0] ++ word client.bmcId ++ daemon.crypto.hmac .sha256
      client.authcode (client.bmcRand ++ word client.consoleId ++
        client.requestedRole :: Lanplus.nameInput params)) 4 4) = client.bmcId := by
    rw [List.append_assoc, field_append _ (by simp) (by simp), readWord_word]
  have size : ([0, 0, 0, 0] ++ word client.bmcId ++ daemon.crypto.hmac .sha256 client.authcode
      (client.bmcRand ++ word client.consoleId ++
        client.requestedRole :: Lanplus.nameInput params)).length = 40 := by
    simp [daemon.crypto.hmac_length, Digest.length]
  generalize [0, 0, 0, 0] ++ word client.bmcId ++ daemon.crypto.hmac .sha256 client.authcode
    (client.bmcRand ++ word client.consoleId ++ client.requestedRole :: Lanplus.nameInput params) =
      inPayload at sent right number size
  have nonempty : inPayload ≠ [] := by
    intro none
    rw [none] at size
    cases size
  have state : sending.sessionState = .rakp2Received := by rw [← sends, proven.state]
  obtain ⟨noted, waiting, note, wait, forward⟩ := setup_exchanged moment kept
    (show sending.sessionState ≠ .active by rw [state]; decide)
    (show Lanplus.Payload.sendable (.rakp3 inPayload) sending.sessionState = true by rw [state]; rfl)
    nonempty (show inPayload.length < 2 ^ 16 by omega)
    (show commandTable.lookup (payloadTypeRakp3.toUInt32 <<< 16) = some ⟨.RAKP34, true⟩ by decide)
    (show payloadTypeRakp3 ≠ payloadTypeIpmi ∧ payloadTypeRakp3 ≠ payloadTypeSol by decide)
  have stood : noted.find client.bmcId = some session := (note.others ordinary).trans found
  have ran : RAKP34 daemon moment noted inPayload = _ := RAKP34_run
    (by rw [rakp3MinimumSize]; omega) (by rw [number]; exact ordinary) (by rw [number]; exact stood)
  obtain ⟨active, outPayload, answered, accepted⟩ : ∃ active outPayload,
      session.rakp34 daemon moment inPayload = (active, .ok outPayload) ∧
        outPayload.getD 1 0 = rakpNoError := by
    rcases session.rakp34_cases daemon moment inPayload (by rw [shared.algo]; rfl) with
      ⟨wrong, _⟩ | ⟨_, algo, _, activated⟩
    · exact absurd ⟨_, shared.algo, right⟩ wrong
    · obtain ⟨k1, k2, _, _, agreed⟩ := Session.activate_eq daemon
        { session with lastTime := moment.now } (inPayload.getD 0 0) algo
      exact ⟨_, _, activated.trans agreed, rfl⟩
  rw [answered] at ran
  rcases rakp34_answered shared.algo rfl answered with
    ⟨_, wrong⟩ | ⟨_, _, _, _, _, shape⟩
  · exact absurd accepted wrong
  have fields : waiting.sessionState = .rakp3Sent ∧ waiting.authAlg = client.authAlg ∧
      waiting.rakp2ReturnCode = client.rakp2ReturnCode ∧
      waiting.sik = clientSik daemon.crypto params client ∧
      waiting.consoleRand ++ word waiting.bmcId ++ waiting.bmcGuid =
        client.consoleRand ++ word client.bmcId ++ client.bmcGuid := by
    rw [wait, ← sends]
    exact ⟨rfl, rfl, rfl, rfl, rfl⟩
  obtain ⟨waits, suite, known, key, value⟩ := fields
  have icv : daemon.crypto.hmac .sha256 (daemon.crypto.hmac .sha256 client.authcode
      (sikInput session ⟨client.authcode, client.bmcRand, client.consoleRand, []⟩))
        (icvInput session ⟨client.authcode, client.bmcRand, client.consoleRand, []⟩ daemon.guid) =
      daemon.crypto.hmac .sha256 waiting.sik
        (waiting.consoleRand ++ word waiting.bmcId ++ waiting.bmcGuid) := by
    rw [sikInput, Session.role, shared.role, shared.name, icvInput, kept.sound.own found, key, value,
      proven.guid]
    rfl
  dsimp only at shape
  rw [icv, integrityCheckValueLength] at shape
  have digest : (daemon.crypto.hmac .sha256 waiting.sik
      (waiting.consoleRand ++ word waiting.bmcId ++ waiting.bmcGuid)).length = 32 :=
    daemon.crypto.hmac_length ..
  have cut : ((daemon.crypto.hmac .sha256 waiting.sik
      (waiting.consoleRand ++ word waiting.bmcId ++ waiting.bmcGuid)).take 16).length = 16 := by
    rw [List.length_take]
    omega
  have long : outPayload.length = 24 := by
    rw [shape, List.length_append, cut]
    simp
  obtain ⟨tail, polled⟩ := pollSingle_rakp4 sessionZero 0 daemon.crypto [] 0 []
    (show outPayload.length < 1008 by omega) waits
  rw [suite, proven.auth, readRakp4Message_plain (by omega), shape, read_rakp4 _ _ cut, ← shape]
    at polled
  generalize answer : ({
    messageTag := inPayload.getD 0 0
    rakpReturnCode := rakpNoError
    consoleId := session.remoteConsoleSessionID
    integrityCheckValue := (daemon.crypto.hmac .sha256 waiting.sik
      (waiting.consoleRand ++ word waiting.bmcId ++ waiting.bmcGuid)).take 16 } :
        Lanplus.Rakp4Message) = message at polled
  obtain ⟨done, activated⟩ := acceptRakp4_same plain (known.trans proven.code)
    (show message.rakpReturnCode = Lanplus.ipmiRakpStatusNoErrors by rw [← answer]; rfl)
    (suite.trans proven.auth)
    (show message.integrityCheckValue = (daemon.crypto.hmac .sha256 waiting.sik _).take 16 by
      rw [← answer])
  exact ⟨sending, .rakp3 inPayload, _, waiting, message, done, sent,
    forward _ outPayload (.rakp4 message) [] (congrArg some ran) polled, activated⟩

end Activated

section SetUp

/-- The last exchange completes as long as the session stands, whatever else happens before it. -/
def Activates (daemon : Daemon) (params : Lanplus.SessionParams) (manager : Manager)
    (client : Lanplus.IpmiSession) : Prop :=
  ∀ (later : Manager) (moment : Moment), Meanwhile daemon client.bmcId manager later →
    (later.find client.bmcId).isSome → ∃ sending payload after waiting message done,
      Lanplus.rakp3Message daemon.crypto params client = .ok (sending, payload) ∧
      Exchanged daemon moment later sending payload after waiting (.rakp4 message) ∧
      Lanplus.acceptRakp4 daemon.crypto params waiting message = .ok (done, true)

/-- For a user who is admitted with the password of the client, the second exchange completes in the
same way, and so does the last one after it. -/
def Proves (daemon : Daemon) (params : Lanplus.SessionParams) (manager : Manager)
    (client : Lanplus.IpmiSession) : Prop :=
  ∀ (later : Manager) (moment : Moment) (random : Block) (passwd : List UInt8) (userId : UInt8)
    (privAccess : PrivAccess) (channelAccess : ChannelAccess),
    Meanwhile daemon client.bmcId manager later → (later.find client.bmcId).isSome →
    Admitted daemon moment (params.privlvl ||| params.lookupbit) params.username passwd userId
      privAccess channelAccess →
    client.authcode = paddedKey passwd → ∃ asking payload after waiting message proven,
      Lanplus.rakp1Message params (List.ofFn random) client = some (asking, payload) ∧
      Exchanged daemon moment later asking payload after waiting (.rakp2 message) ∧
      Lanplus.acceptRakp2 daemon.crypto params waiting message = .ok (proven, true) ∧
      Activates daemon params after proven

end SetUp

end Chassis.Netipmid
