import Chassis.Proof.Network.Change

namespace Chassis.Netipmid
open Automaton Data Effect LittleEndian Manager

/-- The event has no first or third message for the session, and where it opens one, none of the random
numbers gives the number of the session again. -/
structure Event.Quiet (daemon : Daemon) (sessionID : UInt32) (manager : Manager) (event : Event) :
    Prop where
  apart : ∀ message header, event.Carries daemon manager message header →
    message.payloadType = payloadTypeRakp1 ∨ message.payloadType = payloadTypeRakp3 →
    readWord (field message.payload 4 4) ≠ sessionID
  undrawn : ∀ moment elsewhere inPacket message header, event = .packet moment elsewhere inPacket →
    Parser.unflatten daemon.crypto manager inPacket = .ok (message, header) →
    message.payloadType = payloadTypeOpenSessionRequest →
    ∀ random ∈ moment.randoms, manager.sessionIDOf random ≠ sessionID

/-- Anything else may happen to the daemon in the meantime. -/
abbrev Meanwhile (daemon : Daemon) (sessionID : UInt32) : Manager → Manager → Prop :=
  Reach daemon.step (Event.Quiet daemon sessionID)

/-- What was agreed on with a session stays. It may have been ended, and its level may have changed. -/
structure Session.Undisturbed (before after : Session) : Prop where
  same : ∃ lastTime sequenceOut currentPrivilege state, after = { before with
    lastTime := lastTime
    sequenceOut := sequenceOut
    currentPrivilege := currentPrivilege
    state := state }
  state : after.state = before.state ∨ after.state = .tearDownInProgress

namespace Session

theorem Undisturbed.refl (session : Session) : session.Undisturbed session :=
  ⟨⟨_, _, _, _, rfl⟩, Or.inl rfl⟩

theorem Undisturbed.trans {first second third : Session} (left : first.Undisturbed second)
    (right : second.Undisturbed third) : first.Undisturbed third := by
  obtain ⟨_, _, _, _, rfl⟩ := left.same
  obtain ⟨_, _, _, _, rfl⟩ := right.same
  refine ⟨⟨_, _, _, _, rfl⟩, ?_⟩
  rcases right.state with same | ended
  · rcases left.state with still | ended
    · exact Or.inl (same.trans still)
    · exact Or.inr (same.trans ended)
  · exact Or.inr ended

/-- The messages of the setup are the only deeds that disturb a session. -/
theorem perform_undisturbed (daemon : Daemon) (session : Session) {deed : Deed}
    (first : ∀ moment request, deed ≠ .rakp12 moment request)
    (third : ∀ moment inPayload, deed ≠ .rakp34 moment inPayload) :
    session.Undisturbed (session.perform daemon deed) := by
  cases deed with
  | counted => exact ⟨⟨_, _, _, _, rfl⟩, Or.inl rfl⟩
  | rakp12 moment request => exact absurd rfl (first moment request)
  | rakp34 moment inPayload => exact absurd rfl (third moment inPayload)
  | setPrivilegeLevel level =>
      obtain ⟨changed, same⟩ := session.setPrivilegeLevel_eq level
      rw [perform, same]
      exact ⟨⟨_, _, _, _, rfl⟩, Or.inl rfl⟩
  | tornDown => exact ⟨⟨_, _, _, _, rfl⟩, Or.inr rfl⟩

end Session

variable {daemon : Daemon} {manager after : Manager} {ipmiNetworkInstance : UInt8}
  {sessionID : UInt32}

theorem Event.Quiet.deed {event : Event} (quiet : event.Quiet daemon sessionID manager)
    {session : Session} {deed : Session.Deed}
    (permitted : (event.Permits daemon manager).deed sessionID session deed) :
    (∀ moment request, deed ≠ .rakp12 moment request) ∧
      ∀ moment inPayload, deed ≠ .rakp34 moment inPayload := by
  rcases Event.permits_deed permitted with (rfl | ⟨rfl, _⟩) |
    ⟨message, header, _, _, carries, _, allowed⟩
  · simp
  · simp
  · constructor
    · rintro moment request rfl
      obtain ⟨_, type, rfl, named⟩ := allowed
      exact quiet.apart message header carries (Or.inl type) named
    · rintro moment inPayload rfl
      obtain ⟨_, type, rfl, named⟩ := allowed
      exact quiet.apart message header carries (Or.inr type) named

theorem Event.Quiet.opens {event : Event} (quiet : event.Quiet daemon sessionID manager)
    {request : OpenSessionRequest} : ¬ (event.Permits daemon manager).Opens manager sessionID request := by
  rintro ⟨randoms, opened, random, listed, same⟩
  cases event with
  | packet moment elsewhere inPacket =>
      obtain ⟨message, header, accepted, type, _, rfl⟩ := opened
      exact quiet.undrawn moment elsewhere inPacket message header rfl accepted type random listed
        same.symm
  | answered | cleaned | tornDown => exact opened.elim

/-- As long as no first or third message names a session and its number is not drawn again, a session
that still stands is what it was, whatever else the daemon does. -/
theorem meanwhile_undisturbed (small : ipmiNetworkInstance < 4)
    (reached : daemon.Reachable ipmiNetworkInstance manager)
    (meanwhile : Meanwhile daemon sessionID manager after) {session : Session}
    (stands : after.find sessionID = some session) :
    ∃ before, manager.find sessionID = some before ∧ before.Undisturbed session := by
  induction meanwhile generalizing session with
  | start => exact ⟨session, stands, .refl session⟩
  | @next middle after event earlier quiet taken ih =>
      rcases step_deeds small (reached.trans earlier.reachable) taken stands with
        ⟨between, found, deeds⟩ | ⟨_, _, opens, _⟩
      · obtain ⟨before, first, same⟩ := ih found
        refine ⟨before, first, same.trans ?_⟩
        apply deeds.invariant between.Undisturbed (.refl between)
        · intro session now same
          exact same.trans ⟨⟨_, _, _, _, rfl⟩, Or.inl rfl⟩
        · intro session deed permitted same
          obtain ⟨first, third⟩ := quiet.deed permitted
          exact same.trans (session.perform_undisturbed daemon first third)
      · exact absurd opens quiet.opens

theorem levelEvent_quiet : levelEvent.Quiet rootDaemon 1 rootActive := by
  have parsed : Parser.unflatten rootCrypto rootActive levelPacket =
      .ok (levelMessage, .ipmi20) := by decide +kernel
  constructor
  · rintro message header ⟨moment, elsewhere, inPacket, same, accepted⟩ type
    cases same
    cases parsed.symm.trans accepted
    rcases type with first | third
    · exact absurd first (by decide)
    · exact absurd third (by decide)
  · rintro moment elsewhere inPacket message header same accepted type
    cases same
    cases parsed.symm.trans accepted
    exact absurd type (by decide)

end Chassis.Netipmid
