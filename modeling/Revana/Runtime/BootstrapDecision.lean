import Revana.Runtime.ReceiveGate

/-!
# The first eligible receive decides the bootstrap

Until a four-byte receive on the view port nothing is sent and no latch is
set.  That receive makes the only `Send` of the run, with the configured
packet, and sets exactly one latch; no later receive changes the bootstrap.
-/

namespace Revana.Runtime

open Foundation
open Login

/-- A response that is ready was sent for, completely, and seen by a peek. -/
structure ReadyResponse (call : SocketReceiveCall) (socket : GuestSocket)
    (packet : List UInt8) (bootstrap : DirectViewBootstrap) : Prop where
  sent : socket.send packet = viewLoginSize
  cleared : bootstrap.packet = Bytes.zero viewLoginSize
  peeked : ∃ attempt < responseWaitAttempts, ∃ bytes response,
    (socket.keyResponsePeek attempt).head keyResponseSize = some bytes ∧
    bytes.length = keyResponseSize ∧
    parseKeyResponse (call.keyResponseMd5 attempt) bytes = .ok response

/-- What the deciding receive leaves: one `Send` of the packet, and one of the
two latches. -/
structure DecidingReceive (handleBase : UInt32) (call : SocketReceiveCall)
    (packet : List UInt8) (bootstrap : DirectViewBootstrap)
    (sends : List SocketSend) : Prop where
  one_latch : bootstrap.responseReady = !bootstrap.failed
  one_send : ∃ socket, call.socket handleBase = some socket ∧
    sends = [⟨packet, socket.send packet⟩] ∧
    (bootstrap.responseReady = true →
      ReadyResponse call socket packet bootstrap)

theorem DecidingReceive.decided
    {handleBase : UInt32} {call : SocketReceiveCall} {packet : List UInt8}
    {bootstrap : DirectViewBootstrap} {sends : List SocketSend}
    (hdeciding : DecidingReceive handleBase call packet bootstrap sends) :
    bootstrap.Decided := by
  have hlatch := hdeciding.one_latch
  unfold DirectViewBootstrap.Decided
  cases hfailed : bootstrap.failed with
  | true => exact Or.inr rfl
  | false =>
      rw [hfailed] at hlatch
      exact Or.inl hlatch

theorem exists_parsed_of_complete
    {md5 : Md5} {bytes : List UInt8}
    (hcomplete : isCompleteKeyResponse md5 bytes = true) :
    ∃ response, parseKeyResponse md5 bytes = .ok response := by
  unfold isCompleteKeyResponse at hcomplete
  rw [Bool.and_eq_true] at hcomplete
  rcases hparse : parseKeyResponse md5 bytes with error | response
  · rw [hparse] at hcomplete
    cases hcomplete.2
  · exact ⟨response, rfl⟩

section Receive

variable {port : UInt16} {packet : Bytes viewLoginSize}

/-- The exchange of an armed bootstrap on its own socket. -/
theorem runBootstrap_of_armed
    (handleBase : UInt32) {call : SocketReceiveCall} {socket : GuestSocket}
    (hsocket : call.socket handleBase = some socket) :
    let next := runBootstrap call.keyResponseMd5 socket
      (armedBootstrap port packet)
    DecidingReceive handleBase call packet.val next.1 next.2 := by
  have hsend : sendBootstrap socket (armedBootstrap port packet) =
      if socket.send packet.val ≠ viewLoginSize then
        ({ armedBootstrap port packet with
          requestSent := false, failed := true },
          [⟨packet.val, socket.send packet.val⟩])
      else
        ({ armedBootstrap port (Bytes.zero viewLoginSize) with
          requestSent := true }, [⟨packet.val, socket.send packet.val⟩]) := by
    rfl
  unfold runBootstrap
  rw [hsend]
  by_cases hsent : socket.send packet.val ≠ viewLoginSize
  · rw [if_pos hsent]
    exact ⟨rfl, socket, hsocket, rfl, fun hready => nomatch hready⟩
  · rw [if_neg hsent]
    dsimp only
    rw [if_pos rfl]
    by_cases hready : awaitKeyResponse call.keyResponseMd5
        socket.keyResponsePeek responseWaitAttempts 0 = true
    · rw [if_pos hready]
      refine ⟨rfl, socket, hsocket, rfl, fun _ => ⟨not_not.mp hsent, rfl, ?_⟩⟩
      rw [awaitKeyResponse_iff, Nat.zero_add] at hready
      obtain ⟨attempt, -, hattempt, ⟨bytes, hbytes, hcomplete⟩, -⟩ := hready
      obtain ⟨response, hresponse⟩ := exists_parsed_of_complete hcomplete
      exact ⟨attempt, hattempt, bytes, response, hbytes,
        isCompleteKeyResponse_length hcomplete, hresponse⟩
    · rw [if_neg hready]
      exact ⟨rfl, socket, hsocket, rfl, fun hlater => nomatch hlater⟩

/-- The first eligible receive decides. -/
theorem receive_decides
    (flags : ExperimentalFlags) {handleBase : UInt32}
    {call : SocketReceiveCall} {globals : Globals}
    (harmed : globals.bootstrap = armedBootstrap port packet)
    (heligible : Eligible handleBase port call) :
    let next := (receiveMachine flags handleBase).step globals call
    DecidingReceive handleBase call packet.val next.1.bootstrap next.2 := by
  intro next
  obtain ⟨hfour, socket, hsocket, hport⟩ := heligible
  have hspec := receive_bootstrap flags handleBase call globals
  rw [if_pos hfour, hsocket, harmed] at hspec
  have hrun : bootstrapReceive call.keyResponseMd5 (some socket)
      (armedBootstrap port packet) = runBootstrap call.keyResponseMd5 socket
        (armedBootstrap port packet) := by
    simp [bootstrapReceive, armedBootstrap, hport]
  rw [hrun] at hspec
  have hbootstrap : next.1.bootstrap = (runBootstrap call.keyResponseMd5
      socket (armedBootstrap port packet)).1 := hspec.1
  have hsends : next.2 = (runBootstrap call.keyResponseMd5 socket
      (armedBootstrap port packet)).2 := hspec.2
  rw [hbootstrap, hsends]
  exact runBootstrap_of_armed handleBase hsocket

/-- Behind its first eligible receive a run keeps its bootstrap and sends
nothing more. -/
theorem run_decides
    (flags : ExperimentalFlags) {handleBase : UInt32} {globals : Globals}
    (harmed : globals.bootstrap = armedBootstrap port packet)
    {before : List SocketReceiveCall} {call : SocketReceiveCall}
    (hfirst : FirstEligible handleBase port before call)
    (after : List SocketReceiveCall) :
    let run := (receiveMachine flags handleBase).run globals
    let decided := run (before ++ [call])
    let last := run (before ++ call :: after)
    DecidingReceive handleBase call packet.val decided.1.bootstrap
        decided.2 ∧
      last.1.bootstrap = decided.1.bootstrap ∧ last.2 = decided.2 := by
  intro run decided last
  let reached := ((receiveMachine flags handleBase).run globals before).1
  let answered := (receiveMachine flags handleBase).step reached call
  obtain ⟨hreached, hquiet⟩ : reached.bootstrap = armedBootstrap port packet ∧
      ((receiveMachine flags handleBase).run globals before).2 = [] :=
    run_of_ineligible harmed hfirst.1
  have hdeciding : DecidingReceive handleBase call packet.val
      answered.1.bootstrap answered.2 :=
    receive_decides flags hreached hfirst.2
  obtain ⟨hkept, hsilent⟩ : ((receiveMachine flags handleBase).run
        answered.1 after).1.bootstrap = answered.1.bootstrap ∧
      ((receiveMachine flags handleBase).run answered.1 after).2 = [] :=
    run_of_decided hdeciding.decided after
  have hdecided : decided = (answered.1, answered.2) := by
    show (receiveMachine flags handleBase).run globals (before ++ [call]) = _
    rw [Machine.run_append, Machine.run_cons, hquiet]
    simp [answered, reached]
  have hlast : last = (((receiveMachine flags handleBase).run answered.1
      after).1, answered.2) := by
    show (receiveMachine flags handleBase).run globals
      (before ++ call :: after) = _
    rw [Machine.run_append, Machine.run_cons, hquiet, List.nil_append]
    have hsends : (((receiveMachine flags handleBase).step reached call).2 ++
        ((receiveMachine flags handleBase).run answered.1 after).2) =
          answered.2 := by
      rw [hsilent, List.append_nil]
    exact congrArg _ hsends
  rw [hdecided, hlast]
  exact ⟨hdeciding, hkept, rfl⟩

end Receive

/-- Nothing is sent and no latch is set before the first eligible receive;
that receive makes the only `Send` and sets one latch, for the rest of the
run; and a ready response was sent for and seen. -/
theorem first_receive_decides_bootstrap
    {port : UInt16} {packet : List UInt8} {globals configured : Globals}
    (hconfigured : revanaConfigureDirectLobbyViewBootstrap port (some packet)
      globals = (true, configured))
    (flags : ExperimentalFlags) (handleBase : UInt32) :
    let run := (receiveMachine flags handleBase).run configured
    (∀ calls, (∀ call ∈ calls, ¬Eligible handleBase port call) →
      (run calls).2 = [] ∧
      (run calls).1.bootstrap.requestSent = false ∧
      (run calls).1.bootstrap.responseReady = false ∧
      (run calls).1.bootstrap.failed = false) ∧
    ∀ before call after, FirstEligible handleBase port before call →
      DecidingReceive handleBase call packet
        (run (before ++ [call])).1.bootstrap (run (before ++ [call])).2 ∧
      (run (before ++ call :: after)).1.bootstrap =
        (run (before ++ [call])).1.bootstrap ∧
      (run (before ++ call :: after)).2 = (run (before ++ [call])).2 := by
  intro run
  obtain ⟨hsize, harmed⟩ := configureBootstrap_armed hconfigured
  constructor
  · intro calls hineligible
    obtain ⟨hbootstrap, hquiet⟩ : (run calls).1.bootstrap =
          armedBootstrap port ⟨packet, hsize⟩ ∧ (run calls).2 = [] :=
      run_of_ineligible harmed hineligible
    refine ⟨hquiet, ?_⟩
    rw [hbootstrap]
    exact ⟨rfl, rfl, rfl⟩
  · intro before call after hfirst
    exact run_decides flags harmed hfirst after

/-- A refused `Send` decides, and the answer behind it comes too late. -/
theorem failed_send_decides :
    let last := (receiveMachine {} 0xF8000000).run viewArmed
      [viewReceive (-1) .failed, viewReceive 152 (.peeked keyResponse)]
    DecidingReceive 0xF8000000 (viewReceive (-1) .failed) viewPacket
        last.1.bootstrap last.2 ∧
      last.1.bootstrap.failed = true := by
  intro last
  have hconfigured : revanaConfigureDirectLobbyViewBootstrap 54001
      (some viewPacket) {} = (true, viewArmed) := by decide +kernel
  have hfirst : FirstEligible 0xF8000000 54001 []
      (viewReceive (-1) .failed) := by
    refine ⟨?_, rfl, _, rfl, rfl⟩
    intro earlier hearlier
    cases hearlier
  obtain ⟨-, hdecides⟩ := first_receive_decides_bootstrap hconfigured {}
    0xF8000000
  obtain ⟨hdeciding, hkept, hsame⟩ := hdecides [] (viewReceive (-1) .failed)
    [viewReceive 152 (.peeked keyResponse)] hfirst
  rw [← hkept, ← hsame] at hdeciding
  exact ⟨hdeciding, by decide +kernel⟩

end Revana.Runtime
