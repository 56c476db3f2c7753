import Revana.Runtime.Guest
import Revana.Runtime.Globals

/-!
# The view bootstrap

`RevanaTraceFourByteSocketReceive` sends the prepared view login through the
guest's view socket and waits for the key response before the guest's own
receive goes on.  A socket is what its calls answer: one `Send`, and the peeks
of each site by attempt, so peeking consumes nothing.
-/

namespace Revana.Runtime

open Foundation
open Login

def revanaConfigureDirectLobbyViewBootstrap (viewPort : UInt16)
    (packet : Option (List UInt8)) (globals : Globals) : Bool × Globals :=
  match packet with
  | none => (false, globals)
  | some bytes =>
      if hpacket : viewPort ≠ 0 ∧ bytes.length = viewLoginSize then
        (true, { globals with
          bootstrap := {
            enabled := true
            requestSent := false
            responseReady := false
            failed := false
            port := viewPort
            packet := ⟨bytes, hpacket.2⟩ }
          lobbyCharacterListReady := false })
      else (false, globals)

/-! ## Sockets -/

inductive PeekResult where
  | failed
  | peeked (bytes : List UInt8)
  deriving DecidableEq, Repr

/-- What a peek with a buffer of `size` bytes finds at the head of the
stream. -/
def PeekResult.head (result : PeekResult) (size : ℕ) : Option (List UInt8) :=
  match result with
  | .failed => none
  | .peeked bytes => some (bytes.take size)

/-- An `XSocket` of the object table; `object` tells it from every other. -/
structure GuestSocket where
  object : ℕ
  peerPort : UInt16
  send : List UInt8 → ℤ
  keyResponsePeek : ℕ → PeekResult
  headerPeek : PeekResult
  nextLoginPeek : PeekResult
  characterListPeek : ℕ → PeekResult

/-- The bytes passed to `Send` and what it returned. -/
structure SocketSend where
  bytes : List UInt8
  result : ℤ
  deriving DecidableEq, Repr

/-- One call of the hook: the guest, the object table and the MD5 calls of the
two response checks. -/
structure SocketReceiveCall where
  guest : Guest
  lookupSocket : UInt32 → Option GuestSocket
  keyResponseMd5 : ℕ → Md5
  characterListMd5 : ℕ → Md5

def objectHandle (handleBase descriptor : UInt32) : UInt32 :=
  if handleBase ≤ descriptor then descriptor else descriptor + handleBase

def SocketReceiveCall.socket (handleBase : UInt32) (call : SocketReceiveCall) :
    Option GuestSocket :=
  call.lookupSocket (objectHandle handleBase (u32 call.guest.registers.r3))

/-! ## The bootstrap exchange -/

def responseWaitAttempts : ℕ := 500

def sendBootstrap (socket : GuestSocket) (bootstrap : DirectViewBootstrap) :
    DirectViewBootstrap × List SocketSend :=
  if bootstrap.requestSent then (bootstrap, [])
  else
    let sent := socket.send bootstrap.packet.val
    let send : SocketSend := ⟨bootstrap.packet.val, sent⟩
    if sent ≠ viewLoginSize then
      ({ bootstrap with requestSent := false, failed := true }, [send])
    else
      ({ bootstrap with
        requestSent := true
        packet := Bytes.zero viewLoginSize }, [send])

/-- The wait for the key response, with the attempts that are left. -/
def awaitKeyResponse (md5 : ℕ → Md5) (peek : ℕ → PeekResult) : ℕ → ℕ → Bool
  | 0, _ => false
  | remaining + 1, attempt =>
      match (peek attempt).head keyResponseSize with
      | none => awaitKeyResponse md5 peek remaining (attempt + 1)
      | some bytes =>
          if bytes.length = keyResponseSize ∧
              isCompleteKeyResponse (md5 attempt) bytes then true
          else if bytes.length = 0 then false
          else awaitKeyResponse md5 peek remaining (attempt + 1)

def runBootstrap (keyResponseMd5 : ℕ → Md5) (socket : GuestSocket)
    (bootstrap : DirectViewBootstrap) :
    DirectViewBootstrap × List SocketSend :=
  let sent := sendBootstrap socket bootstrap
  if sent.1.requestSent then
    if awaitKeyResponse keyResponseMd5 socket.keyResponsePeek
        responseWaitAttempts 0 then
      ({ sent.1 with responseReady := true }, sent.2)
    else ({ sent.1 with failed := true }, sent.2)
  else sent

def bootstrapReceive (keyResponseMd5 : ℕ → Md5) (socket : Option GuestSocket)
    (bootstrap : DirectViewBootstrap) :
    DirectViewBootstrap × List SocketSend :=
  if bootstrap.enabled = true ∧ bootstrap.responseReady = false ∧
      bootstrap.failed = false then
    match socket with
    | none => (bootstrap, [])
    | some socket =>
        if socket.peerPort = bootstrap.port then
          runBootstrap keyResponseMd5 socket bootstrap
        else (bootstrap, [])
  else (bootstrap, [])

/-! ## Observing the lobby's packets -/

def nextLoginPacketSize : ℕ := 72

def awaitCharacterList (md5 : ℕ → Md5) (peek : ℕ → PeekResult) (size : ℕ) :
    ℕ → ℕ → Bool
  | 0, _ => false
  | remaining + 1, attempt =>
      match (peek attempt).head size with
      | none => awaitCharacterList md5 peek size remaining (attempt + 1)
      | some bytes =>
          if bytes.length = size then
            (parseCharacterList (md5 attempt) bytes).toBool
          else if bytes.length = 0 then false
          else awaitCharacterList md5 peek size remaining (attempt + 1)

def observeNextLogin (socket : GuestSocket) (globals : Globals) : Globals :=
  match socket.nextLoginPeek.head nextLoginPacketSize with
  | none => globals
  | some response =>
      if response.length = nextLoginPacketSize then
        { globals with
          lobbyNextLoginCharacterId := readLe32 (byteAt response) 28 }
      else globals

def observeCharacterList (characterListMd5 : ℕ → Md5) (socket : GuestSocket)
    (packetSize : ℕ) (globals : Globals) : Globals :=
  if awaitCharacterList characterListMd5 socket.characterListPeek packetSize
      responseWaitAttempts 0 then
    { globals with lobbyCharacterListReady := true }
  else globals

/-- The block behind the header peek. -/
def observeLobbyReceive (characterListMd5 : ℕ → Md5) (socket : GuestSocket)
    (globals : Globals) : Globals :=
  match socket.headerPeek.head 12 with
  | none => globals
  | some header =>
      if header.length = 12 then
        let packetSize := (readLe32 (byteAt header) 0).toNat
        let command := readLe32 (byteAt header) 8
        let globals :=
          if packetSize = nextLoginPacketSize ∧ command = 0x0B then
            observeNextLogin socket globals
          else globals
        if command = 0x20 ∧ characterListHeaderSize ≤ packetSize ∧
            packetSize ≤
              characterListHeaderSize + 16 * characterEntrySize then
          observeCharacterList characterListMd5 socket packetSize globals
        else globals
      else globals

def revanaTraceFourByteSocketReceive (flags : ExperimentalFlags)
    (handleBase : UInt32) (call : SocketReceiveCall) (globals : Globals) :
    Globals × List SocketSend :=
  if u32 call.guest.registers.r5 ≠ 4 then (globals, [])
  else
    let socket := call.socket handleBase
    let bootstrap :=
      bootstrapReceive call.keyResponseMd5 socket globals.bootstrap
    let trace := guestTraceHooksEnabled globals.trace
    let globals := { globals with bootstrap := bootstrap.1, trace := trace.2 }
    if trace.1 = true ∨ flags.restoreWorldLoginCharacterId = true then
      match socket with
      | none => (globals, bootstrap.2)
      | some socket =>
          if socket.peerPort = globals.bootstrap.port then
            (observeLobbyReceive call.characterListMd5 socket globals,
              bootstrap.2)
          else (globals, bootstrap.2)
    else (globals, bootstrap.2)

end Revana.Runtime
