import Revana.Foundation.StreamSocket
import Revana.Login.LobbyPackets

/-!
# The lobby data client

`CoordinateCharacterLoginData` of `lobby_client.cpp` with its send and receive
loops.  Winsock, name resolution, the clock and the stop token are the
environment; the connected data socket is a stream socket.
-/

namespace Revana.Login

open Foundation

def loginDataPort : UInt16 := 54230
def loginViewPort : UInt16 := 54001
def dataTriggerSize : ℕ := 5
def loaderCharacterListSize : ℕ := 0x148

inductive LobbyStage where
  | input
  | resolve
  | connect
  | dataBind
  | viewLogin
  | viewCharacterRequest
  | dataTrigger
  | dataAccountRequest
  | dataCharacterList
  | viewCharacterList
  | dataSelectionTrigger
  | dataSelectionRequest
  deriving DecidableEq, Repr

inductive LobbyError where
  | invalidInput
  | nameResolutionFailed
  | connectionFailed
  | ioFailed
  | responseTooLarge
  | unexpectedResponse
  | malformedResponse
  | cancelled
  | timedOut
  deriving DecidableEq, Repr

structure LobbyFailure where
  error : LobbyError
  stage : LobbyStage
  parseError : Option ParseError := none
  deriving DecidableEq, Repr

structure LobbyOptions where
  dataPort : UInt16 := loginDataPort
  viewPort : UInt16 := loginViewPort
  timeoutMs : ℕ := 10000
  selectionTimeoutMs : ℕ := 300000

structure DataCharacterLoginResult where
  characterSlotCount : UInt8
  deriving DecidableEq, Repr

/-- What the platform answers during one coordination. -/
structure LobbyEnvironment where
  winsockReady : Bool
  getAddrInfo : List UInt8 → Option (List Ipv4Address)
  connects : Ipv4Address → UInt16 → Bool
  receiveTimeoutSet : Bool
  stopRequested : ℕ → Bool
  clock : ℕ → ℕ
  socket : StreamSocket

def resolveIpv4 (env : LobbyEnvironment) (host : List UInt8) :
    Except LobbyFailure (List Ipv4Address) :=
  match env.getAddrInfo host with
  | none => .error ⟨.nameResolutionFailed, .resolve, none⟩
  | some [] => .error ⟨.nameResolutionFailed, .resolve, none⟩
  | some (address :: rest) => .ok (address :: rest)

def openDataSocket (env : LobbyEnvironment) (addresses : List Ipv4Address)
    (options : LobbyOptions) : Except LobbyFailure Ipv4Address :=
  match addresses.find? fun address =>
      env.connects address options.dataPort with
  | none => .error ⟨.connectionFailed, .connect, none⟩
  | some address => .ok address

/-! ## Send and receive loops -/

def sendAll (socket : StreamSocket) (bytes : List UInt8) :
    Bool × StreamSocket :=
  socket.transmit bytes

def receiveExact (socket : StreamSocket) (size : ℕ) :
    Option (List UInt8) × StreamSocket :=
  socket.fetch size

inductive ReceiveWaitResult where
  | complete
  | cancelled
  | timedOut
  | ioFailed
  deriving DecidableEq, Repr

/-- The verdict of a cancellable reception, the bytes it stored and the
socket it leaves. -/
abbrev ReceiveWait := ReceiveWaitResult × List UInt8 × StreamSocket

/-- The loop of `ReceiveExactUntil`.  Each iteration reads the stop token and
the clock once; `none` means the fuel ran out. -/
def receiveUntilDeadline (stopRequested : ℕ → Bool) (clock : ℕ → ℕ)
    (deadline : ℕ) : ℕ → ℕ → StreamSocket → ℕ → Option ReceiveWait
  | fuel, iteration, socket, size =>
      if size = 0 then some (.complete, [], socket)
      else
        match fuel with
        | 0 => none
        | fuel + 1 =>
            if stopRequested iteration then some (.cancelled, [], socket)
            else if clock iteration ≥ deadline then
              some (.timedOut, [], socket)
            else
              match socket.recv (min size intMax) with
              | (.received [], next) => some (.ioFailed, [], next)
              | (.received (byte :: rest), next) =>
                  let after := receiveUntilDeadline stopRequested clock
                    deadline fuel (iteration + 1) next
                    (size - (rest.length + 1))
                  after.map fun wait =>
                    (wait.1, byte :: rest ++ wait.2.1, wait.2.2)
              | (.failed, next) => some (.ioFailed, [], next)
              -- `WSAETIMEDOUT` and `WSAEWOULDBLOCK` only poll again.
              | (.timedOut, next) =>
                  receiveUntilDeadline stopRequested clock deadline fuel
                    (iteration + 1) next size
              | (.wouldBlock, next) =>
                  receiveUntilDeadline stopRequested clock deadline fuel
                    (iteration + 1) next size

def receiveExactUntil (env : LobbyEnvironment) (fuel : ℕ)
    (socket : StreamSocket) (size timeoutMs : ℕ) : Option ReceiveWait :=
  if env.receiveTimeoutSet = false then some (.ioFailed, [], socket)
  else
    let deadline := env.clock 0 + timeoutMs
    receiveUntilDeadline env.stopRequested (fun call => env.clock (call + 1))
      deadline fuel 0 socket size

/-! ## Coordination -/

def anyNonzero (bytes : List UInt8) : Bool := bytes.any (· ≠ 0)

def validLobbyInput (host : List UInt8) (session : SessionMaterial)
    (mapSessionKey : MapSessionKey) (options : LobbyOptions) : Bool :=
  !(host.isEmpty || session.accountId = 0 ||
    !anyNonzero session.sessionHash.val || !anyNonzero mapSessionKey.val ||
    options.dataPort = 0 || options.timeoutMs = 0 ||
    options.selectionTimeoutMs = 0)

/-- `first` followed by zeros only. -/
def isTrigger (first : UInt8) (trigger : List UInt8) : Bool :=
  byteAt trigger 0 = first && (trigger.drop 1).all (· = 0)

def isLoaderList (loaderList : List UInt8) : Bool :=
  byteAt loaderList 0 = 0x03 && byteAt loaderList 1 ≤ 16

/-- Send a request, receive a reply of fixed size and validate it: the shape
of the first two exchanges. -/
def exchangeRequest (socket : StreamSocket) (request : List UInt8)
    (sendStage : LobbyStage) (replySize : ℕ) (replyStage : LobbyStage)
    (accepts : List UInt8 → Bool) :
    Except LobbyFailure (List UInt8) × StreamSocket :=
  let sent := sendAll socket request
  if sent.1 = false then (.error ⟨.ioFailed, sendStage, none⟩, sent.2)
  else
    let reply := receiveExact sent.2 replySize
    match reply.1 with
    | none => (.error ⟨.ioFailed, replyStage, none⟩, reply.2)
    | some bytes =>
        if accepts bytes then (.ok bytes, reply.2)
        else (.error ⟨.unexpectedResponse, replyStage, none⟩, reply.2)

def selectionWaitError : ReceiveWaitResult → LobbyError
  | .cancelled => .cancelled
  | .timedOut => .timedOut
  | _ => .ioFailed

/-- Wait for the guest's selection and hand the map key to the server. -/
def coordinateSelection (env : LobbyEnvironment) (fuel : ℕ)
    (socket : StreamSocket) (mapSessionKey : MapSessionKey)
    (options : LobbyOptions) (result : DataCharacterLoginResult) :
    Option (Except LobbyFailure DataCharacterLoginResult × StreamSocket) :=
  match receiveExactUntil env fuel socket dataTriggerSize
      options.selectionTimeoutMs with
  | none => none
  | some (selectionTrigger, dataTrigger, next) =>
      if selectionTrigger ≠ .complete then
        some (.error ⟨selectionWaitError selectionTrigger,
          .dataSelectionTrigger, none⟩, next)
      else if isTrigger 0x02 dataTrigger = false then
        some (.error ⟨.unexpectedResponse, .dataSelectionTrigger, none⟩, next)
      else
        let sent := sendAll next (makeDataSelectionRequest mapSessionKey)
        if sent.1 = false then
          some (.error ⟨.ioFailed, .dataSelectionRequest, none⟩, sent.2)
        else some (.ok result, sent.2)

/-- Everything after the data socket is connected. -/
def coordinateExchange (env : LobbyEnvironment) (fuel : ℕ)
    (session : SessionMaterial) (serverAddress : Ipv4Address)
    (mapSessionKey : MapSessionKey) (options : LobbyOptions) :
    Option (Except LobbyFailure DataCharacterLoginResult × StreamSocket) :=
  let bind := exchangeRequest env.socket (makeDataBind session.sessionHash)
    .dataBind dataTriggerSize .dataTrigger (isTrigger 0x01)
  match bind.1 with
  | .error failure => some (.error failure, bind.2)
  | .ok _ =>
      let account := exchangeRequest bind.2
        (makeDataAccountRequest session serverAddress) .dataAccountRequest
        loaderCharacterListSize .dataCharacterList isLoaderList
      match account.1 with
      | .error failure => some (.error failure, account.2)
      | .ok loaderList =>
          coordinateSelection env fuel account.2 mapSessionKey options
            ⟨byteAt loaderList 1⟩

def coordinateCharacterLoginData (env : LobbyEnvironment) (fuel : ℕ)
    (host : List UInt8) (session : SessionMaterial)
    (mapSessionKey : MapSessionKey) (options : LobbyOptions) :
    Option (Except LobbyFailure DataCharacterLoginResult × StreamSocket) :=
  if validLobbyInput host session mapSessionKey options = false then
    some (.error ⟨.invalidInput, .input, none⟩, env.socket)
  else if env.winsockReady = false then
    some (.error ⟨.connectionFailed, .connect, none⟩, env.socket)
  else
    match resolveIpv4 env host with
    | .error failure => some (.error failure, env.socket)
    | .ok addresses =>
        match openDataSocket env addresses options with
        | .error failure => some (.error failure, env.socket)
        | .ok serverAddress =>
            coordinateExchange env fuel session serverAddress mapSessionKey
              options

end Revana.Login
