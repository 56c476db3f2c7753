import Revana.Foundation.Machine
import Revana.Runtime.LobbyBridgeConfigure
import Revana.Runtime.ReceiveGate

/-!
# One view login for the server

The hooks send the prepared view login on the first four-byte receive, and the
bridge swallows the first view login the guest sends itself.  The two latches
do not know of each other: the bridge swallows whether or not the prepared
login has left.  A run gives the server exactly one login when its packets
come in the order and in the size the bridge expects.
-/

namespace Revana.Runtime

open Foundation
open Login

structure ViewSession where
  bridge : BridgeState
  globals : Globals

inductive ViewEvent where
  /-- The guest sends on its view socket. -/
  | guestSend (bytes : List UInt8)
  | receive (call : SocketReceiveCall)

inductive ViewRecord where
  | guestSend (bytes : List UInt8) (swallowed : Bool)
  | bootstrapSend (send : SocketSend)
  deriving DecidableEq

section Machine

variable (flags : ExperimentalFlags) (handleBase : UInt32)

def viewStep (session : ViewSession) :
    ViewEvent → ViewSession × List ViewRecord
  | .guestSend bytes =>
      let sent := beforeSend session.bridge session.bridge.viewPort bytes
      let (swallowed, bridge) :=
        consumeSend session.bridge session.bridge.viewPort sent
      ({ session with bridge }, [.guestSend sent swallowed])
  | .receive call =>
      let (globals, sends) :=
        revanaTraceFourByteSocketReceive flags handleBase call session.globals
      ({ session with globals }, sends.map .bootstrapSend)

def viewMachine : Machine ViewSession ViewEvent ViewRecord where
  step := viewStep flags handleBase

end Machine

/-- A view login the guest sends and `PrepareLobbySend` accepts. -/
def IsViewLogin (bridge : BridgeState) (bytes : List UInt8) : Prop :=
  (prepareLobbySend bytes bridge.viewPort bridge.dataPort bridge.viewPort
    bridge.session.sessionHash bridge.clientVersion).1 = true ∧
    readLe32 (byteAt bytes) 8 = 0x26

/-- A packet `consume_send` looks at: 152 bytes with command `0x26`. -/
def IsConsumable (bytes : List UInt8) : Prop :=
  bytes.length = viewLoginSize ∧ readLe32 (byteAt bytes) 8 = 0x26

instance (bridge : BridgeState) (bytes : List UInt8) :
    Decidable (IsViewLogin bridge bytes) :=
  inferInstanceAs (Decidable (_ ∧ _))

instance (bytes : List UInt8) : Decidable (IsConsumable bytes) :=
  inferInstanceAs (Decidable (_ ∧ _))

/-- The prepared login has been sent completely. -/
def ViewSession.BootstrapComplete (session : ViewSession) : Prop :=
  session.globals.bootstrap.requestSent = true

def ViewRecord.isSwallowed : ViewRecord → Bool
  | .guestSend _ swallowed => swallowed
  | .bootstrapSend _ => false

def ViewRecord.isCompleteBootstrap : ViewRecord → Bool
  | .guestSend _ _ => false
  | .bootstrapSend send => send.result = viewLoginSize

/-- The prepared logins the server received completely. -/
def bootstrapLogins (records : List ViewRecord) : ℕ :=
  records.countP ViewRecord.isCompleteBootstrap

/-! ## Guest sends -/

/-- Authentication keeps the length and the command of a packet. -/
theorem isConsumable_beforeSend
    (bridge : BridgeState) (peerPort : UInt16) (bytes : List UInt8) :
    IsConsumable (beforeSend bridge peerPort bytes) ↔ IsConsumable bytes := by
  unfold beforeSend
  simp only
  split
  · rename_i hprepared
    obtain ⟨hlength, hbytes⟩ := prepareLobbySend_frame hprepared
    simp only [IsConsumable, hlength, readLe32]
    rw [hbytes 8 (by decide), hbytes (8 + 1) (by decide),
      hbytes (8 + 2) (by decide), hbytes (8 + 3) (by decide)]
  · rfl

/-- The guest's packet is swallowed in this state. -/
def Swallows (session : ViewSession) (bytes : List UInt8) : Prop :=
  IsConsumable bytes ∧ session.bridge.bootstrapViewLoginPending = true

instance (session : ViewSession) (bytes : List UInt8) :
    Decidable (Swallows session bytes) :=
  inferInstanceAs (Decidable (_ ∧ _))

section Steps

variable (flags : ExperimentalFlags) (handleBase : UInt32)

theorem consumeSend_beforeSend (bridge : BridgeState) (bytes : List UInt8) :
    consumeSend bridge bridge.viewPort
        (beforeSend bridge bridge.viewPort bytes) =
      if IsConsumable bytes then
        (bridge.bootstrapViewLoginPending,
          { bridge with bootstrapViewLoginPending := false })
      else (false, bridge) := by
  have hsent := isConsumable_beforeSend bridge bridge.viewPort bytes
  unfold consumeSend
  by_cases hbytes : IsConsumable bytes
  · obtain ⟨hlength, hcommand⟩ := hsent.mpr hbytes
    have hlength' : (beforeSend bridge bridge.viewPort bytes).length = 152 :=
      hlength
    rw [if_neg (by simp [hlength', hcommand]), if_pos hbytes]
  · rw [if_pos, if_neg hbytes]
    by_contra hexpected
    simp only [not_or, ne_eq, not_not] at hexpected
    exact hbytes (hsent.mp hexpected.2)

/-- What a guest send does to the session and which record it leaves. -/
theorem guestSend_step (session : ViewSession) (bytes : List UInt8) :
    (viewMachine flags handleBase).step session (.guestSend bytes) =
      ({ session with bridge := { session.bridge with
          bootstrapViewLoginPending := if IsConsumable bytes then false
            else session.bridge.bootstrapViewLoginPending } },
        [.guestSend (beforeSend session.bridge session.bridge.viewPort bytes)
          (Swallows session bytes)]) := by
  simp only [viewMachine, viewStep, consumeSend_beforeSend, Swallows]
  by_cases hbytes : IsConsumable bytes <;> simp [hbytes]

end Steps

theorem sendBootstrap_cases
    (socket : GuestSocket) (bootstrap : DirectViewBootstrap) :
    let next := sendBootstrap socket bootstrap
    (bootstrap.requestSent = true ∧ next = (bootstrap, [])) ∨
    (bootstrap.requestSent = false ∧ next.1.requestSent = true ∧
      ∃ send, next.2 = [send] ∧ send.result = viewLoginSize) ∨
    (bootstrap.requestSent = false ∧ next.1.requestSent = false ∧
      ∃ send, next.2 = [send] ∧ send.result ≠ viewLoginSize) := by
  unfold sendBootstrap
  cases hrequest : bootstrap.requestSent with
  | true => simp
  | false =>
      simp only [Bool.false_eq_true, if_false]
      split
      · rename_i hshort
        right; right
        exact ⟨trivial, rfl, _, rfl, hshort⟩
      · rename_i hcomplete
        right; left
        exact ⟨trivial, rfl, _, rfl, not_not.mp hcomplete⟩

theorem runBootstrap_sends
    (md5 : ℕ → Md5) (socket : GuestSocket) (bootstrap : DirectViewBootstrap) :
    (runBootstrap md5 socket bootstrap).1.requestSent =
      (sendBootstrap socket bootstrap).1.requestSent ∧
    (runBootstrap md5 socket bootstrap).2 =
      (sendBootstrap socket bootstrap).2 := by
  unfold runBootstrap
  simp only
  split
  · split <;> exact ⟨rfl, rfl⟩
  · exact ⟨rfl, rfl⟩

/-- A receive completes the login at most once, and only while it is not yet
complete. -/
theorem receive_sends
    (flags : ExperimentalFlags) (handleBase : UInt32)
    (call : SocketReceiveCall) (globals : Globals) :
    let next := revanaTraceFourByteSocketReceive flags handleBase call globals
    bootstrapLogins (next.2.map .bootstrapSend) +
        (if globals.bootstrap.requestSent = true then 1 else 0) =
      if next.1.bootstrap.requestSent = true then 1 else 0 := by
  intro next
  have hspec := receive_bootstrap flags handleBase call globals
  have hquiet : ∀ bootstrap : DirectViewBootstrap, ∀ sends : List SocketSend,
      bootstrap = globals.bootstrap → sends = [] →
      bootstrapLogins (sends.map .bootstrapSend) +
        (if globals.bootstrap.requestSent = true then 1 else 0) =
          if bootstrap.requestSent = true then 1 else 0 := by
    rintro _ _ rfl rfl
    simp [bootstrapLogins]
  by_cases hfour : u32 call.guest.registers.r5 = 4
  · rw [if_pos hfour] at hspec
    rw [hspec.1, hspec.2]
    unfold bootstrapReceive
    split
    · cases call.socket handleBase with
      | none => exact hquiet _ _ rfl rfl
      | some socket =>
          simp only
          split
          · obtain ⟨hsent, hsends⟩ := runBootstrap_sends call.keyResponseMd5
              socket globals.bootstrap
            rw [hsent, hsends]
            obtain ⟨hbefore, hnext⟩ | ⟨hbefore, hafter, send, hsend, hresult⟩ |
              ⟨hbefore, hafter, send, hsend, hresult⟩ :=
                sendBootstrap_cases socket globals.bootstrap
            · rw [hnext]
              exact hquiet _ _ rfl rfl
            · simp [hbefore, hafter, hsend, hresult, bootstrapLogins,
                ViewRecord.isCompleteBootstrap]
            · simp [hbefore, hafter, hsend, hresult, bootstrapLogins,
                ViewRecord.isCompleteBootstrap]
          · exact hquiet _ _ rfl rfl
    · exact hquiet _ _ rfl rfl
  · rw [if_neg hfour] at hspec
    exact hquiet _ _ hspec.1 hspec.2

/-! ## Runs -/

/-- The counts of a run follow the two latches. -/
structure LatchesCounted (session : ViewSession) (records : List ViewRecord) :
    Prop where
  bootstrap : bootstrapLogins records =
    if session.globals.bootstrap.requestSent = true then 1 else 0
  swallowed : records.countP ViewRecord.isSwallowed =
    if session.bridge.bootstrapViewLoginPending = true then 0 else 1

section Runs

variable {flags : ExperimentalFlags} {handleBase : UInt32}

theorem bootstrapLogins_append (before after : List ViewRecord) :
    bootstrapLogins (before ++ after) =
      bootstrapLogins before + bootstrapLogins after :=
  List.countP_append

theorem latchesCounted_step
    (session : ViewSession) (records : List ViewRecord) (event : ViewEvent)
    (hcounted : LatchesCounted session records) :
    let next := (viewMachine flags handleBase).step session event
    LatchesCounted next.1 (records ++ next.2) := by
  cases event with
  | guestSend bytes =>
      rw [guestSend_step]
      refine ⟨?_, ?_⟩
      · rw [bootstrapLogins_append, hcounted.bootstrap]
        simp [bootstrapLogins, ViewRecord.isCompleteBootstrap]
      · rw [List.countP_append, hcounted.swallowed]
        cases hpending : session.bridge.bootstrapViewLoginPending <;>
          by_cases hbytes : IsConsumable bytes <;>
          simp [Swallows, hbytes, hpending, ViewRecord.isSwallowed]
  | receive call =>
      have hsends := receive_sends flags handleBase call session.globals
      refine ⟨?_, ?_⟩
      · rw [bootstrapLogins_append, hcounted.bootstrap, Nat.add_comm]
        exact hsends
      · rw [List.countP_append, hcounted.swallowed]
        simp [viewMachine, viewStep, ViewRecord.isSwallowed, List.countP_map,
          Function.comp_def]
        rfl

theorem latchesCounted_run
    {start : ViewSession} (hstart : LatchesCounted start [])
    (events : List ViewEvent) :
    let outcome := (viewMachine flags handleBase).run start events
    LatchesCounted outcome.1 outcome.2 :=
  Machine.run_history LatchesCounted latchesCounted_step hstart events

theorem bootstrapComplete_step
    (session : ViewSession) (event : ViewEvent)
    (hcomplete : session.BootstrapComplete) :
    ((viewMachine flags handleBase).step session event).1.BootstrapComplete := by
  cases event with
  | guestSend bytes =>
      rw [guestSend_step]
      exact hcomplete
  | receive call =>
      have hsends := receive_sends flags handleBase call session.globals
      have hsent : session.globals.bootstrap.requestSent = true := hcomplete
      simp only [hsent, if_true] at hsends
      split at hsends
      · assumption
      · omega

theorem pending_step
    (session : ViewSession) (event : ViewEvent)
    (hpending : session.bridge.bootstrapViewLoginPending = false) :
    ((viewMachine flags handleBase).step session
      event).1.bridge.bootstrapViewLoginPending = false := by
  cases event with
  | guestSend bytes =>
      rw [guestSend_step]
      simp [hpending]
  | receive call => exact hpending

end Runs

/-! ## One login -/

section Order

variable (flags : ExperimentalFlags) (handleBase : UInt32)
  (start : ViewSession)

/-- The receives among the events. -/
def viewReceives (events : List ViewEvent) : List SocketReceiveCall :=
  events.filterMap fun event =>
    match event with
    | .guestSend _ => none
    | .receive call => some call

/-- The first four-byte receive on the view port is on a socket whose `Send`
takes the prepared login in full. -/
def LoginTaken (bootstrap : DirectViewBootstrap) (events : List ViewEvent) :
    Prop :=
  ∃ before call after socket, viewReceives events = before ++ call :: after ∧
    FirstEligible handleBase bootstrap.port before call ∧
    call.socket handleBase = some socket ∧
    socket.send bootstrap.packet.val = viewLoginSize

/-- The server has received the prepared login. -/
def BootstrapSentBy (events : List ViewEvent) : Prop :=
  0 < bootstrapLogins ((viewMachine flags handleBase).run start events).2

/-- The guest's packet is swallowed after these events. -/
def SwallowedAfter (before : List ViewEvent) (bytes : List UInt8) : Prop :=
  Swallows ((viewMachine flags handleBase).run start before).1 bytes

/-- No packet among the events satisfies the predicate. -/
def NoEarlier (Packet : List ViewEvent → List UInt8 → Prop)
    (before : List ViewEvent) : Prop :=
  ∀ earlier other middle, before = earlier ++ .guestSend other :: middle →
    ¬Packet earlier other

/-- The first view login the guest sends. -/
def FirstLogin (before : List ViewEvent) (bytes : List UInt8) : Prop :=
  IsViewLogin start.bridge bytes ∧
    NoEarlier (fun _ => IsViewLogin start.bridge) before

/-- The first view login the guest sends behind the prepared one. -/
def FirstLoginAfter (Sent : List ViewEvent → Prop) (before : List ViewEvent)
    (bytes : List UInt8) : Prop :=
  IsViewLogin start.bridge bytes ∧ Sent before ∧
    NoEarlier (fun earlier other => IsViewLogin start.bridge other ∧
      Sent earlier) before

def FirstLoginAfterBootstrap (before : List ViewEvent) (bytes : List UInt8) :
    Prop :=
  FirstLoginAfter start (BootstrapSentBy flags handleBase start) before bytes

structure ViewLoginOnce (events : List ViewEvent) : Prop where
  swallowsAfterBootstrap : ∀ before bytes after,
    events = before ++ .guestSend bytes :: after →
    SwallowedAfter flags handleBase start before bytes →
    BootstrapSentBy flags handleBase start before
  swallowsOnce : ((viewMachine flags handleBase).run start
    events).2.countP ViewRecord.isSwallowed ≤ 1
  swallowsFirst : ∀ before bytes after,
    events = before ++ .guestSend bytes :: after →
    FirstLoginAfterBootstrap flags handleBase start before bytes →
    SwallowedAfter flags handleBase start before bytes
  /-- The prepared login and the guest's first one reach the server once. -/
  serverReceivesOnce : ∀ before bytes after,
    events = before ++ .guestSend bytes :: after →
    FirstLogin start before bytes →
    (SwallowedAfter flags handleBase start before bytes →
      bootstrapLogins ((viewMachine flags handleBase).run start events).2 =
        1) ∧
    (¬SwallowedAfter flags handleBase start before bytes →
      bootstrapLogins ((viewMachine flags handleBase).run start events).2 = 0)

/-- The packets come in the order and the size the bridge expects, where `Sent`
says after which events the prepared login has been sent. -/
structure ExpectedOrder (Sent : List ViewEvent → Prop)
    (events : List ViewEvent) : Prop where
  consumableAfterBootstrap : ∀ before bytes after,
    events = before ++ .guestSend bytes :: after → IsConsumable bytes →
    Sent before
  earlyLoginAlone : ∀ before bytes after,
    events = before ++ .guestSend bytes :: after →
    IsViewLogin start.bridge bytes → ¬Sent before → ¬Sent events
  firstLoginConsumable : ∀ before bytes after,
    events = before ++ .guestSend bytes :: after →
    FirstLoginAfter start Sent before bytes →
    bytes.length = viewLoginSize ∧ NoEarlier (fun _ => IsConsumable) before

end Order

section Once

variable {flags : ExperimentalFlags} {handleBase : UInt32}
  {start : ViewSession}

theorem bootstrapSentBy_append
    {before : List ViewEvent} (hsent : BootstrapSentBy flags handleBase start
      before) (after : List ViewEvent) :
    BootstrapSentBy flags handleBase start (before ++ after) := by
  rw [BootstrapSentBy, Machine.run_append, bootstrapLogins_append]
  exact Nat.lt_of_lt_of_le hsent (Nat.le_add_right _ _)

theorem bootstrapLogins_le_one
    (hstart : LatchesCounted start []) (events : List ViewEvent) :
    bootstrapLogins ((viewMachine flags handleBase).run start events).2 ≤
      1 := by
  have hcounted : bootstrapLogins ((viewMachine flags handleBase).run start
      events).2 = if _ = true then 1 else 0 :=
    (latchesCounted_run hstart events).bootstrap
  rw [hcounted]
  split <;> simp

theorem bootstrapSentBy_iff
    (hstart : LatchesCounted start []) (events : List ViewEvent) :
    BootstrapSentBy flags handleBase start events ↔
      ((viewMachine flags handleBase).run start
        events).1.BootstrapComplete := by
  have hcounted : bootstrapLogins ((viewMachine flags handleBase).run start
      events).2 = if _ = true then 1 else 0 :=
    (latchesCounted_run hstart events).bootstrap
  rw [BootstrapSentBy, hcounted, ViewSession.BootstrapComplete]
  split <;> simp [*]

theorem viewMachine_globals (events : List ViewEvent) :
    ((viewMachine flags handleBase).run start events).1.globals =
      ((receiveMachine flags handleBase).run start.globals
        (viewReceives events)).1 := by
  induction events generalizing start with
  | nil => rfl
  | cons event rest ih =>
      rw [Machine.run_cons, ih]
      cases event with
      | guestSend bytes =>
          rw [guestSend_step]
          rfl
      | receive call => rfl

/-- An armed bootstrap sends its login with the first eligible receive or not
at all. -/
theorem bootstrapSentBy_iff_loginTaken
    (hstart : LatchesCounted start []) {port : UInt16}
    {packet : Bytes viewLoginSize}
    (harmed : start.globals.bootstrap = armedBootstrap port packet)
    (events : List ViewEvent) :
    BootstrapSentBy flags handleBase start events ↔
      LoginTaken handleBase start.globals.bootstrap events := by
  rw [bootstrapSentBy_iff hstart, ViewSession.BootstrapComplete,
    viewMachine_globals, LoginTaken, harmed]
  constructor
  · intro hsent
    by_cases hsome : ∃ call ∈ viewReceives events,
        Eligible handleBase port call
    · obtain ⟨call, hmem, heligible⟩ := hsome
      obtain ⟨before, first, after, hsplit, hfirst⟩ :=
        exists_firstEligible hmem heligible
      obtain ⟨-, socket, hsocket, -⟩ := hfirst.2
      rw [hsplit, run_requestSent harmed hfirst hsocket] at hsent
      exact ⟨before, first, after, socket, hsplit, hfirst, hsocket, hsent⟩
    · have hnone : ∀ call ∈ viewReceives events,
          ¬Eligible handleBase port call :=
        fun call hmem heligible => hsome ⟨call, hmem, heligible⟩
      rw [(run_of_ineligible harmed hnone).1] at hsent
      cases hsent
  · rintro ⟨before, call, after, socket, hsplit, hfirst, hsocket, hsend⟩
    rw [hsplit]
    exact (run_requestSent harmed hfirst hsocket after).mpr hsend

/-- A consumable packet leaves nothing to swallow. -/
theorem pending_of_consumable
    {before middle : List ViewEvent} {other : List UInt8}
    (hconsumable : IsConsumable other) :
    ((viewMachine flags handleBase).run start
      (before ++ .guestSend other :: middle)).1.bridge.bootstrapViewLoginPending
        = false := by
  rw [Machine.run_append, Machine.run_cons]
  apply Machine.run_invariant
    (fun session : ViewSession =>
      session.bridge.bootstrapViewLoginPending = false) pending_step
  rw [guestSend_step]
  simp [hconsumable]

/-- As long as no packet was consumable, the latch is as it was. -/
theorem pending_of_noEarlier
    {session : ViewSession} {before : List ViewEvent}
    (hnone : NoEarlier (fun _ => IsConsumable) before) :
    ((viewMachine flags handleBase).run session
      before).1.bridge.bootstrapViewLoginPending =
        session.bridge.bootstrapViewLoginPending := by
  induction before generalizing session with
  | nil => rfl
  | cons event rest ih =>
      have hrest : NoEarlier (fun _ => IsConsumable) rest := by
        intro earlier other middle hsplit
        exact hnone (event :: earlier) other middle (by rw [hsplit]; rfl)
      rw [Machine.run_cons, ih hrest]
      cases event with
      | guestSend bytes =>
          have hbytes : ¬IsConsumable bytes := hnone [] bytes rest rfl
          rw [guestSend_step]
          simp [hbytes]
      | receive call => rfl

/-- Swallowing only behind the prepared login is sending consumable packets
only behind it: the first consumable packet is swallowed. -/
theorem swallowsAfterBootstrap_iff
    (hstart : LatchesCounted start [])
    (hpending : start.bridge.bootstrapViewLoginPending = true)
    (events : List ViewEvent) :
    (∀ before bytes after, events = before ++ .guestSend bytes :: after →
      SwallowedAfter flags handleBase start before bytes →
      BootstrapSentBy flags handleBase start before) ↔
    (∀ before bytes after, events = before ++ .guestSend bytes :: after →
      IsConsumable bytes → BootstrapSentBy flags handleBase start before) := by
  let Safe : ViewSession → ViewEvent → Prop := fun session event =>
    ∀ bytes, event = .guestSend bytes → Swallows session bytes →
      session.BootstrapComplete
  let Guard : ViewSession → ViewEvent → Prop := fun session event =>
    ∀ bytes, event = .guestSend bytes → IsConsumable bytes →
      session.BootstrapComplete
  let Inv : ViewSession → Prop := fun session =>
    session.bridge.bootstrapViewLoginPending = false →
      session.BootstrapComplete
  have hiff : ∀ session event, Inv session →
      (Safe session event ↔ Guard session event) := by
    intro session event hinv
    constructor
    · intro hsafe bytes hevent hbytes
      cases hlatch : session.bridge.bootstrapViewLoginPending with
      | false => exact hinv hlatch
      | true => exact hsafe bytes hevent ⟨hbytes, hlatch⟩
    · intro hguard bytes hevent hswallows
      exact hguard bytes hevent hswallows.1
  have hstep : ∀ session event, Inv session → Guard session event →
      Inv ((viewMachine flags handleBase).step session event).1 := by
    intro session event hinv hguard hlatch
    apply bootstrapComplete_step
    cases event with
    | guestSend bytes =>
        by_cases hbytes : IsConsumable bytes
        · exact hguard bytes rfl hbytes
        · rw [guestSend_step] at hlatch
          exact hinv (by simpa [hbytes] using hlatch)
    | receive call => exact hinv hlatch
  have hinit : Inv start := by
    intro hlatch
    rw [hpending] at hlatch
    cases hlatch
  have halong := Machine.alongRun_iff hiff hstep hinit events
  rw [Machine.alongRun_iff_forall, Machine.alongRun_iff_forall] at halong
  simp only [bootstrapSentBy_iff hstart]
  constructor
  · intro hsafe before bytes after hsplit
    apply halong.mp _ before (.guestSend bytes) after hsplit bytes rfl
    rintro earlier event later hother other rfl
    exact hsafe earlier other later hother
  · intro hguard before bytes after hsplit
    apply halong.mpr _ before (.guestSend bytes) after hsplit bytes rfl
    rintro earlier event later hother other rfl
    exact hguard earlier other later hother

/-- Among the packets up to one with the property there is a first one. -/
theorem exists_firstPacket
    {Packet : List UInt8 → Prop} (before : List ViewEvent) {bytes : List UInt8}
    (hbytes : Packet bytes) :
    ∃ first other, NoEarlier (fun _ => Packet) first ∧ Packet other ∧
      ∃ middle, before ++ [.guestSend bytes] =
        first ++ .guestSend other :: middle := by
  induction hlength : before.length using Nat.strong_induction_on
    generalizing before bytes with
  | _ length ih =>
      by_cases hnone : NoEarlier (fun _ => Packet) before
      · exact ⟨before, bytes, hnone, hbytes, [], rfl⟩
      · simp only [NoEarlier, not_forall, not_not] at hnone
        obtain ⟨earlier, other, middle, hsplit, hother⟩ := hnone
        have hshorter : earlier.length < length := by
          rw [← hlength, hsplit]
          simp
        obtain ⟨first, packet, hfirst, hpacket, rest, hrest⟩ :=
          ih earlier.length hshorter earlier hother rfl
        refine ⟨first, packet, hfirst, hpacket,
          rest ++ (middle ++ [.guestSend bytes]), ?_⟩
        calc
          before ++ [.guestSend bytes]
              = earlier ++ [.guestSend other] ++
                  (middle ++ [.guestSend bytes]) := by
                simp [hsplit]
          _ = first ++ .guestSend packet ::
                (rest ++ (middle ++ [.guestSend bytes])) := by
                rw [hrest]
                simp

theorem not_swallowedAfter_of_not_sent
    {events : List ViewEvent}
    (hconsumable : ∀ before bytes after,
      events = before ++ .guestSend bytes :: after → IsConsumable bytes →
      BootstrapSentBy flags handleBase start before)
    {before after : List ViewEvent} {bytes : List UInt8}
    (hsplit : events = before ++ .guestSend bytes :: after)
    (hearly : ¬BootstrapSentBy flags handleBase start before) :
    ¬SwallowedAfter flags handleBase start before bytes :=
  fun hswallowed => hearly (hconsumable before bytes after hsplit hswallowed.1)

theorem ViewLoginOnce.earlyLoginAlone
    {events : List ViewEvent}
    (honce : ViewLoginOnce flags handleBase start events)
    (hconsumable : ∀ before bytes after,
      events = before ++ .guestSend bytes :: after → IsConsumable bytes →
      BootstrapSentBy flags handleBase start before)
    {before after : List ViewEvent} {bytes : List UInt8}
    (hsplit : events = before ++ .guestSend bytes :: after)
    (hlogin : IsViewLogin start.bridge bytes)
    (hearly : ¬BootstrapSentBy flags handleBase start before) :
    ¬BootstrapSentBy flags handleBase start events := by
  intro hsent
  obtain ⟨first, other, hnone, hother, middle, hmiddle⟩ :=
    exists_firstPacket before hlogin
  have hfirstSplit : events = first ++ .guestSend other :: (middle ++ after) := by
    calc
      events = before ++ [.guestSend bytes] ++ after := by simp [hsplit]
      _ = first ++ .guestSend other :: (middle ++ after) := by
            rw [hmiddle]
            simp
  have hfirstEarly : ¬BootstrapSentBy flags handleBase start first := by
    intro hfirst
    -- A bootstrap sent before the first login was sent before `before` ended.
    have hinitial : first <+: before := by
      apply List.prefix_of_prefix_length_le (List.prefix_append first _)
        (hmiddle ▸ List.prefix_append before [.guestSend bytes])
      have hlength := congrArg List.length hmiddle
      simp only [List.length_append, List.length_cons, List.length_nil]
        at hlength
      omega
    obtain ⟨more, rfl⟩ := hinitial
    exact hearly (bootstrapSentBy_append hfirst more)
  have hzero := (honce.serverReceivesOnce first other _ hfirstSplit
    ⟨hother, hnone⟩).2 (not_swallowedAfter_of_not_sent hconsumable hfirstSplit
      hfirstEarly)
  exact hsent.ne' hzero

theorem ViewLoginOnce.firstLoginConsumable
    {events : List ViewEvent}
    (honce : ViewLoginOnce flags handleBase start events)
    {before after : List ViewEvent} {bytes : List UInt8}
    (hsplit : events = before ++ .guestSend bytes :: after)
    (hfirst : FirstLoginAfterBootstrap flags handleBase start before bytes) :
    bytes.length = viewLoginSize ∧
      NoEarlier (fun _ => IsConsumable) before := by
  obtain ⟨hbytes, hlatch⟩ := honce.swallowsFirst before bytes after hsplit
    hfirst
  refine ⟨hbytes.1, ?_⟩
  rintro earlier other middle rfl hother
  rw [pending_of_consumable hother] at hlatch
  cases hlatch

theorem ExpectedOrder.swallowsFirst
    (hpending : start.bridge.bootstrapViewLoginPending = true)
    {events : List ViewEvent}
    (horder : ExpectedOrder start (BootstrapSentBy flags handleBase start)
      events)
    {before after : List ViewEvent} {bytes : List UInt8}
    (hsplit : events = before ++ .guestSend bytes :: after)
    (hfirst : FirstLoginAfterBootstrap flags handleBase start before bytes) :
    SwallowedAfter flags handleBase start before bytes := by
  obtain ⟨hsize, hnone⟩ := horder.firstLoginConsumable before bytes after
    hsplit hfirst
  exact ⟨⟨hsize, hfirst.1.2⟩, (pending_of_noEarlier hnone).trans hpending⟩

theorem viewLoginOnce_iff
    (hstart : LatchesCounted start [])
    (hpending : start.bridge.bootstrapViewLoginPending = true)
    (events : List ViewEvent) :
    ViewLoginOnce flags handleBase start events ↔
      ExpectedOrder start (BootstrapSentBy flags handleBase start)
        events := by
  constructor
  · intro honce
    have hconsumable := (swallowsAfterBootstrap_iff hstart hpending events).mp
      honce.swallowsAfterBootstrap
    exact ⟨hconsumable,
      fun _ _ _ hsplit => honce.earlyLoginAlone hconsumable hsplit,
      fun _ _ _ hsplit => honce.firstLoginConsumable hsplit⟩
  · intro horder
    have hle : bootstrapLogins ((viewMachine flags handleBase).run start
        events).2 ≤ 1 := bootstrapLogins_le_one hstart events
    refine ⟨(swallowsAfterBootstrap_iff hstart hpending events).mpr
      horder.consumableAfterBootstrap, ?_,
      fun _ _ _ hsplit => horder.swallowsFirst hpending hsplit, ?_⟩
    · have hcounted : (((viewMachine flags handleBase).run start
          events).2.countP ViewRecord.isSwallowed) = if _ = true then 0 else 1 :=
        (latchesCounted_run hstart events).swallowed
      rw [hcounted]
      split <;> simp
    · intro before bytes after hsplit hfirst
      by_cases hsent : BootstrapSentBy flags handleBase start before
      · have hswallowed := horder.swallowsFirst hpending hsplit
          ⟨hfirst.1, hsent, fun earlier other middle hother hboth =>
            hfirst.2 earlier other middle hother hboth.1⟩
        have hall : BootstrapSentBy flags handleBase start events := by
          rw [hsplit]
          exact bootstrapSentBy_append hsent _
        exact ⟨fun _ => Nat.le_antisymm hle hall,
          fun hkept => absurd hswallowed hkept⟩
      · have hnone := horder.earlyLoginAlone before bytes after hsplit hfirst.1
          hsent
        have hkept := not_swallowedAfter_of_not_sent
          horder.consumableAfterBootstrap hsplit hsent
        exact ⟨fun hswallowed => absurd hswallowed hkept,
          fun _ => Nat.eq_zero_of_not_pos hnone⟩

end Once

/-- The view session right after a configuration that left a bridge state. -/
def configuredView (result : ConfigureResult) : Option ViewSession :=
  result.bridge.state.map fun bridge => ⟨bridge, result.globals⟩

theorem configuredView_latches
    {env : BridgeEnvironment} {globals : Globals}
    (hsucceeded : (configure env {} (unconfiguredGlobals globals)).succeeded =
      true)
    {start : ViewSession}
    (hstart : configuredView (configure env {} (unconfiguredGlobals globals)) =
      some start) :
    LatchesCounted start [] ∧
      start.bridge.bootstrapViewLoginPending = true ∧
      ∃ port packet,
        start.globals.bootstrap = armedBootstrap port packet := by
  obtain ⟨_, parameters, session, state, _, hconfigured⟩ :=
    (configure_cases env globals).resolve_right fun hfailed =>
      Bool.false_ne_true (hfailed.1.symm.trans hsucceeded)
  obtain rfl : (⟨state,
      (configure env {} (unconfiguredGlobals globals)).globals⟩ :
      ViewSession) = start := by
    simpa [configuredView, hconfigured.state] using hstart
  refine ⟨⟨?_, ?_⟩, hconfigured.pending, _, _, hconfigured.bootstrap⟩
  · simp [bootstrapLogins, hconfigured.bootstrap]
  · simp [hconfigured.pending]

/-- The server gets one view login for the guest's first one exactly in the
runs whose packets come as the bridge expects them. -/
theorem view_login_once_iff
    {env : BridgeEnvironment} {globals : Globals}
    (hsucceeded : (configure env {} (unconfiguredGlobals globals)).succeeded =
      true)
    {start : ViewSession}
    (hstart : configuredView (configure env {} (unconfiguredGlobals globals)) =
      some start)
    (flags : ExperimentalFlags) (handleBase : UInt32)
    (events : List ViewEvent) :
    ViewLoginOnce flags handleBase start events ↔
      ExpectedOrder start (LoginTaken handleBase start.globals.bootstrap)
        events := by
  obtain ⟨hcounted, hpending, port, packet, harmed⟩ :=
    configuredView_latches hsucceeded hstart
  have hsent : BootstrapSentBy flags handleBase start =
      LoginTaken handleBase start.globals.bootstrap :=
    funext fun earlier =>
      propext (bootstrapSentBy_iff_loginTaken hcounted harmed earlier)
  rw [← hsent]
  exact viewLoginOnce_iff hcounted hpending events

theorem exampleConfigured_view :
    ∃ start, configuredView exampleConfigured = some start :=
  Option.isSome_iff_exists.mp (by decide +kernel)

/-- One receive with the given `Send` result, then the guest's own login. -/
def loginAfterReceive (sent : ℤ) : List ViewEvent :=
  [.receive (viewReceive sent (.peeked keyResponse)), .guestSend viewPacket]

theorem loginAfterReceive_split
    {sent : ℤ} {before after : List ViewEvent} {bytes : List UInt8}
    (hsplit : loginAfterReceive sent = before ++ .guestSend bytes :: after) :
    before = [.receive (viewReceive sent (.peeked keyResponse))] ∧
      bytes = viewPacket := by
  rcases before with _ | ⟨first, _ | ⟨second, rest⟩⟩ <;>
    simp [loginAfterReceive] at hsplit
  exact ⟨by rw [hsplit.1], hsplit.2.1.symm⟩

theorem loginAfterReceive_reached (complete : Bool) :
    (configuredView exampleConfigured).map (fun start =>
      let reached := (viewMachine {} 0xF8000000).run start
        [.receive (viewReceive (if complete then 152 else -1)
          (.peeked keyResponse))]
      (decide (Swallows reached.1 viewPacket), bootstrapLogins reached.2)) =
        some (true, if complete then 1 else 0) := by
  cases complete <;> decide +kernel

theorem view_login_once_of_complete_send :
    ∃ start, configuredView exampleConfigured = some start ∧
      ViewLoginOnce {} 0xF8000000 start (loginAfterReceive 152) := by
  obtain ⟨start, hstart⟩ := exampleConfigured_view
  obtain ⟨hcounted, -, port, packet, harmed⟩ :=
    configuredView_latches (by decide +kernel) hstart
  refine ⟨start, hstart, (view_login_once_iff (by decide +kernel) hstart {}
    0xF8000000 _).mpr ?_⟩
  have hreached := loginAfterReceive_reached true
  rw [hstart] at hreached
  simp only [Option.map_some, Option.some.injEq, Prod.mk.injEq, if_true]
    at hreached
  have hsent : LoginTaken 0xF8000000 start.globals.bootstrap
      [.receive (viewReceive 152 (.peeked keyResponse))] := by
    refine (@bootstrapSentBy_iff_loginTaken {} _ _ hcounted _ _ harmed _).mp ?_
    rw [BootstrapSentBy, hreached.2]
    decide
  refine ⟨?_, ?_, ?_⟩
  · intro before bytes after hsplit _
    obtain ⟨rfl, rfl⟩ := loginAfterReceive_split hsplit
    exact hsent
  · intro before bytes after hsplit _ hearly
    obtain ⟨rfl, rfl⟩ := loginAfterReceive_split hsplit
    exact absurd hsent hearly
  · intro before bytes after hsplit _
    obtain ⟨rfl, rfl⟩ := loginAfterReceive_split hsplit
    refine ⟨makeViewLogin_length _ _, ?_⟩
    intro earlier other middle hother
    cases earlier <;> simp at hother

theorem view_login_lost_after_failed_send :
    ∃ start, configuredView exampleConfigured = some start ∧
      ¬ViewLoginOnce {} 0xF8000000 start (loginAfterReceive (-1)) := by
  obtain ⟨start, hstart⟩ := exampleConfigured_view
  refine ⟨start, hstart, fun honce => ?_⟩
  have hreached := loginAfterReceive_reached false
  rw [hstart] at hreached
  simp only [Option.map_some, Option.some.injEq, Prod.mk.injEq,
    decide_eq_true_eq, Bool.false_eq_true, if_false] at hreached
  have hsent := honce.swallowsAfterBootstrap _ viewPacket [] rfl hreached.1
  rw [BootstrapSentBy, hreached.2] at hsent
  exact absurd hsent (by decide)

end Revana.Runtime
