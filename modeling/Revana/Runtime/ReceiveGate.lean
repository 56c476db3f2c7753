import Revana.Foundation.Machine
import Revana.Login.LobbyRoundTrip
import Revana.Runtime.ViewBootstrap

/-!
# The gate on the guest's view receive

A returning hook lets the guest's receive go on.  The first four-byte receive
on the view port decides the bootstrap for good: it latches `responseReady`
or `failed`, and every later receive returns without another look, also one on
another socket.
-/

namespace Revana.Runtime

open Foundation
open Login

def receiveMachine (flags : ExperimentalFlags) (handleBase : UInt32) :
    Machine Globals SocketReceiveCall SocketSend where
  step globals call :=
    revanaTraceFourByteSocketReceive flags handleBase call globals

/-- A four-byte receive on a socket whose peer is the view port. -/
def Eligible (handleBase : UInt32) (port : UInt16) (call : SocketReceiveCall) :
    Prop :=
  u32 call.guest.registers.r5 = 4 ∧
    ∃ socket, call.socket handleBase = some socket ∧ socket.peerPort = port

/-- Within the attempts, and before the peer closes, the 40 bytes at the head
of the stream are a key response that is accepted. -/
def KeyResponseSeen (md5 : ℕ → Md5) (peek : ℕ → PeekResult)
    (first last : ℕ) : Prop :=
  ∃ attempt, first ≤ attempt ∧ attempt < last ∧
    (∃ bytes, (peek attempt).head keyResponseSize = some bytes ∧
      isCompleteKeyResponse (md5 attempt) bytes = true) ∧
    ∀ earlier, first ≤ earlier → earlier < attempt →
      (peek earlier).head keyResponseSize ≠ some []

/-- The login is sent completely and its response arrives. -/
def AnsweredCall (handleBase : UInt32) (packet : List UInt8)
    (call : SocketReceiveCall) : Prop :=
  ∃ socket, call.socket handleBase = some socket ∧
    socket.send packet = viewLoginSize ∧
    KeyResponseSeen call.keyResponseMd5 socket.keyResponsePeek 0
      responseWaitAttempts

/-! ## One call -/

theorem isCompleteKeyResponse_length
    {md5 : Md5} {bytes : List UInt8}
    (hcomplete : isCompleteKeyResponse md5 bytes = true) :
    bytes.length = keyResponseSize := by
  simp only [isCompleteKeyResponse, Bool.and_eq_true, decide_eq_true_eq]
    at hcomplete
  exact hcomplete.1

theorem KeyResponseSeen.later
    {md5 : ℕ → Md5} {peek : ℕ → PeekResult} {first last : ℕ}
    (hopen : (peek first).head keyResponseSize ≠ some [])
    (hseen : KeyResponseSeen md5 peek (first + 1) last) :
    KeyResponseSeen md5 peek first last := by
  obtain ⟨attempt, hfirst, hlast, haccepted, hearlier⟩ := hseen
  refine ⟨attempt, by omega, hlast, haccepted, ?_⟩
  intro earlier hlow hhigh
  by_cases heq : earlier = first
  · rw [heq]
    exact hopen
  · exact hearlier earlier (by omega) hhigh

theorem KeyResponseSeen.step
    {md5 : ℕ → Md5} {peek : ℕ → PeekResult} {first last : ℕ}
    (hrejected : ¬∃ bytes, (peek first).head keyResponseSize = some bytes ∧
      isCompleteKeyResponse (md5 first) bytes = true)
    (hseen : KeyResponseSeen md5 peek first last) :
    (peek first).head keyResponseSize ≠ some [] ∧
      KeyResponseSeen md5 peek (first + 1) last := by
  obtain ⟨attempt, hfirst, hlast, haccepted, hearlier⟩ := hseen
  have hne : first ≠ attempt := by
    rintro rfl
    exact hrejected haccepted
  refine ⟨hearlier first le_rfl (by omega), attempt, by omega, hlast,
    haccepted, ?_⟩
  intro earlier hlow hhigh
  exact hearlier earlier (by omega) hhigh

theorem awaitKeyResponse_iff
    (md5 : ℕ → Md5) (peek : ℕ → PeekResult) (remaining attempt : ℕ) :
    awaitKeyResponse md5 peek remaining attempt = true ↔
      KeyResponseSeen md5 peek attempt (attempt + remaining) := by
  induction remaining generalizing attempt with
  | zero =>
      simp only [awaitKeyResponse, Bool.false_eq_true, false_iff]
      rintro ⟨seen, hlow, hhigh, _⟩
      omega
  | succ remaining ih =>
      have hend : attempt + (remaining + 1) = attempt + 1 + remaining := by
        omega
      rw [awaitKeyResponse, hend]
      by_cases haccepted : ∃ bytes,
          (peek attempt).head keyResponseSize = some bytes ∧
            isCompleteKeyResponse (md5 attempt) bytes = true
      · obtain ⟨bytes, hbytes, hcomplete⟩ := haccepted
        have hlength := isCompleteKeyResponse_length hcomplete
        simp only [hbytes, hlength, hcomplete, and_self, if_true, true_iff]
        refine ⟨attempt, le_rfl, by omega, ⟨bytes, hbytes, hcomplete⟩, ?_⟩
        intro earlier hlow hhigh
        omega
      · have hrest : KeyResponseSeen md5 peek attempt
            (attempt + 1 + remaining) ↔
              (peek attempt).head keyResponseSize ≠ some [] ∧
                KeyResponseSeen md5 peek (attempt + 1)
                  (attempt + 1 + remaining) :=
          ⟨fun hseen => hseen.step haccepted,
            fun hlater => KeyResponseSeen.later hlater.1 hlater.2⟩
        rw [hrest, ← ih]
        cases hpeek : (peek attempt).head keyResponseSize with
        | none => simp
        | some bytes =>
            have hrejected : ¬(bytes.length = keyResponseSize ∧
                isCompleteKeyResponse (md5 attempt) bytes = true) :=
              fun hboth => haccepted ⟨bytes, hpeek, hboth.2⟩
            simp only [if_neg hrejected, ne_eq, Option.some.injEq,
              List.length_eq_zero_iff]
            by_cases hclosed : bytes = []
            · simp [hclosed]
            · simp [hclosed]

theorem observeLobbyReceive_bootstrap
    (md5 : ℕ → Md5) (socket : GuestSocket) (globals : Globals) :
    (observeLobbyReceive md5 socket globals).bootstrap =
      globals.bootstrap := by
  have hnext : ∀ globals : Globals,
      (observeNextLogin socket globals).bootstrap = globals.bootstrap := by
    intro globals
    unfold observeNextLogin
    split
    · rfl
    · split <;> rfl
  have hlist : ∀ size (globals : Globals),
      (observeCharacterList md5 socket size globals).bootstrap =
        globals.bootstrap := by
    intro size globals
    unfold observeCharacterList
    split <;> rfl
  unfold observeLobbyReceive
  split
  · rfl
  · simp only
    split_ifs <;> simp only [hnext, hlist]

/-- The bootstrap part of one call is all that touches the bootstrap. -/
theorem receive_bootstrap
    (flags : ExperimentalFlags) (handleBase : UInt32)
    (call : SocketReceiveCall) (globals : Globals) :
    let next := revanaTraceFourByteSocketReceive flags handleBase call globals
    if u32 call.guest.registers.r5 = 4 then
      next.1.bootstrap = (bootstrapReceive call.keyResponseMd5
        (call.socket handleBase) globals.bootstrap).1 ∧
      next.2 = (bootstrapReceive call.keyResponseMd5
        (call.socket handleBase) globals.bootstrap).2
    else next.1.bootstrap = globals.bootstrap ∧ next.2 = [] := by
  unfold revanaTraceFourByteSocketReceive
  by_cases hfour : u32 call.guest.registers.r5 = 4
  · simp only [hfour, ne_eq, not_true_eq_false, if_false, if_true]
    repeat' split
    all_goals simp only [observeLobbyReceive_bootstrap, and_self]
  · simp [hfour]

/-! ## Armed, then decided -/

def armedBootstrap (port : UInt16) (packet : Bytes viewLoginSize) :
    DirectViewBootstrap where
  enabled := true
  port := port
  packet := packet

def DirectViewBootstrap.Decided (bootstrap : DirectViewBootstrap) : Prop :=
  bootstrap.responseReady = true ∨ bootstrap.failed = true

theorem bootstrapReceive_of_decided
    {bootstrap : DirectViewBootstrap} (hdecided : bootstrap.Decided)
    (md5 : ℕ → Md5) (socket : Option GuestSocket) :
    bootstrapReceive md5 socket bootstrap = (bootstrap, []) := by
  unfold bootstrapReceive
  rw [if_neg]
  rintro ⟨_, hready, hfailed⟩
  cases hdecided with
  | inl hdone => simp [hdone] at hready
  | inr hdone => simp [hdone] at hfailed

theorem bootstrapReceive_of_ineligible
    {bootstrap : DirectViewBootstrap} {socket : Option GuestSocket}
    (hother : ∀ found, socket = some found →
      found.peerPort ≠ bootstrap.port) (md5 : ℕ → Md5) :
    bootstrapReceive md5 socket bootstrap = (bootstrap, []) := by
  cases socket with
  | none => simp [bootstrapReceive]
  | some found => simp [bootstrapReceive, hother found rfl]

section Calls

variable {flags : ExperimentalFlags} {handleBase : UInt32} {port : UInt16}
  {packet : Bytes viewLoginSize} {call : SocketReceiveCall} {globals : Globals}

theorem receive_of_decided (hdecided : globals.bootstrap.Decided) :
    let next := revanaTraceFourByteSocketReceive flags handleBase call globals
    next.1.bootstrap = globals.bootstrap ∧ next.2 = [] := by
  intro next
  have hspec := receive_bootstrap flags handleBase call globals
  simp only [bootstrapReceive_of_decided hdecided, ite_self] at hspec
  exact hspec

theorem receive_of_ineligible
    (hineligible : ¬Eligible handleBase globals.bootstrap.port call) :
    let next := revanaTraceFourByteSocketReceive flags handleBase call globals
    next.1.bootstrap = globals.bootstrap ∧ next.2 = [] := by
  intro next
  have hspec := receive_bootstrap flags handleBase call globals
  by_cases hfour : u32 call.guest.registers.r5 = 4
  · have hother : ∀ found, call.socket handleBase = some found →
        found.peerPort ≠ globals.bootstrap.port := fun found hfound hport =>
      hineligible ⟨hfour, found, hfound, hport⟩
    simp only [if_pos hfour, bootstrapReceive_of_ineligible hother] at hspec
    exact hspec
  · simp only [if_neg hfour] at hspec
    exact hspec

/-- The first eligible receive sends the login once and decides. -/
theorem receive_of_armed
    (harmed : globals.bootstrap = armedBootstrap port packet)
    (heligible : Eligible handleBase port call) :
    let next := revanaTraceFourByteSocketReceive flags handleBase call globals
    (AnsweredCall handleBase packet.val call ∧
      next.1.bootstrap = { armedBootstrap port (Bytes.zero viewLoginSize) with
        requestSent := true, responseReady := true }) ∨
    (¬AnsweredCall handleBase packet.val call ∧
      next.1.bootstrap.responseReady = false ∧
      next.1.bootstrap.failed = true ∧ next.1.bootstrap.port = port) := by
  intro next
  obtain ⟨hfour, socket, hsocket, hport⟩ := heligible
  have hspec := receive_bootstrap flags handleBase call globals
  rw [if_pos hfour, hsocket, harmed] at hspec
  have hanswered : AnsweredCall handleBase packet.val call ↔
      socket.send packet.val = viewLoginSize ∧
        awaitKeyResponse call.keyResponseMd5 socket.keyResponsePeek
          responseWaitAttempts 0 = true := by
    rw [awaitKeyResponse_iff, Nat.zero_add, AnsweredCall]
    simp [hsocket]
  have hrun : bootstrapReceive call.keyResponseMd5 (some socket)
      (armedBootstrap port packet) = runBootstrap call.keyResponseMd5 socket
        (armedBootstrap port packet) := by
    simp [bootstrapReceive, armedBootstrap, hport]
  rw [hrun] at hspec
  rw [hanswered, hspec.1]
  by_cases hsent : socket.send packet.val = viewLoginSize
  · by_cases hready : awaitKeyResponse call.keyResponseMd5
        socket.keyResponsePeek responseWaitAttempts 0 = true
    · left
      refine ⟨⟨hsent, hready⟩, ?_⟩
      simp [runBootstrap, sendBootstrap, armedBootstrap, hsent, hready]
    · right
      refine ⟨fun hboth => hready hboth.2, ?_⟩
      simp [runBootstrap, sendBootstrap, armedBootstrap, hsent, hready]
  · right
    refine ⟨fun hboth => hsent hboth.1, ?_⟩
    simp [runBootstrap, sendBootstrap, armedBootstrap, hsent]

theorem decided_of_armed
    (harmed : globals.bootstrap = armedBootstrap port packet)
    (heligible : Eligible handleBase port call) :
    (revanaTraceFourByteSocketReceive flags handleBase call
      globals).1.bootstrap.Decided := by
  rcases @receive_of_armed flags _ _ _ _ _ harmed heligible with
    ⟨-, hbootstrap⟩ | ⟨-, -, hfailed, -⟩
  · exact Or.inl (by rw [hbootstrap])
  · exact Or.inr hfailed

/-- It keeps the request flag up if its `Send` took the login. -/
theorem requestSent_of_armed
    (harmed : globals.bootstrap = armedBootstrap port packet)
    (heligible : Eligible handleBase port call) {socket : GuestSocket}
    (hsocket : call.socket handleBase = some socket) :
    let next := revanaTraceFourByteSocketReceive flags handleBase call globals
    next.1.bootstrap.requestSent = true ↔
      socket.send packet.val = viewLoginSize := by
  intro next
  obtain ⟨hfour, found, hfound, hport⟩ := heligible
  obtain rfl := Option.some.inj (hsocket.symm.trans hfound)
  have hspec := receive_bootstrap flags handleBase call globals
  rw [if_pos hfour, hsocket, harmed] at hspec
  rw [hspec.1]
  by_cases hsent : socket.send packet.val = viewLoginSize
  · by_cases hready : awaitKeyResponse call.keyResponseMd5
        socket.keyResponsePeek responseWaitAttempts 0 = true
    · simp [bootstrapReceive, runBootstrap, sendBootstrap, armedBootstrap,
        hport, hsent, hready]
    · simp [bootstrapReceive, runBootstrap, sendBootstrap, armedBootstrap,
        hport, hsent, hready]
  · simp [bootstrapReceive, runBootstrap, sendBootstrap, armedBootstrap,
      hport, hsent]

end Calls

/-! ## Runs of receives -/

section Runs

variable {flags : ExperimentalFlags} {handleBase : UInt32} {port : UInt16}
  {packet : Bytes viewLoginSize}

theorem run_of_decided
    {globals : Globals} (hdecided : globals.bootstrap.Decided)
    (calls : List SocketReceiveCall) :
    ((receiveMachine flags handleBase).run globals calls).1.bootstrap =
        globals.bootstrap ∧
      ((receiveMachine flags handleBase).run globals calls).2 = [] := by
  exact Machine.run_inert Globals.bootstrap
    (fun bootstrap _ => bootstrap.Decided)
    (fun _ _ hdone => receive_of_decided hdone) (fun _ _ => hdecided)

theorem run_of_ineligible
    {globals : Globals} (harmed : globals.bootstrap = armedBootstrap port packet)
    {calls : List SocketReceiveCall}
    (hineligible : ∀ call ∈ calls, ¬Eligible handleBase port call) :
    ((receiveMachine flags handleBase).run globals calls).1.bootstrap =
        armedBootstrap port packet ∧
      ((receiveMachine flags handleBase).run globals calls).2 = [] := by
  rw [← harmed]
  refine Machine.run_inert Globals.bootstrap
    (fun bootstrap call => ¬Eligible handleBase bootstrap.port call)
    (fun _ _ hcall => receive_of_ineligible hcall) ?_
  intro call hmem
  rw [harmed]
  exact hineligible call hmem

/-- The receive `call` is eligible and no earlier one was. -/
def FirstEligible (handleBase : UInt32) (port : UInt16)
    (before : List SocketReceiveCall) (call : SocketReceiveCall) : Prop :=
  (∀ earlier ∈ before, ¬Eligible handleBase port earlier) ∧
    Eligible handleBase port call

theorem exists_firstEligible
    {calls : List SocketReceiveCall} {call : SocketReceiveCall}
    (hmem : call ∈ calls) (heligible : Eligible handleBase port call) :
    ∃ before first after, calls = before ++ first :: after ∧
      FirstEligible handleBase port before first := by
  induction calls with
  | nil => simp at hmem
  | cons head rest ih =>
      by_cases hhead : Eligible handleBase port head
      · exact ⟨[], head, rest, rfl, by simp, hhead⟩
      · have hrest : call ∈ rest := by
          cases List.mem_cons.mp hmem with
          | inl heq => exact absurd (heq ▸ heligible) hhead
          | inr hrest => exact hrest
        obtain ⟨before, first, after, hsplit, hbefore, hfirst⟩ := ih hrest
        refine ⟨head :: before, first, after, by rw [hsplit]; rfl, ?_, hfirst⟩
        intro earlier hearlier
        cases List.mem_cons.mp hearlier with
        | inl heq => rwa [heq]
        | inr hlater => exact hbefore earlier hlater

/-- A run has one first eligible receive. -/
theorem FirstEligible.unique
    {before after before' after' : List SocketReceiveCall}
    {call call' : SocketReceiveCall}
    (hfirst : FirstEligible handleBase port before call)
    (hfirst' : FirstEligible handleBase port before' call')
    (hsplit : before ++ call :: after = before' ++ call' :: after') :
    before = before' ∧ call = call' := by
  induction before generalizing before' with
  | nil =>
      cases before' with
      | nil => exact ⟨rfl, (List.cons.inj hsplit).1⟩
      | cons head rest =>
          obtain ⟨rfl, -⟩ := List.cons.inj hsplit
          exact absurd hfirst.2 (hfirst'.1 _ List.mem_cons_self)
  | cons head rest ih =>
      cases before' with
      | nil =>
          obtain ⟨rfl, -⟩ := List.cons.inj hsplit
          exact absurd hfirst'.2 (hfirst.1 _ List.mem_cons_self)
      | cons other rest' =>
          obtain ⟨rfl, htail⟩ := List.cons.inj hsplit
          obtain ⟨rfl, hcall⟩ := ih
            ⟨fun earlier hmem => hfirst.1 _ (List.mem_cons_of_mem _ hmem),
              hfirst.2⟩
            ⟨fun earlier hmem => hfirst'.1 _ (List.mem_cons_of_mem _ hmem),
              hfirst'.2⟩ htail
          exact ⟨rfl, hcall⟩

/-- After its first eligible receive the run stays as that receive left it. -/
theorem run_latched
    {globals : Globals} (harmed : globals.bootstrap = armedBootstrap port packet)
    {before : List SocketReceiveCall} {call : SocketReceiveCall}
    (hfirst : FirstEligible handleBase port before call)
    (after : List SocketReceiveCall) :
    let last := ((receiveMachine flags handleBase).run globals
      (before ++ call :: after)).1.bootstrap
    (AnsweredCall handleBase packet.val call ∧ last.responseReady = true) ∨
      (¬AnsweredCall handleBase packet.val call ∧
        last.responseReady = false ∧ last.failed = true) := by
  intro last
  let reached := ((receiveMachine flags handleBase).run globals before).1
  let decided := ((receiveMachine flags handleBase).step reached call).1
  have hreached : reached.bootstrap = armedBootstrap port packet :=
    (run_of_ineligible harmed hfirst.1).1
  have hrun : last =
      ((receiveMachine flags handleBase).run decided after).1.bootstrap := by
    show ((receiveMachine flags handleBase).run globals
      (before ++ call :: after)).1.bootstrap = _
    rw [Machine.run_append, Machine.run_cons]
  have hstep : (AnsweredCall handleBase packet.val call ∧
      decided.bootstrap = { armedBootstrap port (Bytes.zero viewLoginSize) with
        requestSent := true, responseReady := true }) ∨
    (¬AnsweredCall handleBase packet.val call ∧
      decided.bootstrap.responseReady = false ∧
      decided.bootstrap.failed = true ∧ decided.bootstrap.port = port) :=
    receive_of_armed hreached hfirst.2
  rw [hrun]
  rcases hstep with ⟨hanswered, hbootstrap⟩ | ⟨hunanswered, hready, hfailed, _⟩
  · have hready : decided.bootstrap.responseReady = true := by rw [hbootstrap]
    rw [(run_of_decided (Or.inl hready) after).1]
    exact Or.inl ⟨hanswered, hready⟩
  · rw [(run_of_decided (Or.inr hfailed) after).1]
    exact Or.inr ⟨hunanswered, hready, hfailed⟩

theorem run_requestSent
    {globals : Globals} (harmed : globals.bootstrap = armedBootstrap port packet)
    {before : List SocketReceiveCall} {call : SocketReceiveCall}
    (hfirst : FirstEligible handleBase port before call) {socket : GuestSocket}
    (hsocket : call.socket handleBase = some socket)
    (after : List SocketReceiveCall) :
    ((receiveMachine flags handleBase).run globals
      (before ++ call :: after)).1.bootstrap.requestSent = true ↔
        socket.send packet.val = viewLoginSize := by
  let reached := ((receiveMachine flags handleBase).run globals before).1
  let decided := ((receiveMachine flags handleBase).step reached call).1
  have hreached : reached.bootstrap = armedBootstrap port packet :=
    (run_of_ineligible harmed hfirst.1).1
  have hdecided : decided.bootstrap.Decided :=
    decided_of_armed hreached hfirst.2
  rw [Machine.run_append, Machine.run_cons]
  show ((receiveMachine flags handleBase).run decided
    after).1.bootstrap.requestSent = true ↔ _
  rw [(run_of_decided hdecided after).1]
  exact requestSent_of_armed hreached hfirst.2 hsocket

theorem run_of_firstEligible
    {globals : Globals} (harmed : globals.bootstrap = armedBootstrap port packet)
    {before : List SocketReceiveCall} {call : SocketReceiveCall}
    (hfirst : FirstEligible handleBase port before call)
    (after : List SocketReceiveCall) :
    ((receiveMachine flags handleBase).run globals
      (before ++ call :: after)).1.bootstrap.responseReady = true ↔
        AnsweredCall handleBase packet.val call := by
  have hlatched : (AnsweredCall handleBase packet.val call ∧ _) ∨ _ :=
    @run_latched flags handleBase port packet globals harmed before call hfirst
      after
  rcases hlatched with ⟨hanswered, hready⟩ | ⟨hunanswered, hready, -⟩
  · exact iff_of_true hready hanswered
  · rw [hready]
    exact iff_of_false Bool.false_ne_true hunanswered

theorem decided_of_firstEligible
    {globals : Globals} (harmed : globals.bootstrap = armedBootstrap port packet)
    {before : List SocketReceiveCall} {call : SocketReceiveCall}
    (hfirst : FirstEligible handleBase port before call)
    (after : List SocketReceiveCall) :
    ((receiveMachine flags handleBase).run globals
      (before ++ call :: after)).1.bootstrap.Decided := by
  have hlatched : (AnsweredCall handleBase packet.val call ∧ _) ∨ _ :=
    @run_latched flags handleBase port packet globals harmed before call hfirst
      after
  rcases hlatched with ⟨-, hready⟩ | ⟨-, -, hfailed⟩
  · exact Or.inl hready
  · exact Or.inr hfailed

end Runs

/-! ## The gate -/

/-- A four-byte receive on this socket, whose peer is the view port. -/
structure EligibleOn (handleBase : UInt32) (port : UInt16)
    (call : SocketReceiveCall) (socket : GuestSocket) : Prop where
  four : u32 call.guest.registers.r5 = 4
  found : call.socket handleBase = some socket
  port : socket.peerPort = port

theorem EligibleOn.eligible
    {handleBase : UInt32} {port : UInt16} {call : SocketReceiveCall}
    {socket : GuestSocket} (hon : EligibleOn handleBase port call socket) :
    Eligible handleBase port call :=
  ⟨hon.four, socket, hon.found, hon.port⟩

/-- In this call the hook peeks at the stream of the socket until it finds the
response. -/
structure WaitsOn (handleBase : UInt32) (bootstrap : DirectViewBootstrap)
    (call : SocketReceiveCall) (socket : GuestSocket) : Prop where
  receives : EligibleOn handleBase bootstrap.port call socket
  enabled : bootstrap.enabled = true
  undecided : ¬bootstrap.Decided
  sent : (sendBootstrap socket bootstrap).1.requestSent = true

/-- One of the calls waited on the socket and saw an accepted key response at
the head of its stream. -/
def SeenOn (flags : ExperimentalFlags) (handleBase : UInt32) (start : Globals)
    (calls : List SocketReceiveCall) (object : ℕ) : Prop :=
  ∃ before call after socket, calls = before ++ call :: after ∧
    WaitsOn handleBase
      ((receiveMachine flags handleBase).run start before).1.bootstrap call
      socket ∧
    socket.object = object ∧
    KeyResponseSeen call.keyResponseMd5 socket.keyResponsePeek 0
      responseWaitAttempts

/-- No hook call returns from a receive on a view socket unless the response is
ready, having been seen on that very socket. -/
def GatedThroughout (flags : ExperimentalFlags) (handleBase : UInt32)
    (port : UInt16) (start : Globals) (calls : List SocketReceiveCall) : Prop :=
  ∀ before call after socket, calls = before ++ call :: after →
    EligibleOn handleBase port call socket →
    ((receiveMachine flags handleBase).run start
      (before ++ [call])).1.bootstrap.responseReady = true ∧
    SeenOn flags handleBase start (before ++ [call]) socket.object

/-- The first eligible receive sends the packet completely and gets its
response in time. -/
def FirstReceiveAnswered (handleBase : UInt32) (port : UInt16)
    (packet : List UInt8) (calls : List SocketReceiveCall) : Prop :=
  ∀ before call after, calls = before ++ call :: after →
    FirstEligible handleBase port before call →
    AnsweredCall handleBase packet call

/-- All eligible receives are on one socket. -/
def OneViewSocket (handleBase : UInt32) (port : UInt16)
    (calls : List SocketReceiveCall) : Prop :=
  ∀ call ∈ calls, ∀ other ∈ calls, ∀ socket second,
    EligibleOn handleBase port call socket →
    EligibleOn handleBase port other second →
    socket.object = second.object

theorem configureBootstrap_armed
    {port : UInt16} {packet : List UInt8} {globals configured : Globals}
    (hconfigured : revanaConfigureDirectLobbyViewBootstrap port (some packet)
      globals = (true, configured)) :
    ∃ hsize : packet.length = viewLoginSize,
      configured.bootstrap = armedBootstrap port ⟨packet, hsize⟩ := by
  rw [revanaConfigureDirectLobbyViewBootstrap] at hconfigured
  split at hconfigured
  · rename_i hvalid
    obtain rfl := (Prod.mk.inj hconfigured).2
    exact ⟨hvalid.2, rfl⟩
  · simp at hconfigured

section Gate

variable {flags : ExperimentalFlags} {handleBase : UInt32} {port : UInt16}
  {packet : Bytes viewLoginSize}

theorem eligible_mem_of_firstEligible
    {calls before after : List SocketReceiveCall} {first : SocketReceiveCall}
    (hsplit : calls = before ++ first :: after)
    (hfirst : FirstEligible handleBase port before first) :
    first ∈ calls ∧ ∃ socket, EligibleOn handleBase port first socket := by
  obtain ⟨hfour, socket, hfound, hport⟩ := hfirst.2
  exact ⟨by simp [hsplit], socket, hfour, hfound, hport⟩

/-- The wait of an answered first receive sees the response on its socket. -/
theorem seenOn_of_answered
    {globals : Globals} (harmed : globals.bootstrap = armedBootstrap port packet)
    {before : List SocketReceiveCall} {call : SocketReceiveCall}
    {socket : GuestSocket}
    (hfirst : FirstEligible handleBase port before call)
    (hon : EligibleOn handleBase port call socket)
    (hanswered : AnsweredCall handleBase packet.val call)
    (after : List SocketReceiveCall) :
    SeenOn flags handleBase globals (before ++ call :: after)
      socket.object := by
  obtain ⟨other, hfound, hsent, hseen⟩ := hanswered
  obtain rfl : other = socket :=
    Option.some.inj (hfound.symm.trans hon.found)
  have hreached : ((receiveMachine flags handleBase).run globals
      before).1.bootstrap = armedBootstrap port packet :=
    (run_of_ineligible harmed hfirst.1).1
  refine ⟨before, call, after, other, rfl, ?_, rfl, hseen⟩
  rw [hreached]
  refine ⟨hon, rfl, ?_, ?_⟩
  · rintro (hready | hfailed)
    · cases hready
    · cases hfailed
  · simp [sendBootstrap, armedBootstrap, hsent]

/-- The only receive that waits is the first eligible one. -/
theorem firstEligible_of_waits
    {globals : Globals} (harmed : globals.bootstrap = armedBootstrap port packet)
    {before : List SocketReceiveCall} {call : SocketReceiveCall}
    {socket : GuestSocket}
    (hwaits : WaitsOn handleBase ((receiveMachine flags handleBase).run globals
      before).1.bootstrap call socket) :
    FirstEligible handleBase port before call ∧
      EligibleOn handleBase port call socket := by
  have hquiet : ∀ earlier ∈ before, ¬Eligible handleBase port earlier := by
    intro earlier hmem heligible
    obtain ⟨start, first, rest, hsplit, hfirst⟩ :=
      exists_firstEligible hmem heligible
    apply hwaits.undecided
    rw [hsplit]
    exact decided_of_firstEligible harmed hfirst rest
  have hreached : ((receiveMachine flags handleBase).run globals
      before).1.bootstrap = armedBootstrap port packet :=
    (run_of_ineligible harmed hquiet).1
  have hon := hwaits.receives
  rw [hreached] at hon
  exact ⟨⟨hquiet, hon.eligible⟩, hon⟩

end Gate

/-- The guest's view receive is gated exactly in the runs whose eligible
receives are all on one socket and whose first one is answered. -/
theorem socketReceive_gated_iff
    {port : UInt16} {packet : List UInt8} {globals configured : Globals}
    (hconfigured : revanaConfigureDirectLobbyViewBootstrap port (some packet)
      globals = (true, configured))
    (flags : ExperimentalFlags) (handleBase : UInt32)
    (calls : List SocketReceiveCall) :
    GatedThroughout flags handleBase port configured calls ↔
      FirstReceiveAnswered handleBase port packet calls ∧
        OneViewSocket handleBase port calls := by
  obtain ⟨hsize, harmed⟩ := configureBootstrap_armed hconfigured
  constructor
  · intro hgated
    -- Whatever was seen was seen by the first eligible receive.
    have hseen : ∀ call ∈ calls, ∀ socket,
        EligibleOn handleBase port call socket →
        ∃ before first after found, calls = before ++ first :: after ∧
          FirstEligible handleBase port before first ∧
          EligibleOn handleBase port first found ∧
          found.object = socket.object := by
      intro call hmem socket hon
      obtain ⟨before, after, hsplit⟩ := List.append_of_mem hmem
      obtain ⟨-, earlier, first, later, found, hseen, hwaits, hobject, -⟩ :=
        hgated before call after socket hsplit hon
      obtain ⟨hfirst, hfound⟩ := firstEligible_of_waits harmed hwaits
      refine ⟨earlier, first, later ++ after, found, ?_, hfirst, hfound,
        hobject⟩
      calc
        calls = before ++ [call] ++ after := by simp [hsplit]
        _ = earlier ++ first :: later ++ after := by rw [hseen]
        _ = earlier ++ first :: (later ++ after) := by simp
    constructor
    · intro before call after hsplit hfirst
      obtain ⟨-, socket, hon⟩ := eligible_mem_of_firstEligible hsplit hfirst
      have hready := (hgated before call after socket hsplit hon).1
      exact (run_of_firstEligible harmed hfirst []).mp hready
    · intro call hcall other hother socket second hon hsecond
      obtain ⟨before, first, after, found, hsplit, hfirst, hfound, hobject⟩ :=
        hseen call hcall socket hon
      obtain ⟨before', first', after', found', hsplit', hfirst', hfound',
        hobject'⟩ := hseen other hother second hsecond
      obtain ⟨rfl, rfl⟩ := hfirst.unique hfirst' (hsplit.symm.trans hsplit')
      obtain rfl : found = found' :=
        Option.some.inj (hfound.found.symm.trans hfound'.found)
      exact hobject.symm.trans hobject'
  · rintro ⟨hanswered, hone⟩ before call after socket hsplit hon
    obtain ⟨earlier, first, later, hearlier, hfirst⟩ :=
      exists_firstEligible (by simp : call ∈ before ++ [call]) hon.eligible
    have hcalls : calls = earlier ++ first :: (later ++ after) := by
      calc
        calls = before ++ [call] ++ after := by simp [hsplit]
        _ = earlier ++ first :: later ++ after := by rw [hearlier]
        _ = earlier ++ first :: (later ++ after) := by simp
    obtain ⟨hmem, found, hfound⟩ :=
      eligible_mem_of_firstEligible hcalls hfirst
    have hfirstAnswered : AnsweredCall handleBase packet first :=
      hanswered earlier first (later ++ after) hcalls hfirst
    have hobject : found.object = socket.object :=
      hone first hmem call (by simp [hsplit]) found socket hfound hon
    rw [hearlier, ← hobject]
    exact ⟨(run_of_firstEligible harmed hfirst later).mpr hfirstAnswered,
      seenOn_of_answered harmed hfirst hfound hfirstAnswered later⟩

/-! ## One receive answered and one not -/

/-- Forty bytes with command `0x05` and their own identifier. -/
def keyResponse : List UInt8 :=
  le32Bytes 40 ++ lobbyMarker ++ le32Bytes 5 ++ keyResponseDigest.val ++
    le32Bytes 1 ++ le32Bytes 2 ++ le32Bytes 3

/-- A four-byte receive on a view socket with the given answers. -/
def viewReceiveOn (object : ℕ) (sent : ℤ) (peek : PeekResult) :
    SocketReceiveCall where
  guest := ⟨⟨0, 0, 0, 4, 0, 0, 0, 0, 0, 0⟩, fun _ => 0⟩
  lookupSocket := fun _ => some {
    object := object
    peerPort := 54001
    send := fun _ => sent
    keyResponsePeek := fun _ => peek
    headerPeek := .failed
    nextLoginPeek := .failed
    characterListPeek := fun _ => .failed }
  keyResponseMd5 := fun _ => md5Call (fun _ => keyResponseDigest) true
  characterListMd5 := fun _ => md5Call (fun _ => keyResponseDigest) true

def viewReceive (sent : ℤ) (peek : PeekResult) : SocketReceiveCall :=
  viewReceiveOn 1 sent peek

def viewPacket : List UInt8 :=
  makeViewLogin ⟨List.replicate 16 0x11, rfl⟩ ⟨List.replicate 10 0x33, rfl⟩

def viewArmed : Globals :=
  (revanaConfigureDirectLobbyViewBootstrap 54001 (some viewPacket) {}).2

/-- The answered receive, and a later one on the same socket. -/
theorem socketReceive_gated_of_response :
    GatedThroughout {} 0xF8000000 54001 viewArmed
      [viewReceive 152 (.peeked keyResponse), viewReceive 152 .failed] := by
  have hconfigured : revanaConfigureDirectLobbyViewBootstrap 54001
      (some viewPacket) {} = (true, viewArmed) := by decide +kernel
  refine (socketReceive_gated_iff hconfigured {} 0xF8000000 _).mpr ⟨?_, ?_⟩
  · intro before call after hsplit hfirst
    have hresponse : FirstEligible 0xF8000000 54001 []
        (viewReceive 152 (.peeked keyResponse)) := by
      refine ⟨?_, rfl, _, rfl, rfl⟩
      intro earlier hmem
      cases hmem
    obtain ⟨-, rfl⟩ := hresponse.unique hfirst hsplit
    refine ⟨_, rfl, rfl, 0, le_rfl, by decide, ⟨keyResponse, rfl, ?_⟩, ?_⟩
    · decide +kernel
    · intro earlier _ hearlier
      omega
  · have hobject : ∀ call ∈ [viewReceive 152 (.peeked keyResponse),
        viewReceive 152 .failed], ∀ socket,
          EligibleOn 0xF8000000 54001 call socket → socket.object = 1 := by
      simp only [List.forall_mem_cons]
      refine ⟨?_, ?_, fun _ hmem => nomatch hmem⟩
      all_goals
        intro socket hon
        rw [← Option.some.inj hon.found]
    intro call hcall other hother socket second hon hsecond
    exact (hobject call hcall socket hon).trans
      (hobject other hother second hsecond).symm

/-- A refused `Send` lets the receive go on; so does, on another socket, the
answer that the first one got. -/
theorem socketReceive_released_after_failed_send :
    revanaConfigureDirectLobbyViewBootstrap 54001 (some viewPacket) {} =
      (true, viewArmed) ∧
    ¬GatedThroughout {} 0xF8000000 54001 viewArmed
      [viewReceive (-1) .failed] ∧
    ¬GatedThroughout {} 0xF8000000 54001 viewArmed
      [viewReceive 152 (.peeked keyResponse), viewReceiveOn 2 152 .failed] := by
  have hconfigured : revanaConfigureDirectLobbyViewBootstrap 54001
      (some viewPacket) {} = (true, viewArmed) := by decide +kernel
  refine ⟨hconfigured, fun hgated => ?_, fun hgated => ?_⟩
  · have hready := (hgated [] (viewReceive (-1) .failed) [] _ rfl
      ⟨rfl, rfl, rfl⟩).1
    revert hready
    decide +kernel
  · obtain ⟨hsize, harmed⟩ := configureBootstrap_armed hconfigured
    obtain ⟨-, before, call, after, socket, hsplit, hwaits, hobject, -⟩ :=
      hgated [viewReceive 152 (.peeked keyResponse)]
        (viewReceiveOn 2 152 .failed) [] _ rfl ⟨rfl, rfl, rfl⟩
    obtain ⟨hfirst, hon⟩ := firstEligible_of_waits harmed hwaits
    have hresponse : FirstEligible 0xF8000000 54001 []
        (viewReceive 152 (.peeked keyResponse)) := by
      refine ⟨?_, rfl, _, rfl, rfl⟩
      intro earlier hmem
      cases hmem
    obtain ⟨-, rfl⟩ := hresponse.unique hfirst hsplit
    rw [← Option.some.inj hon.found] at hobject
    revert hobject
    decide +kernel

end Revana.Runtime
