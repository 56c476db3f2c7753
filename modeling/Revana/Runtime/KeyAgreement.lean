import Revana.Runtime.LobbyBridgeConfigure
import Revana.Runtime.MapKeyLifecycle

/-!
# The two copies of the map-session key

The bridge hands its own copy of the key to the server at every character
selection, and the hooks derive the guest's cipher from theirs.  Only the
hooks' copy follows the zone handoffs, so the copies agree at a selection
exactly when the rollovers so far cancel out in the rollover word.
-/

namespace Revana.Runtime

open Foundation
open Login

/-- How far the coordination thread has come. -/
inductive Coordination where
  | waiting
  | selectionSent
  deriving DecidableEq, Repr

structure LobbySession where
  bridge : BridgeState
  coordination : Option Coordination := none
  globals : Globals

inductive LobbyEvent where
  | connect (connect : GuestConnect)
  /-- The coordination reaches the send of its data-selection request. -/
  | selection
  /-- The coordination ends, with success or failure. -/
  | finish
  | receive (guest : Guest) (md5Available : ℕ → Bool)
  | handoff (guest : Guest)

inductive LobbyRecord where
  | mapKey (record : MapKeyRecord)
  | selectionRequest (request : List UInt8)

section Machine

variable (translateVirtual : UInt32 → ℕ) (digest : List UInt8 → Bytes 16)

def lobbyStep (session : LobbySession) :
    LobbyEvent → LobbySession × List LobbyRecord
  | .connect connect =>
      let (_, started, bridge) := beforeConnect connect session.bridge
      ({ session with
        bridge
        coordination :=
          if started then some .waiting else session.coordination }, [])
  | .selection =>
      match session.coordination with
      | some .waiting =>
          ({ session with coordination := some .selectionSent },
            [.selectionRequest
              (makeDataSelectionRequest session.bridge.mapSessionKey)])
      | _ => (session, [])
  | .finish =>
      match session.coordination with
      | some _ =>
          ({ session with
            bridge := finishCoordination session.bridge
            coordination := none }, [])
      | none => (session, [])
  | .receive guest md5Available =>
      let (globals, records) := (mapKeyMachine translateVirtual digest).step
        session.globals (.receive guest md5Available)
      ({ session with globals }, records.map .mapKey)
  | .handoff guest =>
      let (globals, records) := (mapKeyMachine translateVirtual digest).step
        session.globals (.apply guest)
      ({ session with globals }, records.map .mapKey)

def lobbyMachine : Machine LobbySession LobbyEvent LobbyRecord where
  step := lobbyStep translateVirtual digest

end Machine

/-- The 20 key bytes of a data-selection request. -/
def selectionKey (request : List UInt8) : List UInt8 :=
  (request.drop 1).take mapSessionKeySize

theorem selectionKey_makeDataSelectionRequest (key : MapSessionKey) :
    selectionKey (makeDataSelectionRequest key) = key.val := by
  rw [selectionKey, show mapSessionKeySize = key.val.length from
    key.property.symm]
  exact splice_patch (by simp [dataRequestSize])

def LobbyRecord.isRollover : LobbyRecord → Bool
  | .mapKey record => record.isRollover
  | .selectionRequest _ => false

/-- The rollovers that took effect. -/
def rollovers (records : List LobbyRecord) : ℕ :=
  records.countP LobbyRecord.isRollover

/-- Every request the event sends carries the key of the hooks, and the
cipher the guest installs next is derived from it. -/
def SelectionAgrees (digest : List UInt8 → Bytes 16) (session : LobbySession)
    (sent : List LobbyRecord) : Prop :=
  ∀ request, .selectionRequest request ∈ sent →
    selectionKey request = session.globals.mapKey.sessionKey.val ∧
    session.globals.mapKey.cipherKey =
      truncateDigest (digest (selectionKey request))

/-! ## Keys that agree -/

theorem mapSessionKey_ext
    {left right : MapSessionKey}
    (htake : left.val.take rolloverWordOffset =
      right.val.take rolloverWordOffset)
    (hword : rolloverWord left = rolloverWord right) : left = right := by
  have hbytes : ∀ key : MapSessionKey,
      key.val.drop rolloverWordOffset = le32Bytes (rolloverWord key) := by
    intro key
    have hlength := key.property
    rw [rolloverWord, le32Bytes_readLe32 (by simp [hlength,
      rolloverWordOffset]), List.take_of_length_le]
    simp [hlength, rolloverWordOffset]
  apply Subtype.ext
  rw [← List.take_append_drop rolloverWordOffset left.val,
    ← List.take_append_drop rolloverWordOffset right.val, htake, hbytes,
    hbytes, hword]

theorem advancedBy_eq_iff
    {key current : MapSessionKey} {count : ℕ}
    (hadvanced : AdvancedBy key count current) :
    key = current ↔ count % 2 ^ 31 = 0 := by
  obtain ⟨htake, hword⟩ := hadvanced
  have hkey := (rolloverWord key).toNat_lt
  constructor
  · rintro rfl
    omega
  · intro hcount
    refine mapSessionKey_ext htake.symm ?_
    apply UInt32.toNat_inj.mp
    omega

/-- Visits and copies keep the key live and count the rollovers. -/
theorem liveKey_of_path
    {digest : List UInt8 → Bytes 16} {first last : DirectMapKey}
    {records : List MapKeyRecord}
    (hpath : Path (MapKeyStep digest) first records last)
    (hvisits : ∀ record ∈ records, (∃ visit, record = .visited visit) ∨
      ∃ cipherKey, record = .copied cipherKey)
    {key : MapSessionKey} {count : ℕ}
    (hlive : LiveKey digest key count first) :
    LiveKey digest key (count + records.countP MapKeyRecord.isRollover)
      last := by
  induction hpath generalizing count with
  | nil => simpa using hlive
  | cons hstep hrest ih =>
      have hhead := hvisits _ List.mem_cons_self
      have htail := fun record hmem =>
        hvisits record (List.mem_cons_of_mem _ hmem)
      rw [List.countP_cons]
      cases hstep with
      | configured key => simp at hhead
      | cleared => simp at hhead
      | copied =>
          have hnext := ih htail ⟨hlive.enabled, hlive.cipher, hlive.advanced⟩
          simpa [MapKeyRecord.isRollover] using hnext
      | rollover visit hvisit henabled hpending =>
          have hnext := ih htail ⟨henabled, rfl, hlive.advanced.advance⟩
          simpa [MapKeyRecord.isRollover, hvisit, Nat.add_assoc,
            Nat.add_comm 1] using hnext
      | login visit hvisit =>
          have hrollover : ¬visit.IsRollover := by
            intro hrollover
            rw [SubPacketVisit.IsRollover, hvisit.1] at hrollover
            exact absurd hrollover.1 (by decide)
          have hnext := ih htail ⟨hlive.enabled, hlive.cipher, hlive.advanced⟩
          simpa [MapKeyRecord.isRollover, hrollover] using hnext
      | ignored visit hrollover hlogin =>
          simpa [MapKeyRecord.isRollover, hrollover] using ih htail hlive

/-! ## Runs of the lobby -/

/-- The bridge still has `key`; the hooks are the rollovers ahead of it. -/
structure KeysTracked (digest : List UInt8 → Bytes 16) (key : MapSessionKey)
    (session : LobbySession) (records : List LobbyRecord) : Prop where
  bridge : session.bridge.mapSessionKey = key
  live : LiveKey digest key (rollovers records) session.globals.mapKey

theorem rollovers_append_mapKey
    (records : List LobbyRecord) (more : List MapKeyRecord) :
    rollovers (records ++ more.map .mapKey) =
      rollovers records + more.countP MapKeyRecord.isRollover := by
  rw [rollovers, List.countP_append, List.countP_map]
  rfl

section Runs

variable {translateVirtual : UInt32 → ℕ} {digest : List UInt8 → Bytes 16}

/-- A datagram or a handoff, seen through the key machine. -/
theorem KeysTracked.mapKey
    {key : MapSessionKey} {session : LobbySession}
    {records : List LobbyRecord}
    (htracked : KeysTracked digest key session records) (event : MapKeyEvent)
    (hvisits : ∀ record ∈ ((mapKeyMachine translateVirtual digest).step
      session.globals event).2, (∃ visit, record = .visited visit) ∨
        ∃ cipherKey, record = .copied cipherKey) :
    let next := (mapKeyMachine translateVirtual digest).step session.globals
      event
    KeysTracked digest key { session with globals := next.1 }
      (records ++ next.2.map .mapKey) := by
  intro next
  refine ⟨htracked.bridge, ?_⟩
  rw [rollovers_append_mapKey]
  exact liveKey_of_path
    (mapKeyMachine_step_path translateVirtual session.globals event) hvisits
    htracked.live

theorem beforeConnect_mapSessionKey
    (connect : GuestConnect) (state : BridgeState) :
    (beforeConnect connect state).2.2.mapSessionKey =
      state.mapSessionKey := by
  unfold beforeConnect
  split <;> rfl

theorem keysTracked_step
    {key : MapSessionKey} (session : LobbySession)
    (records : List LobbyRecord) (event : LobbyEvent)
    (htracked : KeysTracked digest key session records) :
    let next := (lobbyMachine translateVirtual digest).step session event
    KeysTracked digest key next.1 (records ++ next.2) := by
  cases event with
  | connect connect =>
      refine ⟨?_, ?_⟩
      · exact (beforeConnect_mapSessionKey connect session.bridge).trans
          htracked.bridge
      · simpa [lobbyMachine, lobbyStep] using htracked.live
  | selection =>
      simp only [lobbyMachine, lobbyStep]
      split
      · refine ⟨htracked.bridge, ?_⟩
        simpa [rollovers, LobbyRecord.isRollover] using htracked.live
      · simpa using htracked
  | finish =>
      simp only [lobbyMachine, lobbyStep]
      split
      · exact ⟨htracked.bridge, by simpa using htracked.live⟩
      · simpa using htracked
  | receive guest md5Available =>
      refine htracked.mapKey (.receive guest md5Available) ?_
      intro record hrecord
      obtain ⟨visit, _, rfl⟩ := List.mem_map.mp hrecord
      exact Or.inl ⟨visit, rfl⟩
  | handoff guest =>
      refine htracked.mapKey (.apply guest) ?_
      intro record hrecord
      obtain ⟨cipherKey, _, rfl⟩ :=
        Option.map_eq_some_iff.mp (Option.mem_toList.mp hrecord)
      exact Or.inr ⟨cipherKey, rfl⟩

theorem keysTracked_run
    {key : MapSessionKey} {session : LobbySession}
    (htracked : KeysTracked digest key session []) (events : List LobbyEvent) :
    let outcome := (lobbyMachine translateVirtual digest).run session events
    KeysTracked digest key outcome.1 outcome.2 :=
  Machine.run_history (KeysTracked digest key) keysTracked_step htracked events

/-- One selection agrees exactly when the rollovers cancel out. -/
theorem selectionAgrees_iff
    {key : MapSessionKey} {session : LobbySession}
    {records : List LobbyRecord}
    (htracked : KeysTracked digest key session records)
    (hwaiting : session.coordination = some .waiting) :
    SelectionAgrees digest session
      ((lobbyMachine translateVirtual digest).step session .selection).2 ↔
        rollovers records % 2 ^ 31 = 0 := by
  rw [← advancedBy_eq_iff htracked.live.advanced]
  simp only [SelectionAgrees, lobbyMachine, lobbyStep, hwaiting,
    List.mem_singleton, LobbyRecord.selectionRequest.injEq]
  constructor
  · intro hagrees
    obtain ⟨hkeys, _⟩ := hagrees _ rfl
    rw [selectionKey_makeDataSelectionRequest, htracked.bridge] at hkeys
    exact Subtype.ext hkeys
  · rintro hequal request rfl
    rw [selectionKey_makeDataSelectionRequest, htracked.bridge, hequal]
    exact ⟨rfl, htracked.live.cipher⟩

/-- Agreement at every event of a run. -/
def AgreesThroughout (translateVirtual : UInt32 → ℕ)
    (digest : List UInt8 → Bytes 16) (start : LobbySession)
    (events : List LobbyEvent) : Prop :=
  ∀ before event after, events = before ++ event :: after →
    let machine := lobbyMachine translateVirtual digest
    let reached := (machine.run start before).1
    SelectionAgrees digest reached (machine.step reached event).2

/-- Wherever a coordination sends its selection, the zone handoffs so far
have rolled the key over a multiple of `2 ^ 31` times. -/
def RolloversCancel (translateVirtual : UInt32 → ℕ)
    (digest : List UInt8 → Bytes 16) (start : LobbySession)
    (events : List LobbyEvent) : Prop :=
  ∀ before after, events = before ++ .selection :: after →
    let reached := (lobbyMachine translateVirtual digest).run start before
    reached.1.coordination = some .waiting → rollovers reached.2 % 2 ^ 31 = 0

theorem selectionAgrees_of_no_request
    {session : LobbySession} {sent : List LobbyRecord}
    (hnone : ∀ request, .selectionRequest request ∉ sent) :
    SelectionAgrees digest session sent :=
  fun request hrequest => absurd hrequest (hnone request)

theorem step_sends_only_selections
    {session : LobbySession} {event : LobbyEvent}
    (hevent : event ≠ .selection ∨ session.coordination ≠ some .waiting)
    (request : List UInt8) :
    .selectionRequest request ∉
      ((lobbyMachine translateVirtual digest).step session event).2 := by
  cases event with
  | connect connect => simp [lobbyMachine, lobbyStep]
  | selection =>
      have hcoordination := hevent.resolve_left (by simp)
      simp [lobbyMachine, lobbyStep]
  | finish =>
      simp only [lobbyMachine, lobbyStep]
      split <;> simp
  | receive guest md5Available => simp [lobbyMachine, lobbyStep]
  | handoff guest => simp [lobbyMachine, lobbyStep]

theorem agreesThroughout_iff
    {key : MapSessionKey} {start : LobbySession}
    (hstart : KeysTracked digest key start []) (events : List LobbyEvent) :
    AgreesThroughout translateVirtual digest start events ↔
      RolloversCancel translateVirtual digest start events := by
  have htracked : ∀ before,
      let outcome := (lobbyMachine translateVirtual digest).run start before
      KeysTracked digest key outcome.1 outcome.2 := fun before =>
    keysTracked_run hstart before
  constructor
  · intro hagrees before after hsplit reached hwaiting
    exact (selectionAgrees_iff (htracked before) hwaiting).mp
      (hagrees before .selection after hsplit)
  · intro hcancel before event after hsplit machine reached
    by_cases hevent : event = .selection ∧ reached.coordination = some .waiting
    · obtain ⟨rfl, hwaiting⟩ := hevent
      exact (selectionAgrees_iff (htracked before) hwaiting).mpr
        (hcancel before after hsplit hwaiting)
    · exact selectionAgrees_of_no_request
        (step_sends_only_selections (not_and_or.mp hevent))

end Runs

/-- The lobby right after a configuration that left a bridge state. -/
def configuredLobby (result : ConfigureResult) : Option LobbySession :=
  result.bridge.state.map fun bridge => { bridge, globals := result.globals }

theorem configuredLobby_tracked
    {env : BridgeEnvironment} {globals : Globals}
    {digest : List UInt8 → Bytes 16}
    (hmd5 : ∀ bytes result, env.mapKeyMd5 bytes = some result →
      result = digest bytes)
    (hsucceeded : (configure env {} (unconfiguredGlobals globals)).succeeded =
      true)
    {start : LobbySession}
    (hstart : configuredLobby (configure env {} (unconfiguredGlobals globals)) =
      some start) :
    ∃ key, KeysTracked digest key start [] := by
  obtain ⟨_, parameters, session, state, _, hconfigured⟩ :=
    (configure_cases env globals).resolve_right fun hfailed =>
      Bool.false_ne_true (hfailed.1.symm.trans hsucceeded)
  obtain rfl : ({
      bridge := state
      globals := (configure env {} (unconfiguredGlobals globals)).globals
      } : LobbySession) = start := by
    simpa [configuredLobby, hconfigured.state] using hstart
  obtain ⟨result, hresult, hcipher⟩ :=
    Option.map_eq_some_iff.mp hconfigured.cipherKey
  refine ⟨state.mapSessionKey, rfl, hconfigured.mapKeyEnabled, ?_, ?_⟩
  · rw [← hcipher, hmd5 _ _ hresult, hconfigured.mapKey]
  · rw [hconfigured.mapKey]
    exact AdvancedBy.zero _

/-- The request of every selection carries the hooks' key exactly in the runs
whose rollovers cancel out before each selection. -/
theorem selection_keys_agree_iff
    {env : BridgeEnvironment} {globals : Globals}
    {digest : List UInt8 → Bytes 16}
    (hmd5 : ∀ bytes result, env.mapKeyMd5 bytes = some result →
      result = digest bytes)
    (hsucceeded : (configure env {} (unconfiguredGlobals globals)).succeeded =
      true)
    {start : LobbySession}
    (hstart : configuredLobby (configure env {} (unconfiguredGlobals globals)) =
      some start)
    (translateVirtual : UInt32 → ℕ) (events : List LobbyEvent) :
    AgreesThroughout translateVirtual digest start events ↔
      RolloversCancel translateVirtual digest start events := by
  obtain ⟨key, htracked⟩ := configuredLobby_tracked hmd5 hsucceeded hstart
  exact agreesThroughout_iff htracked events

theorem exampleConfigured_lobby :
    ∃ start, configuredLobby exampleConfigured = some start :=
  Option.isSome_iff_exists.mp (by decide +kernel)

theorem exampleMd5_digest (bytes : List UInt8) (result : Bytes 16)
    (hresult : exampleEnvironment.mapKeyMd5 bytes = some result) :
    result = exampleDigest bytes :=
  (Option.some.inj hresult).symm

def firstVisit : List LobbyEvent :=
  [.connect ⟨true, loginViewPort, 0⟩, .selection, .finish]

theorem selection_keys_agree_firstVisit :
    ∃ start, configuredLobby exampleConfigured = some start ∧
      AgreesThroughout UInt32.toNat exampleDigest start firstVisit := by
  obtain ⟨start, hstart⟩ := exampleConfigured_lobby
  refine ⟨start, hstart, (selection_keys_agree_iff exampleMd5_digest
    (by decide +kernel) hstart UInt32.toNat firstVisit).mpr ?_⟩
  intro before after hsplit reached hwaiting
  -- The only selection follows the connect.
  rcases before with _ | ⟨first, _ | ⟨second, _ | ⟨third, rest⟩⟩⟩ <;>
    simp [firstVisit] at hsplit
  obtain ⟨rfl, _⟩ := hsplit
  rfl

/-- A datagram with a single `0x00B` sub-packet of four bytes. -/
def zoneHandoffGuest : Guest where
  registers := ⟨0, 32, 0, 0, 0, 0, 0, 0, 0, 0⟩
  memory := fun index =>
    if index = 864 + 28 then 0x0B else if index = 864 + 29 then 0x02 else 0

/-- A first visit, a zone handoff and the connect of a second visit. -/
def returningVisit : List LobbyEvent :=
  firstVisit ++ [.receive zoneHandoffGuest (fun _ => true),
    .connect ⟨true, loginViewPort, 0⟩]

theorem returningVisit_reached :
    (configuredLobby exampleConfigured).map (fun start =>
      let reached := (lobbyMachine UInt32.toNat exampleDigest).run start
        returningVisit
      (reached.1.coordination, rollovers reached.2)) =
        some (some .waiting, 1) := by
  decide +kernel

theorem selection_keys_disagree :
    ∃ start, configuredLobby exampleConfigured = some start ∧
      ¬AgreesThroughout UInt32.toNat exampleDigest start
        (returningVisit ++ [.selection]) := by
  obtain ⟨start, hstart⟩ := exampleConfigured_lobby
  refine ⟨start, hstart, ?_⟩
  obtain ⟨key, htracked⟩ :=
    configuredLobby_tracked exampleMd5_digest (by decide +kernel) hstart
  rw [agreesThroughout_iff htracked]
  intro hcancel
  have hreached := returningVisit_reached
  rw [hstart] at hreached
  simp only [Option.map_some, Option.some.injEq, Prod.mk.injEq] at hreached
  have hcount := hcancel returningVisit [] rfl hreached.1
  rw [hreached.2] at hcount
  exact absurd hcount (by decide)

end Revana.Runtime
