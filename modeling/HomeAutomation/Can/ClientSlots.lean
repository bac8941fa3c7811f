import Mathlib.Data.Finset.Card
import Mathlib.Data.List.Nodup
import HomeAutomation.Can.CanServer
import HomeAutomation.Lib.Run
import HomeAutomation.Lib.Slots

/-!
# The clients of the CAN master

The master has four slots for its clients.  A slot is taken when a client connects, and
freed when a read from the client, or the line of a packet sent to it, fails.  Other
outcomes are not looked at: a client that closes its connection keeps its slot, and so
does one to which a greeting, an answer or a prompt cannot be sent.

Every call that the server makes on a socket is logged, with its outcome; who is
connected is read from the log alone.  Sends to one socket in one handler differ in their
texts, so the outcomes of a handler's sends are given by socket and text.

## Main definitions

* `Server` — the slots and the log; `connected` — who is connected, by the log.
* `handleConnect`, `handleClient`, `handleCanPacket` — the handlers.
* `Stepped` — what a step is, with the checks it has passed.
* `Server.Exact` — the slots hold the connected clients, each of them once.
* `Checked` — no outcome of the step is one that the server overlooks.

## Main results

* `step_exact_iff` — one step.
* `clientSlots_iff` — the slots are exact throughout exactly the runs without such an
  outcome, and nobody is turned away there while a slot could be free.

## References

`ti/can_master/can_server.cpp`, `ti/can_master/can_server.h`.
-/

namespace HomeAutomation
namespace CanServer

/-! ### Calls on sockets -/

/-- What `NDK_recv` returns: an error, or bytes; none at all is the client's orderly
close. -/
inductive Received
  | error
  | data (bytes : Text)
  deriving DecidableEq

/-- A call on a socket, with its outcome. -/
inductive Io
  /-- `NDK_accept` returned the socket. -/
  | accepted (fd : ℕ)
  /-- The socket was closed behind the text `"Busy.\r\n"`. -/
  | rejected (fd : ℕ)
  | received (fd : ℕ) (result : Received)
  /-- A text was sent, in full or not. -/
  | sent (fd : ℕ) (text : Text) (ok : Bool)
  deriving DecidableEq

/-- The socket that a call shows to be closed or broken. -/
def Io.ended : Io → Option ℕ
  | accepted _ => none
  | rejected fd => some fd
  | received fd .error => some fd
  | received fd (.data bytes) => if bytes = [] then some fd else none
  | sent fd _ ok => if ok then none else some fd

/-- Who is connected, behind one more call. -/
def track (fds : Finset ℕ) (io : Io) : Finset ℕ :=
  match io with
  | .accepted fd => insert fd fds
  | io =>
    match io.ended with
    | none => fds
    | some fd => fds.erase fd

/-- **Who is connected**: the sockets that were accepted, and neither turned away, nor
closed by the client, nor broken since. -/
def connected (log : List Io) : Finset ℕ := log.foldl track ∅

/-! ### The server -/

/-- `Client`. -/
structure Client where
  fd : ℕ
  interactive : Bool
  deriving DecidableEq

/-- `MaxClients`. -/
def maxClients : ℕ := 4

/-- The slots of `clients_`, and the calls so far. -/
structure Server where
  clients : List (Option Client) := List.replicate maxClients none
  log : List Io := []

/-- Which sends of a handler succeed. -/
abbrev Outcomes := ℕ → Text → Bool

/-- `send_to_client`. -/
def sendToClient (ok : Outcomes) (fd : ℕ) (text : Text) : Io := .sent fd text (ok fd text)

def greetingText : Text :=
  "Welcome to the HA Master Board!\r\nType 'help' for command list.\r\n\r\n> ".toList

def busyText : Text := "Busy.\r\n".toList

def usageText : Text :=
  "COMMAND SYNTAX:\r\n\tdev:XX  addr:XXXX  =XXXX...\r\n\tdev:XX  addr:XXXX  ?\r\n> ".toList

def timeoutText : Text := "Timeout while waiting reply.\r\n> ".toList

def successText : Text := "The packet was sent.\r\n> ".toList

def tryAgainText : Text := "Busy, try again.\r\n> ".toList

/-- `"\r"`, before the line of a packet. -/
def crText : Text := "\r".toList

/-- The prompt behind it. -/
def promptText : Text := "> ".toList

namespace Server

/-- The sockets in the slots. -/
def sockets (s : Server) : List ℕ := (Slots.contents s.clients).map Client.fd

/-- One more call. -/
def note (s : Server) (ios : List Io) : Server := { s with log := s.log ++ ios }

/-- A text for an interactive client.  With the greeting this is `greeting`. -/
def answer (ok : Outcomes) (client : Client) (text : Text) (s : Server) : Server :=
  if client.interactive then s.note [sendToClient ok client.fd text] else s

/-- `handle_connect`, for a socket that was accepted. -/
def handleConnect (ok : Outcomes) (interactive : Bool) (fd : ℕ) (s : Server) : Server :=
  let s := s.note [.accepted fd]
  match Slots.put ⟨fd, interactive⟩ s.clients with
  | some clients => { s with clients := clients }.answer ok ⟨fd, interactive⟩ greetingText
  | none => s.note [sendToClient ok fd busyText, .rejected fd]

/-- The line of a packet, with its ending. -/
def packetText (p : CanPacket) : Text := canPacketLine p ++ "\r\n".toList

/-- A turn of the loop of `handle_can_packet`: what is sent to a client. -/
def packetIos (ok : Outcomes) (line : Text) (client : Client) : List Io :=
  (if client.interactive then [sendToClient ok client.fd crText] else []) ++
    sendToClient ok client.fd line ::
      if ok client.fd line && client.interactive then [sendToClient ok client.fd promptText] else []

/-- `handle_can_packet`.  A client whose line was not sent in full is dropped. -/
def handleCanPacket (ok : Outcomes) (p : CanPacket) (s : Server) : Server where
  clients := s.clients.map fun slot => slot.filter fun client => ok client.fd (packetText p)
  log := s.log ++ (Slots.contents s.clients).flatMap (packetIos ok (packetText p))

/-- What `handle_client` does about what it has received. -/
inductive Reaction
  | clear
  | ignore
  | answer (text : Text)
  | relay (packet : CanPacket)

/-- That choice; whether the controller takes the packet, and the response it gets to a
request. -/
def reaction (sends : Bool) (response : Option CanPacket) : Received → Reaction
  | .error => .clear
  | .data bytes =>
    if bytes = [] ∨ bytes.length ≥ maxMessageSize then .ignore
    else
      match parsePacket (cString bytes) with
      | none => .answer usageText
      | some (_, request) =>
        if request && sends then
          match response with
          | some packet => .relay packet
          | none => .answer timeoutText
        else .answer (if sends then successText else tryAgainText)

/-- `handle_client`, for the client in slot `i`. -/
def handleClient (ok : Outcomes) (i : ℕ) (client : Client) (result : Received) (sends : Bool)
    (response : Option CanPacket) (s : Server) : Server :=
  let s := s.note [.received client.fd result]
  match reaction sends response result with
  | .clear => { s with clients := s.clients.set i none }
  | .ignore => s
  | .answer text => s.answer ok client text
  | .relay packet => s.handleCanPacket ok packet

end Server

/-- What the loop of `CanServer::run` handles. -/
inductive ServerEvent
  /-- A connection comes in; `none` is `INVALID_SOCKET`. -/
  | connect (interactive : Bool) (fd : Option ℕ) (ok : Outcomes)
  /-- A client's socket can be read. -/
  | client (i : ℕ) (result : Received) (sends : Bool) (response : Option CanPacket)
      (ok : Outcomes)
  /-- A packet was received from the bus. -/
  | packet (p : CanPacket) (ok : Outcomes)

namespace Server

/-- One event.  A socket that is in use is not accepted again, and only clients in slots
are asked for data. -/
def step (s : Server) : ServerEvent → Option Server
  | .connect _ none _ => some s
  | .connect interactive (some fd) ok =>
    if fd ∈ s.sockets then none else some (s.handleConnect ok interactive fd)
  | .client i result sends response ok =>
    match s.clients[i]? with
    | some (some client) => some (s.handleClient ok i client result sends response)
    | _ => none
  | .packet p ok => some (s.handleCanPacket ok p)

/-- What a step is, with the checks it has passed. -/
inductive Stepped (s : Server) : ServerEvent → Server → Prop
  /-- No connection was accepted. -/
  | invalid {interactive : Bool} {ok : Outcomes} : Stepped s (.connect interactive none ok) s
  | connect {interactive : Bool} {fd : ℕ} {ok : Outcomes} (hfd : fd ∉ s.sockets) :
    Stepped s (.connect interactive (some fd) ok) (s.handleConnect ok interactive fd)
  | client {i : ℕ} {client : Client} {result : Received} {sends : Bool}
      {response : Option CanPacket} {ok : Outcomes} (hi : s.clients[i]? = some (some client)) :
    Stepped s (.client i result sends response ok)
      (s.handleClient ok i client result sends response)
  | packet {p : CanPacket} {ok : Outcomes} : Stepped s (.packet p ok) (s.handleCanPacket ok p)

theorem stepped_of_step {s s' : Server} {e : ServerEvent} (h : s.step e = some s') :
    Stepped s e s' := by
  cases e with
  | connect interactive fd ok =>
    cases fd with
    -- an invalid descriptor is not stored anywhere
    | none =>
      cases h
      exact .invalid
    | some fd =>
      unfold step at h
      dsimp only at h
      split at h
      · cases h
      · next hfd =>
        cases h
        exact .connect hfd
  | client i result sends response ok =>
    unfold step at h
    dsimp only at h
    split at h
    · next client hi =>
      cases h
      exact .client hi
    · cases h
  | packet p ok =>
    cases h
    exact .packet

/-- **The slots hold the connected clients**, each of them once. -/
structure Exact (s : Server) : Prop where
  nodup : s.sockets.Nodup
  connected_iff : ∀ fd, fd ∈ connected s.log ↔ fd ∈ s.sockets

/-- No client whose line was sent misses what goes with it. -/
def PacketChecked (ok : Outcomes) (p : CanPacket) (s : Server) : Prop :=
  ∀ client ∈ Slots.contents s.clients, ok client.fd (packetText p) = true →
    client.interactive = true → ok client.fd crText = true ∧ ok client.fd promptText = true

/-- **No outcome is one that the server overlooks**: a client does not close its
connection, and every send succeeds whose outcome is not looked at. -/
def Checked (s : Server) : ServerEvent → Prop
  | .connect _ none _ => True
  | .connect interactive (some fd) ok => fd ∉ s.sockets → none ∈ s.clients →
      interactive = true → ok fd greetingText = true
  | .client i result sends response ok => ∀ client, s.clients[i]? = some (some client) →
      result ≠ .data [] ∧
        match reaction sends response result with
        | .clear => True
        | .ignore => True
        | .answer text => client.interactive = true → ok client.fd text = true
        | .relay packet => PacketChecked ok packet s
  | .packet p ok => PacketChecked ok p s

/-! ### The log -/

/-- A call that does not bring a client in. -/
def NoAccept (ios : List Io) : Prop := ∀ io ∈ ios, ∀ fd, io ≠ .accepted fd

/-- One of the calls shows the socket to be closed or broken. -/
def Ends (ios : List Io) (fd : ℕ) : Prop := ∃ io ∈ ios, io.ended = some fd

theorem ends_cons {io : Io} {ios : List Io} {fd : ℕ} :
    Ends (io :: ios) fd ↔ io.ended = some fd ∨ Ends ios fd := by
  simp [Ends]

theorem not_ends_nil (fd : ℕ) : ¬ Ends [] fd := by
  rintro ⟨io, hio, -⟩
  cases hio

theorem ends_append {ios ios' : List Io} {fd : ℕ} :
    Ends (ios ++ ios') fd ↔ Ends ios fd ∨ Ends ios' fd := by
  simp [Ends, or_and_right, exists_or]

theorem ended_sendToClient {ok : Outcomes} {fd fd' : ℕ} {text : Text} :
    (sendToClient ok fd' text).ended = some fd ↔ fd' = fd ∧ ok fd' text = false := by
  unfold sendToClient Io.ended
  cases ok fd' text with
  | false => simp
  | true => simp

theorem connected_append (log ios : List Io) :
    connected (log ++ ios) = ios.foldl track (connected log) := List.foldl_append

theorem mem_track {fds : Finset ℕ} {io : Io} (h : ∀ fd, io ≠ .accepted fd) (fd : ℕ) :
    fd ∈ track fds io ↔ fd ∈ fds ∧ io.ended ≠ some fd := by
  unfold track
  split
  · next fd' => exact absurd rfl (h fd')
  · split
    · next hnone => simp [hnone]
    · next fd' hsome => simp [hsome, and_comm, eq_comm]

/-- **Who is connected, behind calls that bring nobody in.** -/
theorem mem_connected_append : ∀ {ios : List Io}, NoAccept ios → ∀ (log : List Io) (fd : ℕ),
    fd ∈ connected (log ++ ios) ↔ fd ∈ connected log ∧ ¬ Ends ios fd := by
  intro ios
  induction ios with
  | nil =>
    intro _ log fd
    rw [List.append_nil]
    exact (and_iff_left (not_ends_nil fd)).symm
  | cons io ios ih =>
    intro h log fd
    have hio := h io List.mem_cons_self
    have hios : NoAccept ios := fun io' hio' => h io' (List.mem_cons_of_mem io hio')
    rw [List.append_cons, ih hios (log ++ [io]) fd, connected_append, List.foldl_cons,
      List.foldl_nil, mem_track hio, ends_cons]
    tauto

/-! ### One step -/

/-- Calls that bring nobody in, and slots of which some are freed: the slots stay exact
if those are freed whose sockets are closed or broken. -/
theorem Exact.iff_of_append {s s' : Server} {ios : List Io} (hs : s.Exact)
    (hlog : s'.log = s.log ++ ios) (hios : NoAccept ios) (hnodup : s'.sockets.Nodup)
    (hsub : s'.sockets ⊆ s.sockets) :
    s'.Exact ↔ ∀ fd ∈ s.sockets, fd ∈ s'.sockets ↔ ¬ Ends ios fd := by
  have hmem : ∀ fd, fd ∈ connected s'.log ↔ fd ∈ s.sockets ∧ ¬ Ends ios fd := by
    intro fd
    rw [hlog, mem_connected_append hios, hs.connected_iff]
  constructor
  · intro h fd hfd
    rw [← h.connected_iff, hmem]
    exact and_iff_right hfd
  · intro h
    refine ⟨hnodup, fun fd => ?_⟩
    rw [hmem]
    constructor
    · exact fun hfd => (h fd hfd.1).mpr hfd.2
    · exact fun hfd => ⟨hsub hfd, (h fd (hsub hfd)).mp hfd⟩

theorem mem_sockets {s : Server} {client : Client} (h : client ∈ Slots.contents s.clients) :
    client.fd ∈ s.sockets := List.mem_map_of_mem h

/-- One more call on a socket of a slot, and no slot freed. -/
theorem Exact.note_iff {s : Server} (hs : s.Exact) {io : Io} (hio : ∀ fd, io ≠ .accepted fd)
    (hended : ∀ fd, io.ended = some fd → fd ∈ s.sockets) :
    (s.note [io]).Exact ↔ io.ended = none := by
  have hno : NoAccept [io] := by simpa [NoAccept] using hio
  have hlog : (s.note [io]).log = s.log ++ [io] := rfl
  rw [hs.iff_of_append hlog hno hs.nodup (List.Subset.refl _)]
  constructor
  · intro h
    cases hcase : io.ended with
    | none => rfl
    | some fd =>
      have hfd := hended fd hcase
      exact absurd (ends_cons.mpr (Or.inl hcase)) ((h fd hfd).mp hfd)
  · intro h fd hfd
    refine iff_of_true hfd fun hends => ?_
    obtain hends | hends := ends_cons.mp hends
    · rw [h] at hends
      cases hends
    · exact not_ends_nil fd hends

/-- The answer to a client. -/
theorem Exact.answer_iff {s : Server} (hs : s.Exact) {client : Client}
    (hclient : client ∈ Slots.contents s.clients) (ok : Outcomes) (text : Text) :
    (s.answer ok client text).Exact ↔ (client.interactive = true → ok client.fd text = true) := by
  unfold answer
  cases client.interactive with
  | false => exact iff_of_true hs nofun
  | true =>
    -- an answer accepts nobody
    have hio : ∀ fd, sendToClient ok client.fd text ≠ .accepted fd := fun fd => nofun
    rw [if_pos rfl, hs.note_iff hio]
    · unfold sendToClient Io.ended
      cases ok client.fd text with
      | false => simp
      | true => simp
    -- the socket it ends is that of the client, which has a slot
    · intro fd hfd
      unfold sendToClient Io.ended at hfd
      dsimp only at hfd
      split at hfd
      · cases hfd
      · cases hfd
        exact mem_sockets hclient

/-! ### Packets -/

/-- The line of a packet to one client, with what goes with it: when all of it was
sent. -/
theorem ends_packetIos {ok : Outcomes} {line : Text} {client : Client} {fd : ℕ} :
    Ends (packetIos ok line client) fd ↔ client.fd = fd ∧
      (ok client.fd line = true → client.interactive = true ∧
        ¬ (ok client.fd crText = true ∧ ok client.fd promptText = true)) := by
  unfold packetIos
  rw [ends_append, ends_cons, ended_sendToClient]
  cases client.interactive with
  | false => simp [not_ends_nil]
  | true =>
    rw [if_pos rfl, ends_cons, ended_sendToClient]
    cases ok client.fd line with
    -- the line does not go out, and nothing else is tried
    | false =>
      simp only [not_ends_nil, Bool.false_and, Bool.false_eq_true, if_false]
      tauto
    | true =>
      rw [Bool.true_and, if_pos rfl, ends_cons, ended_sendToClient]
      cases ok client.fd crText with
      -- the carriage return does not go out, and the prompt is not tried
      | false =>
        have hnil := not_ends_nil fd
        simp only [Bool.false_eq_true, false_and, not_false_eq_true, and_true]
        tauto
      | true => simp [not_ends_nil]

theorem exists_sent_of_mem_packetIos {ok : Outcomes} {line : Text} {client : Client} {io : Io}
    (h : io ∈ packetIos ok line client) : ∃ text, io = sendToClient ok client.fd text := by
  unfold packetIos at h
  obtain h | h := List.mem_append.mp h
  · split at h
    · exact ⟨_, List.mem_singleton.mp h⟩
    · cases h
  · obtain rfl | h := List.mem_cons.mp h
    · exact ⟨_, rfl⟩
    · split at h
      · exact ⟨_, List.mem_singleton.mp h⟩
      · cases h

theorem contents_map_filter (f : Client → Bool) (clients : List (Option Client)) :
    Slots.contents (clients.map fun slot => slot.filter f)
      = (Slots.contents clients).filter f := by
  induction clients with
  | nil => rfl
  | cons slot clients ih =>
    cases slot with
    | none => exact ih
    | some client =>
      rw [List.map_cons, Option.filter, Slots.contents_some_cons, List.filter_cons]
      split
      · rw [Slots.contents_some_cons, ih]
      · rw [Slots.contents_none_cons, ih]

/-- **A packet**: the slots stay exact when no client whose line was sent misses what
goes with it. -/
theorem Exact.handleCanPacket_iff {s : Server} (hs : s.Exact) (ok : Outcomes) (p : CanPacket) :
    (s.handleCanPacket ok p).Exact ↔ PacketChecked ok p s := by
  -- the log grows by what is sent to each client, and the clients it fails for lose their slot
  have hlog : (s.handleCanPacket ok p).log
      = s.log ++ (Slots.contents s.clients).flatMap (packetIos ok (packetText p)) := rfl
  have hsockets : (s.handleCanPacket ok p).sockets
      = ((Slots.contents s.clients).filter fun client => ok client.fd (packetText p)).map
        Client.fd := by
    rw [sockets, ← contents_map_filter]
    rfl
  have hno : NoAccept ((Slots.contents s.clients).flatMap (packetIos ok (packetText p))) := by
    intro io hio
    obtain ⟨client, -, hio⟩ := List.mem_flatMap.mp hio
    obtain ⟨text, rfl⟩ := exists_sent_of_mem_packetIos hio
    exact fun fd => nofun
  -- no client comes in
  have hsub : (s.handleCanPacket ok p).sockets.Sublist s.sockets := by
    rw [hsockets]
    exact List.filter_sublist.map Client.fd
  -- a socket stands for one client
  have hunique : ∀ c ∈ Slots.contents s.clients, ∀ c' ∈ Slots.contents s.clients,
      c.fd = c'.fd → c = c' := List.inj_on_of_nodup_map hs.nodup
  -- a client keeps its slot exactly when the line goes out to it
  have hkept : ∀ c ∈ Slots.contents s.clients,
      c.fd ∈ (s.handleCanPacket ok p).sockets ↔ ok c.fd (packetText p) = true := by
    intro c hc
    rw [hsockets, List.mem_map]
    constructor
    · rintro ⟨c', hc', hfd⟩
      obtain ⟨hmem, hok⟩ := List.mem_filter.mp hc'
      rwa [hunique c' hmem c hc hfd] at hok
    · exact fun hok => ⟨c, List.mem_filter.mpr ⟨hc, hok⟩, rfl⟩
  -- so what shows a socket to be broken is what was sent to its own client
  have hends : ∀ c ∈ Slots.contents s.clients,
      Ends ((Slots.contents s.clients).flatMap (packetIos ok (packetText p))) c.fd ↔
        Ends (packetIos ok (packetText p) c) c.fd := by
    intro c hc
    constructor
    · rintro ⟨io, hio, hended⟩
      obtain ⟨c', hc', hio⟩ := List.mem_flatMap.mp hio
      have hfd := (ends_packetIos.mp ⟨io, hio, hended⟩).1
      rw [hunique c' hc' c hc hfd] at hio
      exact ⟨io, hio, hended⟩
    · rintro ⟨io, hio, hended⟩
      exact ⟨io, List.mem_flatMap.mpr ⟨c, hc, hio⟩, hended⟩
  rw [hs.iff_of_append hlog hno (hsub.nodup hs.nodup) hsub.subset, sockets, List.forall_mem_map]
  unfold PacketChecked
  refine forall₂_congr fun c hc => ?_
  rw [hkept c hc, hends c hc, ends_packetIos]
  tauto

/-! ### Connections and clients -/

theorem mem_connected_accepted (s : Server) (fd fd' : ℕ) :
    fd' ∈ connected (s.note [.accepted fd]).log ↔ fd' = fd ∨ fd' ∈ connected s.log := by
  change fd' ∈ connected (s.log ++ [.accepted fd]) ↔ _
  rw [connected_append]
  exact Finset.mem_insert

/-- **A connection comes in**: a client that gets a slot is connected unless the greeting
fails, and one that gets none is not. -/
theorem Exact.connect_iff {s : Server} (hs : s.Exact) (ok : Outcomes) (interactive : Bool)
    {fd : ℕ} (hfd : fd ∉ s.sockets) :
    (s.handleConnect ok interactive fd).Exact ↔
      (none ∈ s.clients → interactive = true → ok fd greetingText = true) := by
  unfold handleConnect
  dsimp only
  split
  · -- the client gets a slot
    next clients hput =>
    have hput : Slots.put ⟨fd, interactive⟩ s.clients = some clients := hput
    have hroom : none ∈ s.clients := Slots.put_isSome_iff.mp (by rw [hput]; rfl)
    -- its socket is accepted, and all sockets are known
    have hcontents := Slots.contents_put_perm hput
    have hsockets : (((Slots.contents clients)).map Client.fd).Perm (fd :: s.sockets) :=
      hcontents.map Client.fd
    have htaken : Exact { s.note [.accepted fd] with clients := clients } := by
      refine ⟨hsockets.nodup_iff.mpr (List.nodup_cons.mpr ⟨hfd, hs.nodup⟩), fun fd' => ?_⟩
      refine (mem_connected_accepted s fd fd').trans ?_
      rw [hs.connected_iff]
      exact (hsockets.mem_iff.trans List.mem_cons).symm
    have hclient : (⟨fd, interactive⟩ : Client) ∈ Slots.contents clients :=
      hcontents.mem_iff.mpr List.mem_cons_self
    rw [htaken.answer_iff hclient]
    exact ⟨fun h _ => h, fun h => h hroom⟩
  · -- the client is turned away
    next hput =>
    have hput : Slots.put ⟨fd, interactive⟩ s.clients = none := hput
    -- all slots are taken
    have hfull : none ∉ s.clients := fun hroom => by
      have hsome := Slots.put_isSome_iff (a := ⟨fd, interactive⟩) |>.mpr hroom
      rw [hput] at hsome
      cases hsome
    refine iff_of_true ⟨hs.nodup, fun fd' => ?_⟩ fun hroom => absurd hroom hfull
    have hno : NoAccept [sendToClient ok fd busyText, .rejected fd] := by
      simp [NoAccept, sendToClient]
    refine (mem_connected_append hno _ fd').trans ?_
    rw [mem_connected_accepted, ends_cons, ends_cons, ended_sendToClient, hs.connected_iff]
    change (fd' = fd ∨ fd' ∈ s.sockets) ∧ ¬ (_ ∨ some fd = some fd' ∨ _) ↔ fd' ∈ s.sockets
    have hnil := not_ends_nil fd'
    -- the socket is closed at once, and was not known before
    constructor
    · rintro ⟨rfl | hmem, hends⟩
      · exact absurd (Or.inr (Or.inl rfl)) hends
      · exact hmem
    · intro hmem
      have hne : fd ≠ fd' := fun h => hfd (h ▸ hmem)
      simp [hmem, hne, hnil]

theorem reaction_data_ne_clear (sends : Bool) (response : Option CanPacket) (bytes : Text) :
    reaction sends response (.data bytes) ≠ .clear := by
  unfold reaction
  dsimp only
  split
  · exact nofun
  split
  · exact nofun
  split
  · split <;> exact nofun
  · exact nofun

/-- A client that failed loses its slot. -/
theorem Exact.clear {s : Server} (hs : s.Exact) {i : ℕ} {client : Client}
    (hi : s.clients[i]? = some (some client)) :
    Exact { s.note [.received client.fd .error] with clients := s.clients.set i none } := by
  have hsockets : s.sockets.Perm
      (client.fd :: (Slots.contents (s.clients.set i none)).map Client.fd) :=
    (Slots.contents_set_none hi).map Client.fd
  -- no other client has this socket
  have hnodup := List.nodup_cons.mp (hsockets.nodup_iff.mp hs.nodup)
  have hno : NoAccept [.received client.fd .error] := by simp [NoAccept]
  have hlog : ({ s.note [.received client.fd .error] with
      clients := s.clients.set i none } : Server).log = s.log ++ [.received client.fd .error] := rfl
  refine (hs.iff_of_append hlog hno hnodup.2 fun fd hfd => ?_).mpr fun fd hfd => ?_
  · exact hsockets.mem_iff.mpr (List.mem_cons_of_mem _ hfd)
  · rw [ends_cons]
    have hnil := not_ends_nil fd
    obtain rfl | hfd := List.mem_cons.mp (hsockets.mem_iff.mp hfd)
    · exact iff_of_false hnodup.1 fun h => h (Or.inl rfl)
    · refine iff_of_true hfd ?_
      rintro (h | h)
      · cases h
        exact hnodup.1 hfd
      · exact hnil h

/-- **What a client sends.** -/
theorem Exact.client_iff {s : Server} (hs : s.Exact) {i : ℕ} {client : Client}
    (hi : s.clients[i]? = some (some client)) (ok : Outcomes) (result : Received) (sends : Bool)
    (response : Option CanPacket) :
    (s.handleClient ok i client result sends response).Exact ↔
      result ≠ .data [] ∧
        match reaction sends response result with
        | .clear => True
        | .ignore => True
        | .answer text => client.interactive = true → ok client.fd text = true
        | .relay packet => PacketChecked ok packet s := by
  have hclient : client ∈ Slots.contents s.clients :=
    Slots.mem_contents.mpr (List.mem_of_getElem? hi)
  cases result with
  | error => exact iff_of_true (hs.clear hi) ⟨nofun, trivial⟩
  | data bytes =>
    -- reading is noted, and ends nothing unless it is the end of the stream
    have hnote : (s.note [.received client.fd (.data bytes)]).Exact ↔
        (Io.received client.fd (.data bytes)).ended = none := hs.note_iff (fun _ => nofun) (by
      intro fd hfd
      unfold Io.ended at hfd
      dsimp only at hfd
      split at hfd
      · cases hfd
        exact mem_sockets hclient
      · cases hfd)
    by_cases hbytes : bytes = []
    · -- the client has closed its connection, and keeps its slot
      subst hbytes
      refine iff_of_false (fun h => ?_) fun h => h.1 rfl
      exact absurd (hnote.mp h) nofun
    · have hreceived : (s.note [.received client.fd (.data bytes)]).Exact :=
        hnote.mpr (if_neg hbytes)
      have hne : Received.data bytes ≠ .data [] := fun h => hbytes (Received.data.inj h)
      rw [and_iff_right hne]
      unfold handleClient
      dsimp only
      split
      · next hclear => exact absurd hclear (reaction_data_ne_clear sends response bytes)
      · exact iff_of_true hreceived trivial
      · next text _ => exact hreceived.answer_iff hclient ok text
      · next packet _ => exact hreceived.handleCanPacket_iff ok packet

/-- **One step**: the slots stay exact when no outcome is one that the server
overlooks. -/
theorem step_exact_iff {s s' : Server} {e : ServerEvent} (hs : s.Exact)
    (h : s.step e = some s') : s'.Exact ↔ s.Checked e := by
  cases stepped_of_step h with
  | invalid => exact iff_of_true hs trivial
  | connect hfd =>
    rw [hs.connect_iff _ _ hfd]
    exact ⟨fun hgreeting _ => hgreeting, fun hgreeting => hgreeting hfd⟩
  | client hi =>
    rw [hs.client_iff hi]
    constructor
    · intro hclient client' hi'
      cases hi.symm.trans hi'
      exact hclient
    · exact fun hclient => hclient _ hi
  | packet => exact hs.handleCanPacket_iff _ _

/-- A step with an outcome that the server overlooks is one. -/
theorem exists_step_of_not_checked {s : Server} {e : ServerEvent} (h : ¬ s.Checked e) :
    ∃ s', s.step e = some s' := by
  cases e with
  | connect interactive fd ok =>
    cases fd with
    | none => exact absurd trivial h
    | some fd =>
      by_cases hfd : fd ∈ s.sockets
      · exact absurd (fun hnot => absurd hfd hnot) h
      · exact ⟨_, if_neg hfd⟩
  | client i result sends response ok =>
    unfold step
    dsimp only
    split
    · exact ⟨_, rfl⟩
    · next hother => exact absurd (fun client hi => absurd hi (hother client)) h
  | packet p ok => exact ⟨_, rfl⟩

/-! ### Runs -/

theorem clients_answer (ok : Outcomes) (client : Client) (text : Text) (s : Server) :
    (s.answer ok client text).clients = s.clients := by
  unfold answer
  split <;> rfl

/-- There are always four slots. -/
theorem length_step {s s' : Server} {e : ServerEvent} (h : s.step e = some s') :
    s'.clients.length = s.clients.length := by
  cases stepped_of_step h with
  | invalid => rfl
  | connect hfd =>
    unfold handleConnect
    dsimp only
    -- a client is put into a free slot, or turned away
    split
    · next clients hput =>
      rw [clients_answer]
      exact Slots.length_put hput
    · rfl
  | client hi =>
    unfold handleClient
    dsimp only
    split
    · exact List.length_set
    · rfl
    · rw [clients_answer]
      rfl
    · exact List.length_map _
  | packet => exact List.length_map _

/-- The calls that a step adds to the log turn nobody away. -/
def Welcomes (s s' : Server) : Prop := ∃ ios, s'.log = s.log ++ ios ∧ ∀ fd, .rejected fd ∉ ios

theorem Welcomes.trans {s s₁ s₂ : Server} (h₁ : Welcomes s s₁) (h₂ : Welcomes s₁ s₂) :
    Welcomes s s₂ := by
  obtain ⟨ios₁, hlog₁, hios₁⟩ := h₁
  obtain ⟨ios₂, hlog₂, hios₂⟩ := h₂
  refine ⟨ios₁ ++ ios₂, by rw [hlog₂, hlog₁, List.append_assoc], fun fd hfd => ?_⟩
  obtain hfd | hfd := List.mem_append.mp hfd
  · exact hios₁ fd hfd
  · exact hios₂ fd hfd

theorem welcomes_note (s : Server) {io : Io} (h : ∀ fd, io ≠ .rejected fd) :
    Welcomes s (s.note [io]) :=
  ⟨[io], rfl, fun fd hfd => h fd (List.mem_singleton.mp hfd).symm⟩

theorem welcomes_answer (ok : Outcomes) (client : Client) (text : Text) (s : Server) :
    Welcomes s (s.answer ok client text) := by
  unfold answer
  split
  · exact welcomes_note s fun _ => nofun
  · exact ⟨[], (List.append_nil _).symm, fun _ => List.not_mem_nil⟩

theorem welcomes_handleCanPacket (ok : Outcomes) (p : CanPacket) (s : Server) :
    Welcomes s (s.handleCanPacket ok p) := by
  refine ⟨_, rfl, fun fd hfd => ?_⟩
  obtain ⟨client, -, hio⟩ := List.mem_flatMap.mp hfd
  obtain ⟨text, hio⟩ := exists_sent_of_mem_packetIos hio
  cases hio

/-- **A client is turned away only when every slot is taken.** -/
theorem full_of_rejected {s s' : Server} {e : ServerEvent} (h : s.step e = some s') {fd : ℕ}
    (hrejected : .rejected fd ∈ s'.log.drop s.log.length) :
    (Slots.contents s.clients).length = s.clients.length := by
  -- every other branch of the handlers turns nobody away
  have hnot : ¬ Welcomes s s' := by
    rintro ⟨ios, hlog, hios⟩
    rw [hlog, List.drop_left] at hrejected
    exact hios fd hrejected
  cases stepped_of_step h with
  | invalid => exact absurd ⟨[], (List.append_nil _).symm, fun _ => List.not_mem_nil⟩ hnot
  | @connect interactive fd' ok hfd =>
    -- every slot is taken
    cases hput : Slots.put ⟨fd', interactive⟩ s.clients with
    | none => exact Slots.put_eq_none_iff.mp hput
    | some clients =>
      refine absurd ?_ hnot
      have hnote : Welcomes s (s.note [.accepted fd']) := welcomes_note s fun _ => nofun
      unfold handleConnect
      dsimp only
      rw [show (s.note [.accepted fd']).clients = s.clients from rfl, hput]
      exact hnote.trans (welcomes_answer ok _ greetingText
        { s.note [.accepted fd'] with clients := clients })
  | @client i client result sends response ok hi =>
    refine absurd ?_ hnot
    have hnote : Welcomes s (s.note [.received client.fd result]) :=
      welcomes_note s fun _ => nofun
    unfold handleClient
    dsimp only
    split
    · exact hnote
    · exact hnote
    · next text _ => exact hnote.trans (welcomes_answer ok client text _)
    · next packet _ => exact hnote.trans (welcomes_handleCanPacket ok packet _)
  | packet => exact absurd (welcomes_handleCanPacket _ _ s) hnot

/-- Exact slots that are all taken are as many connected clients. -/
theorem Exact.card_connected {s : Server} (hs : s.Exact)
    (hfull : (Slots.contents s.clients).length = s.clients.length) :
    (connected s.log).card = s.clients.length := by
  have hset : connected s.log = s.sockets.toFinset := by
    ext fd
    rw [hs.connected_iff, List.mem_toFinset]
  rw [hset, List.toFinset_card_of_nodup hs.nodup, sockets, List.length_map, hfull]

/-- A run of the server as it should be: the slots are exact in every state, and a client
is turned away only while `MaxClients` are connected. -/
def SlotsExact (es : List ServerEvent) : Prop :=
  Run.Always step Exact {} es ∧
    ∀ t ∈ Run.trace step ({} : Server) es, ∀ fd,
      .rejected fd ∈ t.2.2.log.drop t.1.log.length → (connected t.1.log).card = maxClients

/-- **The slots are exact throughout exactly the runs without an outcome that the server
overlooks.** -/
theorem clientSlots_iff (es : List ServerEvent) :
    SlotsExact es ↔ Run.Along step Checked ({} : Server) es := by
  -- no client is known, and no slot is taken
  have hstart : Exact ({} : Server) ∧ ({} : Server).clients.length = maxClients := by
    refine ⟨⟨by decide, fun fd => ?_⟩, by decide⟩
    exact iff_of_false (Finset.notMem_empty fd) List.not_mem_nil
  have hstep : ∀ s e s', (Exact s ∧ s.clients.length = maxClients) → s.Checked e →
      s.step e = some s' → Exact s' ∧ s'.clients.length = maxClients := by
    rintro s e s' ⟨hs, hlength⟩ hchecked h
    exact ⟨(step_exact_iff hs h).mpr hchecked, (length_step h).trans hlength⟩
  -- a step that is not checked is possible, and breaks the agreement
  have hbad : ∀ s e, (Exact s ∧ s.clients.length = maxClients) → ¬ s.Checked e →
      ∃ s', s.step e = some s' ∧ ¬ s'.Exact := by
    rintro s e ⟨hs, -⟩ hchecked
    obtain ⟨s', h⟩ := exists_step_of_not_checked hchecked
    exact ⟨s', h, fun hexact => hchecked ((step_exact_iff hs h).mp hexact)⟩
  have hiff := Run.always_iff_along hstep (fun s hs => hs.1) hbad es {} hstart
  constructor
  · exact fun h => hiff.mp h.1
  · intro h
    -- a client is turned away only where all slots are taken
    refine ⟨hiff.mpr h, fun t ht fd hfd => ?_⟩
    have halways := Run.always_of_along hstep (fun _ hs => hs) es {} hstart h
    obtain ⟨⟨hexact, hlength⟩, hone⟩ := halways.trace t ht
    exact (hexact.card_connected (full_of_rejected hone hfd)).trans hlength

/-- All sends succeed. -/
def allSent : Outcomes := fun _ _ => true

/-- Four clients connect, one after the other, and each closes its connection before the
next one comes. -/
def fourVisitors : List ServerEvent :=
  [.connect false (some 1) allSent, .client 0 (.data []) true none allSent,
    .connect false (some 2) allSent, .client 1 (.data []) true none allSent,
    .connect false (some 3) allSent, .client 2 (.data []) true none allSent,
    .connect false (some 4) allSent, .client 3 (.data []) true none allSent]

/-- The fifth client is turned away, and nobody is connected. -/
theorem clientSlots_counterexample :
    (∃ s s', Run.exec step ({} : Server) fourVisitors = some s ∧ connected s.log = ∅ ∧
      s.step (.connect false (some 5) allSent) = some s' ∧ .rejected 5 ∈ s'.log) ∧
    ¬ SlotsExact (fourVisitors ++ [.connect false (some 5) allSent]) := by
  refine ⟨⟨_, _, rfl, by decide, rfl, by decide⟩, fun h => ?_⟩
  have hlast := Run.Always.exec h.1 rfl
  have hfirst := (hlast.connected_iff 1).mpr (by decide)
  exact absurd hfirst (by decide)

end Server

end CanServer
end HomeAutomation
