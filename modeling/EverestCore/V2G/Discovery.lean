import Mathlib.Data.List.Forall2
import Mathlib.Tactic.Common

/-! How a car finds the V2G server: the sockets that `connection_init` opens, and the answers of
the SDP server, which announces one of them to whoever asks. -/
namespace EverestCore.V2G

/-- `sdp_security`. A request can have other values too. -/
inductive SdpSecurity where
  | tls
  | none
  deriving DecidableEq, Repr

def SdpSecurity.value : SdpSecurity → UInt8
  | .tls => 0x00
  | .none => 0x10

/-- `SDP_TRANSPORT_PROTOCOL_TCP` -/
def sdpTransportProtocolTcp : UInt8 := 0x00

/-- The part of `sockaddr_in6` that is announced. -/
structure SockAddr where
  sin6Addr : List UInt8
  sin6Port : UInt16
  length_sin6Addr : sin6Addr.length = 16

instance : DecidableEq SockAddr := fun a b =>
  decidable_of_iff (a.sin6Addr = b.sin6Addr ∧ a.sin6Port = b.sin6Port) (by
    cases a
    cases b
    simp)

inductive TlsSecurityLevel where
  | allow
  | prohibit
  | force
  deriving DecidableEq, Repr

/-! The servers. -/

/-- The addresses in the context, and the sockets that listen. -/
structure SdpContext where
  localTcpAddr : Option SockAddr
  localTlsAddr : Option SockAddr
  tcpSocket : Option SockAddr
  tlsSocket : Option SockAddr
  deriving DecidableEq

/-- What the system does in one round of `connection_init`: the address of the interface, if it has
one, and whether the sockets can be opened. -/
structure InitRound where
  interfaceAddr : Option SockAddr
  tcpOpens : Bool
  tlsOpens : Bool
  deriving DecidableEq

def defaultTcpPort : UInt16 := 61341

def defaultTlsPort : UInt16 := 64109

/-- The memory of `calloc`. -/
def emptySockAddr : SockAddr := ⟨List.replicate 16 0, 0, rfl⟩

section Init

variable (tlsSecurity : TlsSecurityLevel)

def allocate : SdpContext where
  localTcpAddr := if tlsSecurity ≠ .force then some emptySockAddr else none
  localTlsAddr := if tlsSecurity ≠ .prohibit then some emptySockAddr else none
  tcpSocket := none
  tlsSocket := none

/-- The address of the interface goes to both servers, if there are two. -/
def takeInterfaceAddr (round : InitRound) (ctx : SdpContext) : SdpContext :=
  match ctx.localTcpAddr with
  | some old =>
      let addr := round.interfaceAddr.getD old
      { ctx with
        localTcpAddr := some addr
        localTlsAddr := ctx.localTlsAddr.map fun _ => addr }
  | none => { ctx with localTlsAddr := ctx.localTlsAddr.map round.interfaceAddr.getD }

def openTcp (round : InitRound) (ctx : SdpContext) : SdpContext × Bool :=
  match ctx.localTcpAddr with
  | none => (ctx, true)
  | some addr =>
      let addr := { addr with sin6Port := defaultTcpPort }
      let ctx := { ctx with localTcpAddr := some addr }
      if round.tcpOpens then ({ ctx with tcpSocket := some addr }, true)
      else ({ ctx with tcpSocket := none }, false)

/-- The TCP server is closed again where the one for TLS does not open. -/
def openTls (round : InitRound) (ctx : SdpContext) : SdpContext × Bool :=
  match ctx.localTlsAddr with
  | none => (ctx, true)
  | some addr =>
      let addr := { addr with sin6Port := defaultTlsPort }
      let ctx := { ctx with localTlsAddr := some addr }
      if round.tlsOpens then ({ ctx with tlsSocket := some addr }, true)
      else ({ ctx with tlsSocket := none, tcpSocket := none }, false)

/-- One round of the loop, and whether it leaves the loop. -/
def initRound (ctx : SdpContext) (round : InitRound) : SdpContext × Bool :=
  match openTcp round (takeInterfaceAddr round ctx) with
  | (ctx, false) => (ctx, false)
  | (ctx, true) => openTls round ctx

/-- The loop, as long as the system has been asked. -/
def initRounds (ctx : SdpContext) : List InitRound → Option SdpContext
  | [] => none
  | round :: rounds =>
      match initRound ctx round with
      | (ctx, true) => some ctx
      | (ctx, false) => initRounds ctx rounds

/-- `connection_init` -/
def connectionInit (rounds : List InitRound) : Option SdpContext :=
  initRounds (allocate tlsSecurity) rounds

end Init

/-! The SDP server. -/

def sdpHeaderLen : ℕ := 8

def sdpRequestPayloadLen : ℕ := 2

def sdpResponsePayloadLen : ℕ := 20

def sdpRequestType : ℕ := 0x9000

def sdpResponseType : ℕ := 0x9001

/-- A word in network byte order. -/
def wordBytes (word : ℕ) : List UInt8 := [.ofNat (word / 256), .ofNat word]

def sdpWriteHeader (payloadType payloadLen : ℕ) : List UInt8 :=
  [0x01, 0xfe] ++ wordBytes payloadType ++ wordBytes (payloadLen / 65536) ++ wordBytes payloadLen

/-- The sums stay below the sizes of their types. -/
def sdpValidateHeader (buffer : List UInt8) (expectedPayloadType expectedPayloadLen : ℕ) : Bool :=
  let byte (i : ℕ) := (buffer.getD i 0).toNat
  if byte 0 ≠ 0x01 then false
  else if byte 1 ≠ 0xfe then false
  else if byte 2 * 256 + byte 3 ≠ expectedPayloadType then false
  else if byte 4 * 16777216 + byte 5 * 65536 + byte 6 * 256 + byte 7 ≠ expectedPayloadLen then false
  else true

def sdpCreateResponse (addr : SockAddr) (security : SdpSecurity) (proto : UInt8) : List UInt8 :=
  let payload := addr.sin6Addr ++ wordBytes addr.sin6Port.toNat ++ [security.value, proto]
  sdpWriteHeader sdpResponseType payload.length ++ payload

/-- `sdp_send_response`: what is sent, if anything. -/
def sdpSendResponse (ctx : SdpContext) (securityRequested protoRequested : UInt8) :
    Option (List UInt8) :=
  if protoRequested ≠ sdpTransportProtocolTcp then none
  else if securityRequested = SdpSecurity.tls.value then
    match ctx.localTlsAddr, ctx.localTcpAddr with
    | some addr, _ => some (sdpCreateResponse addr .tls sdpTransportProtocolTcp)
    | none, some addr => some (sdpCreateResponse addr .none sdpTransportProtocolTcp)
    | none, none => none
  else if securityRequested = SdpSecurity.none.value then
    match ctx.localTcpAddr, ctx.localTlsAddr with
    | some addr, _ => some (sdpCreateResponse addr .none sdpTransportProtocolTcp)
    | none, some addr => some (sdpCreateResponse addr .tls sdpTransportProtocolTcp)
    | none, none => none
  else none

section Listen

variable {Remote : Type*}

/-- What a turn of the loop in `sdp_listen` finds. -/
inductive SdpTurn (Remote : Type*) where
  | timeout
  | pollFailed
  | recvFailed
  | datagram (source : Remote) (bytes : List UInt8)
  deriving DecidableEq, Repr

/-- The buffer of a turn has room for a request. `recvfrom` drops the rest of a datagram. -/
def sdpTurn (ctx : SdpContext) : SdpTurn Remote → Option (Remote × List UInt8)
  | .timeout | .pollFailed | .recvFailed => none
  | .datagram source bytes =>
      let buffer := bytes.take (sdpHeaderLen + sdpRequestPayloadLen)
      if buffer.length ≠ sdpHeaderLen + sdpRequestPayloadLen then none
      else if sdpValidateHeader buffer sdpRequestType sdpRequestPayloadLen = false then none
      else (sdpSendResponse ctx (buffer.getD sdpHeaderLen 0) (buffer.getD (sdpHeaderLen + 1) 0)).map
        fun answer => (source, answer)

/-- `sdp_listen`: the datagrams that it sends. -/
def sdpListen (ctx : SdpContext) (turns : List (SdpTurn Remote)) : List (Remote × List UInt8) :=
  turns.filterMap (sdpTurn ctx)

/-! What the car makes of it. -/

/-- The request of a car. -/
def requestBytes (wanted : SdpSecurity) : List UInt8 :=
  [0x01, 0xfe, 0x90, 0x00, 0, 0, 0, 2, wanted.value, sdpTransportProtocolTcp]

/-- A datagram that begins with a request. -/
def request? : SdpTurn Remote → Option (Remote × SdpSecurity)
  | .datagram source bytes =>
      if requestBytes .tls <+: bytes then some (source, .tls)
      else if requestBytes .none <+: bytes then some (source, .none)
      else none
  | _ => none

structure Announcement where
  addr : List UInt8
  port : ℕ
  security : UInt8
  proto : UInt8
  deriving DecidableEq, Repr

def decodeAnnouncement (bytes : List UInt8) : Option Announcement :=
  if bytes.length = sdpHeaderLen + sdpResponsePayloadLen ∧
      sdpValidateHeader bytes sdpResponseType sdpResponsePayloadLen = true then
    some {
      addr := (bytes.drop sdpHeaderLen).take 16
      port := (bytes.getD 24 0).toNat * 256 + (bytes.getD 25 0).toNat
      security := bytes.getD 26 0
      proto := bytes.getD 27 0 }
  else none

end Listen

/-! The sockets. -/

/-- The server for a kind of connection, where one listens. -/
def SdpContext.socket (ctx : SdpContext) : SdpSecurity → Option SockAddr
  | .tls => ctx.tlsSocket
  | .none => ctx.tcpSocket

def TlsSecurityLevel.allows : TlsSecurityLevel → SdpSecurity → Prop
  | .allow, _ => True
  | .prohibit, security => security = .none
  | .force, security => security = .tls

section Init

variable {tlsSecurity : TlsSecurityLevel}

/-- There are addresses for the servers that are allowed. -/
structure Allocated (tlsSecurity : TlsSecurityLevel) (ctx : SdpContext) : Prop where
  tcp : ctx.localTcpAddr.isSome ↔ tlsSecurity.allows .none
  tls : ctx.localTlsAddr.isSome ↔ tlsSecurity.allows .tls

/-- Their servers listen there. -/
structure Opened (tlsSecurity : TlsSecurityLevel) (ctx : SdpContext) : Prop
    extends Allocated tlsSecurity ctx where
  tcpSocket : ctx.tcpSocket = ctx.localTcpAddr
  tlsSocket : ctx.tlsSocket = ctx.localTlsAddr

/-- No server listens. -/
structure Closed (tlsSecurity : TlsSecurityLevel) (ctx : SdpContext) : Prop
    extends Allocated tlsSecurity ctx where
  tcpSocket : ctx.tcpSocket = none
  tlsSocket : ctx.tlsSocket = none

theorem closed_allocate : Closed tlsSecurity (allocate tlsSecurity) := by
  refine ⟨⟨?_, ?_⟩, rfl, rfl⟩ <;>
    cases tlsSecurity <;> simp [allocate, TlsSecurityLevel.allows]

theorem closed_takeInterfaceAddr {ctx : SdpContext} (h : Closed tlsSecurity ctx)
    (round : InitRound) : Closed tlsSecurity (takeInterfaceAddr round ctx) := by
  unfold takeInterfaceAddr
  split
  · next old hOld =>
    refine ⟨⟨?_, ?_⟩, h.tcpSocket, h.tlsSocket⟩
    · rw [← h.tcp, hOld]
      rfl
    · rw [Option.isSome_map]
      exact h.tls
  · refine ⟨⟨h.tcp, ?_⟩, h.tcpSocket, h.tlsSocket⟩
    rw [Option.isSome_map]
    exact h.tls

/-- A round opens all servers or none. -/
theorem initRound_opened {ctx : SdpContext} (h : Closed tlsSecurity ctx) (round : InitRound) :
    if (initRound ctx round).2 then Opened tlsSecurity (initRound ctx round).1
    else Closed tlsSecurity (initRound ctx round).1 := by
  have hTaken := closed_takeInterfaceAddr h round
  unfold initRound
  generalize takeInterfaceAddr round ctx = ctx at hTaken
  obtain ⟨localTcpAddr, localTlsAddr, tcpSocket, tlsSocket⟩ := ctx
  obtain ⟨⟨hTcp, hTls⟩, hTcpSocket, hTlsSocket⟩ := hTaken
  dsimp only at hTcp hTls hTcpSocket hTlsSocket
  subst hTcpSocket hTlsSocket
  cases localTcpAddr with
  | none =>
      cases localTlsAddr with
      | none => exact ⟨⟨hTcp, hTls⟩, rfl, rfl⟩
      | some addr =>
          cases hOpens : round.tlsOpens <;> simp only [openTcp, openTls, hOpens]
          · exact ⟨⟨hTcp, hTls⟩, rfl, rfl⟩
          · exact ⟨⟨hTcp, hTls⟩, rfl, rfl⟩
  | some tcpAddr =>
      cases hTcpOpens : round.tcpOpens with
      | false =>
          simp only [openTcp, hTcpOpens]
          exact ⟨⟨hTcp, hTls⟩, rfl, rfl⟩
      | true =>
          cases localTlsAddr with
          | none =>
              simp only [openTcp, hTcpOpens, openTls]
              exact ⟨⟨hTcp, hTls⟩, rfl, rfl⟩
          | some addr =>
              cases hOpens : round.tlsOpens <;> simp only [openTcp, hTcpOpens, openTls, hOpens]
              · exact ⟨⟨hTcp, hTls⟩, rfl, rfl⟩
              · exact ⟨⟨hTcp, hTls⟩, rfl, rfl⟩

theorem opened_initRounds {start ctx : SdpContext} {rounds : List InitRound}
    (hStart : Closed tlsSecurity start) (h : initRounds start rounds = some ctx) :
    Opened tlsSecurity ctx := by
  induction rounds generalizing start with
  | nil => cases h
  | cons round rounds ih =>
      have hRound := initRound_opened hStart round
      rw [initRounds] at h
      split at h
      · next next hNext =>
        rw [hNext] at hRound
        cases h
        exact hRound
      · next next hNext =>
        rw [hNext] at hRound
        exact ih hRound h

end Init

/-! The bytes. -/

theorem wordBytes_toNat {high low : UInt8} {word : ℕ} (hWord : word < 65536)
    (h : wordBytes word = [high, low]) : high.toNat * 256 + low.toNat = word := by
  simp only [wordBytes, List.cons.injEq, and_true] at h
  rw [← h.1, ← h.2, UInt8.toNat_ofNat', UInt8.toNat_ofNat']
  omega

/-- Only a request passes the check, with the values that follow the header. -/
theorem sdpValidateHeader_request {buffer : List UInt8} (hLength : buffer.length = 10) :
    sdpValidateHeader buffer sdpRequestType sdpRequestPayloadLen = true ↔
      buffer = [0x01, 0xfe, 0x90, 0x00, 0, 0, 0, 2, buffer.getD 8 0, buffer.getD 9 0] := by
  match buffer, hLength with
  | [b0, b1, b2, b3, b4, b5, b6, b7, b8, b9], _ =>
      have hLow := b3.toNat_lt
      have hHigh := b2.toNat_lt
      have hOther := b7.toNat_lt
      simp only [sdpValidateHeader, sdpRequestType, sdpRequestPayloadLen, List.getD_cons_zero,
        List.getD_cons_succ, List.cons.injEq, ← UInt8.toNat_inj, and_true, UInt8.reduceToNat]
      split_ifs <;> simp only [true_iff, false_iff] <;> omega

/-- The car reads what the server has written. -/
theorem decodeAnnouncement_sdpCreateResponse (addr : SockAddr) (security : SdpSecurity)
    (proto : UInt8) : decodeAnnouncement (sdpCreateResponse addr security proto) =
      some ⟨addr.sin6Addr, addr.sin6Port.toNat, security.value, proto⟩ := by
  obtain ⟨sin6Addr, port, hAddr⟩ := addr
  match sin6Addr, hAddr with
  | [a0, a1, a2, a3, a4, a5, a6, a7, a8, a9, a10, a11, a12, a13, a14, a15], _ =>
      have hPort := wordBytes_toNat port.toNat_lt rfl
      have hHeader : sdpWriteHeader sdpResponseType 20 = [0x01, 0xfe, 0x90, 0x01, 0, 0, 0, 20] := by
        decide
      have hBytes : sdpCreateResponse ⟨[a0, a1, a2, a3, a4, a5, a6, a7, a8, a9, a10, a11, a12, a13,
          a14, a15], port, rfl⟩ security proto =
          [0x01, 0xfe, 0x90, 0x01, 0, 0, 0, 20, a0, a1, a2, a3, a4, a5, a6, a7, a8, a9, a10, a11,
            a12, a13, a14, a15, .ofNat (port.toNat / 256), .ofNat port.toNat, security.value,
            proto] := by
        show sdpWriteHeader sdpResponseType 20 ++ _ = _
        rw [hHeader]
        rfl
      rw [hBytes, decodeAnnouncement, if_pos ⟨rfl, by simp [sdpValidateHeader, sdpResponseType,
        sdpResponsePayloadLen]⟩]
      simp only [List.getD_cons_succ, List.getD_cons_zero, hPort]
      rfl

/-! The answers. -/

/-- The bytes announce a server that listens, with the security that is wanted unless no server
for that does. -/
structure Announces (tlsSecurity : TlsSecurityLevel) (ctx : SdpContext) (wanted : SdpSecurity)
    (bytes : List UInt8) (announced : SdpSecurity) (addr : SockAddr) : Prop where
  decoded : decodeAnnouncement bytes =
    some ⟨addr.sin6Addr, addr.sin6Port.toNat, announced.value, sdpTransportProtocolTcp⟩
  listens : ctx.socket announced = some addr
  allowed : tlsSecurity.allows announced
  preferred : announced = wanted ∨ ctx.socket wanted = none

section Answers

variable {tlsSecurity : TlsSecurityLevel} {ctx : SdpContext} (h : Opened tlsSecurity ctx)

include h

theorem announces_of_localAddr {wanted announced : SdpSecurity} {addr : SockAddr}
    (hSocket : ctx.socket announced = some addr)
    (hPreferred : announced = wanted ∨ ctx.socket wanted = none) :
    Announces tlsSecurity ctx wanted
      (sdpCreateResponse addr announced sdpTransportProtocolTcp) announced addr where
  decoded := decodeAnnouncement_sdpCreateResponse _ _ _
  listens := hSocket
  allowed := by
    cases announced with
    | tls =>
        rw [← h.tls, ← h.tlsSocket]
        exact Option.isSome_iff_exists.mpr ⟨addr, hSocket⟩
    | none =>
        rw [← h.tcp, ← h.tcpSocket]
        exact Option.isSome_iff_exists.mpr ⟨addr, hSocket⟩
  preferred := hPreferred

/-- A car that asks for a connection over TCP gets an answer. -/
theorem sdpSendResponse_announces (wanted : SdpSecurity) :
    ∃ bytes announced addr,
      sdpSendResponse ctx wanted.value sdpTransportProtocolTcp = some bytes ∧
        Announces tlsSecurity ctx wanted bytes announced addr := by
  have hAny : ctx.localTlsAddr = none → ctx.localTcpAddr = none → False := by
    intro hTls hTcp
    have hNoTls := mt h.tls.mpr
    have hNoTcp := mt h.tcp.mpr
    rw [hTls] at hNoTls
    rw [hTcp] at hNoTcp
    cases tlsSecurity <;> simp [TlsSecurityLevel.allows] at hNoTls hNoTcp
  cases wanted with
  | tls =>
      cases hTls : ctx.localTlsAddr with
      | some addr =>
          refine ⟨_, .tls, addr, ?_, announces_of_localAddr h (h.tlsSocket.trans hTls) (.inl rfl)⟩
          simp only [sdpSendResponse, SdpSecurity.value, hTls]
          rfl
      | none =>
          cases hTcp : ctx.localTcpAddr with
          | some addr =>
              refine ⟨_, .none, addr, ?_, announces_of_localAddr h (h.tcpSocket.trans hTcp)
                (.inr (h.tlsSocket.trans hTls))⟩
              simp only [sdpSendResponse, SdpSecurity.value, hTls, hTcp]
              rfl
          | none => exact (hAny hTls hTcp).elim
  | none =>
      cases hTcp : ctx.localTcpAddr with
      | some addr =>
          refine ⟨_, .none, addr, ?_, announces_of_localAddr h (h.tcpSocket.trans hTcp) (.inl rfl)⟩
          simp only [sdpSendResponse, SdpSecurity.value, hTcp]
          rfl
      | none =>
          cases hTls : ctx.localTlsAddr with
          | some addr =>
              refine ⟨_, .tls, addr, ?_, announces_of_localAddr h (h.tlsSocket.trans hTls)
                (.inr (h.tcpSocket.trans hTcp))⟩
              simp only [sdpSendResponse, SdpSecurity.value, hTls, hTcp]
              rfl
          | none => exact (hAny hTls hTcp).elim

variable {Remote : Type*}

omit h in
/-- The buffer of a turn is enough to see whether a request has come. -/
theorem request?_datagram (source : Remote) (bytes : List UInt8) :
    request? (.datagram source bytes) =
      if bytes.take (sdpHeaderLen + sdpRequestPayloadLen) = requestBytes .tls then
        some (source, .tls)
      else if bytes.take (sdpHeaderLen + sdpRequestPayloadLen) = requestBytes .none then
        some (source, .none)
      else none := by
  have hPrefix (wanted : SdpSecurity) : requestBytes wanted <+: bytes ↔
      bytes.take (sdpHeaderLen + sdpRequestPayloadLen) = requestBytes wanted :=
    List.prefix_iff_eq_take.trans eq_comm
  exact if_ctx_congr (hPrefix .tls) (fun _ => rfl) fun _ =>
    if_ctx_congr (hPrefix .none) (fun _ => rfl) fun _ => rfl

omit h in
theorem sdpValidateHeader_requestBytes (wanted : SdpSecurity) :
    sdpValidateHeader (requestBytes wanted) sdpRequestType sdpRequestPayloadLen = true := by
  cases wanted <;> decide

omit h in
theorem sdpSendResponse_none {security proto : UInt8}
    (hOther : ∀ wanted : SdpSecurity, security = wanted.value → proto ≠ sdpTransportProtocolTcp) :
    sdpSendResponse ctx security proto = none := by
  unfold sdpSendResponse
  split
  · rfl
  · next hProto =>
    rw [if_neg fun hTls => hProto (hOther .tls hTls),
      if_neg fun hNone => hProto (hOther .none hNone)]

omit h in
/-- A turn without a request sends nothing. -/
theorem sdpTurn_datagram_none {source : Remote} {bytes : List UInt8} (hOther : ∀ wanted,
    bytes.take (sdpHeaderLen + sdpRequestPayloadLen) ≠ requestBytes wanted) :
    sdpTurn ctx (.datagram source bytes) = none := by
  dsimp only [sdpTurn]
  generalize bytes.take (sdpHeaderLen + sdpRequestPayloadLen) = buffer at hOther
  split
  · rfl
  · next hLength =>
    split
    · rfl
    · next hValid =>
      have hBytes := (sdpValidateHeader_request (not_not.mp hLength)).mp
        (Bool.not_eq_false _ ▸ hValid)
      have hNone : sdpSendResponse ctx (buffer.getD sdpHeaderLen 0)
          (buffer.getD (sdpHeaderLen + 1) 0) = none := by
        apply sdpSendResponse_none
        intro wanted hSecurity hProto
        apply hOther wanted
        rw [hBytes]
        exact congrArg₂ (fun s p => [0x01, 0xfe, 0x90, 0x00, 0, 0, 0, 2, s, p]) hSecurity hProto
      rw [hNone]
      rfl

/-- What a turn of the server has to do with the request that it finds. -/
theorem sdpTurn_answers (turn : SdpTurn Remote) :
    match request? turn with
    | some (source, wanted) => ∃ bytes announced addr,
        sdpTurn ctx turn = some (source, bytes) ∧
          Announces tlsSecurity ctx wanted bytes announced addr
    | none => sdpTurn ctx turn = none := by
  cases turn with
  | timeout | pollFailed | recvFailed => rfl
  | datagram source bytes =>
      rw [request?_datagram]
      by_cases hRequest : ∃ wanted,
          bytes.take (sdpHeaderLen + sdpRequestPayloadLen) = requestBytes wanted
      · obtain ⟨wanted, hBytes⟩ := hRequest
        obtain ⟨answer, announced, addr, hAnswer, hAnnounces⟩ := sdpSendResponse_announces h wanted
        have hTurn : sdpTurn ctx (.datagram source bytes) = some (source, answer) := by
          dsimp only [sdpTurn]
          have hLength : (requestBytes wanted).length = sdpHeaderLen + sdpRequestPayloadLen := rfl
          rw [hBytes, if_neg (not_not.mpr hLength), sdpValidateHeader_requestBytes,
            if_neg (Ne.symm Bool.false_ne_true)]
          exact congrArg (Option.map _) hAnswer
        have hFound : (if requestBytes wanted = requestBytes .tls then
              some (source, SdpSecurity.tls)
            else if requestBytes wanted = requestBytes .none then some (source, .none)
            else none) = some (source, wanted) := by
          cases wanted <;> rfl
        rw [hBytes, hFound]
        exact ⟨answer, announced, addr, hTurn, hAnnounces⟩
      · rw [if_neg fun hTls => hRequest ⟨.tls, hTls⟩, if_neg fun hNone => hRequest ⟨.none, hNone⟩]
        exact sdpTurn_datagram_none fun wanted hBytes => hRequest ⟨wanted, hBytes⟩

end Answers

/-- Whatever arrives, every request gets one answer, in the order of the requests, and nothing else
is sent. The answer goes to whoever has sent the request, and announces a server that listens and
is allowed, with the security that was wanted unless there is no server for it. -/
theorem sdp_answers {tlsSecurity : TlsSecurityLevel} {rounds : List InitRound} {ctx : SdpContext}
    (hInit : connectionInit tlsSecurity rounds = some ctx) {Remote : Type*}
    (turns : List (SdpTurn Remote)) :
    List.Forall₂ (fun request answer => answer.1 = request.1 ∧
        ∃ announced addr, Announces tlsSecurity ctx request.2 answer.2 announced addr)
      (turns.filterMap request?) (sdpListen ctx turns) := by
  have hOpened := opened_initRounds closed_allocate hInit
  induction turns with
  | nil => exact .nil
  | cons turn turns ih =>
      have hTurn := sdpTurn_answers hOpened turn
      rw [sdpListen]
      cases hRequest : request? turn with
      | none =>
          rw [hRequest] at hTurn
          rw [List.filterMap_cons_none hRequest, List.filterMap_cons_none hTurn]
          exact ih
      | some request =>
          rw [hRequest] at hTurn
          obtain ⟨bytes, announced, addr, hAnswer, hAnnounces⟩ := hTurn
          rw [List.filterMap_cons_some hRequest, List.filterMap_cons_some hAnswer]
          exact .cons ⟨rfl, announced, addr, hAnnounces⟩ ih

/-- TLS opens in the second round. A car asks for it, with one byte too many, and another one for
the 2010 version of the header. -/
theorem sdp_answers_tls :
    ∃ ctx, connectionInit .allow [⟨none, true, false⟩, ⟨some emptySockAddr, true, true⟩] =
        some ctx ∧
      List.Forall₂ (fun request answer => answer.1 = request.1 ∧
          ∃ announced addr, Announces .allow ctx request.2 answer.2 announced addr)
        [(7, .tls)] (sdpListen ctx [.timeout, .datagram 7 (requestBytes .tls ++ [0]),
          .datagram 8 [0x02, 0xfd, 0x90, 0x00, 0, 0, 0, 2, 0, 0]]) := by
  obtain ⟨ctx, hInit⟩ := Option.isSome_iff_exists.mp (by decide : (connectionInit .allow
    [⟨none, true, false⟩, ⟨some emptySockAddr, true, true⟩]).isSome)
  exact ⟨ctx, hInit, sdp_answers hInit [.timeout, .datagram 7 (requestBytes .tls ++ [0]),
    .datagram 8 [0x02, 0xfd, 0x90, 0x00, 0, 0, 0, 2, 0, 0]]⟩

end EverestCore.V2G
