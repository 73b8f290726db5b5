import EverestCore.V2G.Server

/-! The handshake of a connection in detail: the entries of a
`supportedAppProtocolReq` as the car sends them, the scan for the best of them, and
the response. The server above only keeps which protocol an entry names and its
priority; it is connected to this scan at the end. -/
namespace EverestCore.V2G.Handshake

section LastLeast

variable {α β : Type*} [Preorder β]

/-- `entry` is the last one among those of `entries` with `Chosen` whose key is the
smallest. -/
def LastLeast (Chosen : α → Prop) (key : α → β) (entries : List α) (entry : α) : Prop :=
  ∃ before after, entries = before ++ entry :: after ∧ Chosen entry ∧
    (∀ other ∈ before, Chosen other → key entry ≤ key other) ∧
    ∀ other ∈ after, Chosen other → key entry < key other

variable {Chosen : α → Prop} {key : α → β} {entries : List α} {entry new : α}

theorem LastLeast.chosen (h : LastLeast Chosen key entries entry) : Chosen entry := by
  obtain ⟨_, _, _, hChosen, _⟩ := h
  exact hChosen

theorem LastLeast.mem (h : LastLeast Chosen key entries entry) : entry ∈ entries := by
  obtain ⟨before, after, rfl, _⟩ := h
  simp

/-- An entry that is not chosen, or that is worse, changes nothing. -/
theorem LastLeast.snoc_other (h : LastLeast Chosen key entries entry)
    (hWorse : Chosen new → key entry < key new) :
    LastLeast Chosen key (entries ++ [new]) entry := by
  obtain ⟨before, after, rfl, hChosen, hBefore, hAfter⟩ := h
  refine ⟨before, after ++ [new], by simp, hChosen, hBefore, ?_⟩
  intro other hOther hOtherChosen
  rcases List.mem_append.mp hOther with hMem | hMem
  · exact hAfter other hMem hOtherChosen
  · obtain rfl := List.mem_singleton.mp hMem
    exact hWorse hOtherChosen

/-- An entry that is as good as the best so far replaces it. -/
theorem LastLeast.snoc_new (h : LastLeast Chosen key entries entry) (hChosen : Chosen new)
    (hKey : key new ≤ key entry) : LastLeast Chosen key (entries ++ [new]) new := by
  obtain ⟨before, after, rfl, -, hBefore, hAfter⟩ := h
  refine ⟨before ++ entry :: after, [], by simp, hChosen, ?_, by simp⟩
  intro other hOther hOtherChosen
  rcases List.mem_append.mp hOther with hMem | hMem
  · exact hKey.trans (hBefore other hMem hOtherChosen)
  · rcases List.mem_cons.mp hMem with rfl | hMem
    · exact hKey
    · exact hKey.trans (hAfter other hMem hOtherChosen).le

/-- The first entry that is chosen is the best so far. -/
theorem LastLeast.first (hNone : ∀ other ∈ entries, ¬ Chosen other) (hChosen : Chosen new) :
    LastLeast Chosen key (entries ++ [new]) new := by
  refine ⟨entries, [], rfl, hChosen, ?_, by simp⟩
  intro other hOther hOtherChosen
  exact absurd hOtherChosen (hNone other hOther)

end LastLeast

/-- `appHandresponseCodeType`. -/
inductive AppHandResponseCode where
  | okSuccessfulNegotiation
  | okSuccessfulNegotiationWithMinorDeviation
  | failedNoNegotiation
  deriving DecidableEq, Repr

/-- `appHandAppProtocolType`: an entry of the request, the characters of the namespace
as far as `charactersLen` says. -/
structure AppProtocolType where
  protocolNamespace : List Char
  versionNumberMajor : UInt32
  versionNumberMinor : UInt32
  schemaID : UInt8
  priority : UInt8
  deriving DecidableEq, Repr

/-- `supportedAppProtocolRes`. -/
structure SupportedAppProtocolRes where
  responseCode : AppHandResponseCode
  schemaIDIsUsed : Bool
  schemaID : UInt8
  deriving DecidableEq, Repr

/-- `strndup`: the copy ends at the first NUL. -/
def strndup (characters : List Char) : List Char :=
  characters.takeWhile (· ≠ '\x00')

def DIN_70121_MSG_DEF : List Char := "urn:din:70121:2012:MsgDef".toList
def DIN_70121_MAJOR : UInt32 := 2
def ISO_15118_2013_MSG_DEF : List Char := "urn:iso:15118:2:2013:MsgDef".toList
def ISO_15118_2013_MAJOR : UInt32 := 2

/-- What the loop over the entries has found so far. -/
structure Negotiation where
  evAppPriority : UInt8
  responseCode : AppHandResponseCode
  schemaID : UInt8
  selectedProtocol : V2gProtocol
  deriving DecidableEq, Repr

/-- The body that both branches of the loop share. -/
def Negotiation.take (appProto : AppProtocolType) (protocol : V2gProtocol) : Negotiation where
  evAppPriority := appProto.priority
  responseCode := .okSuccessfulNegotiation
  schemaID := appProto.schemaID
  selectedProtocol := protocol

/-- The body of the loop. -/
def Negotiation.consider (supported : List V2gProtocol) (found : Negotiation)
    (appProto : AppProtocolType) : Negotiation :=
  let protoNs := strndup appProto.protocolNamespace
  if V2gProtocol.din70121 ∈ supported ∧ protoNs = DIN_70121_MSG_DEF ∧
      appProto.versionNumberMajor = DIN_70121_MAJOR ∧
      found.evAppPriority ≥ appProto.priority then
    .take appProto .din70121
  else if V2gProtocol.iso15118_2013 ∈ supported ∧ protoNs = ISO_15118_2013_MSG_DEF ∧
      appProto.versionNumberMajor = ISO_15118_2013_MAJOR ∧
      found.evAppPriority ≥ appProto.priority then
    .take appProto .iso15118_2013
  else found

/-- The loop over the entries. -/
def negotiate (supported : List V2gProtocol) (start : Negotiation)
    (appProtocols : List AppProtocolType) : Negotiation :=
  appProtocols.foldl (Negotiation.consider supported) start

/-- What the response and the context hold before the loop: 20 is the lowest priority,
and the schema id is not initialised. -/
def Negotiation.start (oldSchemaID : UInt8) (selectedProtocol : V2gProtocol) : Negotiation where
  evAppPriority := 20
  responseCode := .failedNoNegotiation
  schemaID := oldSchemaID
  selectedProtocol := selectedProtocol

/-- What a handshake leaves: the response, the context, the event for the connection
and what was published for debugging. -/
structure HandshakeResult where
  handshakeResp : SupportedAppProtocolRes
  ctx : V2gContext
  event : V2gEvent
  publishedAppProtocols : Option (List AppProtocolType) := none

/-- The end of `v2g_handle_apphandshake`, from the check of the negotiated code on. -/
def concludeHandshake (published : Option (List AppProtocolType)) (encodes : Bool)
    (ctx : V2gContext) (found : Negotiation) : HandshakeResult :=
  let agreed : Bool := found.responseCode = .okSuccessfulNegotiation
  let resp : SupportedAppProtocolRes :=
    { responseCode := found.responseCode, schemaIDIsUsed := agreed, schemaID := found.schemaID }
  let ctx := { ctx with selectedProtocol := found.selectedProtocol }
  if ctx.isConnectionTerminated then
    { handshakeResp := resp, ctx, event := .terminateConnection, publishedAppProtocols := published }
  else
    let aborted : Bool := ctx.intlEmergencyShutdown || ctx.stopHlc || !agreed
    { handshakeResp := if aborted then { resp with responseCode := .failedNoNegotiation } else resp
      ctx
      event :=
        if !encodes || !agreed || (aborted && ctx.terminateConnectionOnFailedResponse) then
          .sendAndTerminate
        else .noEvent
      publishedAppProtocols := published }

/-- `v2g_handle_apphandshake`. There is no request if the message cannot be decoded,
and `encodes` says whether the response can be encoded. -/
def v2gHandleApphandshake (oldSchemaID : UInt8) (handshakeReq : Option (List AppProtocolType))
    (encodes : Bool) (ctx : V2gContext) : HandshakeResult :=
  let ctx := ctx.withMsg .supportedAppProtocol
  match handshakeReq with
  | none =>
      { handshakeResp :=
          { responseCode := .failedNoNegotiation, schemaIDIsUsed := false, schemaID := oldSchemaID }
        ctx
        event := .terminateConnection }
  | some appProtocols =>
      let found := negotiate ctx.supportedProtocols (.start oldSchemaID ctx.selectedProtocol)
        appProtocols
      let published :=
        if ctx.debugMode then
          some (appProtocols.map fun appProto =>
            { appProto with protocolNamespace := strndup appProto.protocolNamespace })
        else none
      concludeHandshake published encodes ctx found

namespace AppProtocolType

/-- The protocol that the namespace and the major version of an entry name. -/
def protocol (appProto : AppProtocolType) : V2gProtocol :=
  if strndup appProto.protocolNamespace = DIN_70121_MSG_DEF ∧
      appProto.versionNumberMajor = DIN_70121_MAJOR then .din70121
  else if strndup appProto.protocolNamespace = ISO_15118_2013_MSG_DEF ∧
      appProto.versionNumberMajor = ISO_15118_2013_MAJOR then .iso15118_2013
  else .unknown

/-- An entry that the charger can follow. -/
def Followed (supported : List V2gProtocol) (appProto : AppProtocolType) : Prop :=
  appProto.protocol ≠ .unknown ∧ appProto.protocol ∈ supported

/-- An entry that the charger supports: the namespace and the major version match, and
the priority is among the allowed ones. -/
def Supported (supported : List V2gProtocol) (appProto : AppProtocolType) : Prop :=
  appProto.Followed supported ∧ appProto.priority ≤ 20

end AppProtocolType

theorem msgDefs_differ : DIN_70121_MSG_DEF ≠ ISO_15118_2013_MSG_DEF := by
  decide

/-- The body of the loop, in terms of the protocol that the entry names. -/
theorem consider_eq (supported : List V2gProtocol) (found : Negotiation)
    (appProto : AppProtocolType) [Decidable (appProto.Followed supported)] :
    found.consider supported appProto =
      if appProto.Followed supported ∧ appProto.priority ≤ found.evAppPriority then
        .take appProto appProto.protocol
      else found := by
  have hDiffer := msgDefs_differ
  unfold Negotiation.consider AppProtocolType.Followed AppProtocolType.protocol
  grind

/-- What the scan of a list has found: nothing if no entry is supported, and the last
one of the best priority otherwise. -/
inductive Scanned (supported : List V2gProtocol) (start : Negotiation)
    (appProtocols : List AppProtocolType) : Negotiation → Prop where
  | nothing (hNone : ∀ appProto ∈ appProtocols, ¬ appProto.Supported supported) :
      Scanned supported start appProtocols start
  | best (appProto : AppProtocolType)
      (hBest : LastLeast (AppProtocolType.Supported supported) (·.priority.toNat)
        appProtocols appProto) :
      Scanned supported start appProtocols (.take appProto appProto.protocol)

theorem scanned_consider {supported : List V2gProtocol} {start found : Negotiation}
    {appProtocols : List AppProtocolType} (hStart : start.evAppPriority = 20)
    (h : Scanned supported start appProtocols found) (new : AppProtocolType) :
    Scanned supported start (appProtocols ++ [new]) (found.consider supported new) := by
  classical
  rw [consider_eq]
  cases h with
  | nothing hNone =>
      by_cases hNew : new.Supported supported
      · have hTaken : new.Followed supported ∧ new.priority ≤ start.evAppPriority := by
          rw [hStart]
          exact hNew
        rw [if_pos hTaken]
        exact .best new (.first hNone hNew)
      · have hLeft : ¬ (new.Followed supported ∧ new.priority ≤ start.evAppPriority) := by
          rw [hStart]
          exact hNew
        rw [if_neg hLeft]
        apply Scanned.nothing
        intro appProto hMem
        rcases List.mem_append.mp hMem with hMem | hMem
        · exact hNone appProto hMem
        · obtain rfl := List.mem_singleton.mp hMem
          exact hNew
  | best appProto hBest =>
      by_cases hNew : new.Followed supported ∧ new.priority ≤ appProto.priority
      · have hTaken : new.Followed supported ∧
            new.priority ≤ (Negotiation.take appProto appProto.protocol).evAppPriority := hNew
        have hSupported : new.Supported supported :=
          ⟨hNew.1, UInt8.le_trans hNew.2 hBest.chosen.2⟩
        rw [if_pos hTaken]
        exact .best new (hBest.snoc_new hSupported (UInt8.le_iff_toNat_le.mp hNew.2))
      · have hLeft : ¬ (new.Followed supported ∧
            new.priority ≤ (Negotiation.take appProto appProto.protocol).evAppPriority) := hNew
        rw [if_neg hLeft]
        apply Scanned.best appProto
        apply hBest.snoc_other
        intro hSupported
        apply not_le.mp
        intro hLe
        exact hNew ⟨hSupported.1, UInt8.le_iff_toNat_le.mpr hLe⟩

theorem scanned_negotiate (supported : List V2gProtocol) (start : Negotiation)
    (hStart : start.evAppPriority = 20) (appProtocols : List AppProtocolType) :
    Scanned supported start appProtocols (negotiate supported start appProtocols) := by
  induction appProtocols using List.reverseRecOn with
  | nil =>
      exact .nothing (fun _ hMem => absurd hMem List.not_mem_nil)
  | append_singleton appProtocols new hScanned =>
      unfold negotiate
      rw [List.foldl_append]
      exact scanned_consider hStart hScanned new

/-- With no flag set the response holds what the scan has found. -/
theorem handshakeResp_of_running (oldSchemaID : UInt8) (appProtocols : List AppProtocolType)
    (encodes : Bool) (ctx : V2gContext) (hTerminated : ctx.isConnectionTerminated = false)
    (hEmergency : ctx.intlEmergencyShutdown = false) (hStop : ctx.stopHlc = false) :
    let result := v2gHandleApphandshake oldSchemaID (some appProtocols) encodes ctx
    let found := negotiate ctx.supportedProtocols (.start oldSchemaID ctx.selectedProtocol)
      appProtocols
    (result.handshakeResp.responseCode = .okSuccessfulNegotiation ↔
      found.responseCode = .okSuccessfulNegotiation) ∧
    (found.responseCode = .okSuccessfulNegotiation →
      result.handshakeResp.schemaIDIsUsed = true ∧
      result.handshakeResp.schemaID = found.schemaID ∧
      result.ctx.selectedProtocol = found.selectedProtocol) := by
  intro result found
  have hResult : result = concludeHandshake result.publishedAppProtocols encodes
      (ctx.withMsg .supportedAppProtocol) found := by
    simp [result, found, v2gHandleApphandshake, concludeHandshake, V2gContext.withMsg, hTerminated]
  rw [hResult]
  by_cases hAgreed : found.responseCode = .okSuccessfulNegotiation
  · simp [concludeHandshake, V2gContext.withMsg, hTerminated, hEmergency, hStop, hAgreed]
  · simp [concludeHandshake, V2gContext.withMsg, hTerminated, hEmergency, hStop, hAgreed]

/-- A negotiation succeeds exactly if some entry is supported, and then the response
and the context name the last entry among the supported ones with the smallest
priority. -/
theorem apphandshake_selects_best (oldSchemaID : UInt8) (appProtocols : List AppProtocolType)
    (encodes : Bool) (ctx : V2gContext) (hTerminated : ctx.isConnectionTerminated = false)
    (hEmergency : ctx.intlEmergencyShutdown = false) (hStop : ctx.stopHlc = false) :
    let result := v2gHandleApphandshake oldSchemaID (some appProtocols) encodes ctx
    (result.handshakeResp.responseCode = .okSuccessfulNegotiation ↔
      ∃ appProto ∈ appProtocols, appProto.Supported ctx.supportedProtocols) ∧
    (result.handshakeResp.responseCode = .okSuccessfulNegotiation →
      ∃ appProto, LastLeast (AppProtocolType.Supported ctx.supportedProtocols)
          (·.priority.toNat) appProtocols appProto ∧
        result.handshakeResp.schemaIDIsUsed = true ∧
        result.handshakeResp.schemaID = appProto.schemaID ∧
        result.ctx.selectedProtocol = appProto.protocol) := by
  intro result
  obtain ⟨hCode, hFields⟩ := handshakeResp_of_running oldSchemaID appProtocols encodes ctx
    hTerminated hEmergency hStop
  have hScanned := scanned_negotiate ctx.supportedProtocols
    (.start oldSchemaID ctx.selectedProtocol) rfl appProtocols
  rw [hCode]
  generalize negotiate ctx.supportedProtocols (.start oldSchemaID ctx.selectedProtocol)
    appProtocols = found at hScanned hFields
  cases hScanned with
  | nothing hNone =>
      constructor
      · constructor
        · intro hOk
          exact absurd hOk AppHandResponseCode.noConfusion
        · rintro ⟨appProto, hMem, hSupported⟩
          exact absurd hSupported (hNone appProto hMem)
      · intro hOk
        exact absurd hOk AppHandResponseCode.noConfusion
  | best appProto hBest =>
      constructor
      · constructor
        · intro _
          exact ⟨appProto, hBest.mem, hBest.chosen⟩
        · intro _
          rfl
      · intro hOk
        exact ⟨appProto, hBest, hFields hOk⟩

/-- The negotiation of a car that prefers ISO 15118-2 with a charger that can do both. -/
theorem apphandshake_selects_best_iso :
    let din : AppProtocolType :=
      { protocolNamespace := DIN_70121_MSG_DEF, versionNumberMajor := 2, versionNumberMinor := 0
        schemaID := 1, priority := 2 }
    let iso : AppProtocolType :=
      { protocolNamespace := ISO_15118_2013_MSG_DEF, versionNumberMajor := 2
        versionNumberMinor := 0, schemaID := 2, priority := 1 }
    let config : Config :=
      { highlevelAuthenticationMode := .eim, supportedDIN70121 := true, supportedISO15118 := true
        terminateConnectionOnFailedResponse := false }
    let ctx := { v2gCtxCreate config with isConnectionTerminated := false }
    (ctx.isConnectionTerminated = false ∧ ctx.intlEmergencyShutdown = false ∧ ctx.stopHlc = false) ∧
    ((v2gHandleApphandshake 0 (some [din, iso]) true ctx).handshakeResp.responseCode =
        .okSuccessfulNegotiation ↔
      ∃ appProto ∈ [din, iso], appProto.Supported ctx.supportedProtocols) :=
  ⟨⟨rfl, rfl, rfl⟩, (apphandshake_selects_best 0 _ true _ rfl rfl rfl).1⟩

/-- An entry as the server above sees it. -/
def AppProtocolType.offer (appProto : AppProtocolType) : AppProtocol where
  protocol := appProto.protocol
  priority := appProto.priority.toNat

/-- The scan of the server above and this one have found the same, where `old` was
selected before. -/
structure SamePick (old : V2gProtocol) (best : ℕ × V2gProtocol) (found : Negotiation) : Prop where
  priority : best.1 = found.evAppPriority.toNat
  agreed : found.responseCode = .okSuccessfulNegotiation ↔ best.2 ≠ .unknown
  selected : found.selectedProtocol = if best.2 = .unknown then old else best.2

theorem samePick_consider {supported : List V2gProtocol} (hUnknown : V2gProtocol.unknown ∉ supported)
    {old : V2gProtocol} {best : ℕ × V2gProtocol} {found : Negotiation}
    (h : SamePick old best found) (appProto : AppProtocolType) :
    SamePick old (preferOffer supported best appProto.offer)
      (found.consider supported appProto) := by
  classical
  have hPreferred : (appProto.offer.protocol ∈ supported ∧ best.1 ≥ appProto.offer.priority) ↔
      (appProto.Followed supported ∧ appProto.priority ≤ found.evAppPriority) := by
    rw [h.priority, UInt8.le_iff_toNat_le]
    apply and_congr_left
    intro _
    constructor
    · intro hMem
      exact ⟨fun hNone => hUnknown (hNone ▸ hMem), hMem⟩
    · intro hFollowed
      exact hFollowed.2
  rw [consider_eq]
  unfold preferOffer
  by_cases hTaken : appProto.Followed supported ∧ appProto.priority ≤ found.evAppPriority
  · rw [if_pos hTaken, if_pos (hPreferred.mpr hTaken)]
    have hKnown : appProto.protocol ≠ .unknown := hTaken.1.1
    exact ⟨rfl, by simp [Negotiation.take, AppProtocolType.offer, hKnown],
      by simp [Negotiation.take, AppProtocolType.offer, hKnown]⟩
  · rw [if_neg hTaken, if_neg (mt hPreferred.mp hTaken)]
    exact h

theorem samePick_negotiate {supported : List V2gProtocol}
    (hUnknown : V2gProtocol.unknown ∉ supported) {old : V2gProtocol} {best : ℕ × V2gProtocol}
    {found : Negotiation} (h : SamePick old best found) (appProtocols : List AppProtocolType) :
    SamePick old ((appProtocols.map AppProtocolType.offer).foldl (preferOffer supported) best)
      (negotiate supported found appProtocols) := by
  induction appProtocols generalizing best found with
  | nil => exact h
  | cons appProto appProtocols hRest =>
      exact hRest (samePick_consider hUnknown h appProto)

/-- The handshake of the server is this one, with the entries seen as offers. -/
theorem v2gHandleApphandshake_refines (oldSchemaID : UInt8)
    (handshakeReq : Option (List AppProtocolType)) (encodes : Bool) (ctx : V2gContext)
    (hUnknown : V2gProtocol.unknown ∉ ctx.supportedProtocols) :
    V2G.v2gHandleApphandshake (handshakeReq.map (List.map AppProtocolType.offer)) encodes ctx =
      ((v2gHandleApphandshake oldSchemaID handshakeReq encodes ctx).ctx,
        (v2gHandleApphandshake oldSchemaID handshakeReq encodes ctx).event) := by
  cases handshakeReq with
  | none => rfl
  | some appProtocols =>
      have hStart : SamePick ctx.selectedProtocol (20, .unknown)
          (.start oldSchemaID ctx.selectedProtocol) := ⟨rfl, by simp [Negotiation.start], rfl⟩
      obtain ⟨-, hAgreed, hSelected⟩ := samePick_negotiate hUnknown hStart appProtocols
      simp only [V2G.v2gHandleApphandshake, v2gHandleApphandshake, concludeHandshake,
        V2gContext.withMsg, Option.map_some, hSelected]
      by_cases hNone : ((appProtocols.map AppProtocolType.offer).foldl
          (preferOffer ctx.supportedProtocols) (20, .unknown)).2 = .unknown
      · have hFailed := mt hAgreed.mp (not_not_intro hNone)
        by_cases hTerminated : ctx.isConnectionTerminated
        · simp [hNone, hTerminated]
        · simp [hNone, hFailed, hTerminated]
      · have hOk := hAgreed.mpr hNone
        by_cases hTerminated : ctx.isConnectionTerminated
        · simp [hNone, hTerminated]
        · cases encodes with
          | false => simp [hNone, hTerminated]
          | true =>
              by_cases hAborted : (ctx.intlEmergencyShutdown || ctx.stopHlc) &&
                ctx.terminateConnectionOnFailedResponse
              · simp [hNone, hOk, hTerminated, hAborted]
              · simp [hNone, hOk, hTerminated, hAborted]

end EverestCore.V2G.Handshake
