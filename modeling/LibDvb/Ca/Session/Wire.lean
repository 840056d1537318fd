import LibDvb.Basis.Framing
import LibDvb.Ca.Session.Habit
import LibDvb.Ca.Session.Outstanding
import LibDvb.Ca.Transport.CommandResponse
import LibDvb.Ca.Transport.Fragmentation
import LibDvb.Ca.Transport.Handshake

namespace LibDvb

open Act Outcome

-- What a module learns from the host: one of its sessions is open, or an object of the session.
inductive Telling where
  | opened (sessionId : UInt16)
  | object (sessionId : UInt16) (tag : ApduTag) (body : Bytes)
  deriving DecidableEq

def Tpdu.piece (frame : Bytes) : Option (Bool × Bytes) :=
  match payload frame with
  | some (tag, body) =>
      if tag = .dataMore then some (true, body) else if tag = .dataLast then some (false, body) else none
  | none => none

def Spdu.grantedSession : Bytes → Option UInt16
  | [tag, _, status, _, _, _, _, high, low] =>
      if tag = SpduTag.openSessionResponse.raw ∧ status = ssOk then some (ofBeBytes high low) else none
  | _ => none

def Spdu.objects (spdu : Bytes) : List Telling :=
  match parse spdu with
  | .ok (.sessionNumber sessionId apdus) =>
      match Apdu.iter apdus with
      | .ok items => items.filterMap fun item => item.toOption.map fun apdu => .object sessionId apdu.tag apdu.body
      | _ => []
  | _ => []

def Spdu.tellings (spdu : Bytes) : List Telling :=
  match grantedSession spdu with
  | some sessionId => [.opened sessionId]
  | none => objects spdu

def assembled (frames : List Bytes) : Assembly UInt8 := .of (frames.filterMap Tpdu.piece)

def decoded (frames : List Bytes) : List Telling := (assembled frames).messages.flatMap Spdu.tellings

theorem decoded_mono {frames more : List Bytes} (h : frames <+: more) : decoded frames <+: decoded more := by
  obtain ⟨rest, hrest⟩ := Assembly.messages_mono (h.filterMap Tpdu.piece)
  rw [decoded, decoded, assembled, assembled, ← hrest, List.flatMap_append]
  exact List.prefix_append _ _

def sinceCleared (slotId : UInt8) (trace : List Obs) : List Obs :=
  trace.foldl (fun recent obs =>
    if obs = .cleared slotId then [] else if obs.slot = some slotId then recent ++ [obs] else recent) []

def Obs.hands : Obs → Option Telling
  | .apdu _ sessionId tag body => if body.length ≤ 65535 then some (.object sessionId tag body) else none
  | .opened _ sessionId => some (.opened sessionId)
  | _ => none

def handedOver (slotId : UInt8) (trace : List Obs) : List Telling := (sinceCleared slotId trace).filterMap Obs.hands

-- What the host says on a slot: one of its own commands, or an SPDU.
inductive Utterance where
  | create
  | receive
  | poll
  | spdu (bytes : Bytes) (carries : bytes ≠ [])

namespace Utterance

def frames (slotId : UInt8) : Utterance → List Bytes
  | create => [Tpdu.createFrame slotId]
  | receive => [Tpdu.receiveFrame slotId]
  | poll => [Tpdu.pollFrame slotId]
  | spdu bytes _ => (Tpdu.pieces (bytes.length + 1) bytes).map fun piece => Tpdu.frameOf slotId piece.1 piece.2

def spdus : Utterance → List Bytes
  | create => []
  | receive => []
  | poll => []
  | spdu bytes _ => [bytes]

end Utterance

-- The frames say the SPDUs that tell these things, each SPDU whole and nothing within it.
def Utters (slotId : UInt8) (frames : List Bytes) (told : List Telling) : Prop :=
  ∃ talk : List Utterance, frames = talk.flatMap (Utterance.frames slotId) ∧
    told = (talk.flatMap Utterance.spdus).flatMap Spdu.tellings

theorem Utters.append {slotId : UInt8} {frames more : List Bytes} {told further : List Telling}
    (h : Utters slotId frames told) (h' : Utters slotId more further) :
    Utters slotId (frames ++ more) (told ++ further) := by
  obtain ⟨talk, rfl, rfl⟩ := h
  obtain ⟨talk', rfl, rfl⟩ := h'
  refine ⟨talk ++ talk', ?_, ?_⟩
  · rw [List.flatMap_append]
  · rw [List.flatMap_append, List.flatMap_append]

-- What is queued for the module says what the host handed over.
def Balanced (slotId : UInt8) (trace : List Obs) : Prop :=
  Whole (sinceCleared slotId trace) →
    Utters slotId (queuedFrames slotId (sinceCleared slotId trace)) (handedOver slotId trace)

section Since

variable {slotId other : UInt8} {trace delta : List Obs} {obs : Obs}

theorem sinceCleared_snoc : sinceCleared slotId (trace ++ [obs]) =
    if obs = .cleared slotId then []
    else if obs.slot = some slotId then sinceCleared slotId trace ++ [obs] else sinceCleared slotId trace := by
  rw [sinceCleared, List.foldl_append]
  rfl

theorem sinceCleared_append (hkept : .cleared slotId ∉ delta) : sinceCleared slotId (trace ++ delta) =
    sinceCleared slotId trace ++ delta.filter fun obs => obs.slot = some slotId := by
  induction delta using List.reverseRecOn with
  | nil => simp
  | append_singleton delta obs ih =>
      have hobs : obs ≠ .cleared slotId := fun heq => hkept (heq ▸ List.mem_append_right _ (List.mem_singleton_self _))
      rw [← List.append_assoc, sinceCleared_snoc, if_neg hobs, ih fun hmem => hkept (List.mem_append_left _ hmem),
        List.filter_append]
      by_cases hslot : obs.slot = some slotId
      · rw [if_pos hslot]
        simp [hslot]
      · rw [if_neg hslot]
        simp [hslot]

end Since

section Balanced

variable {slotId other : UInt8} {trace delta own : List Obs}

theorem Balanced.append (h : Balanced slotId trace) (hkept : .cleared slotId ∉ delta)
    (hown : (delta.filter fun obs => obs.slot = some slotId) = own)
    (hutters : Whole own → Utters slotId (queuedFrames slotId own) (own.filterMap Obs.hands)) :
    Balanced slotId (trace ++ delta) := by
  unfold Balanced handedOver
  rw [sinceCleared_append hkept, hown]
  intro hwhole
  rw [queuedFrames, List.filterMap_append, List.filterMap_append]
  exact (h hwhole.left).append (hutters hwhole.right)

def Spontaneous (slotId : UInt8) (frame : Bytes) : Prop := Utters slotId [frame] []

theorem Balanced.quiet (h : Balanced slotId trace) (hkept : .cleared slotId ∉ delta)
    (hframes : ∀ obs ∈ delta, ∀ frame, obs.queuedFor slotId = some frame → Spontaneous slotId frame)
    (hhands : ∀ obs ∈ delta, obs.slot = some slotId → obs.hands = none) : Balanced slotId (trace ++ delta) := by
  refine h.append hkept rfl fun _ => ?_
  have hsub : ∀ obs ∈ delta.filter (fun obs => obs.slot = some slotId), obs ∈ delta ∧ obs.slot = some slotId := by
    intro obs hmem
    obtain ⟨hmem, hslot⟩ := List.mem_filter.mp hmem
    exact ⟨hmem, of_decide_eq_true hslot⟩
  generalize delta.filter (fun obs => obs.slot = some slotId) = own at hsub
  induction own with
  | nil => exact ⟨[], rfl, rfl⟩
  | cons obs own ih =>
      have hrest := ih fun other hmem => hsub other (List.mem_cons_of_mem _ hmem)
      obtain ⟨hmem, hslot⟩ := hsub obs List.mem_cons_self
      rw [List.filterMap_cons_none (hhands obs hmem hslot)]
      cases hobs : obs.queuedFor slotId with
      | none =>
          rw [queuedFrames, List.filterMap_cons_none hobs]
          exact hrest
      | some frame =>
          rw [queuedFrames, List.filterMap_cons_some hobs]
          exact (hframes obs hmem frame hobs).append hrest

theorem Balanced.cleared : Balanced slotId (trace ++ [.cleared slotId]) := by
  unfold Balanced handedOver
  rw [sinceCleared_snoc, if_pos rfl]
  exact fun _ => ⟨[], rfl, rfl⟩

end Balanced

section Spelling

variable {slotId : UInt8} {sessionId : UInt16} {resourceId : ResourceId} {status : UInt8}

theorem grantedSession_head {tag : UInt8} {rest : Bytes} (h : tag ≠ SpduTag.openSessionResponse.raw) :
    Spdu.grantedSession (tag :: rest) = none := by
  unfold Spdu.grantedSession
  split
  · next heq =>
      rw [← (List.cons.inj heq).1, if_neg fun hboth => h hboth.1]
  · rfl

theorem tellings_apduSpdu {tag : ApduTag} {body : Bytes} (htag : tag.raw.toNat < 0x1000000)
    (hbody : body.length ≤ 65535) :
    Spdu.tellings (apduSpdu sessionId tag body) = [.object sessionId tag body] := by
  obtain ⟨apdu, hparse, hiter⟩ := @apduSpdu_parses sessionId tag body htag hbody
  have hnone : Spdu.grantedSession (apduSpdu sessionId tag body) = none := grantedSession_head (by decide)
  rw [Spdu.tellings, hnone, Spdu.objects, hparse]
  dsimp only
  rw [hiter]
  rfl

theorem tellings_granted : Spdu.tellings (Spdu.buildOpenSessionResponse Spdu.ssOk resourceId sessionId) =
    [.opened sessionId] := by
  have hgranted : Spdu.grantedSession (Spdu.buildOpenSessionResponse Spdu.ssOk resourceId sessionId) =
      some sessionId := by
    simp [Spdu.grantedSession, Spdu.buildOpenSessionResponse, ResourceId.toBytes, toBeBytes, ofBeBytes_toBeBytes]
  rw [Spdu.tellings, hgranted]

theorem tellings_refused (h : status ≠ Spdu.ssOk) :
    Spdu.tellings (Spdu.buildOpenSessionResponse status resourceId sessionId) = [] := by
  have hgranted : Spdu.grantedSession (Spdu.buildOpenSessionResponse status resourceId sessionId) = none := by
    simp [Spdu.grantedSession, Spdu.buildOpenSessionResponse, ResourceId.toBytes, toBeBytes, h]
  rw [Spdu.tellings, hgranted]
  rfl

theorem tellings_closeRequest : Spdu.tellings (Spdu.buildCloseSessionRequest sessionId) = [] := by
  have hgranted : Spdu.grantedSession (Spdu.buildCloseSessionRequest sessionId) = none :=
    grantedSession_head (by decide)
  rw [Spdu.tellings, hgranted]
  rfl

theorem tellings_closeResponse : Spdu.tellings (Spdu.buildCloseSessionResponse status sessionId) = [] := by
  have hgranted : Spdu.grantedSession (Spdu.buildCloseSessionResponse status sessionId) = none :=
    grantedSession_head (by decide)
  rw [Spdu.tellings, hgranted]
  rfl

theorem queuedFrames_pieces (pieces : List (TpduTag × Bytes)) :
    queuedFrames slotId (queuedPieces slotId pieces) =
      pieces.map fun piece => Tpdu.frameOf slotId piece.1 piece.2 := by
  induction pieces with
  | nil => rfl
  | cons piece pieces ih =>
      have hqueued : (Obs.queued slotId (Tpdu.frameOf slotId piece.1 piece.2)).queuedFor slotId =
          some (Tpdu.frameOf slotId piece.1 piece.2) := if_pos rfl
      rw [queuedPieces, List.map_cons, queuedFrames, List.filterMap_cons_some hqueued, List.map_cons]
      exact congrArg _ ih

theorem piece_data {tag : TpduTag} {data : Bytes} (hslot : slotId ≠ 255) (htag : tag = .dataLast ∨ tag = .dataMore)
    (hlen : data.length ≤ Tpdu.maxTpduData) :
    Tpdu.piece (Tpdu.frameOf slotId tag data) = some (decide (tag = .dataMore), data) := by
  rw [Tpdu.piece, Tpdu.payload_data hslot htag hlen]
  rcases htag with rfl | rfl
  · rfl
  · rfl

theorem pieces_queuedPieces (hslot : slotId ≠ 255) : ∀ (fuel : Nat) (rest : Bytes), rest.length < fuel →
    Assembly.Pieces rest ((queuedFrames slotId (queuedPieces slotId (Tpdu.pieces fuel rest))).filterMap Tpdu.piece) := by
  intro fuel
  induction fuel with
  | zero => exact fun _ h => absurd h (Nat.not_lt_zero _)
  | succ fuel ih =>
      intro rest hlen
      rw [queuedFrames_pieces, Tpdu.pieces]
      split
      · next hlong =>
          have hpos : 0 < Tpdu.maxTpduData := by decide
          have hpiece := piece_data hslot (.inr rfl) (List.length_take_le Tpdu.maxTpduData rest)
          have hnext := (ih (rest.drop Tpdu.maxTpduData) (by
            rw [List.length_drop]
            omega)).more (rest.take Tpdu.maxTpduData)
          rw [List.take_append_drop, queuedFrames_pieces] at hnext
          rw [List.map_cons, List.filterMap_cons_some hpiece]
          exact hnext
      · next hshort =>
          have hpiece := piece_data hslot (.inl rfl) (Nat.not_lt.mp hshort)
          rw [List.map_cons, List.filterMap_cons_some hpiece]
          exact .last rest

theorem piece_command (tag : TpduTag) : Tpdu.piece [slotId, slotId + 1, tag.raw, 1, slotId + 1] =
    if tag = .dataMore then some (true, []) else if tag = .dataLast then some (false, []) else none := by
  have hpayload : Tpdu.payload [slotId, slotId + 1, tag.raw, 1, slotId + 1] = some (tag, []) := by
    simp [Tpdu.payload, Asn1.decode, Asn1.sizeIndicator]
  rw [Tpdu.piece, hpayload]

theorem assembled_talk (hslot : slotId ≠ 255) (talk : List Utterance) :
    assembled (talk.flatMap (Utterance.frames slotId)) = { messages := talk.flatMap Utterance.spdus } := by
  induction talk using List.reverseRecOn with
  | nil => rfl
  | append_singleton talk utterance ih =>
      rw [List.flatMap_append, List.flatMap_append, List.flatMap_singleton, List.flatMap_singleton, assembled,
        List.filterMap_append, Assembly.of_append, ← assembled, ih]
      cases utterance with
      | create =>
          have hpiece : Tpdu.piece (Tpdu.createFrame slotId) = none := piece_command .createTc
          rw [Utterance.frames, List.filterMap_cons_none hpiece, Utterance.spdus, List.append_nil]
          rfl
      | receive =>
          have hpiece : Tpdu.piece (Tpdu.receiveFrame slotId) = none := piece_command .rcv
          rw [Utterance.frames, List.filterMap_cons_none hpiece, Utterance.spdus, List.append_nil]
          rfl
      | poll =>
          have hpiece : Tpdu.piece (Tpdu.pollFrame slotId) = some (false, []) := piece_command .dataLast
          rw [Utterance.frames, List.filterMap_cons_some hpiece, Utterance.spdus, List.append_nil]
          rfl
      | spdu bytes carries =>
          have hpieces := pieces_queuedPieces hslot (bytes.length + 1) bytes (Nat.lt_succ_self _)
          rw [queuedFrames_pieces] at hpieces
          rw [Utterance.frames, hpieces.foldl { messages := talk.flatMap Utterance.spdus } carries]
          rfl

theorem Utters.decoded {frames : List Bytes} {said : List Telling} (hslot : slotId ≠ 255)
    (h : Utters slotId frames said) : LibDvb.decoded frames = said := by
  obtain ⟨talk, rfl, rfl⟩ := h
  rw [LibDvb.decoded, assembled_talk hslot]

theorem spontaneous_command {tag : TpduTag} (hslot : slotId ≠ 255)
    (htag : tag ∈ [TpduTag.rcv, .createTc, .dataLast]) : Spontaneous slotId (Tpdu.frameOf slotId tag []) := by
  simp only [List.mem_cons, List.not_mem_nil, or_false] at htag
  rcases htag with rfl | rfl | rfl
  · rw [Tpdu.frameOf, Tpdu.build_rcv hslot]
    exact ⟨[.receive], rfl, rfl⟩
  · rw [Tpdu.frameOf, Tpdu.build_createTc hslot]
    exact ⟨[.create], rfl, rfl⟩
  · rw [Tpdu.frameOf, Tpdu.build_dataLast_nil hslot]
    exact ⟨[.poll], rfl, rfl⟩

end Spelling

def Obs.Sends (slotId : UInt8) : Obs → Prop
  | .queued other _ => other = slotId
  | .wrote other _ _ _ => other = slotId
  | _ => False

section Sending

variable {slotId other : UInt8} {trace delta before after : List Obs} {obs : Obs} {spdu : Bytes}

theorem Obs.Sends.slot (h : obs.Sends slotId) : obs.slot = some slotId := by
  cases obs with
  | queued other frame => exact congrArg some h
  | wrote other frame result callback => exact congrArg some h
  | _ => exact h.elim

theorem Obs.Sends.hands (h : obs.Sends slotId) : obs.hands = none := by
  cases obs with
  | queued other frame => rfl
  | wrote other frame result callback => rfl
  | _ => exact h.elim

theorem queuedFrames_told : queuedFrames slotId (told delta) = queuedFrames slotId delta := by
  rw [queuedFrames, told, List.filterMap_filter, queuedFrames]
  congr 1
  funext obs
  cases obs <;> rfl

theorem Balanced.sent (h : Balanced other trace) (hslot : slotId ≠ 255) (hne : spdu ≠ [])
    (hsends : ∀ obs ∈ delta, obs.Sends slotId)
    (hnotes : ∀ obs ∈ before ++ after, obs.slot = some slotId ∧ obs ≠ .cleared slotId ∧ obs.queuedFor slotId = none)
    (hspoken : Whole delta → told delta = queuedSpdu slotId spdu ∧
      (before ++ after).filterMap Obs.hands = Spdu.tellings spdu) :
    Balanced other (trace ++ (before ++ delta ++ after)) := by
  have hall : ∀ obs ∈ before ++ delta ++ after, obs.slot = some slotId := by
    intro obs hmem
    rcases List.mem_append.mp hmem with hmem | hmem
    · rcases List.mem_append.mp hmem with hmem | hmem
      · exact (hnotes obs (List.mem_append_left _ hmem)).1
      · exact (hsends obs hmem).slot
    · exact (hnotes obs (List.mem_append_right _ hmem)).1
  have hkept : .cleared other ∉ before ++ delta ++ after := by
    intro hmem
    have heq := hall _ hmem
    rw [Obs.slot, Option.some.injEq] at heq
    subst heq
    rcases List.mem_append.mp hmem with hmem | hmem
    · rcases List.mem_append.mp hmem with hmem | hmem
      · exact (hnotes _ (List.mem_append_left _ hmem)).2.1 rfl
      · exact hsends _ hmem
    · exact (hnotes _ (List.mem_append_right _ hmem)).2.1 rfl
  by_cases hother : slotId = other
  · subst hother
    have hown : ((before ++ delta ++ after).filter fun obs => obs.slot = some slotId) = before ++ delta ++ after :=
      List.filter_eq_self.mpr fun obs hmem => decide_eq_true (hall obs hmem)
    have hquiet (entries : List Obs) (hentries : ∀ obs ∈ entries, obs ∈ before ++ after) :
        queuedFrames slotId entries = [] :=
      List.filterMap_eq_nil_iff.mpr fun obs hmem => (hnotes obs (hentries obs hmem)).2.2
    have hbefore := hquiet before fun _ => List.mem_append_left _
    have hafter := hquiet after fun _ => List.mem_append_right _
    refine h.append hkept hown fun hwhole => ⟨[.spdu spdu hne], ?_, ?_⟩
    · have hqueued : queuedFrames slotId (before ++ delta ++ after) = queuedFrames slotId (queuedSpdu slotId spdu) := by
        rw [← (hspoken hwhole.left.right).1, queuedFrames_told]
        unfold queuedFrames at hbefore hafter ⊢
        rw [List.filterMap_append, List.filterMap_append, hbefore, hafter, List.nil_append, List.append_nil]
      rw [hqueued, queuedSpdu, queuedFrames_pieces, List.flatMap_singleton]
      rfl
    · have hdelta : delta.filterMap Obs.hands = [] :=
        List.filterMap_eq_nil_iff.mpr fun obs hmem => (hsends obs hmem).hands
      have hspoken := (hspoken hwhole.left.right).2
      rw [List.filterMap_append] at hspoken
      rw [List.filterMap_append, List.filterMap_append, hdelta, List.append_nil, hspoken, List.flatMap_singleton,
        Utterance.spdus, List.flatMap_singleton]
  · have hown : ((before ++ delta ++ after).filter fun obs => obs.slot = some other) = [] := by
      refine List.filter_eq_nil_iff.mpr fun obs hmem => ?_
      rw [hall obs hmem]
      simpa using hother
    exact h.append hkept hown fun _ => ⟨[], rfl, rfl⟩

end Sending

namespace CiTransport

variable {t t' : CiTransport} {slotId : UInt8} {sessionId : UInt16} {spdu : Bytes}

def Balances (t t' : CiTransport) : Prop :=
  t.slots.length ≤ 255 → t'.slots.length = t.slots.length ∧
    ∀ slotId : UInt8, slotId.toNat < t.slots.length → Balanced slotId t.trace → Balanced slotId t'.trace

theorem Balances.refl (t : CiTransport) : Balances t t := fun _ => ⟨rfl, fun _ _ h => h⟩

theorem Balances.trans {t'' : CiTransport} (h : Balances t t') (h' : Balances t' t'') : Balances t t'' := by
  intro hn
  obtain ⟨hlength, hslots⟩ := h hn
  obtain ⟨hlength', hslots'⟩ := h' (hlength ▸ hn)
  exact ⟨hlength'.trans hlength, fun slotId hs hb => hslots' slotId (hlength ▸ hs) (hslots slotId hs hb)⟩

def Mute (obs : Obs) : Prop :=
  (∀ slotId, obs ≠ .cleared slotId) ∧
    (∀ slotId frame, slotId ≠ 255 → obs.queuedFor slotId = some frame → Spontaneous slotId frame) ∧ obs.hands = none

theorem balances_mute (h : Within Mute t t') : Balances t t' := by
  intro hn
  obtain ⟨delta, htrace, hslots, hmute⟩ := h
  refine ⟨by rw [hslots, length_foldl_effect], fun slotId hs hb => ?_⟩
  rw [htrace]
  exact hb.quiet (fun hmem => (hmute _ hmem).1 slotId rfl)
    (fun obs hmem frame hframe => (hmute obs hmem).2.1 slotId frame (ne_max hs hn) hframe)
    fun obs hmem _ => (hmute obs hmem).2.2

theorem keeps_mute {α : Type} {m : Act Error CiTransport α} (hm : Keeps (Within Mute) m) : Keeps Balances m :=
  fun t => wlp_mono (hm t) (fun _ _ => balances_mute) fun _ _ => balances_mute

theorem mute_wrote (frame : Bytes) (result : Except Error Unit) (callback : Bool) :
    Mute (.wrote slotId frame result callback) := ⟨by rintro _ ⟨⟩, by rintro _ _ _ ⟨⟩, rfl⟩

theorem mute_command {tag : TpduTag} (h : tag ∈ [TpduTag.rcv, .createTc, .dataLast]) :
    Mute (.queued slotId (Tpdu.frameOf slotId tag [])) := by
  refine ⟨by rintro _ ⟨⟩, fun other frame hother hframe => ?_, rfl⟩
  rw [Obs.queuedFor] at hframe
  split at hframe
  · next heq =>
      subst heq
      rw [← Option.some.inj hframe]
      exact spontaneous_command hother h
  · cases hframe

theorem balances_move {obs : Obs} (hmove : Move obs t t') (h : Mute obs) : Balances t t' :=
  balances_mute (.move hmove h)

theorem balances_received : Keeps Balances recvApdu := by
  intro t
  by_cases hn : t.slots.length ≤ 255
  · refine wlp_of_wp (wp_mono (recvApdu_spec hn) (fun _ t' ht => ?_) fun _ t' ht => ?_)
    · rcases ht with ⟨_, hmove⟩ | ⟨_, _, _, hmove, _⟩
      · exact balances_move hmove ⟨by rintro _ ⟨⟩, by rintro _ _ _ ⟨⟩, rfl⟩
      · exact balances_move hmove ⟨by rintro _ ⟨⟩, by rintro _ _ _ ⟨⟩, rfl⟩
    · rcases ht with ⟨hmove, _⟩ | ⟨_, _, hmove, _⟩
      · exact balances_move hmove ⟨by rintro _ ⟨⟩, by rintro _ _ _ ⟨⟩, rfl⟩
      · exact balances_move hmove ⟨by rintro _ ⟨⟩, by rintro _ _ _ ⟨⟩, rfl⟩
  · exact ⟨fun _ _ h => absurd h hn, fun _ _ h => absurd h hn⟩

theorem balances_taken (slotId : UInt8) : Keeps Balances (takeDataPending slotId) := by
  intro t
  by_cases hs : slotId.toNat < t.slots.length
  · refine wlp_of_wp (wp_mono (takeDataPending_spec hs) (fun _ t' ht => ?_) fun _ _ hf => hf.elim)
    exact balances_move ht.1 ⟨by rintro _ ⟨⟩, by rintro _ _ _ ⟨⟩, rfl⟩
  · have hnone : t.slots[slotId.toNat]? = none := List.getElem?_eq_none (Nat.not_lt.mp hs)
    simp only [takeDataPending, wlp_bind, wlp_get, hnone, wlp_pure]
    exact .refl t

theorem balances_cleared (slotId : UInt8) : Keeps Balances (clearSlot slotId) := by
  intro t
  by_cases hs : slotId.toNat < t.slots.length
  · refine wlp_of_wp (wp_mono (clearSlot_spec hs) (fun _ t' ht _ => ?_) fun _ _ hf => hf.elim)
    obtain ⟨hmove, _⟩ := ht
    refine ⟨by rw [hmove.slots, length_effect], fun other _ hb => ?_⟩
    rw [hmove.trace]
    by_cases hother : slotId = other
    · rw [hother]
      exact .cleared
    · refine hb.quiet (fun hmem => ?_) (fun obs hmem frame hframe => ?_) fun obs hmem _ => ?_
      · exact hother (Obs.cleared.inj (List.mem_singleton.mp hmem)).symm
      · rw [List.mem_singleton.mp hmem] at hframe
        cases hframe
      · rw [List.mem_singleton.mp hmem]
        rfl
  · have hnone : t.slots[slotId.toNat]? = none := List.getElem?_eq_none (Nat.not_lt.mp hs)
    simp only [clearSlot, wlp_bind, wlp_get, hnone, wlp_pure]
    exact .refl t

def SentSpdu (slotId : UInt8) (spdu : Bytes) (t t' : CiTransport) : Prop :=
  t'.slots.length = t.slots.length ∧ ∃ delta, t'.trace = t.trace ++ delta ∧ (∀ obs ∈ delta, obs.Sends slotId) ∧
    (Whole delta → told delta = queuedSpdu slotId spdu)

theorem within_sendSpdu : Keeps (Within (Obs.Sends slotId)) (sendSpdu slotId spdu) := by
  apply keeps_bind .trans within_checkSlot
  intro _
  refine within_sendFragments (fun _ _ _ => rfl) _ _ fun obs hmem => ?_
  obtain ⟨piece, _, rfl⟩ := List.mem_map.mp hmem
  exact rfl

theorem wlp_sendSpdu (hs : slotId.toNat < t.slots.length) (hslot : slotId ≠ 255) : wlp (sendSpdu slotId spdu)
    (fun _ t' => SentSpdu slotId spdu t t') (fun _ t' => SentSpdu slotId spdu t t' ∧ Breaks t.trace t'.trace) t := by
  have hsame {t' : CiTransport} (hwithin : Within (Obs.Sends slotId) t t')
      (htells : Tells (queuedSpdu slotId spdu) t.trace t'.trace) : SentSpdu slotId spdu t t' := by
    obtain ⟨delta, htrace, hslots, hsends⟩ := hwithin
    refine ⟨by rw [hslots, length_foldl_effect], delta, htrace, hsends, fun hwhole => ?_⟩
    rw [htrace] at htells
    exact htells.whole hwhole
  refine wlp_mono (wlp_and (within_sendSpdu t) (sendSpdu_tells spdu hs hslot)) (fun _ t' ht => ?_) fun _ t' ht => ?_
  · exact hsame ht.1 ht.2.1
  · exact ⟨hsame ht.1 ht.2.tells, ht.2⟩

theorem SentSpdu.balances {before : List Obs} (after : List Obs) (h : SentSpdu slotId spdu { t with trace := t.trace ++ before } t')
    (hslot : slotId ≠ 255) (hne : spdu ≠ [])
    (hnotes : ∀ obs ∈ before ++ after, obs.slot = some slotId ∧ obs ≠ .cleared slotId ∧ obs.queuedFor slotId = none)
    (hhands : ¬ Breaks (t.trace ++ before) t'.trace → (before ++ after).filterMap Obs.hands = Spdu.tellings spdu) :
    Balances t { t' with trace := t'.trace ++ after } := by
  intro _
  obtain ⟨hlength, delta, htrace, hsends, htold⟩ := h
  refine ⟨hlength, fun other _ hb => ?_⟩
  have hspoken (hwhole : Whole delta) : (before ++ after).filterMap Obs.hands = Spdu.tellings spdu := by
    refine hhands fun hbreaks => ?_
    rw [htrace] at hbreaks
    exact hbreaks.not_whole hwhole
  have hsent := hb.sent hslot hne hsends hnotes fun hwhole => ⟨htold hwhole, hspoken hwhole⟩
  have heq : t'.trace ++ after = t.trace ++ (before ++ delta ++ after) := by
    rw [htrace]
    simp
  show Balanced other (t'.trace ++ after)
  rwa [heq]

theorem balances_sendSpdu (hne : spdu ≠ []) (htellings : Spdu.tellings spdu = []) :
    Keeps Balances (sendSpdu slotId spdu) := by
  intro t
  by_cases hvalid : slotId = 255 ∨ ¬ slotId.toNat < t.slots.length
  · exact wlp_mono (sendSpdu_invalid spdu hvalid) (fun _ _ hf => hf.elim) fun _ _ ht => ht ▸ .refl t
  · obtain ⟨hslot, hs⟩ := not_or.mp hvalid
    have hbalances {t' : CiTransport} (ht : SentSpdu slotId spdu t t') : Balances t t' := by
      have hnil : SentSpdu slotId spdu { t with trace := t.trace ++ [] } t' := by rwa [List.append_nil]
      have hkept := hnil.balances [] hslot hne (by rintro _ ⟨⟩) fun _ => htellings.symm
      rwa [List.append_nil] at hkept
    exact wlp_mono (wlp_sendSpdu (Decidable.not_not.mp hs) hslot) (fun _ _ => hbalances) fun _ _ ht => hbalances ht.1

theorem balances_object (slotId : UInt8) (sessionId : UInt16) (tag : ApduTag) (body : Bytes)
    (htag : tag.raw.toNat < 0x1000000) : Keeps Balances (sendApdu slotId sessionId tag body) := by
  intro t
  rw [sendApdu, wlp_bind, wlp_note]
  split
  · next hlong =>
      have hmute : Mute (.apdu slotId sessionId tag body) :=
        ⟨by rintro _ ⟨⟩, by rintro _ _ _ ⟨⟩, if_neg (Nat.not_le.mpr hlong)⟩
      refine wlp_fail.mpr (balances_mute ⟨[.apdu slotId sessionId tag body], rfl, rfl, fun obs hmem => ?_⟩)
      rw [List.mem_singleton.mp hmem]
      exact hmute
  · next hshort =>
      have hbody := Nat.not_lt.mp hshort
      by_cases hvalid : slotId = 255 ∨ ¬ slotId.toNat < t.slots.length
      · refine wlp_mono (sendSpdu_invalid _ hvalid) (fun _ _ hf => hf.elim) fun _ t' ht hn => ?_
        rw [ht]
        refine ⟨rfl, fun other hs hb => hb.quiet ?_ ?_ fun obs hmem hother => ?_⟩
        · simp
        · rintro obs hmem frame hframe
          rw [List.mem_singleton.mp hmem] at hframe
          cases hframe
        · rw [List.mem_singleton.mp hmem] at hother
          obtain rfl : slotId = other := Option.some.inj hother
          exact (hvalid.elim (fun h => ne_max hs hn h) fun h => h hs).elim
      · obtain ⟨hslot, hs⟩ := not_or.mp hvalid
        have hbalances {t' : CiTransport}
            (ht : SentSpdu slotId (apduSpdu sessionId tag body)
              { t with trace := t.trace ++ [.apdu slotId sessionId tag body] } t') : Balances t t' := by
          have hkept := ht.balances [] hslot (by rintro ⟨⟩)
            (by
              intro obs hmem
              rw [List.mem_singleton.mp hmem]
              exact ⟨rfl, by rintro ⟨⟩, rfl⟩)
            fun _ => by
              rw [tellings_apduSpdu htag hbody, List.append_nil,
                List.filterMap_cons_some (by exact if_pos hbody), List.filterMap_nil]
          rwa [List.append_nil] at hkept
        have hsend := @wlp_sendSpdu { t with trace := t.trace ++ [.apdu slotId sessionId tag body] } slotId
          (apduSpdu sessionId tag body) (Decidable.not_not.mp hs) hslot
        exact wlp_mono hsend (fun _ _ => hbalances) fun _ _ ht => hbalances ht.1

theorem balances_granted (slotId : UInt8) (resourceId : ResourceId) (sessionId : UInt16) : Keeps Balances (do
    sendSpdu slotId (Spdu.buildOpenSessionResponse Spdu.ssOk resourceId sessionId)
    note (.opened slotId sessionId)) := by
  intro t
  rw [wlp_bind]
  by_cases hvalid : slotId = 255 ∨ ¬ slotId.toNat < t.slots.length
  · exact wlp_mono (sendSpdu_invalid _ hvalid) (fun _ _ hf => hf.elim) fun _ _ ht => ht ▸ .refl t
  · obtain ⟨hslot, hs⟩ := not_or.mp hvalid
    have hnil {t' : CiTransport}
        (ht : SentSpdu slotId (Spdu.buildOpenSessionResponse Spdu.ssOk resourceId sessionId) t t') :
        SentSpdu slotId (Spdu.buildOpenSessionResponse Spdu.ssOk resourceId sessionId)
          { t with trace := t.trace ++ [] } t' := by rwa [List.append_nil]
    refine wlp_mono (wlp_sendSpdu (Decidable.not_not.mp hs) hslot) (fun _ t' ht => ?_) fun _ t' ht => ?_
    · rw [wlp_note]
      refine (hnil ht).balances [.opened slotId sessionId] hslot (by rintro ⟨⟩) ?_ fun _ => ?_
      · intro obs hmem
        rw [List.mem_singleton.mp hmem]
        exact ⟨rfl, by rintro ⟨⟩, rfl⟩
      · rw [tellings_granted]
        rfl
    · have hkept := (hnil ht.1).balances [] hslot (by rintro ⟨⟩) (by rintro _ ⟨⟩) fun hnot => by
        rw [List.append_nil] at hnot
        exact absurd ht.2 hnot
      rwa [List.append_nil] at hkept

end CiTransport

open CiTransport

theorem habit_balances : Habit Balances where
  refl := .refl
  trans := .trans
  outside t _ hn := Balances.refl t hn
  clock t := ⟨fun _ _ hn => Balances.refl t hn, fun _ _ hn => Balances.refl t hn⟩
  restart t := ⟨fun _ _ hn => Balances.refl t hn, fun _ _ hn => Balances.refl t hn⟩
  slotInfo _ t := ⟨fun _ _ hn => Balances.refl t hn, fun _ _ hn => Balances.refl t hn⟩
  aside obs hobs := by
    refine keeps_mute (within_note ?_ fun _ => ?_)
    · cases obs with
      | dispatched | activated | slotInfo | reset => exact ⟨by rintro _ ⟨⟩, by rintro _ _ _ ⟨⟩, rfl⟩
      | _ => exact hobs.elim
    · cases obs with
      | dispatched | activated | slotInfo | reset => rfl
      | _ => exact hobs.elim
  flush _ := keeps_mute (within_flush mute_wrote)
  command _ _ htag := keeps_mute (within_sendTpdu mute_wrote (mute_command htag))
  object := balances_object
  granted := balances_granted
  refused _ _ _ hstatus := balances_sendSpdu (by rintro ⟨⟩) (tellings_refused hstatus)
  closing _ _ := balances_sendSpdu (by rintro ⟨⟩) tellings_closeRequest
  closed _ _ _ := balances_sendSpdu (by rintro ⟨⟩) tellings_closeResponse
  received := balances_received
  taken := balances_taken
  cleared := balances_cleared

end LibDvb
