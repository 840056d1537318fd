import LibDvb.Ca.Session.Dialogue

namespace LibDvb

open Act Outcome CiSession

variable {self self' : MmiResource} {label : MmiLabel} {labels past : List MmiLabel} {slotId : UInt8}
  {sessionId : UInt16} {tag : ApduTag} {body : Bytes} {kind other : ObjectKind}

section Bounds

namespace MmiResource

def Bounded (self : MmiResource) : Prop :=
  ∀ (sessionId : UInt16) object, self.fragments[sessionId]? = some object → object.length ≤ maxObjectSize

end MmiResource

theorem Reaction.bounded {buffer buffer' : Option Bytes} {events : List CaEvent}
    (h : Reaction slotId sessionId buffer tag body buffer' events)
    (hbuffer : ∀ object, buffer = some object → object.length ≤ MmiResource.maxObjectSize) (object : Bytes)
    (hobject : buffer' = some object) : object.length ≤ MmiResource.maxObjectSize := by
  cases h with
  | more _ _ fits =>
      cases hobject
      rwa [List.length_append]
  | overflow => cases hobject
  | last => cases hobject
  | other => exact hbuffer object hobject

theorem MmiStep.bounded (h : MmiStep self label self') (hself : self.Bounded) : self'.Bounded := by
  intro sessionId object hobject
  cases hop : label.op with
  | apdu slotId spoken tag body =>
      obtain ⟨hreaction, hothers⟩ := h.apdu hop
      rcases eq_or_ne sessionId spoken with rfl | hne
      · exact hreaction.bounded (hself sessionId) object hobject
      · rw [hothers sessionId hne] at hobject
        exact hself sessionId object hobject
  | close closed =>
      obtain ⟨rfl, _⟩ := h.close hop
      rw [MmiResource.onClose, KeyMap.get_erase] at hobject
      split at hobject
      · cases hobject
      · exact hself sessionId object hobject

theorem MmiRun.bounded (h : Run MmiStep {} labels self) : self.Bounded := by
  apply h.invariant (I := MmiResource.Bounded)
  · intro sessionId object hobject
    cases (KeyMap.get_empty sessionId).symm.trans hobject
  · intro a l b ha hstep
    exact hstep.bounded ha

def Overlong (self : MmiResource) (sessionId : UInt16) (tag : ApduTag) (body : Bytes) : Prop :=
  (∃ kind : ObjectKind, tag = kind.more ∧
    MmiResource.maxObjectSize < (self.fragments[sessionId]?.getD []).length + body.length) ∨
  ∃ (kind : ObjectKind) (part : Bytes), tag = kind.last ∧ self.fragments[sessionId]? = some part ∧
    MmiResource.maxObjectSize < part.length + body.length

structure Capped (m : MmiResource) (label : MmiLabel) (m' : MmiResource) : Prop where
  buffers : m'.Bounded
  delivered : ∀ slotId sessionId (kind : ObjectKind) body part, label.op = .apdu slotId sessionId kind.last body →
    m.fragments[sessionId]? = some part → ∀ e ∈ label.events, e.isObject = true →
      kind.Delivers slotId sessionId (part ++ body) e ∧ (part ++ body).length ≤ MmiResource.maxObjectSize
  dropped : ∀ slotId sessionId tag body, label.op = .apdu slotId sessionId tag body →
    Overlong m sessionId tag body →
      (∃ context, label.events = [.malformed slotId context]) ∧ m'.fragments[sessionId]? = none

def MmiOp.Completable (self : MmiResource) (op : MmiOp) : Prop :=
  ∀ slotId sessionId (kind : ObjectKind) body part, op = .apdu slotId sessionId kind.last body →
    self.fragments[sessionId]? = some part → part.length + body.length ≤ MmiResource.maxObjectSize

theorem Reaction.of_last {buffer buffer' : Option Bytes} {events : List CaEvent}
    (h : Reaction slotId sessionId buffer kind.last body buffer' events) :
    ∃ e, events = [e] ∧ kind.Delivers slotId sessionId (buffer.getD [] ++ body) e ∧ buffer' = none := by
  cases h with
  | more k htag => exact absurd htag.symm (ObjectKind.more_ne_last k kind)
  | overflow k htag => exact absurd htag.symm (ObjectKind.more_ne_last k kind)
  | last k htag e delivers =>
      obtain rfl := ObjectKind.last_injective htag
      exact ⟨e, rfl, delivers, rfl⟩
  | other _ hlast => exact absurd rfl (hlast kind)

theorem Reaction.of_more {buffer buffer' : Option Bytes} {events : List CaEvent}
    (h : Reaction slotId sessionId buffer kind.more body buffer' events) :
    ((buffer.getD []).length + body.length ≤ MmiResource.maxObjectSize ∧
      buffer' = some (buffer.getD [] ++ body) ∧ events = []) ∨
    (MmiResource.maxObjectSize < (buffer.getD []).length + body.length ∧ buffer' = none ∧
      ∃ context, events = [.malformed slotId context]) := by
  cases h with
  | more k htag fits => exact .inl ⟨fits, rfl, rfl⟩
  | overflow k htag context long => exact .inr ⟨long, rfl, context, rfl⟩
  | last k htag => exact absurd htag (ObjectKind.more_ne_last kind k)
  | other hmore => exact absurd rfl (hmore kind)

theorem MmiStep.capped (h : MmiStep self label self') (hself : self.Bounded)
    (completable : label.op.Completable self) : Capped self label self' where
  buffers := h.bounded hself
  delivered slotId sessionId kind body part hop hpart e he _ := by
    obtain ⟨made, hmade, hdelivers, _⟩ := (h.apdu hop).1.of_last
    rw [hmade, List.mem_singleton] at he
    rw [hpart] at hdelivers
    subst he
    refine ⟨hdelivers, ?_⟩
    rw [List.length_append]
    exact completable _ _ _ _ _ hop hpart
  dropped slotId sessionId tag body hop hlong := by
    rcases hlong with ⟨kind, rfl, hlong⟩ | ⟨kind, part, rfl, hpart, hlong⟩
    · rcases (h.apdu hop).1.of_more with ⟨hfits, _⟩ | ⟨_, hnone, hmalformed⟩
      · omega
      · exact ⟨hmalformed, hnone⟩
    · exact absurd (completable _ _ _ _ _ hop hpart) (Nat.not_le_of_lt hlong)

theorem MmiStep.completable_of_capped (h : MmiStep self label self') (capped : Capped self label self') :
    label.op.Completable self := by
  intro slotId sessionId kind body part hop hpart
  by_contra hlong
  obtain ⟨e, hevents, hdelivers, _⟩ := (h.apdu hop).1.of_last
  obtain ⟨⟨context, hmalformed⟩, _⟩ := capped.dropped _ _ _ _ hop
    (.inr ⟨kind, part, rfl, hpart, Nat.lt_of_not_le hlong⟩)
  have hobject := hdelivers.isObject
  rw [hevents, List.singleton_inj] at hmalformed
  rw [hmalformed] at hobject
  cases hobject

theorem more_run (kind : ObjectKind) (s : CiSession) :
    wp (MmiOp.apdu slotId sessionId kind.more body).run (fun _ _ => True) (fun _ _ => True) s := by
  have hmore : kind.more = .textMore ∨ kind.more = .menuMore ∨ kind.more = .listMore := by
    cases kind <;> decide
  rw [MmiOp.run, wp_bind, wp_runCallback, ResourceRegistry.onApdu, wp_zoom, MmiResource.onApdu, wp_bind, wp_get,
    if_pos hmore, MmiResource.onMore, wp_bind, wp_get]
  dsimp only
  split <;> trivial

theorem last_run (s : CiSession) :
    wp (MmiOp.apdu slotId sessionId .textLast body).run (fun _ _ => True) (fun _ _ => True) s := by
  rw [MmiOp.run, wp_bind, wp_runCallback, ResourceRegistry.onApdu, wp_zoom, MmiResource.onApdu, wp_bind, wp_get,
    if_neg (by decide), if_neg (by decide), if_neg (by decide), if_pos rfl, wp_bind]
  exact wp_mono (takeObject_spec body) (fun _ _ _ => trivial) fun _ _ h => h.elim

theorem MmiStep.exists_of_wp {op : MmiOp} (hwp : ∀ s, wp op.run (fun _ _ => True) (fun _ _ => True) s)
    (self : MmiResource) : ∃ label self', label.op = op ∧ MmiStep self label self' := by
  let start : CiSession := { transport := CiTransport.new {} 1, resources := { mmi := self } }
  rcases wp_cases.mp (hwp start) with ⟨a, ha, _⟩ | ⟨e, he, _⟩
  · obtain ⟨label, hop, hstep, _⟩ := @MmiStep.of_run op start _ (.ok a) (Prod.ext ha rfl)
    exact ⟨label, _, hop, hstep⟩
  · obtain ⟨label, hop, hstep, _⟩ := @MmiStep.of_run op start _ (.error e) (Prod.ext he rfl)
    exact ⟨label, _, hop, hstep⟩

theorem MmiStep.exists_more (kind : ObjectKind) (hfits : (self.fragments[sessionId]?.getD []).length + body.length ≤
    MmiResource.maxObjectSize) (slotId : UInt8) :
    ∃ label self', label.op = .apdu slotId sessionId kind.more body ∧ MmiStep self label self' ∧
      self'.fragments[sessionId]? = some (self.fragments[sessionId]?.getD [] ++ body) := by
  obtain ⟨label, self', hop, hstep⟩ := MmiStep.exists_of_wp (more_run kind) self
  rcases (hstep.apdu hop).1.of_more with ⟨_, hsome, _⟩ | ⟨hlong, _⟩
  · exact ⟨label, self', hop, hstep, hsome⟩
  · omega

-- A chain of objects of 2000 bytes, as long as the buffer holds.
def chainOp : MmiOp := .apdu 0 1 .textMore (List.replicate 2000 0x41)

theorem exists_chain (n : Nat) (hn : n ≤ 32) : ∃ labels self, Run MmiStep {} labels self ∧
    labels.map MmiLabel.op = List.replicate n chainOp ∧ (self.fragments[(1 : UInt16)]?.getD []).length = n * 2000 := by
  induction n with
  | zero =>
      refine ⟨[], {}, .nil, rfl, ?_⟩
      rw [KeyMap.get_empty]
      rfl
  | succ n ih =>
      obtain ⟨labels, self, hrun, hops, hlength⟩ := ih (by omega)
      have hbody : (List.replicate 2000 (0x41 : UInt8)).length = 2000 := List.length_replicate
      have hfits : (self.fragments[(1 : UInt16)]?.getD []).length + (List.replicate 2000 (0x41 : UInt8)).length ≤
          MmiResource.maxObjectSize := by
        rw [hlength, hbody, MmiResource.maxObjectSize]
        omega
      obtain ⟨label, self', hop, hstep, hsome⟩ := MmiStep.exists_more .text hfits 0
      refine ⟨_, self', hrun.snoc hstep, ?_, ?_⟩
      · rw [List.map_append, hops, List.map_singleton, hop, @List.replicate_succ' n _ chainOp]
        rfl
      · rw [hsome, Option.getD_some, List.length_append, hlength, hbody]
        omega

theorem chained_objects_capped (hrun : Run MmiStep {} labels self) (hstep : MmiStep self label self') :
    self'.Bounded ∧ (Capped self label self' ↔ label.op.Completable self) :=
  ⟨hstep.bounded (MmiRun.bounded hrun), hstep.completable_of_capped, hstep.capped (MmiRun.bounded hrun)⟩


theorem exists_closed (kind : ObjectKind) : ∃ first self last self', Run MmiStep {} [first] self ∧
    MmiStep self last self' ∧ first.op = .apdu 0 1 kind.more [0x41] ∧ last.op = .apdu 0 1 .textLast [0x42] ∧
    self.fragments[(1 : UInt16)]? = some [0x41] := by
  have hempty : (({} : MmiResource).fragments[(1 : UInt16)]?.getD []) = [] := by
    rw [KeyMap.get_empty]
    rfl
  have hfits : (({} : MmiResource).fragments[(1 : UInt16)]?.getD []).length + [(0x41 : UInt8)].length ≤
      MmiResource.maxObjectSize := by
    rw [hempty]
    decide
  obtain ⟨first, self, hfirst, hstep, hsome⟩ := MmiStep.exists_more kind hfits 0
  obtain ⟨last, self', hlast, hstep'⟩ := MmiStep.exists_of_wp (fun s => last_run s) self
  rw [hempty] at hsome
  exact ⟨first, self, last, self', Run.snoc .nil hstep, hstep', hfirst, hlast, hsome⟩

theorem chained_objects_capped_text : ∃ (first : MmiLabel) (self : MmiResource) (last : MmiLabel)
    (self' : MmiResource), first.op = .apdu 0 1 .textMore [0x41] ∧
    last.op = .apdu 0 1 .textLast [0x42] ∧
    self'.Bounded ∧ (Capped self last self' ↔ last.op.Completable self) := by
  obtain ⟨first, self, last, self', hrun, hstep, hfirst, hlast, _⟩ := exists_closed .text
  exact ⟨first, self, last, self', hfirst, hlast, chained_objects_capped hrun hstep⟩

theorem chained_objects_overflow : ∃ labels self label self', Run MmiStep {} labels self ∧
    MmiStep self label self' ∧ labels.map MmiLabel.op = List.replicate 32 chainOp ∧
    label.op = .apdu 0 1 .textLast (List.replicate 1600 0x41) ∧ ¬ Capped self label self' := by
  obtain ⟨labels, self, hrun, hops, hlength⟩ := exists_chain 32 (Nat.le_refl _)
  obtain ⟨label, self', hop, hstep⟩ := MmiStep.exists_of_wp (fun s => last_run s) self
  refine ⟨labels, self, label, self', hrun, hstep, hops, hop, fun capped => ?_⟩
  cases hpart : self.fragments[(1 : UInt16)]? with
  | none =>
      rw [hpart] at hlength
      cases hlength
  | some part =>
      have hfits := hstep.completable_of_capped capped 0 1 .text _ part hop hpart
      rw [hpart, Option.getD_some] at hlength
      rw [hlength, List.length_replicate, MmiResource.maxObjectSize] at hfits
      omega

end Bounds

section Reassembly

def MmiOp.hear (sessionId : UInt16) (past : List (ApduTag × Bytes)) : MmiOp → List (ApduTag × Bytes)
  | apdu _ spoken tag body => if spoken = sessionId then past ++ [(tag, body)] else past
  | close closed => if closed = sessionId then [] else past

def spoken (sessionId : UInt16) (labels : List MmiLabel) : List (ApduTag × Bytes) :=
  labels.foldl (fun past label => label.op.hear sessionId past) []

theorem spoken_snoc (sessionId : UInt16) (labels : List MmiLabel) (label : MmiLabel) :
    spoken sessionId (labels ++ [label]) = label.op.hear sessionId (spoken sessionId labels) := by
  simp only [spoken, List.foldl_append, List.foldl_cons, List.foldl_nil]

-- The bodies of the chain of a kind, since the last object that closed one.
def ObjectKind.gather (kind : ObjectKind) (object : Bytes) (apdu : ApduTag × Bytes) : Bytes :=
  if apdu.1 = kind.more then object ++ apdu.2 else if apdu.1 = kind.last then [] else object

def ObjectKind.pending (kind : ObjectKind) (past : List (ApduTag × Bytes)) : Bytes :=
  past.foldl kind.gather []

theorem ObjectKind.pending_snoc (kind : ObjectKind) (past : List (ApduTag × Bytes)) (apdu : ApduTag × Bytes) :
    kind.pending (past ++ [apdu]) = kind.gather (kind.pending past) apdu := by
  simp only [pending, List.foldl_append, List.foldl_cons, List.foldl_nil]

def SentWhole (labels : List MmiLabel) (label : MmiLabel) : Prop :=
  ∀ e ∈ label.events, e.isObject = true → ∃ (kind : ObjectKind) (slotId : UInt8) (sessionId : UInt16) (body : Bytes),
    label.op = .apdu slotId sessionId kind.last body ∧
      kind.Delivers slotId sessionId (kind.pending (spoken sessionId labels) ++ body) e

def ObjectKind.Alone (kind : ObjectKind) (past : List (ApduTag × Bytes)) : Prop :=
  ∀ other : ObjectKind, other ≠ kind → other.pending past = []

def MmiOp.Orderly (labels : List MmiLabel) (op : MmiOp) : Prop :=
  ∀ slotId sessionId (kind : ObjectKind) body,
    (op = .apdu slotId sessionId kind.more body → body ≠ [] → kind.Alone (spoken sessionId labels) ∧
      (kind.pending (spoken sessionId labels)).length + body.length ≤ MmiResource.maxObjectSize) ∧
    (op = .apdu slotId sessionId kind.last body → kind.Alone (spoken sessionId labels))

def Unmixed (labels : List MmiLabel) : Prop :=
  ∀ past label, past ++ [label] <+: labels → label.op.Orderly past

theorem Unmixed.init (h : Unmixed (labels ++ [label])) : Unmixed labels :=
  fun past l hpre => h past l (hpre.trans (List.prefix_append _ _))

theorem Unmixed.last (h : Unmixed (labels ++ [label])) : label.op.Orderly labels :=
  h labels label (List.prefix_refl _)

def Chained (buffer : Bytes) (past : List (ApduTag × Bytes)) : Prop :=
  ∃ kind : ObjectKind, buffer = kind.pending past ∧ kind.Alone past

theorem Chained.eq {buffer : Bytes} {past : List (ApduTag × Bytes)} (h : Chained buffer past)
    (alone : kind.Alone past) : buffer = kind.pending past := by
  obtain ⟨k, rfl, hk⟩ := h
  rcases eq_or_ne k kind with rfl | hne
  · rfl
  · rw [alone k hne, hk kind (Ne.symm hne)]

theorem gather_more (kind k : ObjectKind) (object body : Bytes) :
    k.gather object (kind.more, body) = if k = kind then object ++ body else object := by
  cases k <;> cases kind <;> rfl

theorem gather_last (kind k : ObjectKind) (object body : Bytes) :
    k.gather object (kind.last, body) = if k = kind then [] else object := by
  cases k <;> cases kind <;> rfl

theorem Chained.gathered {past : List (ApduTag × Bytes)} {apdu : ApduTag × Bytes} {buffer : Bytes}
    (h : Chained buffer past) (hmore : ∀ kind : ObjectKind, apdu.1 ≠ kind.more)
    (hlast : ∀ kind : ObjectKind, apdu.1 ≠ kind.last) : Chained buffer (past ++ [apdu]) := by
  have hsame (k : ObjectKind) : k.pending (past ++ [apdu]) = k.pending past := by
    rw [ObjectKind.pending_snoc, ObjectKind.gather, if_neg (hmore k), if_neg (hlast k)]
  obtain ⟨kind, hbuffer, alone⟩ := h
  exact ⟨kind, by rw [hsame, hbuffer], fun other hne => by rw [hsame, alone other hne]⟩

theorem Chained.more {past : List (ApduTag × Bytes)} {buffer : Bytes} (h : buffer = kind.pending past)
    (alone : kind.Alone past) (body : Bytes) : Chained (buffer ++ body) (past ++ [(kind.more, body)]) := by
  refine ⟨kind, ?_, fun other hne => ?_⟩
  · rw [ObjectKind.pending_snoc, gather_more, if_pos rfl, h]
  · rw [ObjectKind.pending_snoc, gather_more, if_neg hne, alone other hne]

theorem Chained.last {past : List (ApduTag × Bytes)} (alone : kind.Alone past) (body : Bytes) :
    Chained [] (past ++ [(kind.last, body)]) := by
  refine ⟨kind, ?_, fun other hne => ?_⟩
  · rw [ObjectKind.pending_snoc, gather_last, if_pos rfl]
  · rw [ObjectKind.pending_snoc, gather_last, if_neg hne, alone other hne]

theorem Chained.unmoved {past : List (ApduTag × Bytes)} {buffer : Bytes} (h : Chained buffer past)
    (k : ObjectKind) : Chained buffer (past ++ [(k.more, [])]) := by
  have hsame (other : ObjectKind) : other.pending (past ++ [(k.more, [])]) = other.pending past := by
    rw [ObjectKind.pending_snoc, gather_more, List.append_nil, ite_self]
  obtain ⟨kind, hbuffer, alone⟩ := h
  exact ⟨kind, by rw [hsame, hbuffer], fun other hne => by rw [hsame, alone other hne]⟩

theorem Reaction.chained {buffer buffer' : Option Bytes} {events : List CaEvent} {past : List (ApduTag × Bytes)}
    (h : Reaction slotId sessionId buffer tag body buffer' events) (hchained : Chained (buffer.getD []) past)
    (hbuffer : (buffer.getD []).length ≤ MmiResource.maxObjectSize)
    (hmore : ∀ kind : ObjectKind, tag = kind.more → body ≠ [] →
      kind.Alone past ∧ (kind.pending past).length + body.length ≤ MmiResource.maxObjectSize)
    (hlast : ∀ kind : ObjectKind, tag = kind.last → kind.Alone past) :
    Chained (buffer'.getD []) (past ++ [(tag, body)]) := by
  cases h with
  | more kind htag fits =>
      subst htag
      rw [Option.getD_some]
      rcases eq_or_ne body [] with rfl | hbody
      · rw [List.append_nil]
        exact hchained.unmoved kind
      · obtain ⟨alone, _⟩ := hmore kind rfl hbody
        exact .more (hchained.eq alone) alone body
  | overflow kind htag context long =>
      have hbody : body ≠ [] := by
        rintro rfl
        rw [List.length_nil] at long
        omega
      obtain ⟨alone, hfits⟩ := hmore kind htag hbody
      rw [← hchained.eq alone] at hfits
      omega
  | last kind htag e delivers =>
      subst htag
      exact .last (hlast kind rfl) body
  | other noMore noLast events plain => exact hchained.gathered noMore noLast

def HoldsChains (labels : List MmiLabel) (self : MmiResource) : Prop :=
  ∀ sessionId : UInt16, Chained (self.fragments[sessionId]?.getD []) (spoken sessionId labels)

theorem MmiStep.holdsChains (h : MmiStep self label self') (hholds : HoldsChains labels self) (hself : self.Bounded)
    (orderly : label.op.Orderly labels) : HoldsChains (labels ++ [label]) self' := by
  intro sessionId
  rw [spoken_snoc]
  cases hop : label.op with
  | apdu slotId heard tag body =>
      rw [hop] at orderly
      obtain ⟨hreaction, hothers⟩ := h.apdu hop
      rcases eq_or_ne heard sessionId with rfl | hne
      · rw [MmiOp.hear, if_pos rfl]
        refine hreaction.chained (hholds heard) ?_ (fun kind htag => ?_) fun kind htag => ?_
        · cases hobject : self.fragments[heard]? with
          | none => exact Nat.zero_le _
          | some object => exact hself heard object hobject
        · exact (orderly slotId heard kind body).1 (by rw [htag])
        · exact (orderly slotId heard kind body).2 (by rw [htag])
      · rw [MmiOp.hear, if_neg hne, hothers sessionId (Ne.symm hne)]
        exact hholds sessionId
  | close closed =>
      obtain ⟨rfl, _⟩ := h.close hop
      rw [MmiResource.onClose, MmiOp.hear, KeyMap.get_erase]
      rcases eq_or_ne closed sessionId with rfl | hne
      · rw [if_pos rfl, if_pos rfl]
        exact ⟨.text, rfl, fun _ _ => rfl⟩
      · rw [if_neg hne, if_neg hne]
        exact hholds sessionId

theorem MmiRun.holdsChains (h : Run MmiStep {} labels self) (unmixed : Unmixed labels) : HoldsChains labels self := by
  induction h with
  | nil =>
      intro sessionId
      rw [KeyMap.get_empty]
      exact ⟨.text, rfl, fun _ _ => rfl⟩
  | snoc run last ih => exact last.holdsChains (ih unmixed.init) (MmiRun.bounded run) unmixed.last

theorem Reaction.object_last {buffer buffer' : Option Bytes} {events : List CaEvent}
    (h : Reaction slotId sessionId buffer tag body buffer' events) {e : CaEvent} (he : e ∈ events)
    (hobject : e.isObject = true) :
    ∃ kind : ObjectKind, tag = kind.last ∧ kind.Delivers slotId sessionId (buffer.getD [] ++ body) e := by
  cases h with
  | more => cases he
  | overflow =>
      rw [List.mem_singleton.mp he] at hobject
      cases hobject
  | last kind htag made delivers =>
      obtain rfl := List.mem_singleton.mp he
      exact ⟨kind, htag, delivers⟩
  | other _ _ _ plain =>
      rw [plain e he] at hobject
      cases hobject

theorem MmiStep.object_last (h : MmiStep self label self') {e : CaEvent} (he : e ∈ label.events)
    (hobject : e.isObject = true) : ∃ (kind : ObjectKind) (slotId : UInt8) (sessionId : UInt16) (body : Bytes),
      label.op = .apdu slotId sessionId kind.last body ∧
        kind.Delivers slotId sessionId (self.fragments[sessionId]?.getD [] ++ body) e := by
  cases hop : label.op with
  | apdu slotId sessionId tag body =>
      obtain ⟨kind, rfl, hdelivers⟩ := (h.apdu hop).1.object_last he hobject
      exact ⟨kind, slotId, sessionId, body, rfl, hdelivers⟩
  | close closed =>
      rw [(h.close hop).2] at he
      cases he

theorem chained_objects_reassembled (hrun : Run MmiStep {} labels self) (hstep : MmiStep self label self')
    (unmixed : Unmixed (labels ++ [label])) : SentWhole labels label ∧
      ∀ slotId sessionId (kind : ObjectKind) body, label.op = .apdu slotId sessionId kind.last body →
        ∃ e, label.events = [e] ∧
          kind.Delivers slotId sessionId (kind.pending (spoken sessionId labels) ++ body) e := by
  have hholds := MmiRun.holdsChains hrun unmixed.init
  refine ⟨fun e he hobject => ?_, fun slotId sessionId kind body hop => ?_⟩
  · obtain ⟨kind, slotId, sessionId, body, hop, hdelivers⟩ := hstep.object_last he hobject
    have alone := (unmixed.last slotId sessionId kind body).2 hop
    rw [(hholds sessionId).eq alone] at hdelivers
    exact ⟨kind, slotId, sessionId, body, hop, hdelivers⟩
  · obtain ⟨e, hevents, hdelivers, _⟩ := (hstep.apdu hop).1.of_last
    have alone := (unmixed.last slotId sessionId kind body).2 hop
    rw [(hholds sessionId).eq alone] at hdelivers
    exact ⟨e, hevents, hdelivers⟩

theorem unmixed_nil : Unmixed [] := by
  intro past label hpre
  cases List.append_ne_nil_of_right_ne_nil past (List.cons_ne_nil label []) (List.prefix_nil.mp hpre)

theorem Unmixed.snoc (h : Unmixed labels) (orderly : label.op.Orderly labels) : Unmixed (labels ++ [label]) := by
  intro past l hpre
  rcases List.prefix_concat_iff.mp hpre with heq | hinit
  · obtain ⟨rfl, hl⟩ := List.append_inj' heq rfl
    rw [List.singleton_inj.mp hl]
    exact orderly
  · exact h past l hinit

theorem chained_objects_reassembled_text : ∃ (first : MmiLabel) (self : MmiResource) (last : MmiLabel)
    (self' : MmiResource), first.op = .apdu 0 1 .textMore [0x41] ∧
    last.op = .apdu 0 1 .textLast [0x42] ∧ MmiStep self last self' ∧ SentWhole [first] last := by
  obtain ⟨first, self, last, self', hrun, hstep, hfirst, hlast, _⟩ := exists_closed .text
  have hspoken : spoken 1 [first] = [(.textMore, [0x41])] := by
    rw [spoken, List.foldl_cons, List.foldl_nil, hfirst]
    rfl
  have unmixed : Unmixed ([] ++ [first] ++ [last]) := by
    refine (unmixed_nil.snoc ?_).snoc ?_
    · rw [hfirst]
      refine fun slotId sessionId kind body => ⟨fun hop _ => ⟨fun _ _ => rfl, ?_⟩, fun _ _ _ => rfl⟩
      obtain ⟨_, _, _, rfl⟩ := MmiOp.apdu.inj hop
      exact Nat.le_of_ble_eq_true rfl
    · rw [hlast]
      refine fun slotId sessionId kind body => ⟨fun hop _ => ?_, fun hop other hother => ?_⟩
      · exact absurd (MmiOp.apdu.inj hop).2.2.1.symm (kind.more_ne_last .text)
      · obtain ⟨_, rfl, htag, _⟩ := MmiOp.apdu.inj hop
        obtain rfl : ObjectKind.text = kind := ObjectKind.last_injective htag
        rw [List.nil_append, hspoken]
        cases other with
        | text => exact absurd rfl hother
        | menu => rfl
        | list => rfl
  exact ⟨first, self, last, self', hfirst, hlast, hstep, (chained_objects_reassembled hrun hstep unmixed).1⟩

theorem chained_objects_spliced : ∃ first self last self', Run MmiStep {} [first] self ∧
    MmiStep self last self' ∧ first.op = .apdu 0 1 .menuMore [0x41] ∧ last.op = .apdu 0 1 .textLast [0x42] ∧
    last.events = [.mmiText 0 1 [0x41, 0x42]] ∧ ¬ SentWhole [first] last := by
  obtain ⟨first, self, last, self', hrun, hstep, hfirst, hlast, hsome⟩ := exists_closed .menu
  have hspoken : spoken 1 [first] = [(.menuMore, [0x41])] := by
    rw [spoken, List.foldl_cons, List.foldl_nil, hfirst]
    rfl
  have hreaction := (hstep.apdu hlast).1
  obtain ⟨e, hevents, hdelivers, _⟩ := @Reaction.of_last 0 1 _ .text _ _ _ hreaction
  rw [hsome] at hdelivers
  obtain rfl : e = .mmiText 0 1 [0x41, 0x42] := hdelivers
  refine ⟨first, self, last, self', hrun, hstep, hfirst, hlast, hevents, fun hall => ?_⟩
  obtain ⟨kind, slotId, sessionId, body, hop, hdelivers⟩ := hall _ (by rw [hevents]; exact List.mem_singleton_self _) rfl
  rw [hlast] at hop
  obtain ⟨rfl, rfl, htag, rfl⟩ := MmiOp.apdu.inj hop
  obtain rfl : ObjectKind.text = kind := ObjectKind.last_injective htag
  rw [hspoken] at hdelivers
  exact absurd (show CaEvent.mmiText 0 1 [0x41, 0x42] = .mmiText 0 1 [0x42] from hdelivers) (by decide)

end Reassembly

end LibDvb
