import LibDvb.Ca.Asn1

namespace LibDvb

structure ApduTag where
  raw : UInt32
  deriving DecidableEq, Repr

namespace ApduTag

def profileEnq : ApduTag := ⟨0x9F8010⟩
def profile : ApduTag := ⟨0x9F8011⟩
def profileChange : ApduTag := ⟨0x9F8012⟩
def applicationInfoEnq : ApduTag := ⟨0x9F8020⟩
def applicationInfo : ApduTag := ⟨0x9F8021⟩
def enterMenu : ApduTag := ⟨0x9F8022⟩
def caInfoEnq : ApduTag := ⟨0x9F8030⟩
def caInfo : ApduTag := ⟨0x9F8031⟩
def caPmt : ApduTag := ⟨0x9F8032⟩
def caPmtReply : ApduTag := ⟨0x9F8033⟩
def caUpdate : ApduTag := ⟨0x9F8034⟩
def tune : ApduTag := ⟨0x9F8400⟩
def replace : ApduTag := ⟨0x9F8401⟩
def clearReplace : ApduTag := ⟨0x9F8402⟩
def askRelease : ApduTag := ⟨0x9F8403⟩
def dateTimeEnq : ApduTag := ⟨0x9F8440⟩
def dateTime : ApduTag := ⟨0x9F8441⟩
def closeMmi : ApduTag := ⟨0x9F8800⟩
def displayControl : ApduTag := ⟨0x9F8801⟩
def displayReply : ApduTag := ⟨0x9F8802⟩
def textLast : ApduTag := ⟨0x9F8803⟩
def textMore : ApduTag := ⟨0x9F8804⟩
def enq : ApduTag := ⟨0x9F8807⟩
def answ : ApduTag := ⟨0x9F8808⟩
def menuLast : ApduTag := ⟨0x9F8809⟩
def menuMore : ApduTag := ⟨0x9F880A⟩
def menuAnsw : ApduTag := ⟨0x9F880B⟩
def listLast : ApduTag := ⟨0x9F880C⟩
def listMore : ApduTag := ⟨0x9F880D⟩

def names : List (ApduTag × String) :=
  [(profileEnq, "PROFILE_ENQ"), (profile, "PROFILE"), (profileChange, "PROFILE_CHANGE"),
    (applicationInfoEnq, "APPLICATION_INFO_ENQ"), (applicationInfo, "APPLICATION_INFO"),
    (enterMenu, "ENTER_MENU"), (caInfoEnq, "CA_INFO_ENQ"), (caInfo, "CA_INFO"),
    (caPmt, "CA_PMT"), (caPmtReply, "CA_PMT_REPLY"), (caUpdate, "CA_UPDATE"), (tune, "TUNE"),
    (replace, "REPLACE"), (clearReplace, "CLEAR_REPLACE"), (askRelease, "ASK_RELEASE"),
    (dateTimeEnq, "DATE_TIME_ENQ"), (dateTime, "DATE_TIME"), (closeMmi, "CLOSE_MMI"),
    (displayControl, "DISPLAY_CONTROL"), (displayReply, "DISPLAY_REPLY"),
    (textLast, "TEXT_LAST"), (textMore, "TEXT_MORE"), (enq, "ENQ"), (answ, "ANSW"),
    (menuLast, "MENU_LAST"), (menuMore, "MENU_MORE"), (menuAnsw, "MENU_ANSW"),
    (listLast, "LIST_LAST"), (listMore, "LIST_MORE")]

def debug (tag : ApduTag) : String :=
  match names.lookup tag with
  | some name => s!"ApduTag({name})"
  | none => s!"ApduTag(0x{hexUpper 6 tag.raw.toNat})"

end ApduTag

namespace Apdu

open Outcome

structure Item where
  tag : ApduTag
  body : Bytes
  deriving DecidableEq, Repr

def apduTagSize : Nat := 3

def parseAt (data : Bytes) : Outcome Error (Item × Nat) := do
  if data.length < apduTagSize then
    .err (.invalidData "ca apdu is too short")
  let tag : ApduTag := ⟨((← index data 0).toUInt32 <<< 16) ||| ((← index data 1).toUInt32 <<< 8) |||
    (← index data 2).toUInt32⟩
  let (length, consumed) ← Asn1.decode (← sliceFrom data apduTagSize)
  let bodyStart := apduTagSize + consumed
  let bodyEnd := bodyStart + length.toNat
  if bodyEnd ≤ data.length then
    .ok ({ tag, body := (data.take bodyEnd).drop bodyStart }, bodyEnd)
  else
    .err (.invalidData s!"ca apdu {tag.debug} body is truncated")

-- One call of the iterator: the item and the bytes left for the next call. Every item consumes
-- at least one byte, so the length of the input bounds the number of calls.
def next (data : Bytes) : Outcome Error (Option (Except Error Item × Bytes)) :=
  if data = [] then
    .ok none
  else do
    match ← (parseAt data).attempt with
    | .ok (apdu, size) => .ok (some (.ok apdu, ← sliceFrom data size))
    | .error e => .ok (some (.error e, []))

def parseAll : Nat → Bytes → Outcome Error (List (Except Error Item))
  | 0, _ => .panic
  | fuel + 1, data => do
      match ← next data with
      | none => .ok []
      | some (item, rest) => do
          .ok (item :: (← parseAll fuel rest))

def iter (data : Bytes) : Outcome Error (List (Except Error Item)) := parseAll (data.length + 1) data

def build (tag : ApduTag) (body : Bytes) : Bytes :=
  [(tag.raw >>> 16).toUInt8, (tag.raw >>> 8).toUInt8, tag.raw.toUInt8] ++
    Asn1.encode (UInt16.ofNat body.length) ++ body

theorem parseAt_sat (data : Bytes) :
    (parseAt data).Sat (fun r => 4 ≤ r.2 ∧ r.2 ≤ data.length) Error.IsInvalidData := by
  unfold parseAt apduTagSize
  simp only [sat_bind, sat_ite, sat_index, sat_err, sat_ok, sat_sliceFrom,
    isInvalidData_invalidData, implies_true, true_and]
  intro hlen
  refine ⟨by omega, by omega, by omega, by omega, ?_⟩
  refine (Asn1.decode_sat _).mono (fun decoded hsize => ?_) (fun _ he => he)
  obtain ⟨n, size⟩ := decoded
  dsimp only at hsize ⊢
  simp only [List.length_drop] at hsize
  refine ⟨fun hend => ?_, trivial⟩
  omega

theorem next_error {data rest : Bytes} {e : Error} (h : next data = .ok (some (.error e, rest))) : rest = [] := by
  rw [next] at h
  split at h
  · cases h
  · cases hparse : parseAt data with
    | ok parsed =>
        rw [hparse] at h
        cases hslice : (sliceFrom data parsed.2 : Outcome Error Bytes) <;> simp [attempt, hslice] at h
    | err e' =>
        rw [hparse] at h
        simp only [attempt, ok_bind, Outcome.ok.injEq, Option.some.injEq, Prod.mk.injEq] at h
        exact h.2.symm
    | panic =>
        rw [hparse] at h
        cases h

theorem parseAll_nil {fuel : Nat} {items : List (Except Error Item)} (h : parseAll fuel [] = .ok items) :
    items = [] := by
  cases fuel with
  | zero => cases h
  | succ fuel =>
      cases h
      rfl

theorem next_sat (data : Bytes) :
    (next data).Sat (fun r => ∀ item rest, r = some (item, rest) → rest.length < data.length ∧
      ∀ e, item = .error e → e.IsInvalidData) (fun _ => False) := by
  unfold next
  by_cases hd : data = []
  · simp [hd]
  · have hpos : 0 < data.length := List.length_pos_iff.mpr hd
    simp only [hd, if_false, sat_bind, sat_attempt]
    refine (parseAt_sat data).mono (fun ⟨apdu, size⟩ hsize => ?_) (fun e he => ?_)
    · dsimp only at hsize
      simp only [sat_sliceFrom, sat_ok, Option.some.injEq, Prod.mk.injEq]
      refine ⟨hsize.2, ?_⟩
      rintro item rest ⟨rfl, rfl⟩
      simp only [List.length_drop, reduceCtorEq, false_implies, implies_true, and_true]
      omega
    · simp only [sat_ok, Option.some.injEq, Prod.mk.injEq]
      rintro item rest ⟨rfl, rfl⟩
      refine ⟨by simpa using hpos, ?_⟩
      rintro e' he'
      cases he'
      exact he

theorem parseAll_ok {fuel : Nat} {data : Bytes} (hfuel : data.length < fuel) :
    ∃ items, parseAll fuel data = .ok items := by
  induction fuel generalizing data with
  | zero => exact absurd hfuel (Nat.not_lt_zero _)
  | succ fuel ih =>
      have hnext := next_sat data
      rw [parseAll]
      cases h : next data with
      | panic =>
          rw [h] at hnext
          exact hnext.elim
      | err e =>
          rw [h] at hnext
          exact hnext.elim
      | ok found =>
          rw [h] at hnext
          cases found with
          | none => exact ⟨[], rfl⟩
          | some entry =>
              obtain ⟨item, rest⟩ := entry
              obtain ⟨hshort, _⟩ := hnext item rest rfl
              obtain ⟨items, hitems⟩ := @ih rest (by omega)
              refine ⟨item :: items, ?_⟩
              rw [ok_bind]
              dsimp only
              rw [hitems]
              rfl

theorem iter_ok (data : Bytes) : ∃ items, iter data = .ok items := parseAll_ok (Nat.lt_succ_self _)

theorem toNat_tag (a b c : UInt8) :
    ((a.toUInt32 <<< 16) ||| (b.toUInt32 <<< 8) ||| c.toUInt32).toNat =
      a.toNat * 65536 + (b.toNat * 256 + c.toNat) := by
  have ha := a.toNat_lt
  have hb := b.toNat_lt
  have hc : c.toNat < 2 ^ 8 := c.toNat_lt
  have hfirst : a.toNat <<< 16 % 4294967296 = a.toNat <<< 16 := by
    rw [Nat.shiftLeft_eq]
    omega
  have hsecond : b.toNat <<< 8 % 4294967296 = b.toNat <<< 8 := by
    rw [Nat.shiftLeft_eq]
    omega
  have hlow : b.toNat <<< 8 + c.toNat < 2 ^ 16 := by
    rw [Nat.shiftLeft_eq]
    omega
  simp only [UInt32.toNat_or, UInt32.toNat_shiftLeft, UInt8.toNat_toUInt32]
  rw [show (16 : UInt32).toNat % 32 = 16 from rfl, show (8 : UInt32).toNat % 32 = 8 from rfl,
    show (2 ^ 32 : Nat) = 4294967296 from rfl, hfirst, hsecond, Nat.or_assoc,
    ← Nat.shiftLeft_add_eq_or_of_lt hc, ← Nat.shiftLeft_add_eq_or_of_lt hlow, Nat.shiftLeft_eq,
    Nat.shiftLeft_eq]

theorem tag_bytes {raw : UInt32} (h : raw.toNat < 0x1000000) :
    ((raw >>> 16).toUInt8.toUInt32 <<< 16) ||| ((raw >>> 8).toUInt8.toUInt32 <<< 8) |||
      raw.toUInt8.toUInt32 = raw := by
  rw [← UInt32.toNat_inj, toNat_tag]
  simp only [UInt32.toNat_toUInt8, UInt32.toNat_shiftRight]
  rw [show (16 : UInt32).toNat % 32 = 16 from rfl, show (8 : UInt32).toNat % 32 = 8 from rfl,
    Nat.shiftRight_eq_div_pow, Nat.shiftRight_eq_div_pow]
  omega

theorem next_build (item : Item) (rest : Bytes) (htag : item.tag.raw.toNat < 0x1000000)
    (hbody : item.body.length ≤ 65535) :
    next (build item.tag item.body ++ rest) = .ok (some (.ok item, rest)) := by
  obtain ⟨tag, body⟩ := item
  have hlength : (UInt16.ofNat body.length).toNat = body.length := by
    rw [UInt16.toNat_ofNat']
    exact Nat.mod_eq_of_lt (Nat.lt_succ_of_le hbody)
  have hdecode := Asn1.decode_encode (UInt16.ofNat body.length) (body ++ rest)
  have hraw : (⟨((tag.raw >>> 16).toUInt8.toUInt32 <<< 16) ||| ((tag.raw >>> 8).toUInt8.toUInt32 <<< 8) |||
      tag.raw.toUInt8.toUInt32⟩ : ApduTag) = tag := congrArg ApduTag.mk (tag_bytes htag)
  have hparse : parseAt (build tag body ++ rest) = .ok ({ tag, body }, (build tag body).length) := by
    have hlong : ¬ (build tag body ++ rest).length < apduTagSize := by
      simp [build, apduTagSize]
    rw [parseAt, if_neg hlong]
    simp only [build, List.cons_append, List.nil_append, List.append_assoc, index, sliceFrom, apduTagSize,
      List.getElem?_cons_zero, List.getElem?_cons_succ, ok_bind, hraw, List.drop_succ_cons, List.drop_zero]
    simp only [List.length_cons, Nat.le_add_left, if_true, ok_bind, hdecode, hlength]
    have hend : 3 + (Asn1.encode (UInt16.ofNat body.length)).length + body.length ≤
        (Asn1.encode (UInt16.ofNat body.length) ++ (body ++ rest)).length + 1 + 1 + 1 := by
      simp only [List.length_append]
      omega
    have hmiddle := drop_take_middle ((tag.raw >>> 16).toUInt8 :: (tag.raw >>> 8).toUInt8 ::
      tag.raw.toUInt8 :: Asn1.encode (UInt16.ofNat body.length)) body rest
    simp only [List.cons_append, List.length_cons] at hmiddle
    have hsize : 3 + (Asn1.encode (UInt16.ofNat body.length)).length =
        (Asn1.encode (UInt16.ofNat body.length)).length + 1 + 1 + 1 := by omega
    rw [if_pos hend, hsize, hmiddle, List.length_append]
    simp only [Outcome.ok.injEq, Prod.mk.injEq, true_and]
    omega
  have hne : build tag body ++ rest ≠ [] := by simp [build]
  have hle : (build tag body).length ≤ (build tag body ++ rest).length := by simp
  rw [next, if_neg hne, hparse]
  simp only [attempt, ok_bind, sliceFrom, if_pos hle, List.drop_left]

theorem parseAll_build (items : List Item) (htag : ∀ item ∈ items, item.tag.raw.toNat < 0x1000000)
    (hbody : ∀ item ∈ items, item.body.length ≤ 65535) (fuel : Nat)
    (hfuel : items.length < fuel) :
    parseAll fuel (items.flatMap fun item => build item.tag item.body) = .ok (items.map .ok) := by
  induction items generalizing fuel with
  | nil =>
      obtain ⟨fuel, rfl⟩ := Nat.exists_eq_succ_of_ne_zero (Nat.pos_iff_ne_zero.mp hfuel)
      rfl
  | cons item items ih =>
      obtain ⟨fuel, rfl⟩ := Nat.exists_eq_succ_of_ne_zero (Nat.pos_iff_ne_zero.mp (Nat.zero_lt_of_lt hfuel))
      rw [List.flatMap_cons, parseAll, next_build item _ (htag item List.mem_cons_self)
        (hbody item List.mem_cons_self)]
      simp only [ok_bind]
      rw [ih (fun other hmem => htag other (List.mem_cons_of_mem _ hmem))
        (fun other hmem => hbody other (List.mem_cons_of_mem _ hmem)) fuel
        (Nat.lt_of_succ_lt_succ hfuel)]
      rfl

theorem length_build (item : Item) : 4 + item.body.length ≤ (build item.tag item.body).length := by
  have := (Asn1.length_encode (UInt16.ofNat item.body.length)).1
  simp only [build, List.length_append, List.length_cons, List.length_nil]
  omega

theorem length_builds (items : List Item) :
    items.length ≤ (items.flatMap fun item => build item.tag item.body).length := by
  induction items with
  | nil => exact Nat.zero_le _
  | cons item items ih =>
      have := length_build item
      simp only [List.flatMap_cons, List.length_append, List.length_cons]
      omega

theorem iter_build (items : List Item) (htag : ∀ item ∈ items, item.tag.raw.toNat < 0x1000000)
    (hbody : ∀ item ∈ items, item.body.length ≤ 65535) :
    iter (items.flatMap fun item => build item.tag item.body) = .ok (items.map .ok) :=
  parseAll_build items htag hbody _ (Nat.lt_succ_of_le (length_builds items))

end Apdu

end LibDvb
