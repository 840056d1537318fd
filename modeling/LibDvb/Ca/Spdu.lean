import LibDvb.Ca.ResourceId

namespace LibDvb

structure SpduTag where
  raw : UInt8
  deriving DecidableEq, Repr

namespace SpduTag

def sessionNumber : SpduTag := ⟨0x90⟩
def openSessionRequest : SpduTag := ⟨0x91⟩
def openSessionResponse : SpduTag := ⟨0x92⟩
def createSession : SpduTag := ⟨0x93⟩
def createSessionResponse : SpduTag := ⟨0x94⟩
def closeSessionRequest : SpduTag := ⟨0x95⟩
def closeSessionResponse : SpduTag := ⟨0x96⟩

def debug (tag : SpduTag) : String :=
  if tag = sessionNumber then "SpduTag(SESSION_NUMBER)"
  else if tag = openSessionRequest then "SpduTag(OPEN_SESSION_REQUEST)"
  else if tag = openSessionResponse then "SpduTag(OPEN_SESSION_RESPONSE)"
  else if tag = createSession then "SpduTag(CREATE_SESSION)"
  else if tag = createSessionResponse then "SpduTag(CREATE_SESSION_RESPONSE)"
  else if tag = closeSessionRequest then "SpduTag(CLOSE_SESSION_REQUEST)"
  else if tag = closeSessionResponse then "SpduTag(CLOSE_SESSION_RESPONSE)"
  else s!"SpduTag(0x{hexUpper 2 tag.raw.toNat})"

end SpduTag

inductive Spdu where
  | sessionNumber (sessionId : UInt16) (apdu : Bytes)
  | openSessionRequest (resourceId : ResourceId)
  | createSessionResponse (status : UInt8) (resourceId : ResourceId) (sessionId : UInt16)
  | closeSessionRequest (sessionId : UInt16)
  | closeSessionResponse (status : UInt8) (sessionId : UInt16)
  deriving DecidableEq, Repr

namespace Spdu

open Outcome

def spduHeaderSize : Nat := 4

def ssOk : UInt8 := 0x00
def ssNotAllocated : UInt8 := 0xF0
def ssLowerVersion : UInt8 := 0xF2
def ssBusy : UInt8 := 0xF3

def readU16 (data : Bytes) : Outcome Error UInt16 := do
  .ok (ofBeBytes (← index data 0) (← index data 1))

def readU32 (data : Bytes) : Outcome Error UInt32 := do
  .ok (((← index data 0).toUInt32 <<< 24) ||| ((← index data 1).toUInt32 <<< 16) |||
    ((← index data 2).toUInt32 <<< 8) ||| (← index data 3).toUInt32)

def check (data : Bytes) (tag : SpduTag) (size : Nat) (exact : Bool) : Outcome Error Unit :=
  let sizeOk := if exact then decide (data.length = size) else decide (size ≤ data.length)
  if sizeOk then do
    if (← index data 1) = UInt8.ofNat (size - 2) then
      .ok ()
    else
      .err (.invalidData s!"ca spdu invalid size for tag {tag.debug}")
  else
    .err (.invalidData s!"ca spdu invalid size for tag {tag.debug}")

def parse (data : Bytes) : Outcome Error Spdu :=
  match data.head? with
  | none => .err (.invalidData "ca spdu is empty")
  | some tag => do
      let tag : SpduTag := ⟨tag⟩
      if tag = .sessionNumber then
        check data tag spduHeaderSize false
        let sessionId ← readU16 (← slice data 2 4)
        .ok (.sessionNumber sessionId (← sliceFrom data spduHeaderSize))
      else if tag = .openSessionRequest then
        check data tag 6 true
        .ok (.openSessionRequest ⟨← readU32 (← slice data 2 6)⟩)
      else if tag = .createSessionResponse then
        check data tag 9 true
        let status ← index data 2
        let resourceId ← readU32 (← slice data 3 7)
        let sessionId ← readU16 (← slice data 7 9)
        .ok (.createSessionResponse status ⟨resourceId⟩ sessionId)
      else if tag = .closeSessionRequest then
        check data tag 4 true
        .ok (.closeSessionRequest (← readU16 (← slice data 2 4)))
      else if tag = .closeSessionResponse then
        check data tag 5 true
        let status ← index data 2
        let sessionId ← readU16 (← slice data 3 5)
        .ok (.closeSessionResponse status sessionId)
      else
        .err (.invalidData s!"ca spdu unknown tag {tag.debug}")

def buildSessionNumber (sessionId : UInt16) : Bytes :=
  [SpduTag.sessionNumber.raw, 2] ++ toBeBytes sessionId

def buildOpenSessionResponse (status : UInt8) (resourceId : ResourceId) (sessionId : UInt16) :
    Bytes :=
  [SpduTag.openSessionResponse.raw, 7, status] ++ resourceId.toBytes ++ toBeBytes sessionId

def buildCloseSessionRequest (sessionId : UInt16) : Bytes :=
  [SpduTag.closeSessionRequest.raw, 2] ++ toBeBytes sessionId

def buildCloseSessionResponse (status : UInt8) (sessionId : UInt16) : Bytes :=
  [SpduTag.closeSessionResponse.raw, 3, status] ++ toBeBytes sessionId

theorem check_sat (data : Bytes) (tag : SpduTag) (size : Nat) (exact : Bool) (hsize : 2 ≤ size) :
    (check data tag size exact).Sat
      (fun _ => if exact then data.length = size else size ≤ data.length)
      Error.IsInvalidData := by
  unfold check
  cases exact <;>
    simp only [Bool.false_eq_true, if_true, if_false, decide_eq_true_eq, sat_ite, sat_bind,
      sat_index, sat_ok, sat_err, isInvalidData_invalidData, implies_true, and_true]
  · exact fun hlen => ⟨by omega, fun _ => hlen⟩
  · exact fun hlen => ⟨by omega, fun _ => hlen⟩

theorem readU16_sat {data : Bytes} (h : data.length = 2) :
    (readU16 data).Sat (fun _ => True) Error.IsInvalidData := by
  simp only [readU16, sat_bind, sat_index, sat_ok]
  exact ⟨by omega, by omega, trivial⟩

theorem readU32_sat {data : Bytes} (h : data.length = 4) :
    (readU32 data).Sat (fun _ => True) Error.IsInvalidData := by
  simp only [readU32, sat_bind, sat_index, sat_ok]
  exact ⟨by omega, by omega, by omega, by omega, trivial⟩

theorem parse_sat (data : Bytes) :
    (parse data).Sat (fun _ => True) Error.IsInvalidData := by
  have hslice {i j : Nat} (hij : i ≤ j) (hj : j ≤ data.length) :
      ((data.take j).drop i).length = j - i := by
    simp only [List.length_drop, List.length_take]
    omega
  unfold parse spduHeaderSize
  split
  · simp
  simp only [sat_bind, sat_ite, sat_slice, sat_sliceFrom, sat_index, sat_ok, sat_err,
    isInvalidData_invalidData]
  refine ⟨fun _ => ?_, fun _ => ⟨fun _ => ?_, fun _ => ⟨fun _ => ?_, fun _ => ⟨fun _ => ?_,
    fun _ => ⟨fun _ => ?_, fun _ => trivial⟩⟩⟩⟩⟩
  all_goals
    refine (check_sat _ _ _ _ (by decide)).mono (fun _ hlen => ?_) (fun _ he => he)
    simp only [Bool.false_eq_true, if_true, if_false] at hlen
  · refine ⟨by omega, (readU16_sat (hslice (by omega) (by omega))).mono ?_ (fun _ he => he)⟩
    exact fun _ _ => ⟨by omega, trivial⟩
  · exact ⟨by omega, readU32_sat (hslice (by omega) (by omega))⟩
  · refine ⟨by omega, by omega, ?_⟩
    refine (readU32_sat (hslice (by omega) (by omega))).mono (fun _ _ => ?_) (fun _ he => he)
    exact ⟨by omega, readU16_sat (hslice (by omega) (by omega))⟩
  · exact ⟨by omega, readU16_sat (hslice (by omega) (by omega))⟩
  · exact ⟨by omega, by omega, readU16_sat (hslice (by omega) (by omega))⟩

theorem parse_sessionNumber (sessionId : UInt16) (apdu : Bytes) :
    parse (buildSessionNumber sessionId ++ apdu) = .ok (.sessionNumber sessionId apdu) := by
  have hcheck : check (buildSessionNumber sessionId ++ apdu) .sessionNumber spduHeaderSize false = .ok () := by
    simp [check, buildSessionNumber, toBeBytes, spduHeaderSize, index]
  have hid : (slice (buildSessionNumber sessionId ++ apdu) 2 4 : Outcome Error Bytes) =
      .ok (toBeBytes sessionId) := by
    simp [slice, buildSessionNumber, toBeBytes]
  have hrest : (sliceFrom (buildSessionNumber sessionId ++ apdu) spduHeaderSize : Outcome Error Bytes) =
      .ok apdu := by
    simp [sliceFrom, buildSessionNumber, toBeBytes, spduHeaderSize]
  have hread : readU16 (toBeBytes sessionId) = .ok sessionId := by
    simp [readU16, toBeBytes, index, ofBeBytes_toBeBytes]
  have hhead : (buildSessionNumber sessionId ++ apdu).head? = some SpduTag.sessionNumber.raw := rfl
  rw [parse, hhead]
  dsimp only
  rw [if_pos rfl, hcheck, hid, hrest]
  simp only [ok_bind, hread]

end Spdu

end LibDvb
