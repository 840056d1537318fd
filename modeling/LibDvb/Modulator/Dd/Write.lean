import Mathlib.Data.List.Forall2
import LibDvb.Basis.Path
import LibDvb.Error
import LibDvb.Time

namespace LibDvb

open Act Outcome

-- The kind `WriteZero`, which no error number has.
def ErrorKind.writeZero : ErrorKind := .other 0

abbrev ModKernel (κ : Type) := Bytes → κ → Except (ErrorKind × String) Nat × κ

structure ModDevice (κ : Type) where
  kernel : κ
  slept : Duration := 0

namespace ModDevice

section Write

variable {κ : Type} (kernel : ModKernel κ)

def write (data : Bytes) : Act Error (ModDevice κ) (Except (ErrorKind × String) Nat) := do
  let device ← get
  let (answer, after) := kernel data device.kernel
  modify fun device => { device with kernel := after }
  pure answer

def sleep (duration : Duration) : Act Error (ModDevice κ) Unit :=
  modify fun device => { device with slept := device.slept + duration }

-- The loop of `write_all` over the bytes that are left. It makes as many calls as the driver wants; `calls` bounds them.
def writeAll : Nat → Bytes → Act Error (ModDevice κ) Unit
  | 0, _ => fault
  | calls + 1, rest =>
      if rest = [] then
        pure ()
      else do
        match ← write kernel rest with
        | .ok 0 => fail (.io .writeZero "mod device accepted no data")
        | .ok n => do
            let rest ← lift (sliceFrom rest n)
            writeAll calls rest
        | .error (.interrupted, _) => writeAll calls rest
        | .error (.wouldBlock, _) => do
            sleep (Duration.fromMillis 1)
            writeAll calls rest
        | .error (kind, message) => fail (.io kind message)

end Write

end ModDevice

def tsPacketSize : Nat := 188

def AsksAgain : Except (ErrorKind × String) Nat → Prop
  | .ok _ => False
  | .error (kind, _) => kind = .interrupted ∨ kind = .wouldBlock

namespace ModKernel

variable {κ : Type}

structure Takes (kernel : ModKernel κ) (received : κ → Bytes) : Prop where
  took : ∀ data s n, (kernel data s).1 = .ok n →
    n ≤ data.length ∧ received (kernel data s).2 = received s ++ data.take n
  refused : ∀ data s e, (kernel data s).1 = .error e → received (kernel data s).2 = received s

def Fits (kernel : ModKernel κ) : Prop := ∀ data s n, (kernel data s).1 = .ok n → n ≤ data.length

def TakesPackets (kernel : ModKernel κ) : Prop :=
  ∀ data s n, tsPacketSize ∣ data.length → (kernel data s).1 = .ok n → tsPacketSize ∣ n

inductive Replies (kernel : ModKernel κ) (data : Bytes) : κ → Prop
  | now {s : κ} (answer : ¬ AsksAgain (kernel data s).1) : Replies kernel data s
  | later {s : κ} (rest : Replies kernel data (kernel data s).2) : Replies kernel data s

variable {kernel : ModKernel κ} {received : κ → Bytes} {data : Bytes} {s : κ}

theorem Takes.fits (h : kernel.Takes received) : kernel.Fits := fun data s n hanswer => (h.took data s n hanswer).1

theorem Takes.kept (h : kernel.Takes received) (hnone : ∀ n, (kernel data s).1 = .ok n → n = 0) :
    received (kernel data s).2 = received s := by
  cases hanswer : (kernel data s).1 with
  | ok n =>
      rw [(h.took _ _ _ hanswer).2, hnone n hanswer, List.take_zero, List.append_nil]
  | error e => exact h.refused _ _ _ hanswer

end ModKernel

structure Written {κ : Type} (kernel : ModKernel κ) (label : Bytes × Except Error Unit) (part : Bytes) : Prop where
  start : part <+: label.1
  whole : label.2 = .ok () ↔ part = label.1
  lasting : ∀ kind message, label.2 = .error (.io kind message) → kind ≠ .interrupted ∧ kind ≠ .wouldBlock
  packets : kernel.TakesPackets → tsPacketSize ∣ label.1.length → tsPacketSize ∣ part.length

namespace ModDevice

variable {κ : Type} {kernel : ModKernel κ} {received : κ → Bytes} {buf : Bytes} {device device' : ModDevice κ}

inductive Turn (kernel : ModKernel κ) (buf : Bytes) (device after : ModDevice κ) : Prop
  | failed (kind : ErrorKind) (message : String) (lasting : kind ≠ .interrupted ∧ kind ≠ .wouldBlock)
      (none : ∀ n, (kernel buf device.kernel).1 = .ok n → n = 0)
      (turn : ∀ calls, writeAll kernel (calls + 1) buf device = (.err (.io kind message), after))
  | took (n : Nat) (some : 0 < n) (fits : n ≤ buf.length) (answer : (kernel buf device.kernel).1 = .ok n)
      (turn : ∀ calls, writeAll kernel (calls + 1) buf device = writeAll kernel calls (buf.drop n) after)
  | again (again : AsksAgain (kernel buf device.kernel).1)
      (turn : ∀ calls, writeAll kernel (calls + 1) buf device = writeAll kernel calls buf after)

theorem turns (h : kernel.Fits) (hne : buf ≠ []) (device : ModDevice κ) :
    ∃ after : ModDevice κ, after.kernel = (kernel buf device.kernel).2 ∧ Turn kernel buf device after := by
  have hwrite : write kernel buf device =
      (.ok (kernel buf device.kernel).1, { device with kernel := (kernel buf device.kernel).2 }) := rfl
  cases hanswer : (kernel buf device.kernel).1 with
  | error e =>
      obtain ⟨kind, message⟩ := e
      have hfailed (lasting : kind ≠ .interrupted ∧ kind ≠ .wouldBlock)
          (turn : ∀ calls, writeAll kernel (calls + 1) buf device =
            (.err (.io kind message), { device with kernel := (kernel buf device.kernel).2 })) :
          ∃ after : ModDevice κ, after.kernel = (kernel buf device.kernel).2 ∧ Turn kernel buf device after := by
        refine ⟨_, rfl, .failed kind message lasting (fun n hn => ?_) turn⟩
        rw [hanswer] at hn
        cases hn
      cases kind with
      | interrupted =>
          refine ⟨{ device with kernel := (kernel buf device.kernel).2 }, rfl, .again (hanswer ▸ .inl rfl) fun calls => ?_⟩
          rw [writeAll, if_neg hne, bind_run hwrite, hanswer]
      | wouldBlock =>
          refine ⟨{ kernel := (kernel buf device.kernel).2, slept := device.slept + Duration.fromMillis 1 }, rfl,
            .again (hanswer ▸ .inr rfl) fun calls => ?_⟩
          rw [writeAll, if_neg hne, bind_run hwrite, hanswer]
          rfl
      | unexpectedEof =>
          refine hfailed ⟨by rintro ⟨⟩, by rintro ⟨⟩⟩ fun calls => ?_
          rw [writeAll, if_neg hne, bind_run hwrite, hanswer]
          rfl
      | other code =>
          refine hfailed ⟨by rintro ⟨⟩, by rintro ⟨⟩⟩ fun calls => ?_
          rw [writeAll, if_neg hne, bind_run hwrite, hanswer]
          rfl
  | ok n =>
      have hfits : n ≤ buf.length := h _ _ _ hanswer
      refine ⟨{ device with kernel := (kernel buf device.kernel).2 }, rfl, ?_⟩
      cases n with
      | zero =>
          refine .failed .writeZero "mod device accepted no data" ⟨by rintro ⟨⟩, by rintro ⟨⟩⟩ (fun n hn => ?_) fun calls => ?_
          · rw [hanswer, Except.ok.injEq] at hn
            exact hn.symm
          · rw [writeAll, if_neg hne, bind_run hwrite, hanswer]
            rfl
      | succ n =>
          refine .took (n + 1) (Nat.succ_pos n) hfits hanswer fun calls => ?_
          rw [writeAll, if_neg hne, bind_run hwrite, hanswer]
          show (lift (sliceFrom buf (n + 1)) >>= writeAll kernel calls) _ = _
          rw [sliceFrom, if_pos hfits]
          rfl

theorem writeAll_delivers (h : kernel.Takes received) : ∀ (calls : Nat) {buf : Bytes} {device : ModDevice κ}
    {result : Except Error Unit}, writeAll kernel calls buf device = (Outcome.ofExcept result, device') →
    ∃ part, Written kernel (buf, result) part ∧ received device'.kernel = received device.kernel ++ part := by
  intro calls
  induction calls with
  | zero =>
      intro buf device result hrun
      cases result with
      | _ => cases (Prod.ext_iff.mp hrun).1
  | succ calls ih =>
      intro buf device result hrun
      by_cases hne : buf = []
      · rw [writeAll, if_pos hne] at hrun
        obtain ⟨hresult, rfl⟩ := Prod.ext_iff.mp hrun
        cases result with
        | error e => cases hresult
        | ok _ =>
            refine ⟨[], ⟨List.nil_prefix, ⟨fun _ => hne.symm, fun _ => rfl⟩, by rintro _ _ ⟨⟩, fun _ _ => Nat.dvd_zero _⟩, ?_⟩
            exact (List.append_nil _).symm
      · obtain ⟨after, hafter, hturn⟩ := turns h.fits hne device
        cases hturn with
        | failed kind message lasting none turn =>
            rw [turn] at hrun
            obtain ⟨hresult, rfl⟩ := Prod.ext_iff.mp hrun
            cases result with
            | ok _ => cases hresult
            | error e =>
                obtain rfl := Outcome.err.inj hresult
                refine ⟨[], ⟨List.nil_prefix, ⟨by rintro ⟨⟩, fun heq => absurd heq.symm hne⟩, ?_, fun _ _ => Nat.dvd_zero _⟩, ?_⟩
                · intro kind' message' heq
                  cases heq
                  exact lasting
                · rw [hafter, h.kept none, List.append_nil]
        | took n some fits answer turn =>
            rw [turn] at hrun
            obtain ⟨part, hpart, hreceived⟩ := ih hrun
            refine ⟨buf.take n ++ part, ⟨?_, ?_, hpart.lasting, fun hpackets hdvd => ?_⟩, ?_⟩
            · have hjoin := (List.prefix_append_right_inj (buf.take n)).mpr hpart.start
              rwa [List.take_append_drop] at hjoin
            · refine hpart.whole.trans ⟨fun heq => ?_, fun heq => ?_⟩
              · rw [heq]
                exact List.take_append_drop n buf
              · exact List.append_cancel_left (heq.trans (List.take_append_drop n buf).symm)
            · have hn := hpackets _ _ _ hdvd answer
              have hrest := hpart.packets hpackets (by
                rw [List.length_drop]
                exact Nat.dvd_sub hdvd hn)
              rw [List.length_append, List.length_take_of_le fits]
              exact Nat.dvd_add hn hrest
            · rw [hreceived, hafter, (h.took _ _ _ answer).2, List.append_assoc]
        | again again turn =>
            rw [turn] at hrun
            obtain ⟨part, hpart, hreceived⟩ := ih hrun
            refine ⟨part, hpart, ?_⟩
            rw [hreceived, hafter, h.kept fun n hn => ?_]
            rw [hn] at again
            exact again.elim

theorem writeAll_returns (h : kernel.Fits) (hreplies : ∀ data s, kernel.Replies data s) (buf : Bytes)
    (device : ModDevice κ) : ∃ calls result device', writeAll kernel calls buf device = (Outcome.ofExcept result, device') := by
  induction hlen : buf.length using Nat.strong_induction_on generalizing buf device with
  | _ len ih =>
      have hturn (device : ModDevice κ) (hagain : ∀ after : ModDevice κ, after.kernel = (kernel buf device.kernel).2 →
          AsksAgain (kernel buf device.kernel).1 →
            ∃ calls result device', writeAll kernel calls buf after = (Outcome.ofExcept result, device')) :
          ∃ calls result device', writeAll kernel calls buf device = (Outcome.ofExcept result, device') := by
        by_cases hne : buf = []
        · exact ⟨1, .ok (), device, by rw [writeAll, if_pos hne]; rfl⟩
        · obtain ⟨after, hafter, hturn⟩ := turns h hne device
          cases hturn with
          | failed kind message lasting none turn => exact ⟨1, .error _, after, turn 0⟩
          | took n some fits answer turn =>
              have hshorter : (buf.drop n).length < len := by
                rw [List.length_drop, ← hlen]
                omega
              obtain ⟨calls, result, device', hrun⟩ := ih _ hshorter (buf.drop n) after rfl
              exact ⟨calls + 1, result, device', (turn calls).trans hrun⟩
          | again again turn =>
              obtain ⟨calls, result, device', hrun⟩ := hagain after hafter again
              exact ⟨calls + 1, result, device', (turn calls).trans hrun⟩
      have hpatient : ∀ s, kernel.Replies buf s → ∀ device : ModDevice κ, device.kernel = s →
          ∃ calls result device', writeAll kernel calls buf device = (Outcome.ofExcept result, device') := by
        intro s hs
        induction hs with
        | now answer =>
            rintro device rfl
            exact hturn device fun _ _ again => absurd again answer
        | later rest ihs =>
            rintro device rfl
            exact hturn device fun after hafter _ => ihs after hafter
      exact hpatient _ (hreplies buf device.kernel) device rfl

def Step (kernel : ModKernel κ) (device : ModDevice κ) (label : Bytes × Except Error Unit) (device' : ModDevice κ) : Prop :=
  ∃ calls, writeAll kernel calls label.1 device = (Outcome.ofExcept label.2, device')

end ModDevice

variable {κ : Type} {kernel : ModKernel κ} {received : κ → Bytes} {device device' : ModDevice κ}
  {labels : List (Bytes × Except Error Unit)}

theorem modulator_stream (h : kernel.Takes received) (hrun : Run (ModDevice.Step kernel) device labels device') :
    ∃ parts : List Bytes, List.Forall₂ (Written kernel) labels parts ∧
      received device'.kernel = received device.kernel ++ parts.flatten := by
  have hnone : ∃ parts : List Bytes, List.Forall₂ (Written kernel) [] parts ∧
      received device.kernel = received device.kernel ++ parts.flatten := ⟨[], .nil, (List.append_nil _).symm⟩
  refine hrun.history (I := fun labels device' => ∃ parts : List Bytes, List.Forall₂ (Written kernel) labels parts ∧
    received device'.kernel = received device.kernel ++ parts.flatten) hnone fun labels device₁ label device₂ ih hstep => ?_
  obtain ⟨parts, hparts, hreceived⟩ := ih
  obtain ⟨calls, hcall⟩ := hstep
  obtain ⟨part, hpart, hafter⟩ := ModDevice.writeAll_delivers h calls hcall
  refine ⟨parts ++ [part], List.rel_append hparts (.cons hpart .nil), ?_⟩
  rw [hafter, hreceived, List.flatten_append, List.flatten_singleton, List.append_assoc]

-- A ring with room for two packets that lets a writer wait once.
def ringKernel : ModKernel (Bool × Bytes)
  | _, (false, taken) => (.error (.wouldBlock, "ring is full"), (true, taken))
  | data, (true, taken) =>
      (.ok (min data.length (2 * tsPacketSize)), (false, taken ++ data.take (min data.length (2 * tsPacketSize))))

theorem ringKernel_takes : ringKernel.Takes Prod.snd where
  took := by
    rintro data ⟨_ | _, taken⟩ n ⟨⟩
    exact ⟨Nat.min_le_left _ _, rfl⟩
  refused := by
    rintro data ⟨_ | _, taken⟩ e ⟨⟩
    rfl

theorem ringKernel_replies (data : Bytes) (s : Bool × Bytes) : ringKernel.Replies data s := by
  obtain ⟨waited, taken⟩ := s
  have hnow (taken : Bytes) : ringKernel.Replies data (true, taken) := .now id
  cases waited with
  | false => exact .later (hnow taken)
  | true => exact hnow taken

theorem modulator_stream_ring : ∃ labels, ∃ device' : ModDevice (Bool × Bytes),
    labels.map Prod.fst = [List.replicate (3 * tsPacketSize) 0x47] ∧
    Run (ModDevice.Step ringKernel) { kernel := (false, []) } labels device' ∧
    ∃ parts : List Bytes, List.Forall₂ (Written ringKernel) labels parts ∧ device'.kernel.2 = [] ++ parts.flatten := by
  obtain ⟨calls, result, device', hcall⟩ := ModDevice.writeAll_returns ringKernel_takes.fits ringKernel_replies
    (List.replicate (3 * tsPacketSize) 0x47) { kernel := (false, []) }
  have hrun : Run (ModDevice.Step ringKernel) { kernel := (false, []) }
      ([] ++ [(List.replicate (3 * tsPacketSize) 0x47, result)]) device' := .snoc .nil ⟨calls, hcall⟩
  exact ⟨_, device', rfl, hrun, modulator_stream ringKernel_takes hrun⟩

theorem modulator_writes_end (h : kernel.Fits) (hreplies : ∀ data s, kernel.Replies data s) (bufs : List Bytes)
    (device : ModDevice κ) :
    ∃ labels device', labels.map Prod.fst = bufs ∧ Run (ModDevice.Step kernel) device labels device' := by
  induction bufs generalizing device with
  | nil => exact ⟨[], device, rfl, .nil⟩
  | cons buf bufs ih =>
      obtain ⟨calls, result, after, hcall⟩ := ModDevice.writeAll_returns h hreplies buf device
      obtain ⟨labels, device', hbufs, hrun⟩ := ih after
      exact ⟨(buf, result) :: labels, device', by rw [List.map_cons, hbufs], hrun.cons ⟨calls, hcall⟩⟩

theorem modulator_writes_end_ring : ∃ labels, ∃ device' : ModDevice (Bool × Bytes),
    labels.map Prod.fst = [List.replicate tsPacketSize 0x47, []] ∧
    Run (ModDevice.Step ringKernel) { kernel := (false, []) } labels device' :=
  modulator_writes_end ringKernel_takes.fits ringKernel_replies _ _

end LibDvb
