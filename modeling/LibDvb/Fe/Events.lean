import LibDvb.Fe.Tune.Settings

namespace LibDvb

open Act FeFile

section Queue

structure EventQueue where
  events : Nat
  overflow : Bool
  flags : UInt32
  deriving DecidableEq, Repr

def EventQueue.nonblocking (self : EventQueue) : Prop := self.flags &&& oNonblock ≠ 0

-- An overflow is reported once, before the events; of a blocking read on an empty queue nothing is known, nor of flags
-- that differ in more than the mode.
structure FeKernel.Queues {κ : Type} (kernel : FeKernel κ) (view : κ → EventQueue) : Prop where
  overflowed : ∀ s, (view s).overflow → (kernel .getEvent s).1 = .error eoverflow ∧
    view (kernel .getEvent s).2 = { view s with overflow := false }
  dequeued : ∀ s n, (view s).overflow = false → (view s).events = n + 1 →
    (∃ value, (kernel .getEvent s).1 = .ok value) ∧ view (kernel .getEvent s).2 = { view s with events := n }
  empty : ∀ s, (view s).overflow = false → (view s).events = 0 → (view s).nonblocking →
    (∃ errno, errno ≠ eoverflow ∧ (kernel .getEvent s).1 = .error errno) ∧ view (kernel .getEvent s).2 = view s
  getFlags : ∀ s, (kernel .getFlags s).1 = .ok (view s).flags ∧ view (kernel .getFlags s).2 = view s
  setFlags : ∀ s flags, flags ||| oNonblock = (view s).flags ||| oNonblock →
    (∃ value, (kernel (.setFlags flags) s).1 = .ok value) ∧ view (kernel (.setFlags flags) s).2 = { view s with flags }

variable {κ : Type} {kernel : FeKernel κ} {view : κ → EventQueue} {file : FeFile κ}

theorem wp_drainLoop (h : kernel.Queues view) : ∀ (reads : Nat) (file : FeFile κ), (view file.kernel).nonblocking →
    (view file.kernel).events + (view file.kernel).overflow.toNat ≤ reads →
    wp (drainLoop kernel reads)
      (fun _ file' => view file'.kernel = { view file.kernel with events := 0, overflow := false })
      (fun _ _ => False) file := by
  intro reads
  induction reads with
  | zero =>
      intro file _ hreads
      obtain ⟨hevents, hoverflow⟩ := Nat.add_eq_zero_iff.mp (Nat.le_zero.mp hreads)
      have hnot : (view file.kernel).overflow = false := Bool.toNat_eq_zero.mp hoverflow
      show view file.kernel = _
      rw [← hevents, ← hnot]
  | succ reads ih =>
      intro file hnonblock hreads
      rw [drainLoop, wp_bind, wp_attempt, wp_ioctl]
      cases hoverflow : (view file.kernel).overflow with
      | true =>
          obtain ⟨hanswer, hview⟩ := h.overflowed file.kernel hoverflow
          have hnext : view (called kernel file .getEvent).kernel = { view file.kernel with overflow := false } := hview
          rw [hanswer]
          dsimp only
          rw [if_pos rfl]
          refine wp_mono (ih _ (by rwa [hnext]) ?_) (fun _ file' hdone => by rw [hdone, hnext]) fun _ _ hf => hf
          rw [hnext]
          rw [hoverflow] at hreads
          exact Nat.le_of_succ_le_succ hreads
      | false =>
          cases hevents : (view file.kernel).events with
          | zero =>
              obtain ⟨⟨errno, hne, hanswer⟩, hview⟩ := h.empty file.kernel hoverflow hevents hnonblock
              rw [hanswer]
              dsimp only
              rw [if_neg (by simpa using hne)]
              show view (called kernel file .getEvent).kernel = _
              rw [show view (called kernel file .getEvent).kernel = view file.kernel from hview, ← hevents, ← hoverflow]
          | succ n =>
              obtain ⟨⟨value, hanswer⟩, hview⟩ := h.dequeued file.kernel n hoverflow hevents
              have hnext : view (called kernel file .getEvent).kernel = { view file.kernel with events := n } := hview
              rw [hanswer]
              dsimp only
              refine wp_mono (ih _ (by rwa [hnext]) ?_) (fun _ file' hdone => by rw [hdone, hnext]) fun _ _ hf => hf
              rw [hnext]
              rw [hevents, hoverflow] at hreads
              simp only [hoverflow, Bool.toNat_false] at hreads ⊢
              omega

theorem or_nonblock_twice (flags : UInt32) : (flags ||| oNonblock) ||| oNonblock = flags ||| oNonblock := by
  rw [UInt32.or_assoc, UInt32.or_self]

theorem or_nonblock (flags : UInt32) : (flags ||| oNonblock) &&& oNonblock ≠ 0 := by
  have habsorb : (flags ||| oNonblock) &&& oNonblock = oNonblock := by
    refine UInt32.toBitVec_inj.mp (BitVec.eq_of_getLsbD_eq fun i _ => ?_)
    rw [UInt32.toBitVec_and, UInt32.toBitVec_or, BitVec.getLsbD_and, BitVec.getLsbD_or]
    cases flags.toBitVec.getLsbD i with
    | _ => simp
  rw [habsorb]
  decide

theorem drainEvents_empties (h : kernel.Queues view) (file : FeFile κ) (hfew : (view file.kernel).events ≤ feMaxEvent) :
    wp (drainEvents kernel)
      (fun _ file' => view file'.kernel = { view file.kernel with events := 0, overflow := false })
      (fun _ _ => False) file := by
  obtain ⟨hflags, hread⟩ := h.getFlags file.kernel
  have hread : view (called kernel file .getFlags).kernel = view file.kernel := hread
  rw [drainEvents, wp_bind, wp_fcntl, hflags]
  dsimp only
  generalize called kernel file .getFlags = asking at hread ⊢
  obtain ⟨⟨value, hset⟩, hnonblock⟩ := h.setFlags asking.kernel ((view file.kernel).flags ||| oNonblock) (by
    rw [hread, or_nonblock_twice])
  rw [wp_bind, wp_fcntl, hset]
  dsimp only
  have hswitched : view (called kernel asking (.setFlags ((view file.kernel).flags ||| oNonblock))).kernel =
      { view file.kernel with flags := (view file.kernel).flags ||| oNonblock } := hread ▸ hnonblock
  generalize called kernel asking _ = switched at hswitched ⊢
  have hreads : (view switched.kernel).events + (view switched.kernel).overflow.toNat ≤ feMaxEvent + 1 := by
    rw [hswitched]
    exact Nat.add_le_add hfew (Bool.toNat_le _)
  rw [wp_bind]
  refine wp_mono (wp_drainLoop h _ switched (by rw [hswitched]; exact or_nonblock _) hreads) (fun _ drained hdone => ?_)
    fun _ _ hf => hf
  obtain ⟨⟨_, hback⟩, hrestored⟩ := h.setFlags drained.kernel (view file.kernel).flags (by
    rw [hdone, hswitched, or_nonblock_twice])
  rw [wp_bind, wp_fcntl, hback]
  show view (called kernel drained (.setFlags (view file.kernel).flags)).kernel = _
  rw [show view (called kernel drained (.setFlags (view file.kernel).flags)).kernel = _ from hrestored, hdone, hswitched]

def plainKernel : FeKernel EventQueue
  | .getEvent, queue =>
      if queue.overflow then
        (.error eoverflow, { queue with overflow := false })
      else
        match queue.events with
        | 0 => (.error 11, queue)
        | events + 1 => (.ok 0, { queue with events })
  | .getFlags, queue => (.ok queue.flags, queue)
  | .setFlags flags, queue => (.ok 0, { queue with flags })
  | _, queue => (.ok 0, queue)

theorem plainKernel_queues : plainKernel.Queues id where
  overflowed s h := by
    simp only [plainKernel, id] at h ⊢
    rw [if_pos h]
    exact ⟨rfl, rfl⟩
  dequeued s n h hevents := by
    obtain ⟨events, overflow, flags⟩ := s
    obtain rfl : overflow = false := h
    obtain rfl : events = n + 1 := hevents
    exact ⟨⟨0, rfl⟩, rfl⟩
  empty s h hevents _ := by
    obtain ⟨events, overflow, flags⟩ := s
    obtain rfl : overflow = false := h
    obtain rfl : events = 0 := hevents
    exact ⟨⟨11, by decide, rfl⟩, rfl⟩
  getFlags s := ⟨rfl, rfl⟩
  setFlags s flags _ := ⟨⟨0, rfl⟩, rfl⟩

theorem drainEvents_empties_full : ∃ file',
    drainEvents plainKernel { kernel := { events := 8, overflow := true, flags := 2 } } = (.ok (), file') ∧
      file'.kernel = { events := 0, overflow := false, flags := 2 } := by
  have hwp := drainEvents_empties plainKernel_queues { kernel := { events := 8, overflow := true, flags := 2 } } (by decide)
  rcases wp_cases.mp hwp with ⟨_, hok, hempty⟩ | ⟨_, _, hf⟩
  · exact ⟨_, Prod.ext hok rfl, hempty⟩
  · exact hf.elim

end Queue

section Clear

variable {κ : Type} {kernel : FeKernel κ} {defaults : UInt32 → UInt32} {view : κ → Tuner}

theorem wp_drainLoop_tuner (h : kernel.Tunes defaults view) (t : Tuner) : ∀ (reads : Nat) (file : FeFile κ),
    view file.kernel = t →
    wp (drainLoop kernel reads) (fun _ file' => view file'.kernel = t) (fun _ file' => view file'.kernel = t) file := by
  intro reads
  induction reads with
  | zero => exact fun _ hview => hview
  | succ reads ih =>
      intro file hview
      have hread : view (called kernel file .getEvent).kernel = t := (h.getEvent file.kernel).trans hview
      rw [drainLoop, wp_bind, wp_attempt, wp_ioctl]
      cases (kernel .getEvent file.kernel).1 with
      | ok value => exact ih _ hread
      | error errno =>
          dsimp only
          split
          · exact ih _ hread
          · exact hread

theorem wp_drainEvents_tuner (h : kernel.Tunes defaults view) (file : FeFile κ) :
    wp (drainEvents kernel) (fun _ file' => view file'.kernel = view file.kernel)
      (fun _ file' => view file'.kernel = view file.kernel) file := by
  have hasked : view (called kernel file .getFlags).kernel = view file.kernel := h.getFlags file.kernel
  rw [drainEvents, wp_bind, wp_fcntl]
  cases (kernel .getFlags file.kernel).1 with
  | error errno => exact hasked
  | ok flags =>
      generalize called kernel file .getFlags = asking at hasked ⊢
      have hswitched : view (called kernel asking (.setFlags (flags ||| oNonblock))).kernel = view file.kernel :=
        (h.setFlags asking.kernel _).trans hasked
      dsimp only
      rw [wp_bind, wp_fcntl]
      cases (kernel (.setFlags (flags ||| oNonblock)) asking.kernel).1 with
      | error errno => exact hswitched
      | ok value =>
          dsimp only
          rw [wp_bind]
          refine wp_mono (wp_drainLoop_tuner h _ _ _ hswitched) (fun _ drained hdrained => ?_) fun _ _ hview => hview
          have hback : view (called kernel drained (.setFlags flags)).kernel = view file.kernel :=
            (h.setFlags drained.kernel _).trans hdrained
          rw [wp_bind, wp_fcntl]
          cases (kernel (.setFlags flags) drained.kernel).1 with
          | ok value => exact hback
          | error errno => exact hback

theorem wp_clear (h : kernel.Tunes defaults view) (api : ApiVersion) (file : FeFile κ) :
    wp (clear kernel api)
      (fun _ file' => (view file'.kernel).tuned = (view file.kernel).tuned ∧
        ∀ cmd, cmd ≠ dtvDeliverySystem → (view file'.kernel).cache cmd = defaults cmd)
      (fun e file' => (∃ errno, e = .nix errno) ∧ (view file'.kernel).tuned = (view file.kernel).tuned) file := by
  have hraw : ([DtvProperty.clear].filter (supported api)).map DtvProperty.toRaw = [⟨dtvClear, 0⟩] := rfl
  rw [clear, wp_bind, wp_attempt, setProperties, hraw, setPropertiesRaw, wp_ioctl]
  cases hanswer : (kernel (.setProperty [⟨dtvClear, 0⟩]) file.kernel).1 with
  | ok value =>
      obtain ⟨htuned, hcache⟩ := h.cleared file.kernel value hanswer
      dsimp only
      rw [wp_bind, wp_attempt]
      have hdone {file' : FeFile κ} (hview : view file'.kernel =
          view (called kernel file (.setProperty [⟨dtvClear, 0⟩])).kernel) :
          (view file'.kernel).tuned = (view file.kernel).tuned ∧
            ∀ cmd, cmd ≠ dtvDeliverySystem → (view file'.kernel).cache cmd = defaults cmd := by
        rw [hview]
        exact ⟨htuned, hcache⟩
      exact wp_mono (wp_drainEvents_tuner h _) (fun _ _ => hdone) fun _ _ => hdone
  | error errno =>
      have htuned := h.refused file.kernel [] _ errno (by rintro _ ⟨⟩) hanswer
      dsimp only
      rw [wp_bind, wp_attempt]
      have hdone {file' : FeFile κ} (hview : view file'.kernel =
          view (called kernel file (.setProperty [⟨dtvClear, 0⟩])).kernel) :
          (∃ number, Error.nix errno = .nix number) ∧ (view file'.kernel).tuned = (view file.kernel).tuned := by
        rw [hview]
        exact ⟨⟨errno, rfl⟩, htuned⟩
      exact wp_mono (wp_drainEvents_tuner h _) (fun _ _ => hdone) fun _ _ => hdone

theorem TuneRequest.read_deliverySystem {settings : UInt32 → Option UInt32} {request : TuneRequest}
    (h : TuneRequest.read settings = some request) : ∃ value, settings dtvDeliverySystem = some value := by
  obtain ⟨_, _, hrest⟩ := Option.bind_eq_some_iff.mp h
  obtain ⟨_, hsystem, _⟩ := Option.bind_eq_some_iff.mp hrest
  obtain ⟨value, hvalue, _⟩ := Option.bind_eq_some_iff.mp hsystem
  exact ⟨value, hvalue⟩

theorem clear_tune_settings (h : kernel.Tunes defaults view) (api : ApiVersion) (request : TuneRequest)
    (file : FeFile κ) :
    wp (do
        clear kernel api
        tune kernel api request)
      (fun _ file' => ∃ settings, TuneRequest.read settings = some (request.canonical api) ∧
        (view file'.kernel).tuned = (view file.kernel).tuned ++ [fun cmd => (settings cmd).getD (defaults cmd)])
      (fun e file' => (∃ errno, e = .nix errno) ∧ (view file'.kernel).tuned = (view file.kernel).tuned) file := by
  rw [wp_bind]
  refine wp_mono (wp_clear h api file) (fun _ cleared hcleared => ?_) fun e file' hfailed => hfailed
  obtain ⟨htuned, hcache⟩ := hcleared
  refine wp_mono (wp_tune h api request cleared) (fun _ file' hdone => ?_) fun e file' hfailed => ?_
  · have hread := TuneRequest.read_lowered api request
    refine ⟨_, hread, ?_⟩
    rw [hdone, htuned]
    refine congrArg (fun last => (view file.kernel).tuned ++ [last]) (funext fun cmd => ?_)
    by_cases hcmd : cmd = dtvDeliverySystem
    · obtain ⟨value, hvalue⟩ := TuneRequest.read_deliverySystem hread
      rw [override, hcmd, hvalue]
      rfl
    · rw [override, hcache cmd hcmd]
  · exact ⟨hfailed.1, hfailed.2.trans htuned⟩

theorem clear_tune_settings_scrambled : ∃ file' settings,
    (do
      clear (cachingKernel fun _ => 0) api5_11
      tune (cachingKernel fun _ => 0) api5_11 scrambledRequest : Act Error (FeFile Tuner) Unit) usedFrontend =
        (.ok (), file') ∧
      TuneRequest.read settings = some (scrambledRequest.canonical api5_11) ∧
        file'.kernel.tuned = [fun cmd => (settings cmd).getD 0] := by
  have hwp := clear_tune_settings (cachingKernel_tunes fun _ => 0) api5_11 scrambledRequest usedFrontend
  rcases wp_cases.mp hwp with ⟨_, hok, settings, hread, htuned⟩ | ⟨_, herr, _⟩
  · exact ⟨_, settings, Prod.ext hok rfl, hread, htuned⟩
  · cases herr

end Clear

end LibDvb
