import LibDvb.Basis.Schedule
import LibDvb.Fe.Device

namespace LibDvb

open Act FeFile

namespace SecCommand

def beat : SecCommand → Beat FeCall
  | setTone value => .act (.setTone (SecTone.coded.asU32 value))
  | setVoltage value => .act (.setVoltage (SecVoltage.coded.asU32 value))
  | sendBurst value => .act (.diseqcSendBurst (SecMiniCmd.coded.asU32 value))
  | sendMasterCommand msg => .act (.diseqcSendMasterCmd (masterCmd msg))
  | wait duration => .wait duration

def Sendable : SecCommand → Prop
  | sendMasterCommand msg => 3 ≤ msg.length ∧ msg.length ≤ 6
  | _ => True

end SecCommand

namespace FeEntry

def stamp (self : FeEntry) : Nat × FeCall := (self.time, self.call)

def Accepted (self : FeEntry) : Prop := ∃ value, self.answer = .ok value

end FeEntry

-- The calls of a sequence begun at `now`, if nothing takes longer than it has to.
def secPlan (now : Instant) (sequence : List SecCommand) : List (Nat × FeCall) :=
  schedule now (sequence.map SecCommand.beat)

-- The calls were those of the sequence, in its order, and none of its waits was cut short; the first
-- of them came at least `lag` late.
def SecPaced (lag : Duration) (now : Instant) (sequence : List SecCommand) (log : List FeEntry) : Prop :=
  ∃ delay, Drift lag (secPlan now sequence) (log.map FeEntry.stamp) delay

section Command

variable {κ : Type} {kernel : FeKernel κ} {command : SecCommand} {file file' : FeFile κ}

inductive SecCommand.Done (command : SecCommand) (file file' : FeFile κ) : Prop
  | called (call : FeCall) (entry : FeEntry) (asks : command.beat = .act call)
      (stamp : entry.stamp = (file.now, call)) (accepted : entry.Accepted)
      (calls : file'.calls = file.calls ++ [entry]) (later : file.now ≤ file'.now)
  | waited (duration : Duration) (asks : command.beat = .wait duration) (calls : file'.calls = file.calls)
      (later : file.now + duration ≤ file'.now)

inductive SecCommand.Failed (command : SecCommand) (file file' : FeFile κ) : Error → Prop
  | refused (unsendable : ¬ command.Sendable) (context : String) (calls : file'.calls = file.calls) :
      Failed command file file' (.invalidData context)
  | rejected (call : FeCall) (entry : FeEntry) (errno : Nat) (asks : command.beat = .act call)
      (stamp : entry.stamp = (file.now, call)) (answer : entry.answer = .error errno)
      (calls : file'.calls = file.calls ++ [entry]) : Failed command file file' (.nix errno)

theorem ioctl_asks {call : FeCall} (asks : command.beat = .act call) :
    wp (ioctl kernel call) (fun _ => command.Done file) (fun e file' => command.Failed file file' e) file := by
  rw [wp_ioctl]
  cases hanswer : (kernel call file.kernel).1 with
  | ok value =>
      exact .called call { time := file.now, call, answer := (kernel call file.kernel).1 } asks rfl ⟨value, hanswer⟩ rfl
        (Nat.le_add_right _ _)
  | error errno =>
      exact .rejected call { time := file.now, call, answer := (kernel call file.kernel).1 } errno asks rfl hanswer rfl

theorem runSecCommand_spec (kernel : FeKernel κ) (command : SecCommand) (file : FeFile κ) :
    wp (runSecCommand kernel command) (fun _ => command.Done file) (fun e file' => command.Failed file file' e) file := by
  cases command with
  | setTone value => exact ioctl_asks rfl
  | setVoltage value => exact ioctl_asks rfl
  | sendBurst value => exact ioctl_asks rfl
  | sendMasterCommand msg =>
      rw [runSecCommand, diseqcMasterCmd]
      split
      · next hlength => exact .refused (show ¬ (SecCommand.sendMasterCommand msg).Sendable from hlength) _ rfl
      · exact ioctl_asks rfl
  | wait duration => exact .waited duration rfl rfl (Nat.le_add_right _ _)

end Command

section Sequence

inductive SecStopped (lag : Duration) (now : Instant) (sequence : List SecCommand) (log : List FeEntry) : Error → Prop
  | refused (done : List SecCommand) (command : SecCommand) (rest : List SecCommand)
      (split : sequence = done ++ command :: rest) (unsendable : ¬ command.Sendable) (context : String)
      (accepted : ∀ entry ∈ log, entry.Accepted) (paced : SecPaced lag now done log) :
      SecStopped lag now sequence log (.invalidData context)
  | rejected (done : List SecCommand) (command : SecCommand) (rest : List SecCommand)
      (split : sequence = done ++ command :: rest) (before : List FeEntry) (last : FeEntry)
      (logged : log = before ++ [last]) (accepted : ∀ entry ∈ before, entry.Accepted) (errno : Nat)
      (answer : last.answer = .error errno) (paced : SecPaced lag now (done ++ [command]) log) :
      SecStopped lag now sequence log (.nix errno)

variable {κ : Type} {kernel : FeKernel κ} {command : SecCommand} {sequence : List SecCommand} {file file' : FeFile κ}
  {t : Instant} {lag : Duration}

theorem paced_nil : SecPaced lag t [] [] := ⟨lag, .nil (Nat.le_refl _)⟩

theorem paced_call {call : FeCall} {entry : FeEntry} {rest : List SecCommand} {log : List FeEntry}
    (asks : command.beat = .act call) (stamp : entry.stamp = (t + lag, call)) (h : SecPaced lag t rest log) :
    SecPaced lag t (command :: rest) (entry :: log) := by
  obtain ⟨delay, hdrift⟩ := h
  refine ⟨delay, ?_⟩
  rw [secPlan, List.map_cons, asks, schedule, List.map_cons, stamp]
  exact .cons (Nat.le_refl _) hdrift

theorem SecCommand.Done.paced (h : command.Done file file') (start : file.now = t + lag) :
    ∃ t' lag' entries, file'.now = t' + lag' ∧ file'.calls = file.calls ++ entries ∧
      (∀ entry ∈ entries, entry.Accepted) ∧
      ∀ rest log, SecPaced lag' t' rest log → SecPaced lag t (command :: rest) (entries ++ log) := by
  cases h with
  | called call entry asks stamp accepted calls later =>
      obtain ⟨more, hmore⟩ := Nat.exists_eq_add_of_le later
      refine ⟨t, lag + more, [entry], by rw [hmore, start, Nat.add_assoc], calls, ?_, fun rest log hrest => ?_⟩
      · exact fun other hmem => List.mem_singleton.mp hmem ▸ accepted
      · obtain ⟨delay, hdrift⟩ := hrest
        exact paced_call asks (start ▸ stamp) ⟨delay, hdrift.weaken (Nat.le_add_right _ _)⟩
  | waited duration asks calls later =>
      obtain ⟨more, hmore⟩ := Nat.exists_eq_add_of_le later
      refine ⟨t + duration, lag + more, [], ?_, by rw [calls, List.append_nil], by simp, fun rest log hrest => ?_⟩
      · rw [hmore, start, Nat.add_right_comm t lag, Nat.add_assoc]
      obtain ⟨delay, hdrift⟩ := hrest
      refine ⟨delay, ?_⟩
      rw [secPlan, List.map_cons, asks, schedule]
      exact hdrift.weaken (Nat.le_add_right _ _)

theorem SecCommand.Failed.stopped {e : Error} {rest : List SecCommand} (h : command.Failed file file' e)
    (start : file.now = t + lag) :
    ∃ entries, file'.calls = file.calls ++ entries ∧ SecStopped lag t (command :: rest) entries e := by
  cases h with
  | refused unsendable context calls =>
      refine ⟨[], by rw [calls, List.append_nil], ?_⟩
      exact .refused [] command rest rfl unsendable context (by simp) paced_nil
  | rejected call entry errno asks stamp answer calls =>
      refine ⟨[entry], calls, ?_⟩
      exact .rejected [] command rest rfl [] entry rfl (by simp) errno answer (paced_call asks (start ▸ stamp) paced_nil)

theorem SecStopped.cons {e : Error} {rest : List SecCommand} {entries log : List FeEntry} {t' : Instant} {lag' : Duration}
    (h : SecStopped lag' t' rest log e) (haccepted : ∀ entry ∈ entries, entry.Accepted)
    (hpaced : ∀ rest log, SecPaced lag' t' rest log → SecPaced lag t (command :: rest) (entries ++ log)) :
    SecStopped lag t (command :: rest) (entries ++ log) e := by
  have hall {more : List FeEntry} (hmore : ∀ entry ∈ more, entry.Accepted) :
      ∀ entry ∈ entries ++ more, entry.Accepted := fun entry hmem =>
    (List.mem_append.mp hmem).elim (haccepted entry) (hmore entry)
  cases h with
  | refused done failing after split unsendable context accepted paced =>
      refine .refused (command :: done) failing after ?_ unsendable context (hall accepted) (hpaced _ _ paced)
      rw [split, List.cons_append]
  | rejected done failing after split before last logged accepted errno answer paced =>
      refine .rejected (command :: done) failing after ?_ (entries ++ before) last ?_ (hall accepted) errno answer
        (hpaced _ _ paced)
      · rw [split, List.cons_append]
      · rw [logged, List.append_assoc]

theorem wp_runSecSequence (sequence : List SecCommand) : ∀ {file : FeFile κ} {t lag}, file.now = t + lag →
    wp (runSecSequence kernel sequence)
      (fun _ file' => ∃ log, file'.calls = file.calls ++ log ∧ (∀ entry ∈ log, entry.Accepted) ∧ SecPaced lag t sequence log)
      (fun e file' => ∃ log, file'.calls = file.calls ++ log ∧ SecStopped lag t sequence log e) file := by
  induction sequence with
  | nil => exact fun _ => ⟨[], (List.append_nil _).symm, by simp, paced_nil⟩
  | cons command rest ih =>
      intro file t lag start
      rw [runSecSequence, forEach, wp_bind]
      refine wp_mono (runSecCommand_spec kernel command file) (fun _ file₁ hdone => ?_) fun e file' hfailed => ?_
      · obtain ⟨t', lag', entries, start', hcalls, haccepted, hpaced⟩ := hdone.paced start
        refine wp_mono (ih start') (fun _ file' h => ?_) fun e file' h => ?_
        · obtain ⟨log, hlog, hall, hrest⟩ := h
          refine ⟨entries ++ log, by rw [hlog, hcalls, List.append_assoc], fun entry hmem => ?_, hpaced _ _ hrest⟩
          exact (List.mem_append.mp hmem).elim (haccepted entry) (hall entry)
        · obtain ⟨log, hlog, hstopped⟩ := h
          exact ⟨entries ++ log, by rw [hlog, hcalls, List.append_assoc], hstopped.cons haccepted hpaced⟩
      · exact hfailed.stopped start

theorem runSecSequence_paced (kernel : FeKernel κ) (sequence : List SecCommand) (file : FeFile κ) :
    wp (runSecSequence kernel sequence)
      (fun _ file' => ∃ log, file'.calls = file.calls ++ log ∧ (∀ entry ∈ log, entry.Accepted) ∧
        SecPaced 0 file.now sequence log)
      (fun e file' => ∃ log, file'.calls = file.calls ++ log ∧ SecStopped 0 file.now sequence log e) file :=
  wp_runSecSequence sequence rfl

end Sequence

end LibDvb
