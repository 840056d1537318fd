import LibDvb.Ca.Driver.Handle
import LibDvb.Ca.Driver.Run

namespace LibDvb

open Relation Act Outcome

def Command.op : Command → Option ControllerOp
  | setProgram program => some (.queueProgram program)
  | removeProgram programNumber => some (.removeProgram programNumber)
  | setCaPmtInterval interval => some (.setCaPmtInterval interval)
  | enterMenu slotId => some (.enterMenu slotId)
  | mmiMenuAnswer slotId sessionId choice => some (.mmiMenuAnswer slotId sessionId choice)
  | mmiAnswer slotId sessionId answer => some (.mmiAnswer slotId sessionId answer)
  | mmiClose slotId sessionId => some (.mmiClose slotId sessionId)
  | mmiListClose slotId sessionId => some (.mmiListClose slotId sessionId)
  | askRelease slotId => some (.askRelease slotId)
  | reset => some .reset
  | shutdown => none

def Wake.received : Wake → Option Command
  | command received => received
  | _ => none

def Wake.result : Wake → Option (Except Error Unit)
  | command none => some (.ok ())
  | command (some .shutdown) => some (.ok ())
  | readable (.error e) => some (.error e)
  | _ => none

def ControllerOp.commandName : ControllerOp → Option String
  | enterMenu _ => some "enter_menu"
  | mmiMenuAnswer _ _ _ => some "mmi_menu_answer"
  | mmiAnswer _ _ _ => some "mmi_answer"
  | mmiClose _ _ => some "mmi_close"
  | mmiListClose _ _ => some "mmi_list_close"
  | askRelease _ => some "ask_release"
  | reset => some "reset"
  | _ => none

def ControllerOp.own (internal : Bool) : ControllerOp → Bool
  | tick _ => true
  | pollEvent => true
  | reset => internal
  | _ => false

namespace DriverCall

def own (call : DriverCall) : Bool := call.label.op.own call.internal

def report (call : DriverCall) : Option (String × Error) :=
  match call.label.reply with
  | .ok _ => none
  | .error e => call.label.op.commandName.map fun name => (name, e)

end DriverCall

def CiDriverEvent.report : CiDriverEvent → Option (String × Error)
  | commandFailed command error => some (command, error)
  | _ => none

namespace CiDriver

def served (d : CiDriver) : List DriverCall := d.calls.filter fun call => !call.own

def reports (d : CiDriver) : List (String × Error) := d.events.filterMap CiDriverEvent.report

def Carries (ops : List ControllerOp) (d d' : CiDriver) : Prop :=
  ∃ calls, calls.map (fun call => call.label.op) = ops ∧ d'.served = d.served ++ calls ∧
    d'.reports = d.reports ++ calls.filterMap DriverCall.report

structure Obeys (ops : List ControllerOp) (d d' : CiDriver) : Prop where
  carries : Carries ops d d'
  returned : d'.returned = d.returned

variable {d d' d'' : CiDriver} {op : ControllerOp} {ops ops' : List ControllerOp} {internal : Bool}
  {reply : Except Error (Option CaEvent)} {c' : CiController} {event : CiDriverEvent}

section Obeys

theorem Obeys.refl (d : CiDriver) : Obeys [] d d :=
  ⟨⟨[], rfl, (List.append_nil _).symm, (List.append_nil _).symm⟩, rfl⟩

theorem Obeys.trans (h : Obeys ops d d') (h' : Obeys ops' d' d'') : Obeys (ops ++ ops') d d'' := by
  obtain ⟨calls, rfl, hserved, hreports⟩ := h.carries
  obtain ⟨calls', rfl, hserved', hreports'⟩ := h'.carries
  refine ⟨⟨calls ++ calls', List.map_append, ?_, ?_⟩, h'.returned.trans h.returned⟩
  · rw [hserved', hserved, List.append_assoc]
  · rw [hreports', hreports, List.append_assoc, List.filterMap_append]

theorem Obeys.still (calls : d'.calls = d.calls) (events : d'.events = d.events) (returned : d'.returned = d.returned) :
    Obeys [] d d' := by
  refine ⟨⟨[], rfl, ?_, ?_⟩, returned⟩
  · rw [CiDriver.served, calls, List.append_nil, CiDriver.served]
  · rw [CiDriver.reports, events, List.filterMap_nil, List.append_nil, CiDriver.reports]

theorem obeys_elapsed (d : CiDriver) : Obeys [] d d.elapsed := by
  unfold elapsed
  split
  · exact .refl d
  · exact .still rfl rfl rfl

theorem obeys_told (own : event.report = none) : Obeys [] d (d.told event) := by
  refine ⟨⟨[], rfl, (List.append_nil _).symm, ?_⟩, rfl⟩
  rw [reports, told, List.filterMap_append, List.filterMap_cons, own]
  rfl

theorem called_calls : ∃ call : DriverCall, call.internal = internal ∧ call.label.op = op ∧ call.label.reply = reply ∧
    (d.called internal op reply c').calls = d.calls ++ [call] := by
  refine ⟨_, ?_, ?_, ?_, rfl⟩
  · rfl
  · rfl
  · rfl

theorem called_own (own : op.own internal = true) : Obeys [] d (d.called internal op reply c') := by
  obtain ⟨call, rfl, rfl, rfl, hcalls⟩ := @called_calls d op internal reply c'
  refine ⟨⟨[], rfl, ?_, (List.append_nil _).symm⟩, rfl⟩
  rw [served, hcalls, List.filter_append, List.filter_cons_of_neg (by simpa [DriverCall.own] using own)]
  rfl

theorem served_called (own : op.own internal = false) : ∃ call : DriverCall, call.label.op = op ∧
    call.label.reply = reply ∧ (d.called internal op reply c').served = d.served ++ [call] := by
  obtain ⟨call, rfl, rfl, rfl, hcalls⟩ := @called_calls d op internal reply c'
  refine ⟨call, rfl, rfl, ?_⟩
  rw [served, hcalls, List.filter_append, List.filter_cons_of_pos (by simpa [DriverCall.own] using own)]
  rfl

theorem called_untold (own : op.own internal = false) (untold : reply.toOption.isSome ∨ op.commandName = none) :
    Obeys [op] d (d.called internal op reply c') := by
  obtain ⟨call, rfl, rfl, hserved⟩ := @served_called d op internal reply c' own
  refine ⟨⟨[call], rfl, hserved, ?_⟩, rfl⟩
  have hreport : call.report = none := by
    rw [DriverCall.report]
    split
    · rfl
    · next e hreply =>
        rcases untold with hok | hname
        · rw [hreply] at hok
          cases hok
        · rw [hname, Option.map_none]
  rw [List.filterMap_cons, hreport]
  exact (List.append_nil _).symm

theorem called_told {name : String} {e : Error} (own : op.own internal = false) (named : op.commandName = some name) :
    Obeys [op] d ((d.called internal op (.error e) c').told (.commandFailed name e)) := by
  obtain ⟨call, hop, hreply, hserved⟩ := @served_called d op internal (.error e) c' own
  refine ⟨⟨[call], congrArg (· :: []) hop, hserved, ?_⟩, rfl⟩
  have hreport : call.report = some (name, e) := by
    rw [DriverCall.report, hreply, hop, named]
    rfl
  rw [List.filterMap_cons, hreport, reports, told, List.filterMap_append]
  rfl

end Obeys

def Asks (ops : List ControllerOp) {α : Type} (m : Act Error CiDriver α) : Prop :=
  ∀ d, wlp m (fun _ => Obeys ops d) (fun _ _ => False) d

section Asks

variable {α β : Type} {m : Act Error CiDriver α} {f : α → Act Error CiDriver β}

theorem asks_pure (a : α) : Asks [] (pure a : Act Error CiDriver α) := fun d => wlp_pure.mpr (.refl d)

theorem asks_modify {f : CiDriver → CiDriver} (h : ∀ d, Obeys [] d (f d)) : Asks [] (modify f) :=
  fun d => wlp_modify.mpr (h d)

theorem asks_bind (hm : Asks ops m) (hf : ∀ a, Asks ops' (f a)) : Asks (ops ++ ops') (m >>= f) := by
  intro d
  rw [wlp_bind]
  refine wlp_mono (hm d) (fun a d₁ h₁ => ?_) fun _ _ h => h
  exact wlp_mono (hf a d₁) (fun _ _ h₂ => h₁.trans h₂) fun _ _ h => h

theorem asks_after (hm : Asks [] m) (hf : ∀ a, Asks ops (f a)) : Asks ops (m >>= f) := asks_bind hm hf

theorem asks_before (hm : Asks ops m) (hf : ∀ a, Asks [] (f a)) : Asks ops (m >>= f) := by
  have h := asks_bind hm hf
  rwa [List.append_nil] at h

theorem asks_get {f : CiDriver → Act Error CiDriver β} (hf : ∀ d, Asks ops (f d)) : Asks ops (get >>= f) := by
  intro d
  rw [wlp_bind, wlp_get]
  exact hf d d

theorem asks_instantNow : Asks [] instantNow := fun d => wlp_instantNow (obeys_elapsed d)

theorem asks_addDuration (now : Instant) (duration : Duration) : Asks [] (addDuration now duration) :=
  fun d => wlp_addDuration fun _ _ => .refl d

theorem asks_emit (own : event.report = none) : Asks [] (emit event) := asks_modify fun _ => obeys_told own

theorem asks_publishReady : Asks [] publishReady := asks_modify fun _ => .still rfl rfl rfl

theorem asks_call (own : op.own internal = true) : Asks [] (call internal op) :=
  fun d => wlp_call fun _ _ _ => (obeys_elapsed d).trans (called_own own)

theorem asks_drainLoop (fuel : Nat) : Asks [] (drainLoop fuel) := by
  induction fuel with
  | zero => exact asks_after asks_publishReady fun _ => asks_pure false
  | succ fuel ih =>
      apply asks_after (asks_call rfl)
      intro reply
      cases reply with
      | ok event =>
          cases event with
          | some event => exact asks_after (asks_emit rfl) fun _ => ih
          | none => exact asks_after asks_publishReady fun _ => asks_get fun _ => asks_pure _
      | error e => exact asks_after (asks_emit rfl) fun _ => ih

theorem asks_drainEvents : Asks [] drainEvents := asks_drainLoop drainBatch

theorem asks_tickNow : Asks [] tickNow := by
  apply asks_after asks_instantNow
  intro now
  apply asks_after (asks_call rfl)
  intro reply
  have hfault : Asks [] (emitFault reply) := by
    cases reply with
    | ok _ => exact asks_pure ()
    | error e => exact asks_emit rfl
  exact asks_after hfault fun _ => asks_after asks_drainEvents fun _ => asks_pure ()

theorem asks_retryReset : Asks [] retryReset := by
  apply asks_after (asks_call rfl)
  intro reply
  cases reply with
  | ok _ =>
      refine asks_after (asks_modify fun _ => .still rfl rfl rfl) fun _ => ?_
      exact asks_after (asks_emit rfl) fun _ => asks_tickNow
  | error e =>
      apply asks_after asks_instantNow
      refine fun now => asks_get fun d => asks_after (asks_addDuration now d.retryInterval) fun retryAt => ?_
      refine asks_after (asks_modify fun _ => .still rfl rfl rfl) fun _ => ?_
      exact asks_after (asks_emit rfl) fun _ => asks_publishReady

theorem asks_expire : Asks [] expire := by
  refine asks_get fun d => ?_
  dsimp only
  split
  · exact asks_retryReset
  · exact asks_tickNow

theorem asks_schedule : Asks [] schedule := by
  apply asks_after asks_instantNow
  refine fun now => asks_get fun d => asks_after (asks_addDuration now d.tickPeriod) fun nextTick => ?_
  exact asks_modify fun _ => .still rfl rfl rfl

theorem asks_prepare : Asks [] prepare := by
  refine asks_get fun d => ?_
  split
  · split
    · apply asks_after asks_instantNow
      refine fun now => asks_after (asks_addDuration now d.retryInterval) fun retryAt => ?_
      exact asks_modify fun _ => .still rfl rfl rfl
    · exact asks_pure ()
  · exact asks_modify fun _ => .still rfl rfl rfl

theorem asks_drainReadable : Asks [] drainReadable :=
  asks_after asks_drainEvents fun _ => asks_modify fun _ => .still rfl rfl rfl

theorem asks_untold (own : op.own false = false) (untold : op.commandName = none) :
    Asks [op] (do let _ ← call false op) :=
  asks_before (fun d => wlp_call fun _ _ _ => (obeys_elapsed d).trans (called_untold own (.inr untold))) fun _ => asks_pure ()

theorem asks_slotCommand {name : String} (own : op.own false = false) (named : op.commandName = some name) :
    Asks [op] (slotCommand name op) := by
  intro d
  rw [slotCommand, wlp_bind]
  refine wlp_call fun reply c' _ => ?_
  cases reply with
  | ok _ => exact wlp_pure.mpr ((obeys_elapsed d).trans (called_untold own (.inl rfl)))
  | error e => exact wlp_modify.mpr ((obeys_elapsed d).trans (called_told own named))

theorem asks_applyCommand (command : Command) : Asks command.op.toList (applyCommand command) := by
  cases command with
  | setProgram program => exact asks_untold rfl rfl
  | removeProgram programNumber => exact asks_untold rfl rfl
  | setCaPmtInterval interval => exact asks_untold rfl rfl
  | reset =>
      intro d
      rw [applyCommand, wlp_bind]
      refine wlp_call fun reply c' _ => ?_
      cases reply with
      | ok _ =>
          refine wlp_mono (asks_tickNow _) (fun _ d' h => ?_) fun _ _ h => h
          exact ((obeys_elapsed d).trans (called_untold rfl (.inl rfl))).trans h
      | error e => exact wlp_modify.mpr ((obeys_elapsed d).trans (called_told rfl rfl))
  | shutdown => exact asks_pure ()
  | _ => exact asks_slotCommand rfl rfl

end Asks

theorem apply_obeys {command : Command} (goes : command ≠ .shutdown) (d : CiDriver) :
    wlp (apply command) (fun goes d' => Obeys command.op.toList d d' ∧ goes = true) (fun _ _ => False) d := by
  have hgoes : wlp (do
      applyCommand command
      let _ ← drainEvents
      pure true) (fun goes d' => Obeys command.op.toList d d' ∧ goes = true) (fun _ _ => False) d := by
    rw [wlp_bind]
    refine wlp_mono (asks_applyCommand command d) (fun _ d₁ h₁ => ?_) fun _ _ h => h
    rw [wlp_bind]
    refine wlp_mono (asks_drainEvents d₁) (fun _ d₂ h₂ => wlp_pure.mpr ⟨?_, rfl⟩) fun _ _ h => h
    have hall := h₁.trans h₂
    rwa [List.append_nil] at hall
  cases command with
  | shutdown => exact absurd rfl goes
  | _ => exact hgoes

theorem result_command {command : Command} (goes : command ≠ .shutdown) : (Wake.command (some command)).result = none := by
  cases command with
  | shutdown => exact absurd rfl goes
  | _ => rfl

theorem serve_obeys (wake : Wake) (d : CiDriver) :
    wlp (serve wake) (fun goes d' => Obeys (wake.received.bind Command.op).toList d d' ∧
        wake.result = if goes = true then none else some (.ok ()))
      (fun e d' => d' = d ∧ wake.received = none ∧ wake.result = some (.error e)) d := by
  cases wake with
  | command command =>
      cases command with
      | none => exact wlp_pure.mpr ⟨.refl d, rfl⟩
      | some command =>
          by_cases hstops : command = .shutdown
          · subst hstops
            exact wlp_pure.mpr ⟨.refl d, rfl⟩
          · refine wlp_mono (apply_obeys hstops d) (fun goes d' h => ⟨h.1, ?_⟩) fun _ _ h => h.elim
            rw [if_pos h.2, result_command hstops]
  | timer =>
      rw [serve, wlp_bind]
      refine wlp_mono (asks_expire d) (fun _ d₁ h₁ => ?_) fun _ _ h => h.elim
      rw [wlp_bind]
      exact wlp_mono (asks_schedule d₁) (fun _ _ h₂ => wlp_pure.mpr ⟨h₁.trans h₂, rfl⟩) fun _ _ h => h.elim
  | readable guard =>
      cases guard with
      | ok _ =>
          rw [serve, wlp_bind]
          exact wlp_mono (asks_drainReadable d) (fun _ _ h => wlp_pure.mpr ⟨h, rfl⟩) fun _ _ h => h.elim
      | error e => exact wlp_fail.mpr ⟨rfl, rfl, rfl⟩

theorem turn_obeys (wake : Wake) (going : d.returned = none) :
    wlp (turn wake) (fun _ d' => Carries (wake.received.bind Command.op).toList d d' ∧ d'.returned = wake.result)
      (fun _ _ => False) d := by
  rw [turn, wlp_bind, wlp_attempt]
  refine wlp_mono (serve_obeys wake d) (fun goes d₁ h₁ => ?_) fun e d₁ h₁ => ?_
  · obtain ⟨hobeys, hresult⟩ := h₁
    cases goes with
    | true =>
        refine wlp_mono (asks_prepare d₁) (fun _ d₂ h₂ => ?_) fun _ _ h => h
        have hall := hobeys.trans h₂
        rw [List.append_nil] at hall
        exact ⟨hall.carries, (hall.returned.trans going).trans hresult.symm⟩
    | false => exact wlp_modify.mpr ⟨hobeys.carries, hresult.symm⟩
  · obtain ⟨rfl, hreceived, hresult⟩ := h₁
    refine wlp_modify.mpr ⟨?_, hresult.symm⟩
    rw [hreceived]
    exact (Obeys.refl d₁).carries

theorem enter_obeys (registered : Except Error Unit) (going : d.returned = none) :
    wlp (enter registered) (fun _ d' => Carries [] d d' ∧ d'.returned ≠ some (.ok ())) (fun _ _ => False) d := by
  cases registered with
  | ok _ =>
      have hasks : Asks [] (enter (.ok ())) :=
        asks_after asks_tickNow fun _ => asks_after asks_schedule fun _ => asks_prepare
      refine wlp_mono (hasks d) (fun _ d' h => ⟨h.carries, ?_⟩) fun _ _ h => h
      rw [h.returned, going]
      rintro ⟨⟩
  | error e => exact wlp_modify.mpr ⟨(Obeys.refl d).carries, by rintro ⟨⟩⟩

end CiDriver

section System

variable {lib : Mpegts} {before : List ControllerLabel} {labels : List SystemLabel} {label : SystemLabel} {s s' : CiSystem}
  {sent taken rest : List Command}

def SystemLabel.asked (lib : Mpegts) : SystemLabel → Option Command
  | ask call => call.command lib
  | _ => none

def commandsOf (lib : Mpegts) (labels : List SystemLabel) : List Command := labels.filterMap (SystemLabel.asked lib)

theorem commandsOf_snoc : commandsOf lib (labels ++ [label]) = commandsOf lib labels ++ (label.asked lib).toList := by
  rw [commandsOf, List.filterMap_append, commandsOf]
  cases h : label.asked lib with
  | none => rw [List.filterMap_cons, h]; rfl
  | some command => rw [List.filterMap_cons, h]; rfl

-- What became of the commands that were received, and of those behind them.
inductive CiSystem.Fate (s : CiSystem) (taken rest : List Command) : Prop
  | running (returned : s.driver.returned = none) (waits : rest = s.commands) (goes : .shutdown ∉ taken)
  | stopped (done : List Command) (returned : s.driver.returned = some (.ok ())) (last : taken = done ++ [.shutdown])
      (goes : .shutdown ∉ done)
  | released (returned : s.driver.returned = some (.ok ())) (nothing : rest = []) (handles : s.handles = 0)
      (goes : .shutdown ∉ taken)
  | failed (e : Error) (returned : s.driver.returned = some (.error e)) (goes : .shutdown ∉ taken)

structure CiSystem.Accounts (s : CiSystem) (sent taken rest : List Command) : Prop where
  sent : sent = taken ++ rest
  served : s.driver.served.map (fun call => call.label.op) = taken.filterMap Command.op
  reports : s.driver.reports = s.driver.served.filterMap DriverCall.report
  fate : s.Fate taken rest

namespace CiSystem

theorem Accounts.ask (h : s.Accounts sent taken rest) (call : HandleCall) (held : 0 < s.handles) :
    ∃ rest, (s.asked lib call).Accounts (sent ++ (call.command lib).toList) taken rest := by
  refine ⟨rest ++ (call.command lib).toList, ?_⟩
  have hsent : sent ++ (call.command lib).toList = taken ++ (rest ++ (call.command lib).toList) := by
    rw [h.sent, List.append_assoc]
  rw [CiSystem.asked]
  cases h.fate with
  | running returned waits goes =>
      rw [if_neg (by rw [returned]; exact Bool.false_ne_true)]
      exact ⟨hsent, h.served, h.reports, .running returned (congrArg (· ++ _) waits) goes⟩
  | stopped done returned last goes =>
      rw [returned]
      exact ⟨hsent, h.served, h.reports, .stopped done returned last goes⟩
  | released returned nothing handles goes =>
      rw [handles] at held
      cases held
  | failed e returned goes =>
      rw [returned]
      exact ⟨hsent, h.served, h.reports, .failed e returned goes⟩

theorem Accounts.held (h : s.Accounts sent taken rest) (held : 0 < s.handles) (handles : Nat) :
    Accounts { s with handles } sent taken rest := by
  refine ⟨h.sent, h.served, h.reports, ?_⟩
  cases h.fate with
  | running returned waits goes => exact .running returned waits goes
  | stopped done returned last goes => exact .stopped done returned last goes
  | released returned nothing handles goes =>
      rw [handles] at held
      cases held
  | failed e returned goes => exact .failed e returned goes

theorem Fate.going (h : s.Fate taken rest) (going : s.driver.returned = none) : rest = s.commands ∧ .shutdown ∉ taken := by
  cases h with
  | running _ waits goes => exact ⟨waits, goes⟩
  | stopped _ returned => exact absurd (going.symm.trans returned) (by simp)
  | released returned => exact absurd (going.symm.trans returned) (by simp)
  | failed _ returned => exact absurd (going.symm.trans returned) (by simp)

theorem Accounts.carried {d' : CiDriver} {received : Option Command} (h : s.Accounts sent taken rest)
    (carries : s.driver.Carries (received.bind Command.op).toList d') :
    d'.served.map (fun call => call.label.op) = (taken ++ received.toList).filterMap Command.op ∧
      d'.reports = d'.served.filterMap DriverCall.report := by
  obtain ⟨calls, hops, hserved, hreports⟩ := carries
  rw [hserved, hreports, List.map_append, h.served, hops, List.filterMap_append, List.filterMap_append, h.reports]
  refine ⟨congrArg _ ?_, rfl⟩
  cases received with
  | none => rfl
  | some command =>
      rw [Option.bind_some, Option.toList_some, List.filterMap_cons]
      cases command.op with
      | _ => rfl

theorem Accounts.turn {label : DriverLabel} {d' : CiDriver} {left : List Command} (h : s.Accounts sent taken rest)
    (receives : s.receive label.wake = some left) (step : DriverStep s.driver label d') :
    ∃ taken rest, Accounts { s with driver := d', commands := left } sent taken rest := by
  obtain ⟨hgoing, _, hturn⟩ := step
  have hobeys := (CiDriver.turn_obeys label.wake (d := s.driver.within label.around) hgoing).1 ()
  rw [hturn] at hobeys
  obtain ⟨hcarries, hreturned⟩ := hobeys rfl
  obtain ⟨hserved, hreports⟩ := h.carried hcarries
  obtain ⟨rfl, hgoes⟩ := h.fate.going hgoing
  cases hwake : label.wake with
  | command command =>
      rw [hwake] at receives hreturned hserved
      cases command with
      | none =>
          obtain ⟨⟨hempty, hreleased⟩, hleft⟩ := Option.ite_none_right_eq_some.mp receives
          obtain rfl : [] = left := Option.some.inj hleft
          refine ⟨taken, [], ⟨h.sent.trans (by rw [hempty]), ?_, hreports, ?_⟩⟩
          · exact hserved.trans (congrArg _ (List.append_nil _))
          · exact .released hreturned rfl hreleased hgoes
      | some command =>
          obtain ⟨hhead, hrest⟩ := Option.ite_none_right_eq_some.mp receives
          have hcommands : s.commands = command :: left := by
            rw [← Option.some.inj hrest]
            exact List.eq_cons_of_mem_head? hhead
          refine ⟨taken ++ [command], left, ⟨?_, hserved, hreports, ?_⟩⟩
          · rw [h.sent, hcommands, List.append_assoc]
            rfl
          · by_cases hstops : command = .shutdown
            · subst hstops
              exact .stopped taken hreturned rfl hgoes
            · refine .running (hreturned.trans (CiDriver.result_command hstops)) rfl fun hmem => ?_
              rcases List.mem_append.mp hmem with hmem | hmem
              · exact hgoes hmem
              · exact hstops (List.mem_singleton.mp hmem).symm
  | timer =>
      rw [hwake] at receives hreturned hserved
      refine ⟨taken, left, ⟨h.sent.trans (congrArg _ (Option.some.inj receives)), ?_, hreports, ?_⟩⟩
      · exact hserved.trans (congrArg _ (List.append_nil _))
      · exact .running hreturned rfl hgoes
  | readable guard =>
      rw [hwake] at receives hreturned hserved
      refine ⟨taken, left, ⟨h.sent.trans (congrArg _ (Option.some.inj receives)), ?_, hreports, ?_⟩⟩
      · exact hserved.trans (congrArg _ (List.append_nil _))
      · cases guard with
        | ok _ => exact .running hreturned rfl hgoes
        | error e => exact .failed e hreturned hgoes

end CiSystem

theorem SystemStarts.accounts (h : SystemStarts before s) : s.Accounts [] [] [] := by
  obtain ⟨hempty, _, first, c, clock, around, registered, _, henter⟩ := h
  have hobeys := (CiDriver.enter_obeys registered (d := (CiDriver.new c clock).within around) rfl).1 ()
  rw [henter] at hobeys
  obtain ⟨⟨calls, hops, hserved, hreports⟩, hreturned⟩ := hobeys rfl
  obtain rfl : calls = [] := List.map_eq_nil_iff.mp hops
  refine ⟨rfl, ?_, ?_, ?_⟩
  · rw [hserved]
    rfl
  · rw [hserved, hreports]
    rfl
  · cases hresult : s.driver.returned with
    | none => exact .running hresult hempty.symm (by simp)
    | some result =>
        cases result with
        | ok _ => exact absurd hresult hreturned
        | error e => exact .failed e hresult (by simp)

theorem SystemRun.accounts (h : SystemRun lib before labels s) :
    ∃ taken rest, s.Accounts (commandsOf lib labels) taken rest := by
  obtain ⟨start, hstarts, hrun⟩ := h
  refine hrun.history (I := fun labels s => ∃ taken rest, s.Accounts (commandsOf lib labels) taken rest)
    ⟨[], [], hstarts.accounts⟩ fun labels s label s' ih hstep => ?_
  obtain ⟨taken, rest, haccounts⟩ := ih
  rw [commandsOf_snoc]
  cases hstep with
  | asked call held =>
      obtain ⟨rest', hasked⟩ := haccounts.ask call held
      exact ⟨taken, rest', hasked⟩
  | cloned held =>
      rw [show (SystemLabel.clone.asked lib).toList = [] from rfl, List.append_nil]
      exact ⟨taken, rest, haccounts.held held _⟩
  | released held =>
      rw [show (SystemLabel.release.asked lib).toList = [] from rfl, List.append_nil]
      exact ⟨taken, rest, haccounts.held held _⟩
  | @turned label d' left receives step =>
      rw [show ((SystemLabel.turn label).asked lib).toList = [] from rfl, List.append_nil]
      exact haccounts.turn receives step

theorem driver_obeys (h : SystemRun lib before labels s) :
    ∃ taken rest, s.Accounts (commandsOf lib labels) taken rest := h.accounts

theorem CiDriver.next_label {d d' : CiDriver} {label label' : DriverLabel} (h : d.next label = some (label', d')) :
    label' = label := by
  rw [CiDriver.next] at h
  split at h
  · split at h
    · cases h
      rfl
    · cases h
  · cases h

def CiSystem.next (lib : Mpegts) (s : CiSystem) : SystemLabel → Option (SystemLabel × CiSystem)
  | .ask call => if 0 < s.handles then some (.ask call, s.asked lib call) else none
  | .clone => if 0 < s.handles then some (.clone, { s with handles := s.handles + 1 }) else none
  | .release => if 0 < s.handles then some (.release, { s with handles := s.handles - 1 }) else none
  | .turn label => do
      let rest ← s.receive label.wake
      let turned ← s.driver.next label
      some (.turn label, { s with driver := turned.2, commands := rest })

theorem CiSystem.next_step {label' : SystemLabel} (h : s.next lib label = some (label', s')) :
    SystemStep lib s label' s' := by
  cases label with
  | ask call =>
      obtain ⟨held, heq⟩ := Option.ite_none_right_eq_some.mp h
      cases heq
      exact .asked call held
  | clone =>
      obtain ⟨held, heq⟩ := Option.ite_none_right_eq_some.mp h
      cases heq
      exact .cloned held
  | release =>
      obtain ⟨held, heq⟩ := Option.ite_none_right_eq_some.mp h
      cases heq
      exact .released held
  | turn label =>
      obtain ⟨rest, hrest, hturned⟩ := Option.bind_eq_some_iff.mp h
      obtain ⟨⟨label', d'⟩, hnext, heq⟩ := Option.bind_eq_some_iff.mp hturned
      cases heq
      obtain rfl := CiDriver.next_label hnext
      exact .turned hrest (CiDriver.next_step hnext)

theorem ready_starts : SystemStarts [] { driver := supervising } :=
  ⟨rfl, rfl, oneSlot, oneSlot, 0, { link := moduleReady }, .ok (), ⟨oneSlot_starts, .nil⟩, rfl⟩

theorem ready_run {labels : List SystemLabel} (h : (trail (CiSystem.next lib) { driver := supervising } labels).isSome) :
    SystemRun lib [] ((trail (CiSystem.next lib) { driver := supervising } labels).get h).1
      ((trail (CiSystem.next lib) { driver := supervising } labels).get h).2 :=
  ⟨_, ready_starts, trail_run (SystemStep lib) (fun _ _ _ _ => CiSystem.next_step) (Option.some_get h).symm⟩

-- What one handle asks is refused; of what the others ask, the last is behind a shutdown.
def handlesShutDown : List SystemLabel :=
  [.ask (.enterMenu 0), .ask (.removeProgram 0), .clone, .turn ⟨{}, .command (some (.enterMenu 0))⟩,
    .ask (.removeProgram 7), .ask .shutdown, .release, .ask .reset, .turn ⟨{}, .command (some (.removeProgram 7))⟩,
    .turn ⟨{}, .command (some .shutdown)⟩]

end System

def noSection : Mpegts where
  pmtSection _ := .error "no section"
  caDescriptorTag := 0x09
  caSystemId _ := .error "no descriptor"

theorem handlesShutDown_isSome : (trail (CiSystem.next noSection) { driver := supervising } handlesShutDown).isSome := by
  decide +kernel

def afterShutDown : List SystemLabel × CiSystem :=
  (trail (CiSystem.next noSection) { driver := supervising } handlesShutDown).get handlesShutDown_isSome

theorem driver_obeys_shutdown :
    (∃ taken rest, afterShutDown.2.Accounts (commandsOf noSection afterShutDown.1) taken rest) ∧
      (commandsOf noSection afterShutDown.1).length = 4 ∧ afterShutDown.2.driver.served.length = 2 ∧
      afterShutDown.2.driver.reports.length = 1 ∧ afterShutDown.2.commands = [.reset] :=
  ⟨driver_obeys (ready_run handlesShutDown_isSome), by decide +kernel, by decide +kernel, by decide +kernel,
    by decide +kernel⟩

end LibDvb
