import LibDvb.Ca.Capmt
import LibDvb.Time

namespace LibDvb

inductive CaPmtChange where
  | set (program : Program)
  | remove (programNumber : UInt16)
  deriving DecidableEq, Repr

def CaPmtChange.programNumber : CaPmtChange → UInt16
  | set program => program.programNumber
  | remove programNumber => programNumber

inductive Gate where
  | notReady
  | armed (stamp : Instant)
  | ready (stamp : Instant)
  deriving DecidableEq, Repr

structure CaPmtPacer where
  interval : Duration
  settle : Duration
  gate : Gate := .notReady
  queue : List CaPmtChange := []
  deriving DecidableEq, Repr

namespace CaPmtPacer

def setInterval (pacer : CaPmtPacer) (interval : Duration) : CaPmtPacer :=
  { pacer with interval }

def ready (pacer : CaPmtPacer) : Bool :=
  match pacer.gate with
  | .ready _ => true
  | _ => false

def queuedSet (programNumber : UInt16) : CaPmtChange → Bool
  | .set queued => queued.programNumber = programNumber
  | .remove _ => false

def pushSet (pacer : CaPmtPacer) (program : Program) : CaPmtPacer :=
  { pacer with
    queue := pacer.queue.filter (fun change => !queuedSet program.programNumber change) ++
      [.set program] }

def pushRemove (pacer : CaPmtPacer) (programNumber : UInt16) : CaPmtPacer :=
  { pacer with
    queue := pacer.queue.filter (fun change => change.programNumber ≠ programNumber) ++
      [.remove programNumber] }

def armApplicationInfo (pacer : CaPmtPacer) (now : Instant) : CaPmtPacer :=
  { pacer with gate := .armed ((now.checkedAdd pacer.settle).getD now) }

def armCaInfo (pacer : CaPmtPacer) (now : Instant) : CaPmtPacer :=
  { pacer with gate := .armed now }

def resetGate (pacer : CaPmtPacer) : CaPmtPacer :=
  { pacer with gate := .notReady }

def gated (pacer : CaPmtPacer) (stamp now : Instant) : Bool :=
  match stamp.checkedAdd pacer.interval with
  | none => true
  | some deadline => now ≤ deadline

def poll (pacer : CaPmtPacer) (now : Instant) : Option CaPmtChange × CaPmtPacer :=
  match pacer.gate with
  | .notReady => (none, pacer)
  | .armed stamp =>
      if pacer.gated stamp now then (none, pacer) else (none, { pacer with gate := .ready now })
  | .ready stamp =>
      if pacer.gated stamp now then
        (none, pacer)
      else
        (pacer.queue.head?, { pacer with gate := .ready now, queue := pacer.queue.tail })

end CaPmtPacer

end LibDvb
