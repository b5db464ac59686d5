import SqlCache.Config.Basic
import SqlCache.Reaper.Pass
import SqlCache.Time.Timer

/-!
The reaper loop on a virtual clock of milliseconds, over a store that records every purge. The first
pass comes after the initial delay and each further one an interval after the end of the one
before, whether that one succeeded or failed. The wall clock that passes read is another clock,
which stands still unless it is set.
-/

set_option autoImplicit false

namespace SqlCache.Reaper

/-- A recorded purge: when it was called, and the rows it removed unless it was refused. -/
structure PurgeRecord where
  time : Nat
  call : PurgeCall
  removed : Option Nat
  deriving DecidableEq, Repr

/-- A store that answers purges from a list of counts and records them, the latest first. -/
structure RecordingStore where
  expiredCounts : List Nat := []
  messageCounts : List Nat := []
  expiredRefusals : Nat := 0
  messageRefusals : Nat := 0
  record : List PurgeRecord := []

namespace RecordingStore

/-- Answer a purge at a time. A refused purge uses up no count; when the counts are used up, purges
remove nothing. -/
def handle (time : Nat) (call : PurgeCall) (s : RecordingStore) : call.Reply × RecordingStore :=
  match call with
  | .expired now =>
    match s.expiredRefusals with
    | n + 1 =>
      (.error (.store (.refused "expired")),
        { s with expiredRefusals := n, record := ⟨time, .expired now, none⟩ :: s.record })
    | 0 =>
      let n := s.expiredCounts.headD 0
      (.ok n, { s with
        expiredCounts := s.expiredCounts.tail
        record := ⟨time, .expired now, some n⟩ :: s.record })
  | .messages olderThan =>
    match s.messageRefusals with
    | n + 1 =>
      (.error (.store (.refused "messages")),
        { s with messageRefusals := n, record := ⟨time, .messages olderThan, none⟩ :: s.record })
    | 0 =>
      let n := s.messageCounts.headD 0
      (.ok n, { s with
        messageCounts := s.messageCounts.tail
        record := ⟨time, .messages olderThan, some n⟩ :: s.record })

end RecordingStore

/-- A running loop: when its next pass starts, and how it goes on. -/
structure Loop where
  due : Nat
  intervalMs : Nat
  retention : Duration
  deriving DecidableEq, Repr

namespace Loop

/-- A delay of as many seconds, in milliseconds. -/
def delayMs (seconds : Nat) : Nat := Timer.wait (seconds * 1000)

/-- The loop that starts at a time. -/
def start (settings : ReaperSettings) (time : Nat) : Loop where
  due := time + delayMs settings.initialDelaySecs
  intervalMs := delayMs (max settings.intervalSecs 1)
  retention := .ofSeconds settings.messageRetentionSecs

/-- One pass at a time, and the loop after it. A pass fails without ending the loop, unless its
cutoff lies outside all years. -/
def runPass {σ : Type} (handle : (call : PurgeCall) → σ → call.Reply × σ) (clock : Instant)
    (time : Nat) (l : Loop) (store : σ) : Option Loop × σ :=
  match (pass clock l.retention).run.run handle store with
  | (.error .cutoffOutOfRange, store) => (none, store)
  | (_, store) => (some { l with due := time + l.intervalMs }, store)

end Loop

/-- A reaper on a recording store. -/
structure Timeline where
  now : Nat := 0
  clock : Instant
  store : RecordingStore := {}
  loop : Option Loop := none

namespace Timeline

/-- Make all passes due at a time. Passes are at least a second apart, so `fuel` need not be more
than the time until then. -/
def runPasses (horizon : Nat) : (fuel : Nat) → Timeline → Timeline
  | 0, t => t
  | fuel + 1, t =>
    match t.loop with
    | none => t
    | some l =>
      if l.due ≤ horizon then
        let now := max t.now l.due
        let (loop, store) := l.runPass (RecordingStore.handle now) t.clock now t.store
        runPasses horizon fuel { t with now, loop, store }
      else t

/-- Let time pass. -/
def sleep (t : Timeline) (ms : Nat) : Timeline :=
  let horizon := t.now + Timer.wait ms
  { runPasses horizon (horizon + 1) t with now := horizon }

/-- Start a loop in place of the one that runs. -/
def spawn (t : Timeline) (settings : ReaperSettings) : Timeline :=
  { t with loop := some (Loop.start settings t.now) }.sleep 0

/-- Stop the loop. -/
def stop (t : Timeline) : Timeline := { t with loop := none }

/-- One pass outside of the loop. -/
def reapOnce (t : Timeline) (retention : Duration) : Except Failure Stats × Timeline :=
  let (r, store) :=
    (pass t.clock retention).run.run (RecordingStore.handle t.now) t.store
  (r, { t with store })

/-- The purges recorded since this was asked last, in order. -/
def takeRecord (t : Timeline) : List PurgeRecord × Timeline :=
  (t.store.record.reverse, { t with store := { t.store with record := [] } })

end Timeline

end SqlCache.Reaper
