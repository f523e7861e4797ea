import ReplyRules.Log.Entry

/-!
The event log: the newest entries up to a number, the newest one first.
-/

namespace ReplyRules

/-- A log that keeps at most `capacity` entries. -/
structure EventLog where
  entries : List LogEntry
  capacity : Nat
  deriving DecidableEq, Repr, Inhabited

namespace EventLog

/-- How many entries a log keeps if nothing else is said. -/
def defaultCapacity : Nat := 500

/-- The log without entries. -/
def withCapacity (capacity : Nat) : EventLog := ⟨[], capacity⟩

/-- The first `n` entries.  Where there are no more than that, nothing is copied. -/
def keep (n : Nat) (es : List LogEntry) : List LogEntry := if es.length ≤ n then es else es.take n

theorem keep_eq_take (n : Nat) (es : List LogEntry) : keep n es = es.take n := by
  unfold keep
  split
  · exact (List.take_of_length_le ‹_›).symm
  · rfl

/-- The log with a new entry; the oldest ones go where there are too many. -/
def append (log : EventLog) (e : LogEntry) : EventLog :=
  { log with entries := keep log.capacity (e :: log.entries) }

/-- The log with new entries, the oldest of them first. -/
def extend (log : EventLog) (es : List LogEntry) : EventLog := es.foldl append log

/-- The entries, newest first. -/
def toList (log : EventLog) : List LogEntry := log.entries

/-- The log without its entries. -/
def clear (log : EventLog) : EventLog := { log with entries := [] }

/-- The number of entries. -/
def size (log : EventLog) : Nat := log.entries.length

/-- Whether there are no entries. -/
def isEmpty (log : EventLog) : Bool := log.entries.isEmpty

end EventLog

end ReplyRules
