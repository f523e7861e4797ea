import ReplyRules.Log.EventLog
import Mathlib.Data.List.Basic
import Mathlib.Data.List.DropRight

/-!
What a log keeps.  The history of a log are all entries that have been put into it since it was empty, the
oldest first.  A log *keeps* its history when it has the newest entries of it, the newest first, and only
those that it has no room for are gone (`EventLog.Keeps`).  An empty log does, and goes on to do so with
every entry, whether entries come one by one or many at once (`EventLog.Keeps.append`,
`EventLog.Keeps.extend`).

A log may also be emptied again and again (`EventLog.Operation`).  Then its history are the entries of the
operations behind the last one that emptied it (`EventLog.sinceCleared`).

Main result: whatever has been done to a log, it lists the newest entries of its history, as many as it has
room for, and it is the same whether entries come in one batch or in two (`EventLog.toList_run`).
-/

namespace ReplyRules.EventLog

variable {log : EventLog} {history : List LogEntry}

/-- The log has the newest entries of the history, as many as it has room for. -/
def Keeps (log : EventLog) (history : List LogEntry) : Prop :=
  log.entries = history.reverse.take log.capacity

theorem keeps_withCapacity (capacity : Nat) : (withCapacity capacity).Keeps [] :=
  List.take_nil.symm

theorem keeps_clear (log : EventLog) : log.clear.Keeps [] :=
  List.take_nil.symm

/-- What has been left out before a new entry comes is left out after it as well. -/
theorem take_cons_take (n : Nat) (e : LogEntry) (es : List LogEntry) :
    (e :: es.take n).take n = (e :: es).take n := by
  cases n with
  | zero => rfl
  | succ n => rw [List.take_succ_cons, List.take_succ_cons, List.take_take, Nat.min_eq_left (Nat.le_succ n)]

/-- **One more entry.**  The newest entries are kept. -/
theorem Keeps.append (h : log.Keeps history) (e : LogEntry) : (log.append e).Keeps (history ++ [e]) := by
  show keep log.capacity (e :: log.entries) = (history ++ [e]).reverse.take log.capacity
  rw [keep_eq_take, h, take_cons_take, List.reverse_append]
  rfl

/-- **Many entries.**  They may be more than there is room for. -/
theorem Keeps.extend (h : log.Keeps history) (es : List LogEntry) :
    (log.extend es).Keeps (history ++ es) := by
  induction es generalizing log history with
  | nil =>
    rw [List.append_nil]
    exact h
  | cons e es ih =>
    -- the first entry goes over to the history, and the others come to a log that keeps that
    rw [← List.singleton_append, ← List.append_assoc]
    exact ih (h.append e)

theorem capacity_extend (log : EventLog) (es : List LogEntry) : (log.extend es).capacity = log.capacity := by
  induction es generalizing log with
  | nil => rfl
  | cons e es ih => exact ih (log.append e)

/-! ### Operations, one after the other -/

/-- What can be done to a log. -/
inductive Operation where
  | append (e : LogEntry)
  | extend (es : List LogEntry)
  | clear

namespace Operation

/-- The entries that come to the log, the oldest first. -/
def entries : Operation → List LogEntry
  | append e => [e]
  | extend es => es
  | clear => []

/-- Whether the log is emptied. -/
def clears : Operation → Bool
  | clear => true
  | _ => false

end Operation

/-- The log after an operation. -/
def apply (log : EventLog) : Operation → EventLog
  | .append e => log.append e
  | .extend es => log.extend es
  | .clear => log.clear

/-- The log after some operations. -/
def run (log : EventLog) (ops : List Operation) : EventLog := ops.foldl apply log

/-- The entries of the operations behind the last one that empties the log, the oldest first. -/
def sinceCleared (ops : List Operation) : List LogEntry :=
  (ops.rtakeWhile fun op => !op.clears).flatMap Operation.entries

/-- One more operation adds its entries to the history, or begins it anew. -/
theorem sinceCleared_concat (ops : List Operation) (op : Operation) :
    sinceCleared (ops ++ [op]) = if op.clears then [] else sinceCleared ops ++ op.entries := by
  rw [sinceCleared, List.rtakeWhile_concat]
  cases op.clears with
  | true => rfl
  | false => simp [sinceCleared]

theorem capacity_apply (log : EventLog) (op : Operation) : (log.apply op).capacity = log.capacity := by
  cases op with
  | append e => rfl
  | extend es => exact capacity_extend log es
  | clear => rfl

theorem capacity_run (log : EventLog) (ops : List Operation) : (log.run ops).capacity = log.capacity := by
  induction ops generalizing log with
  | nil => rfl
  | cons op ops ih => exact (ih (log.apply op)).trans (capacity_apply log op)

/-- **One operation.**  What the log keeps goes on as its history does. -/
theorem Keeps.apply (h : log.Keeps history) (op : Operation) :
    (log.apply op).Keeps (if op.clears then [] else history ++ op.entries) := by
  cases op with
  | append e => exact h.append e
  | extend es => exact h.extend es
  | clear => exact keeps_clear log

/-- **A run.**  A log that was empty keeps its history through all operations. -/
theorem keeps_run (capacity : Nat) (ops : List Operation) :
    ((withCapacity capacity).run ops).Keeps (sinceCleared ops) := by
  -- from the last operation back: the history is told by what came last
  induction ops using List.reverseRecOn with
  | nil => exact keeps_withCapacity capacity
  | append_singleton ops op ih =>
    rw [sinceCleared_concat, run, List.foldl_concat]
    exact ih.apply op

/-- **After any operations**, and so after each operation of a run, a log lists the entries that have come
since it was emptied last, the newest first, as many as it has room for; their number is the smaller one of
the two.  A batch, however long, leaves the same log as its two parts one after the other. -/
theorem toList_run (capacity : Nat) :
    (∀ ops : List Operation,
      ((withCapacity capacity).run ops).toList = (sinceCleared ops).reverse.take capacity ∧
      ((withCapacity capacity).run ops).size = min capacity (sinceCleared ops).length) ∧
    ∀ (log : EventLog) (a b : List LogEntry), log.extend (a ++ b) = (log.extend a).extend b := by
  constructor
  · intro ops
    have hlist : ((withCapacity capacity).run ops).toList = (sinceCleared ops).reverse.take capacity := by
      have hkeeps := keeps_run capacity ops
      rw [Keeps, capacity_run] at hkeeps
      exact hkeeps
    refine ⟨hlist, ?_⟩
    show ((withCapacity capacity).run ops).toList.length = _
    rw [hlist, List.length_take, List.length_reverse]
  · intro log a b
    exact List.foldl_append

/-- Room for two: a batch of three, emptied, then one entry and a batch of two. -/
example (a b c : LogEntry) :
    ((withCapacity 2).run [.extend [a, b, c], .clear, .append a, .extend [b, c]]).toList = [c, b] := rfl

end ReplyRules.EventLog
