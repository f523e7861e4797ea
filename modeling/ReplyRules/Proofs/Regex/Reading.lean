import ReplyRules.Regex.Basic
import Mathlib.Data.List.Basic

/-!
Reading patterns that are put together from quoted characters.  A character that means something is read
as itself behind a backslash (`step_escaped`), any other one as it is (`step_plain`); beside them there
are steps for a dot, a star behind it and the two anchors.

A part of a pattern *stands for* an expression when, under switches that it leaves as they are, it means
that expression and does not nest (`Pattern.StandsFor`).  Parts that stand for expressions make up a
sequence of these expressions (`meaningOfAll_of_standsFor`).
-/

namespace ReplyRules.Regex

variable {cs : List Char} {pos : Position} {q : OpenConcat} {stack : List GroupFrame}
  {names : List (String × Span)}

/-! ### Single steps -/

/-- A character without a meaning is read as itself. -/
theorem step_plain {c : Char} (hc : isMeta c = false) :
    ReaderState.step ⟨⟨c :: cs, pos, false⟩, q, stack, names⟩ =
      .ok ⟨⟨cs, pos.after c, false⟩, q.push (.literal ⟨⟨pos, pos.after c⟩, c, false⟩), stack,
        names⟩ := by
  have hne : ∀ d, isMeta d = true → c ≠ d := by
    rintro d hd rfl
    simp [hc] at hd
  have atom : readAtom ⟨c :: cs, pos, false⟩ =
      .ok (.literal ⟨⟨pos, pos.after c⟩, c, false⟩, ⟨cs, pos.after c, false⟩) := by
    simp only [readAtom]
    split
    case h_1 h => cases h
    case h_2 h => exact absurd (List.cons.inj h).1 (hne _ (by decide))
    case h_3 h => exact absurd (List.cons.inj h).1 (hne _ (by decide))
    case h_4 h => exact absurd (List.cons.inj h).1 (hne _ (by decide))
    case h_5 h => exact absurd (List.cons.inj h).1 (hne _ (by decide))
    case h_6 h =>
      obtain ⟨rfl, -⟩ := List.cons.inj h
      rfl
  simp only [ReaderState.step]
  split
  case h_9 => rw [atom]; rfl
  all_goals
    rename_i h
    exact absurd (List.cons.inj h).1 (hne _ (by decide))

/-- A character with a meaning is read as itself behind a backslash. -/
theorem step_escaped {c : Char} (hc : isMeta c = true) :
    ReaderState.step ⟨⟨'\\' :: c :: cs, pos, false⟩, q, stack, names⟩ =
      .ok ⟨⟨cs, (pos.after '\\').after c, false⟩,
        q.push (.literal ⟨⟨pos, (pos.after '\\').after c⟩, c, false⟩), stack, names⟩ := by
  have hmem := List.contains_iff_mem.mp hc
  simp only [List.mem_cons, List.not_mem_nil, or_false] at hmem
  rcases hmem with rfl | rfl | rfl | rfl | rfl | rfl | rfl | rfl | rfl | rfl | rfl | rfl | rfl | rfl |
    rfl | rfl | rfl | rfl <;> rfl

theorem step_dot :
    ReaderState.step ⟨⟨'.' :: cs, pos, false⟩, q, stack, names⟩ =
      .ok ⟨⟨cs, pos.after '.', false⟩, q.push (.dot ⟨pos, pos.after '.'⟩), stack, names⟩ :=
  rfl

theorem step_lineStart :
    ReaderState.step ⟨⟨'^' :: cs, pos, false⟩, q, stack, names⟩ =
      .ok ⟨⟨cs, pos.after '^', false⟩, q.push (.assertion ⟨pos, pos.after '^'⟩ .lineStart), stack,
        names⟩ :=
  rfl

theorem step_lineEnd :
    ReaderState.step ⟨⟨'$' :: cs, pos, false⟩, q, stack, names⟩ =
      .ok ⟨⟨cs, pos.after '$', false⟩, q.push (.assertion ⟨pos, pos.after '$'⟩ .lineEnd), stack,
        names⟩ :=
  rfl

/-- A star repeats the dot before it.  A question mark behind the star would belong to it. -/
theorem step_star {span : Span} (hq : cs.head? ≠ some '?') :
    ReaderState.step ⟨⟨'*' :: cs, pos, false⟩, q.push (.dot span), stack, names⟩ =
      .ok ⟨⟨cs, pos.after '*', false⟩,
        q.push (.repetition ⟨span.first, pos.after '*'⟩ 0 none (.dot span)), stack, names⟩ := by
  have hsees : Cursor.sees ⟨cs, pos.after '*', false⟩ '?' = false := beq_eq_false_iff_ne.mpr hq
  show ReaderState.repeatSign _ 0 none = _
  simp only [ReaderState.repeatSign, OpenConcat.popOperand, OpenConcat.push, Cursor.next]
  show (Except.ok _ : Except SyntaxError ReaderState) = _
  simp only [hsees]
  rfl

/-- The switch that lets a dot stand for a line feed too. -/
theorem step_dotAll :
    ReaderState.step ⟨⟨'(' :: '?' :: 's' :: ')' :: cs, pos, false⟩, q, stack, names⟩ =
      .ok ⟨⟨cs, (((pos.after '(').after '?').after 's').after ')', false⟩,
        q.push (.flags ⟨pos, (((pos.after '(').after '?').after 's').after ')'⟩
          [.flag .dotMatchesNewLine]), stack, names⟩ :=
  rfl

/-- Where no blank space is passed over, a step is made at the next character. -/
theorem run_step {n : Nat} {c : Char} {st : ReaderState}
    (h : ReaderState.step ⟨⟨c :: cs, pos, false⟩, q, stack, names⟩ = .ok st) :
    ReaderState.run (n + 1) ⟨⟨c :: cs, pos, false⟩, q, stack, names⟩ = ReaderState.run n st := by
  simp only [ReaderState.run, Cursor.skipSpace, Cursor.atEnd, List.isEmpty_cons,
    Bool.false_eq_true, if_false]
  rw [h]
  rfl

/-- At the end of a pattern nothing more is read. -/
theorem run_end {n : Nat} :
    ReaderState.run n ⟨⟨[], pos, false⟩, q, stack, names⟩ =
      ReaderState.finish ⟨⟨[], pos, false⟩, q, stack, names⟩ := by
  cases n <;> rfl

/-- A sequence of two or more parts is kept as a sequence. -/
theorem close_of_two_le (h : 2 ≤ q.parts.length) (last : Position) :
    q.close last = .concat ⟨q.first, last⟩ q.parts.reverse := by
  unfold OpenConcat.close
  split
  · next hq => simp [hq] at h
  · next hq => simp [hq] at h
  · rfl

/-! ### What parts stand for -/

/-- Under the switches `m`, which it does not touch, the part means `e`; and it does not nest. -/
structure Pattern.StandsFor (m : Mode) (p : Pattern) (e : Expr) : Prop where
  meaning_eq : p.meaning m = .ok (e, m)
  nests : ∀ depth, depth < nestingLimit → p.checkNesting depth = .ok ()

theorem meaningOfAll_of_standsFor {m : Mode} {ps : List Pattern} {es : List Expr}
    (h : List.Forall₂ (Pattern.StandsFor m) ps es) : meaningOfAll m ps = .ok (es, m) := by
  induction h with
  | nil => rfl
  | cons hp _ ih =>
    rw [meaningOfAll, hp.meaning_eq]
    show (meaningOfAll m _ >>= _) = _
    rw [ih]
    rfl

theorem checkNestingOfAll_of_standsFor {m : Mode} {ps : List Pattern} {es : List Expr}
    (h : List.Forall₂ (Pattern.StandsFor m) ps es) {depth : Nat} (hd : depth < nestingLimit) :
    checkNestingOfAll depth ps = .ok () := by
  induction h with
  | nil => rfl
  | cons hp _ ih =>
    rw [checkNestingOfAll, hp.nests depth hd]
    exact ih

/-- The switches under which a dot stands for every character. -/
def Mode.dotAll : Mode := ⟨false, false, true, false, true⟩

theorem standsFor_literal (span : Span) (c : Char) :
    Pattern.StandsFor .dotAll (.literal ⟨span, c, false⟩) (.chars (.single c.toNat)) :=
  ⟨rfl, fun _ _ => rfl⟩

theorem standsFor_lineStart (span : Span) :
    Pattern.StandsFor .dotAll (.assertion span .lineStart) (.look .textStart) :=
  ⟨rfl, fun _ _ => rfl⟩

theorem standsFor_lineEnd (span : Span) :
    Pattern.StandsFor .dotAll (.assertion span .lineEnd) (.look .textEnd) :=
  ⟨rfl, fun _ _ => rfl⟩

theorem standsFor_anyRun (span span' : Span) :
    Pattern.StandsFor .dotAll (.repetition span 0 none (.dot span'))
      (.repeats 0 none (.chars .full)) := by
  refine ⟨rfl, fun depth hd => ?_⟩
  simp only [Pattern.checkNesting, enterLevel, if_pos hd]
  rfl

/-- A pattern that is read and that nests no deeper than allowed stands for its meaning. -/
theorem exprOf_of_read {p : Pattern} {e : Expr} {m : Mode} (hread : readPattern cs = .ok p)
    (hnest : p.checkNesting 0 = .ok ()) (hmeaning : p.meaning .initial = .ok (e, m)) :
    exprOf cs = .ok e := by
  rw [exprOf, hread]
  show (p.checkNesting 0 >>= fun _ => p.meaning .initial >>= _) = _
  rw [hnest, hmeaning]
  rfl

/-! ### Reading a rest -/

/-- At any place and behind any parts, `n` steps read the rest `cs` of a pattern as parts that stand for
the expressions `es`, to its end. -/
def ReadsAs (n : Nat) (cs : List Char) (es : List Expr) : Prop :=
  ∀ pos q, ∃ last parts,
    List.Forall₂ (Pattern.StandsFor .dotAll) parts es ∧
    ReaderState.run n ⟨⟨cs, pos, false⟩, q, [], []⟩ =
      .ok (OpenConcat.close ⟨q.first, parts.reverse ++ q.parts⟩ last)

/-- What leaves one part in front of the rest reads one expression more than the rest. -/
theorem ReadsAs.cons {n n' : Nat} {cs cs' : List Char} {e : Expr} {es : List Expr}
    (h : ReadsAs n' cs' es)
    (hstep : ∀ pos q, ∃ pos' p, Pattern.StandsFor .dotAll p e ∧
      ReaderState.run n ⟨⟨cs, pos, false⟩, q, [], []⟩ =
        ReaderState.run n' ⟨⟨cs', pos', false⟩, q.push p, [], []⟩) :
    ReadsAs n cs (e :: es) := by
  intro pos q
  obtain ⟨pos', p, hp, hrun⟩ := hstep pos q
  obtain ⟨last, parts, hparts, hread⟩ := h pos' (q.push p)
  refine ⟨last, p :: parts, .cons hp hparts, ?_⟩
  rw [hrun, hread, List.reverse_cons, List.append_assoc]
  rfl

end ReplyRules.Regex
