import ReplyRules.Matching.Matcher
import ReplyRules.Proofs.Regex.Search
import ReplyRules.Proofs.Regex.Reading
import Mathlib.Data.List.Forall2

/-!
Filters match as globs.  A glob is a text in which a star stands for any run of characters, also for
none, and every other character for itself; it has to cover the whole text (`glob`).

A filter is compiled by way of a regular expression in text form, so the argument has two halves.  The
text is read back part by part, with one part for each character of the filter, and gives the sequence
`Matcher.filterExpr` (`exprOf_filterRegex`); this holds for every filter, so the text is a pattern without
faults whatever the filter is.  The matches of that sequence are followed from place to place, and the
rest of the filter always has to match the rest of the text (`matches_filterExprs`).

Main result: a filter that compiles accepts exactly the URLs of which it is a glob
(`Matcher.accepts_iff_glob`).
-/

namespace ReplyRules

open Regex Regex.Expr
open Unicode (CodeSet)

/-! ### Globs -/

/-- Whether the text has the form of the pattern: a star stands for any run of characters, and every
other character for itself. -/
def glob : List Char → List Char → Bool
  | [], text => text.isEmpty
  | '*' :: pattern, text =>
    (List.range (text.length + 1)).any fun skip => glob pattern (text.drop skip)
  | _ :: _, [] => false
  | c :: pattern, d :: text => c == d && glob pattern text

theorem glob_star {pattern text : List Char} :
    glob ('*' :: pattern) text = true ↔
      ∃ skip ≤ text.length, glob pattern (text.drop skip) = true := by
  simp only [glob, List.any_eq_true, List.mem_range, Nat.lt_succ_iff]

theorem glob_char {c : Char} (hc : c ≠ '*') {pattern text : List Char} :
    glob (c :: pattern) text = true ↔ ∃ rest, text = c :: rest ∧ glob pattern rest = true := by
  cases text with
  | nil => simp [glob]
  | cons d text =>
    rw [glob.eq_4 _ _ _ _ hc, Bool.and_eq_true, beq_iff_eq]
    constructor
    · rintro ⟨rfl, h⟩
      exact ⟨text, rfl, h⟩
    · rintro ⟨rest, heq, h⟩
      obtain ⟨rfl, rfl⟩ := List.cons.inj heq
      exact ⟨rfl, h⟩

/-! ### Two classes -/

namespace Unicode.CodeSet

theorem hasChar_full (c : Char) : full.hasChar c = true := by
  have hc : c.toNat ≤ 0x10FFFF := by
    rcases c.valid with h | ⟨-, h⟩
    · exact (show c.toNat < 0xD800 from h).le.trans (by decide)
    · exact Nat.le_of_lt_succ h
  simpa [full, hasChar, has, CodeRange.has, lastCodePoint] using hc

theorem hasChar_single (c d : Char) : (single c.toNat).hasChar d = true ↔ c = d := by
  have hsingle : (single c.toNat).hasChar d = true ↔ c.toNat = d.toNat := by
    simp only [single, ofRange, hasChar, has, List.any_cons, List.any_nil, Bool.or_false,
      CodeRange.has, Bool.and_eq_true, decide_eq_true_eq]
    omega
  rw [hsingle, Char.toNat_inj]

end Unicode.CodeSet

namespace Matcher

/-! ### The expression of a filter -/

/-- The expressions for the characters of a filter. -/
def filterExprs : List Char → List Expr
  | [] => []
  | c :: cs =>
    (if c = '*' then .repeats 0 none (.chars .full) else .chars (.single c.toNat)) ::
      filterExprs cs

/-- The expression for a filter, between the two ends of the text. -/
def filterExpr (pattern : List Char) : Expr :=
  inSequence (.look .textStart :: (filterExprs pattern ++ [.look .textEnd]))

theorem filterBody_star (cs : List Char) : filterBody ('*' :: cs) = '.' :: '*' :: filterBody cs :=
  rfl

theorem filterBody_escaped {c : Char} (hc : c ≠ '*') (hm : isMeta c = true) (cs : List Char) :
    filterBody (c :: cs) = '\\' :: c :: filterBody cs := by
  simp [filterBody, hc, quoteChars, hm]

theorem filterBody_plain {c : Char} (hm : isMeta c = false) (cs : List Char) :
    filterBody (c :: cs) = c :: filterBody cs := by
  have hc : c ≠ '*' := by
    rintro rfl
    simp [isMeta] at hm
  simp [filterBody, hc, quoteChars, hm]

/-- The pieces between the stars are quoted, and joined by what stands for any characters. -/
theorem filterBody_eq_intercalate (cs : List Char) :
    filterBody cs = ['.', '*'].intercalate ((cs.splitOn '*').map quoteChars) := by
  induction cs with
  | nil => rfl
  | cons c cs ih =>
    rw [List.splitOn, List.splitOnP_cons_eq_if_modifyHead]
    by_cases hc : c = '*'
    · subst hc
      have hne : (cs.splitOnP (· == '*')).map quoteChars ≠ [] := by
        rw [Ne, List.map_eq_nil_iff]
        exact List.splitOnP_ne_nil _ cs
      rw [if_pos (beq_self_eq_true _), List.map_cons, List.intercalate_cons_of_ne_nil hne,
        filterBody_star, ih]
      rfl
    · obtain ⟨piece, pieces, hpieces⟩ :=
        List.exists_cons_of_ne_nil (List.splitOnP_ne_nil (· == '*') cs)
      rw [List.splitOn, hpieces] at ih
      rw [if_neg (by simpa using hc), hpieces, List.modifyHead_cons, List.map_cons, quoteChars]
      cases hm : isMeta c with
      | true =>
        rw [if_pos rfl, List.intercalate_cons_cons_left, List.intercalate_cons_cons_left,
          filterBody_escaped hc hm, ih, List.map_cons]
      | false =>
        rw [if_neg Bool.false_ne_true, List.intercalate_cons_cons_left, filterBody_plain hm, ih,
          List.map_cons]

/-- A question mark in a filter is quoted, so none stands behind the star of a dot. -/
theorem head_filterBody_ne (pattern : List Char) :
    (filterBody pattern ++ ['$']).head? ≠ some '?' := by
  cases pattern with
  | nil => decide
  | cons c cs =>
    by_cases hc : c = '*'
    · subst hc
      exact ne_of_beq_false rfl
    · cases hm : isMeta c with
      | true =>
        rw [filterBody_escaped hc hm]
        exact ne_of_beq_false rfl
      | false =>
        rw [filterBody_plain hm]
        intro h
        obtain rfl := Option.some.inj h
        exact absurd hm (by decide)

/-- Reading the text of a filter gives a part for each of its characters. -/
theorem readsAs_filterBody (pattern : List Char) {n : Nat}
    (hn : (filterBody pattern).length + 1 < n) :
    ReadsAs n (filterBody pattern ++ ['$']) (filterExprs pattern ++ [.look .textEnd]) := by
  induction pattern generalizing n with
  | nil =>
    obtain ⟨n, rfl⟩ := Nat.exists_eq_add_of_le' (show 1 ≤ n by omega)
    intro pos q
    exact ⟨pos.after '$', _, .cons (standsFor_lineEnd ⟨pos, pos.after '$'⟩) .nil,
      (run_step step_lineEnd).trans run_end⟩
  | cons c cs ih =>
    by_cases hc : c = '*'
    · subst hc
      rw [filterBody_star] at hn ⊢
      simp only [List.length_cons] at hn
      obtain ⟨n, rfl⟩ := Nat.exists_eq_add_of_le' (show 2 ≤ n by omega)
      have hrest := ih (show (filterBody cs).length + 1 < n by omega)
      exact hrest.cons fun _ _ => ⟨_, _, standsFor_anyRun _ _,
        (run_step step_dot).trans (run_step (step_star (head_filterBody_ne cs)))⟩
    · rw [filterExprs, if_neg hc]
      cases hm : isMeta c with
      | true =>
        rw [filterBody_escaped hc hm] at hn ⊢
        simp only [List.length_cons] at hn
        obtain ⟨n, rfl⟩ := Nat.exists_eq_add_of_le' (show 1 ≤ n by omega)
        have hrest := ih (show (filterBody cs).length + 1 < n by omega)
        exact hrest.cons fun _ _ => ⟨_, _, standsFor_literal _ c, run_step (step_escaped hm)⟩
      | false =>
        rw [filterBody_plain hm] at hn ⊢
        simp only [List.length_cons] at hn
        obtain ⟨n, rfl⟩ := Nat.exists_eq_add_of_le' (show 1 ≤ n by omega)
        have hrest := ih (show (filterBody cs).length + 1 < n by omega)
        exact hrest.cons fun _ _ => ⟨_, _, standsFor_literal _ c, run_step (step_plain hm)⟩

/-- The text made of a filter, character by character. -/
theorem toList_filterRegex (pattern : String) :
    (filterRegex pattern).toList =
      '(' :: '?' :: 's' :: ')' :: '^' :: (filterBody pattern.toList ++ ['$']) := by
  have hhead (cs : List Char) : "(?s)^".toList ++ cs = '(' :: '?' :: 's' :: ')' :: '^' :: cs := rfl
  unfold filterRegex
  rw [String.toList_ofList, List.append_assoc]
  exact hhead _

/-- The text made of a filter is read as the switch and the parts behind it. -/
theorem readPattern_filterRegex (pattern : String) :
    ∃ span switchSpan parts,
      List.Forall₂ (Pattern.StandsFor .dotAll) parts
        (.look .textStart :: (filterExprs pattern.toList ++ [.look .textEnd])) ∧
      readPattern (filterRegex pattern).toList =
        .ok (.concat span (.flags switchSpan [.flag .dotMatchesNewLine] :: parts)) := by
  have hbody : ReadsAs ((filterBody pattern.toList).length + 6)
      ('^' :: (filterBody pattern.toList ++ ['$']))
      (.look .textStart :: (filterExprs pattern.toList ++ [.look .textEnd])) := by
    have hrest := readsAs_filterBody pattern.toList
      (n := (filterBody pattern.toList).length + 5) (by omega)
    exact hrest.cons fun _ _ => ⟨_, _, standsFor_lineStart _, run_step step_lineStart⟩
  let behind := (((Position.start.after '(').after '?').after 's').after ')'
  let switch : Pattern := .flags ⟨.start, behind⟩ [.flag .dotMatchesNewLine]
  obtain ⟨last, parts, hparts, hread⟩ := hbody behind (OpenConcat.push ⟨.start, []⟩ switch)
  have htwo : 2 ≤ (parts.reverse ++ [switch]).length := by
    have hlength := hparts.length_eq
    simp only [List.length_cons, List.length_append] at hlength
    simp only [List.length_append, List.length_reverse, List.length_cons]
    omega
  have hclose := close_of_two_le (q := ⟨.start, parts.reverse ++ [switch]⟩) htwo last
  refine ⟨⟨.start, last⟩, ⟨.start, behind⟩, parts, hparts, ?_⟩
  have hlength : ('(' :: '?' :: 's' :: ')' :: '^' ::
      (filterBody pattern.toList ++ ['$'])).length + 1 =
        (filterBody pattern.toList).length + 6 + 1 := by
    simp
  rw [toList_filterRegex, readPattern, hlength]
  refine (run_step step_dotAll).trans (hread.trans ?_)
  show Except.ok (OpenConcat.close ⟨.start, parts.reverse ++ [switch]⟩ last) = _
  rw [hclose]
  simp only [List.reverse_append, List.reverse_reverse, List.reverse_singleton,
    List.singleton_append]
  rfl

/-- **The text made of a filter is always a regular expression**, and the one that is meant. -/
theorem exprOf_filterRegex (pattern : String) :
    exprOf (filterRegex pattern).toList = .ok (filterExpr pattern.toList) := by
  obtain ⟨span, switchSpan, parts, hparts, hread⟩ := readPattern_filterRegex pattern
  have hnest : (Pattern.concat span
      (.flags switchSpan [.flag .dotMatchesNewLine] :: parts)).checkNesting 0 = .ok () :=
    checkNestingOfAll_of_standsFor hparts (show 1 < nestingLimit by decide)
  have hmeaning : (Pattern.concat span
      (.flags switchSpan [.flag .dotMatchesNewLine] :: parts)).meaning .initial =
        .ok (filterExpr pattern.toList, .dotAll) := by
    show (meaningOfAll .initial (.flags switchSpan [.flag .dotMatchesNewLine] :: parts) >>= _) = _
    have hswitch : Mode.initial.set [.flag .dotMatchesNewLine] = .dotAll := rfl
    rw [meaningOfAll, Pattern.meaning, hswitch]
    show ((meaningOfAll .dotAll parts >>= _) >>= _) = _
    rw [meaningOfAll_of_standsFor hparts]
    rfl
  exact exprOf_of_read hread hnest hmeaning

/-! ### What a filter matches -/

variable {text : List Char} {i j : Nat}

/-- A character stands for itself. -/
theorem matches_single {c : Char} :
    Matches text (.chars (.single c.toNat)) i j ↔ text[i]? = some c ∧ j = i + 1 := by
  constructor
  · intro h
    cases h with
    | chars hget hc => exact ⟨hget.trans (congrArg some ((CodeSet.hasChar_single _ _).mp hc).symm), rfl⟩
  · rintro ⟨hget, rfl⟩
    exact .chars hget ((CodeSet.hasChar_single c c).mpr rfl)

/-- A star stands for any stretch. -/
theorem matches_anyRun :
    Matches text (.repeats 0 none (.chars .full)) i j ↔ i ≤ j ∧ j ≤ text.length := by
  constructor
  · intro h
    exact h.bounds
  · rintro ⟨hij, hj⟩
    obtain ⟨n, rfl⟩ := Nat.exists_eq_add_of_le hij
    refine .repeats (Nat.zero_le n) rfl ?_
    clear hij
    induction n generalizing i with
    | zero => exact .zero hj
    | succ n ih =>
      have hi : i < text.length := by omega
      refine .succ (.chars (List.getElem?_eq_getElem hi) (CodeSet.hasChar_full _)) ?_
      rw [Nat.add_comm n 1, ← Nat.add_assoc] at hj ⊢
      exact ih hj

/-- From place `i` on, the expressions of a filter match up to the end of the text exactly where the
filter is a glob of the rest. -/
theorem matches_filterExprs {pattern : List Char} (hi : i ≤ text.length) :
    Matches text (inSequence (filterExprs pattern ++ [.look .textEnd])) i j ↔
      j = text.length ∧ glob pattern (text.drop i) = true := by
  induction pattern generalizing i with
  | nil =>
    show Matches text (.look .textEnd) i j ↔ _
    simp only [glob, List.isEmpty_iff, List.drop_eq_nil_iff]
    constructor
    · intro h
      cases h with
      | look _ hend =>
        have hbehind : text.length ≤ j := by
          simpa [Look.holds, charBehind] using hend
        exact ⟨by omega, hbehind⟩
    · rintro ⟨rfl, hbehind⟩
      obtain rfl : i = text.length := by omega
      exact .look le_rfl (by simp [Look.holds, charBehind])
  | cons c cs ih =>
    rw [filterExprs, List.cons_append, matches_inSequence_cons]
    by_cases hc : c = '*'
    · subst hc
      rw [if_pos rfl, glob_star]
      constructor
      · -- the star takes what lies between `i` and `l`
        rintro ⟨l, hil, hlj⟩
        obtain ⟨hle, hl⟩ := matches_anyRun.mp hil
        obtain ⟨hj, hglob⟩ := (ih hl).mp hlj
        refine ⟨hj, l - i, ?_, ?_⟩
        · rw [List.length_drop]
          omega
        · rw [List.drop_drop, Nat.add_sub_cancel' hle]
          exact hglob
      · rintro ⟨hj, skip, hskip, hglob⟩
        rw [List.length_drop] at hskip
        rw [List.drop_drop] at hglob
        have hl : i + skip ≤ text.length := by omega
        exact ⟨i + skip, matches_anyRun.mpr ⟨Nat.le_add_right i skip, hl⟩, (ih hl).mpr ⟨hj, hglob⟩⟩
    · rw [if_neg hc, glob_char hc]
      constructor
      · rintro ⟨l, hil, hlj⟩
        obtain ⟨hget, rfl⟩ := matches_single.mp hil
        obtain ⟨hlt, hgetElem⟩ := List.getElem?_eq_some_iff.mp hget
        obtain ⟨hj, hglob⟩ := (ih hlt).mp hlj
        refine ⟨hj, text.drop (i + 1), ?_, hglob⟩
        rw [List.drop_eq_getElem_cons hlt, hgetElem]
      · rintro ⟨hj, rest, hdrop, hglob⟩
        have hget : text[i]? = some c := by
          rw [← List.head?_drop, hdrop]
          rfl
        have hlt := (List.getElem?_eq_some_iff.mp hget).1
        have hrest : text.drop (i + 1) = rest := by
          rw [← List.tail_drop, hdrop]
          rfl
        rw [← hrest] at hglob
        exact ⟨i + 1, matches_single.mpr ⟨hget, rfl⟩, (ih hlt).mpr ⟨hj, hglob⟩⟩

theorem countsInOrder_filterExprs {pattern : List Char} :
    ∀ e ∈ filterExprs pattern, e.CountsInOrder := by
  induction pattern with
  | nil => exact fun _ he => absurd he List.not_mem_nil
  | cons c cs ih =>
    intro e he
    rcases List.mem_cons.mp he with rfl | he
    · split
      · exact ⟨nofun, trivial⟩
      · trivial
    · exact ih e he

theorem countsInOrder_filterExpr (pattern : List Char) : (filterExpr pattern).CountsInOrder := by
  refine countsInOrder_inSequence fun e he => ?_
  rcases List.mem_cons.mp he with rfl | he
  · trivial
  rcases List.mem_append.mp he with he | he
  · exact countsInOrder_filterExprs e he
  · obtain rfl := List.mem_singleton.mp he
    trivial

/-- The expression for a filter is found in the texts that the filter is a glob of. -/
theorem isIn_filterExpr (pattern text : List Char) :
    (filterExpr pattern).isIn text = true ↔ glob pattern text = true := by
  rw [isIn_iff (countsInOrder_filterExpr pattern)]
  simp only [filterExpr, matches_inSequence_cons]
  constructor
  · rintro ⟨i, j, l, hstart, hrest⟩
    cases hstart with
    | look hi hstart =>
      -- the start of the text is before its first character only
      obtain rfl : i = 0 := by
        cases i with
        | zero => rfl
        | succ i =>
          have hbefore : text.length ≤ i := by
            simpa [Look.holds, charBefore] using hstart
          omega
      exact ((matches_filterExprs hi).mp hrest).2
  · intro h
    exact ⟨0, text.length, 0, .look (Nat.zero_le _) rfl,
      (matches_filterExprs (Nat.zero_le _)).mpr ⟨rfl, h⟩⟩

/-! ### Filters that compile -/

/-- A filter compiles unless its program is too big, and what it compiles to is its expression. -/
theorem compile_urlFilter (pattern : String) :
    compile pattern .urlFilter =
      if (filterExpr pattern.toList).fits then
        .ok ⟨pattern, .urlFilter, ⟨filterExpr pattern.toList⟩⟩
      else .error (.tooBig sizeLimit) := by
  show (Regex.compile (filterRegex pattern)).map _ = _
  rw [Regex.compile, exprOf_filterRegex]
  show Except.map _ (if _ then _ else _) = _
  split <;> rfl

theorem exists_compile_of_fits {pattern : String} (hfits : (filterExpr pattern.toList).fits = true) :
    ∃ m, compile pattern .urlFilter = .ok m :=
  ⟨_, (compile_urlFilter pattern).trans (if_pos hfits)⟩

theorem regex_of_compile_urlFilter {pattern : String} {m : Matcher}
    (h : compile pattern .urlFilter = .ok m) : m.regex = ⟨filterExpr pattern.toList⟩ := by
  rw [compile_urlFilter] at h
  split at h
  · rw [← Except.ok.inj h]
  · cases h

/-- **A filter that compiles accepts the URLs that it is a glob of**, and no others: a star stands for any
run of characters, every other character for itself, and the whole URL has to be covered. -/
theorem accepts_iff_glob {pattern : String} {m : Matcher}
    (h : compile pattern .urlFilter = .ok m) (url : String) :
    m.accepts url = true ↔ glob pattern.toList url.toList = true := by
  rw [compile_urlFilter] at h
  split at h
  · obtain rfl := Except.ok.inj h
    exact isIn_filterExpr pattern.toList url.toList
  · cases h

/-- A star takes up line feeds, and a dot is no more than a dot. -/
theorem accepts_filter_across_lines :
    ∃ m, compile "*.com/a?*" .urlFilter = .ok m ∧
      m.accepts "https://x.com/a?b\nc" = true ∧ m.accepts "https://x-com/a?" = false := by
  have hfits : (filterExpr "*.com/a?*".toList).fits = true := by decide +kernel
  have hm : compile "*.com/a?*" .urlFilter =
      .ok ⟨"*.com/a?*", .urlFilter, ⟨filterExpr "*.com/a?*".toList⟩⟩ := by
    rw [compile_urlFilter, if_pos hfits]
  refine ⟨_, hm, (accepts_iff_glob hm _).mpr (by decide +kernel), ?_⟩
  rw [← Bool.not_eq_true, accepts_iff_glob hm]
  decide +kernel

end Matcher

end ReplyRules
