import ReplyRules.Text.CaseTable

/-!
Lower case for whole texts.  Every character is mapped by itself, save the capital sigma: at the end of
a word it becomes the final sigma, elsewhere the small one.  The capital I with a dot is the one
character whose lower-case form has two characters.
-/

namespace ReplyRules.Text

/-- Whether the run has the code point. -/
def LowerRun.has (r : LowerRun) (n : Nat) : Bool :=
  r.lo ≤ n && n ≤ r.hi && (n - r.lo) % r.step == 0

/-- The lower-case form of a character by itself. -/
def lowerChar (c : Char) : List Char :=
  if c.toNat < 0x80 then [c.toLower]
  else if c == 'İ' then ['i', '\u0307']
  else match lowerRuns.find? (·.has c.toNat) with
    | some r => [Char.ofNat (c.toNat + r.shift).toNat]
    | none => [c]

/-- Whether the character is upper, lower or title case. -/
def isCased (c : Char) : Bool := casedRanges.any (·.has c.toNat)

/-- Whether the case of a character's neighbours is found across it. -/
def isCaseIgnorable (c : Char) : Bool := caseIgnorableRanges.any (·.has c.toNat)

/-- Whether the first character that is not skipped over is cased. -/
def startsCased (cs : List Char) : Bool :=
  match cs.dropWhile isCaseIgnorable with
  | [] => false
  | c :: _ => isCased c

/-- The lower-case form of the rest of a text; `before` holds the characters in front of it, the
nearest first. -/
def lowerFrom (before : List Char) : List Char → List Char
  | [] => []
  | c :: cs =>
    (if c == 'Σ' then if startsCased before && !startsCased cs then ['ς'] else ['σ']
      else lowerChar c) ++ lowerFrom (c :: before) cs

/-- The text in lower case. -/
def lower (s : String) : String := String.ofList (lowerFrom [] s.toList)

end ReplyRules.Text
