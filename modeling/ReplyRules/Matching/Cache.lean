import ReplyRules.Matching.Matcher

/-!
Matchers that are kept from one compilation to the next, so that a pattern that stays in use is not
compiled again.  A matcher is found by its pattern and its language.
-/

namespace ReplyRules

/-- Matchers with different patterns, or in different languages. -/
structure MatcherCache where
  entries : List ((PatternTag × String) × Matcher)
  deriving DecidableEq, Repr, Inhabited

namespace MatcherCache

/-- The cache that holds nothing. -/
def empty : MatcherCache := ⟨[]⟩

/-- The matcher for a pattern, if there is one. -/
def find? (c : MatcherCache) (pattern : String) (tag : PatternTag) : Option Matcher :=
  c.entries.lookup (tag, pattern)

/-- The cache with one more matcher. -/
def insert (c : MatcherCache) (pattern : String) (tag : PatternTag) (m : Matcher) : MatcherCache :=
  ⟨((tag, pattern), m) :: c.entries⟩

/-- Whether there is a matcher for the pattern. -/
def contains (c : MatcherCache) (pattern : String) (tag : PatternTag) : Bool :=
  (c.find? pattern tag).isSome

/-- The number of matchers. -/
def size (c : MatcherCache) : Nat := c.entries.length

/-- Whether there are no matchers. -/
def isEmpty (c : MatcherCache) : Bool := c.entries.isEmpty

/-- A matcher, whether it had to be compiled, and the matchers now in use. -/
structure Resolved where
  matcher : Matcher
  fresh : Bool
  next : MatcherCache
  deriving DecidableEq, Repr

/-- Looks a pattern up among the matchers in use and then among the previous ones, and compiles it if it
is found in neither. -/
def resolve (previous : MatcherCache) (pattern : String) (tag : PatternTag) (next : MatcherCache) :
    Except Regex.CompileError Resolved :=
  match next.find? pattern tag with
  | some m => .ok ⟨m, false, next⟩
  | none =>
    match previous.find? pattern tag with
    | some m => .ok ⟨m, false, next.insert pattern tag m⟩
    | none => (Matcher.compile pattern tag).map fun m => ⟨m, true, next.insert pattern tag m⟩

end MatcherCache

end ReplyRules
