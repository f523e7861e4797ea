/-!
Requests, the kinds of things a page asks for, and sets of these kinds.  A set is a word of 16 bits, of which
the lowest stand for the kinds in their order; the bits above them are never set.
-/

namespace ReplyRules

/-- What a request is made for. -/
inductive ResourceKind where
  | mainFrame
  | subFrame
  | stylesheet
  | script
  | image
  | font
  | object
  | xmlHttpRequest
  | ping
  | media
  | websocket
  | webtransport
  | webbundle
  | other
  deriving DecidableEq, Repr, Inhabited

namespace ResourceKind

/-- Every kind, in order. -/
def all : List ResourceKind :=
  [mainFrame, subFrame, stylesheet, script, image, font, object, xmlHttpRequest, ping, media,
    websocket, webtransport, webbundle, other]

/-- The name of a kind. -/
def name : ResourceKind → String
  | mainFrame => "main_frame"
  | subFrame => "sub_frame"
  | stylesheet => "stylesheet"
  | script => "script"
  | image => "image"
  | font => "font"
  | object => "object"
  | xmlHttpRequest => "xmlhttprequest"
  | ping => "ping"
  | media => "media"
  | websocket => "websocket"
  | webtransport => "webtransport"
  | webbundle => "webbundle"
  | other => "other"

/-- The kind with the given name; one kind has a short name too. -/
def ofName? (s : String) : Option ResourceKind :=
  if s == "xhr" then some xmlHttpRequest else all.find? (·.name == s)

/-- The place of a kind in the order. -/
def index : ResourceKind → Fin 14
  | mainFrame => 0
  | subFrame => 1
  | stylesheet => 2
  | script => 3
  | image => 4
  | font => 5
  | object => 6
  | xmlHttpRequest => 7
  | ping => 8
  | media => 9
  | websocket => 10
  | webtransport => 11
  | webbundle => 12
  | other => 13

theorem ofName?_name (k : ResourceKind) : ofName? k.name = some k := by
  cases k <;> decide

/-- The word in which the bit of a kind is set. -/
def bit (k : ResourceKind) : BitVec 16 := 1#16 <<< k.index.val

/-- A kind has the bit at its place, and no other. -/
theorem getLsbD_bit (k : ResourceKind) (i : Nat) :
    k.bit.getLsbD i = true ↔ i = k.index.val := by
  have hk := k.index.isLt
  rw [bit, BitVec.getLsbD_shiftLeft, BitVec.getLsbD_one]
  simp only [Bool.and_eq_true, Bool.not_eq_true', decide_eq_true_eq, decide_eq_false_iff_not]
  omega

end ResourceKind

/-- A set of kinds. -/
structure ResourceSet where
  bits : BitVec 16
  /-- What is set is the bit of a kind. -/
  exists_index_eq : ∀ i, bits.getLsbD i = true → ∃ k : ResourceKind, k.index.val = i
  deriving DecidableEq, Repr

namespace ResourceSet

/-- The set without members. -/
def empty : ResourceSet := ⟨0#16, fun i h => absurd h (by simp)⟩

instance : Inhabited ResourceSet := ⟨empty⟩

/-- Whether a kind is a member. -/
def contains (s : ResourceSet) (k : ResourceKind) : Bool := s.bits &&& k.bit != 0#16

/-- The set with one more member. -/
def insert (s : ResourceSet) (k : ResourceKind) : ResourceSet where
  bits := s.bits ||| k.bit
  exists_index_eq i h := by
    rw [BitVec.getLsbD_or, Bool.or_eq_true] at h
    rcases h with h | h
    · exact s.exists_index_eq i h
    · exact ⟨k, ((k.getLsbD_bit i).mp h).symm⟩

/-- The set of the kinds in a list. -/
def ofList (kinds : List ResourceKind) : ResourceSet := kinds.foldl insert empty

/-- The set of all kinds. -/
def all : ResourceSet := ofList ResourceKind.all

/-- The set a filter stands for: with no kinds listed it lets all pass. -/
def ofFilter : Option (List ResourceKind) → ResourceSet
  | none => all
  | some [] => all
  | some kinds => ofList kinds

/-- The members, in order. -/
def toList (s : ResourceSet) : List ResourceKind := ResourceKind.all.filter s.contains

/-- The number of members: the bits that are set. -/
def size (s : ResourceSet) : Nat := s.bits.cpop.toNat

/-- Whether every kind is a member. -/
def isAll (s : ResourceSet) : Bool := s == all

/-- Whether no kind is a member. -/
def isEmpty (s : ResourceSet) : Bool := s == empty

end ResourceSet

/-- A request for a URL. -/
structure Request where
  url : String
  kind : ResourceKind
  deriving DecidableEq, Repr, Inhabited

namespace Request

/-- The request for a page. -/
def document (url : String) : Request := ⟨url, .mainFrame⟩

end Request

end ReplyRules
