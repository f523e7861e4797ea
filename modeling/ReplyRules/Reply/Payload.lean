import ReplyRules.Reply.ResponseType
import ReplyRules.Reply.Base64

/-!
Response bodies in the form in which they are sent: as data URLs.
-/

namespace ReplyRules

/-- A response body with its media type. -/
structure Payload where
  mime : String
  data : String
  deriving DecidableEq, Repr, Inhabited

namespace Payload

/-- The base64 text of a text. -/
def base64Text (content : String) : String :=
  String.ofList ((Base64.encode (Text.toBytes content)).map fun b => Char.ofNat b.toNat)

/-- The body for a content.  Content that is written as text is encoded; all other content has to be
encoded already and stays as it is. -/
def ofContent (content : String) (type : ResponseType) : Payload :=
  ⟨type.mime, if ResponseType.isTextMime type.mime then base64Text content else content⟩

/-- The body as a URL. -/
def dataUrl (p : Payload) : String := "data:" ++ p.mime ++ ";base64," ++ p.data

/-- The bytes of the body. -/
def decode (p : Payload) : Except Base64.DecodeError Bytes := Base64.decode (Text.toBytes p.data)

/-- How the body is shown. -/
def display (p : Payload) : String :=
  p.mime ++ " (" ++ toString p.data.utf8ByteSize ++ " base64 chars)"

end Payload

end ReplyRules
