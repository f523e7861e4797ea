import ReplyRules.Text.Basic

/-!
The types of responses: their names, the endings of file names that stand for them, and the media type
each is served with.
-/

namespace ReplyRules

/-- The type of a response. -/
inductive ResponseType where
  | html
  | js
  | css
  | json
  | xml
  | text
  | svg
  | png
  | jpg
  | gif
  | webp
  | ico
  | woff
  | woff2
  | ttf
  | eot
  /-- A type without rules of its own. -/
  | other (name : String)
  deriving DecidableEq, Repr, Inhabited

namespace ResponseType

/-- The text with its ASCII capitals made small. -/
def lowerAscii (s : String) : String := String.ofList (s.toList.map Char.toLower)

/-- The name of a type. -/
def name : ResponseType → String
  | html => "html"
  | js => "js"
  | css => "css"
  | json => "json"
  | xml => "xml"
  | text => "text"
  | svg => "svg"
  | png => "png"
  | jpg => "jpg"
  | gif => "gif"
  | webp => "webp"
  | ico => "ico"
  | woff => "woff"
  | woff2 => "woff2"
  | ttf => "ttf"
  | eot => "eot"
  | other name => name

/-- The names that are known, in small letters. -/
def knownNames : List (String × ResponseType) :=
  [("html", html), ("js", js), ("javascript", js), ("css", css), ("json", json), ("xml", xml),
    ("text", text), ("svg", svg), ("png", png), ("jpg", jpg), ("jpeg", jpg), ("gif", gif),
    ("webp", webp), ("ico", ico), ("woff", woff), ("woff2", woff2), ("ttf", ttf), ("eot", eot)]

/-- The type with the given name, in small letters or capitals. -/
def ofName (name : String) : ResponseType := (knownNames.lookup (lowerAscii name)).getD (other name)

/-- Whether the type has rules of its own. -/
def isKnown : ResponseType → Bool
  | other _ => false
  | _ => true

/-- The endings of file names that stand for a type. -/
def knownExtensions : List (String × ResponseType) :=
  [("html", html), ("htm", html), ("js", js), ("mjs", js), ("css", css), ("json", json), ("xml", xml),
    ("txt", text), ("svg", svg)]

/-- What stands behind the last point of a file name, or the whole name without one. -/
def extension (fileName : String) : String :=
  String.ofList (fileName.toList.reverse.takeWhile (· != '.')).reverse

/-- The type a file name stands for. -/
def ofFileName? (fileName : String) : Option ResponseType :=
  knownExtensions.lookup (lowerAscii (extension fileName))

/-- The media type of plain text. -/
def plainMime : String := "text/plain;charset=utf-8"

/-- The media type a response is served with. -/
def mime : ResponseType → String
  | html => "text/html;charset=utf-8"
  | js => "application/javascript;charset=utf-8"
  | css => "text/css;charset=utf-8"
  | json => "application/json;charset=utf-8"
  | xml => "application/xml;charset=utf-8"
  | text => plainMime
  | svg => "image/svg+xml;charset=utf-8"
  | png => "image/png"
  | jpg => "image/jpeg"
  | gif => "image/gif"
  | webp => "image/webp"
  | ico => "image/x-icon"
  | woff => "font/woff"
  | woff2 => "font/woff2"
  | ttf => "font/ttf"
  | eot => "application/vnd.ms-fontobject"
  | other _ => plainMime

/-- What a media type has in its name when the content is written as text. -/
def textMarkers : List String := ["text", "javascript", "json", "xml", "svg"]

/-- Whether content of this media type is written as text. -/
def isTextMime (mime : String) : Bool := textMarkers.any (Text.contains mime)

end ResponseType

end ReplyRules
