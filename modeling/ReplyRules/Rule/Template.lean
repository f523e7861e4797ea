import ReplyRules.Rule.Basic

/-!
Responses to start from.
-/

namespace ReplyRules

/-- A response for a common purpose. -/
inductive Template where
  | emptyHtml
  | emptyJs
  | emptyCss
  | jsonMock
  | notFound
  | corsJson
  deriving DecidableEq, Repr, Inhabited

namespace Template

/-- Every template. -/
def all : List Template := [emptyHtml, emptyJs, emptyCss, jsonMock, notFound, corsJson]

/-- The name of a template. -/
def name : Template → String
  | emptyHtml => "empty-html"
  | emptyJs => "empty-js"
  | emptyCss => "empty-css"
  | jsonMock => "json-mock"
  | notFound => "404"
  | corsJson => "cors-json"

/-- The template with the given name. -/
def ofName? (s : String) : Option Template := all.find? (·.name == s)

/-- The type of the response. -/
def responseType : Template → ResponseType
  | emptyHtml => .html
  | notFound => .html
  | emptyJs => .js
  | emptyCss => .css
  | jsonMock => .json
  | corsJson => .json

/-- The content of the response. -/
def content : Template → String
  | emptyHtml =>
    "<!DOCTYPE html>\n<html>\n<head><title>Empty</title></head>\n<body></body>\n</html>"
  | emptyJs => "// Empty JavaScript file\n"
  | emptyCss => "/* Empty CSS file */\n"
  | jsonMock =>
    "\x7b\n  \"success\": true,\n  \"code\": 200,\n  \"message\": \"Mock response\",\n" ++
    "  \"data\": \x7b\n    \"id\": 1,\n    \"name\": \"Test\",\n    \"items\": []\n  \x7d\n\x7d"
  | notFound =>
    "<!DOCTYPE html>\n<html>\n<head><title>404 Not Found</title></head>\n" ++
    "<body>\n<h1>404 Not Found</h1>\n" ++
    "<p>The requested resource was not found.</p>\n</body>\n</html>"
  | corsJson => "\x7b\n  \"success\": true,\n  \"data\": \x7b\x7d\n\x7d"

/-- What the template is for. -/
def note : Template → String
  | emptyHtml => "Empty HTML page"
  | emptyJs => "Empty JS file"
  | emptyCss => "Empty CSS file"
  | jsonMock => "JSON mock data"
  | notFound => "404 page"
  | corsJson => "CORS JSON response"

/-- The input for a rule that sends the response where the URL contains the pattern. -/
def input (t : Template) (pattern : String) : RuleInput :=
  { RuleInput.plain pattern t.content with responseType := t.responseType, note := t.note }

end Template

end ReplyRules
