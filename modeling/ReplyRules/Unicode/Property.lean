import ReplyRules.Unicode.BinaryProperty
import ReplyRules.Unicode.ScriptExtension

/-!
Looking up sets of code points by the names of properties.  Names are compared loosely: blanks, low
lines, hyphens, capitals and a leading `is` make no difference, and what is not ASCII is passed over.
-/

namespace ReplyRules.Unicode

/-- A set of code points by name: a property, category or script alone, or a property with one of its
values. -/
inductive PropertyQuery where
  | named (name : String)
  | withValue (property value : String)
  deriving DecidableEq, Repr, Inhabited

/-- Why no set goes by a name. -/
inductive PropertyError where
  | unknownProperty
  | unknownValue
  deriving DecidableEq, Repr

/-! ### Loose names -/

/-- The characters of a name that count, in lower case. -/
def looseChars (cs : List Char) : List Char :=
  (cs.filter fun c => c.toNat ≤ 0x7F && c != ' ' && c != '_' && c != '-').map Char.toLower

/-- A name in loose form.  The one name that a leading `is` belongs to is `isc`. -/
def looseName (name : String) : String :=
  match name.toList with
  | i :: s :: rest =>
    if i.toLower == 'i' && s.toLower == 's' then
      let name := String.ofList (looseChars rest)
      if name == "c" then "isc" else name
    else String.ofList (looseChars (i :: s :: rest))
  | cs => String.ofList (looseChars cs)

/-! ### Names of properties -/

/-- The short names of the yes-or-no properties, each with the full name, both in loose form. -/
def propertyAliases : List (String × String) :=
  [ ("ahex", "asciihexdigit"), ("alpha", "alphabetic"), ("bidic", "bidicontrol"),
    ("bidim", "bidimirrored"), ("ci", "caseignorable"), ("cwcf", "changeswhencasefolded"),
    ("cwcm", "changeswhencasemapped"), ("cwkcf", "changeswhennfkccasefolded"),
    ("cwl", "changeswhenlowercased"), ("cwt", "changeswhentitlecased"),
    ("cwu", "changeswhenuppercased"), ("dep", "deprecated"), ("di", "defaultignorablecodepoint"),
    ("dia", "diacritic"), ("ebase", "emojimodifierbase"), ("ecomp", "emojicomponent"),
    ("emod", "emojimodifier"), ("epres", "emojipresentation"), ("ext", "extender"),
    ("extpict", "extendedpictographic"), ("grbase", "graphemebase"), ("grext", "graphemeextend"),
    ("hex", "hexdigit"), ("idc", "idcontinue"), ("ideo", "ideographic"), ("ids", "idstart"),
    ("idsb", "idsbinaryoperator"), ("idst", "idstrinaryoperator"), ("joinc", "joincontrol"),
    ("loe", "logicalorderexception"), ("lower", "lowercase"), ("nchar", "noncharactercodepoint"),
    ("oalpha", "otheralphabetic"), ("ogrext", "othergraphemeextend"), ("oidc", "otheridcontinue"),
    ("oids", "otheridstart"), ("olower", "otherlowercase"), ("omath", "othermath"),
    ("oupper", "otheruppercase"), ("patsyn", "patternsyntax"), ("patws", "patternwhitespace"),
    ("qmark", "quotationmark"), ("ri", "regionalindicator"), ("sd", "softdotted"),
    ("sterm", "sentenceterminal"), ("term", "terminalpunctuation"), ("uideo", "unifiedideograph"),
    ("upper", "uppercase"), ("vs", "variationselector"), ("wspace", "whitespace"),
    ("space", "whitespace"), ("xidc", "xidcontinue"), ("xids", "xidstart") ]

/-- The names in loose form of the properties that have values of another kind, or no set of code
points that a name alone could stand for. -/
def otherPropertyNames : List String :=
  [ "age", "bc", "bidiclass", "bidimirroringglyph", "bidipairedbracket", "bidipairedbrackettype",
    "blk", "block", "bmg", "bpb", "bpt", "canonicalcombiningclass", "casefolding", "ccc",
    "ce", "cf", "cjkaccountingnumeric", "cjkcompatibilityvariant", "cjkiicore", "cjkirggsource",
    "cjkirghsource", "cjkirgjsource", "cjkirgkpsource", "cjkirgksource", "cjkirgmsource",
    "cjkirgssource", "cjkirgtsource", "cjkirguksource", "cjkirgusource", "cjkirgvsource",
    "cjkothernumeric", "cjkprimarynumeric", "cjkrsunicode", "compex", "compositionexclusion",
    "decompositionmapping", "decompositiontype", "dm", "dt", "ea", "eastasianwidth",
    "equivalentunifiedideograph", "equideo", "expandsonnfc", "expandsonnfd", "expandsonnfkc",
    "expandsonnfkd", "fcnfkc", "fcnfkcclosure", "fullcompositionexclusion", "gc", "gcb",
    "generalcategory", "graphemeclusterbreak", "graphemelink", "grlink", "hangulsyllabletype", "hst",
    "hyphen", "idcompatmathcontinue", "idcompatmathstart", "idsu", "idsunaryoperator", "incb",
    "indicconjunctbreak", "indicpositionalcategory", "indicsyllabiccategory", "inpc", "insc", "isc",
    "isocomment", "jamoshortname", "jg", "joininggroup", "joiningtype", "jsn", "jt",
    "kaccountingnumeric", "kcompatibilityvariant", "kiicore", "kothernumeric", "kprimarynumeric",
    "krsunicode", "lb", "lc", "linebreak", "lowercasemapping", "mcm",
    "modifiercombiningmark", "na", "na1", "name", "namealias", "nfcqc", "nfcquickcheck", "nfdqc",
    "nfdquickcheck", "nfkccasefold", "nfkccf", "nfkcqc", "nfkcquickcheck", "nfkcscf",
    "nfkcsimplecasefold", "nfkdqc", "nfkdquickcheck", "nt", "numerictype", "numericvalue", "nv",
    "odi", "otherdefaultignorablecodepoint", "pcm", "prependedconcatenationmark", "sb", "sc", "scf",
    "script", "scriptextensions", "scx", "sentencebreak", "sfc", "simplecasefolding",
    "simplelowercasemapping", "simpletitlecasemapping", "simpleuppercasemapping", "slc", "stc", "suc",
    "tc", "titlecasemapping", "uc", "unicode1name", "unicoderadicalstroke", "uppercasemapping", "urs",
    "verticalorientation", "vo", "wb", "wordbreak", "xonfc", "xonfd", "xonfkc", "xonfkd" ]

/-- The full name of a yes-or-no property from any of its names in loose form. -/
def fullPropertyName (name : String) : String :=
  ((propertyAliases.find? (·.1 == name)).map (·.2)).getD name

/-! ### Look-up -/

/-- Reads the outcome of looking up a value: an unknown value and one without code points are both
refused. -/
def valueSet (found : Option (Option CodeSet)) : Except PropertyError CodeSet :=
  match found with
  | some (some s) => .ok s
  | _ => .error .unknownValue

/-- The set that a name stands for.  A property comes before a category and a category before a
script; `cf`, `sc` and `lc` are categories although properties have those names too. -/
def setNamed (name : String) : Except PropertyError CodeSet :=
  let name := looseName name
  let asProperty : Option (Except PropertyError CodeSet) :=
    if name == "cf" || name == "sc" || name == "lc" then none
    else match propertySet (fullPropertyName name) with
      | some s => some (.ok s)
      | none => if otherPropertyNames.contains name then some (.error .unknownProperty) else none
  match asProperty with
  | some r => r
  | none =>
    match categoryNamed name with
    | some found => valueSet (some found)
    | none =>
      match scriptNamed name with
      | some found => valueSet (some found)
      | none => .error .unknownProperty

/-- The set of the code points that have the given value of the given property. -/
def setWithValue (property value : String) : Except PropertyError CodeSet :=
  let property := looseName property
  let value := looseName value
  match property with
  | "gc" | "generalcategory" => valueSet (categoryNamed value)
  | "sc" | "script" => valueSet (scriptNamed value)
  | "scx" | "scriptextensions" => valueSet (scriptExtensionNamed value)
  | _ =>
    if otherPropertyNames.contains property || (propertySet (fullPropertyName property)).isSome then
      .error .unknownValue
    else .error .unknownProperty

/-- The set that a query asks for. -/
def PropertyQuery.resolve : PropertyQuery → Except PropertyError CodeSet
  | .named name => setNamed name
  | .withValue property value => setWithValue property value

end ReplyRules.Unicode
