/-!
# Media types

A media type is a type and a subtype of token characters with a slash between them, and parameters
after semicolons or blanks. The subtype may end in a suffix after a plus sign, as in
`application/problem+json`. Upper and lower case are the same.

## Main definitions

* `MediaType.isJson` — whether a text is a media type whose content is JSON
-/

namespace SharedSheet.Web.MediaType

/-- The characters of tokens. -/
def isTokenChar (c : Char) : Bool :=
  c.isAlphanum || "!#$%&'*+-.^_|~".toList.contains c || c == '\x60'

/-- The characters that may stand between quotes. -/
def isQuotedChar (c : Char) : Bool := 0x20 ≤ c.toNat && c.toNat < 0x7F

/-- Where one stands in a list of parameters. A parameter's value is a token, or a text in quotes
that is not empty. -/
inductive ParameterPlace where
  /-- Before a parameter, or in white space. -/
  | before
  /-- In its name. -/
  | name
  /-- After the equals sign. -/
  | start
  /-- In a token. -/
  | token
  /-- In a text in quotes, before its first character or after it. -/
  | quoted (isEmpty : Bool)
  /-- After the closing quote. -/
  | afterQuote
  deriving DecidableEq

/-- The place after one more character, unless the character does not fit. -/
def ParameterPlace.next? (p : ParameterPlace) (c : Char) : Option ParameterPlace :=
  match p with
  | before => if c = ' ' then some before else if isTokenChar c then some name else none
  | name => if c = '=' then some start else if isTokenChar c then some name else none
  | start => if c = '"' then some (quoted true) else if isTokenChar c then some token else none
  | token => if c = ';' then some before else if isTokenChar c then some token else none
  | quoted isEmpty =>
    if c = '"' ∧ !isEmpty then some afterQuote
    else if isQuotedChar c then some (quoted false) else none
  | afterQuote => if c = ';' then some before else if c = ' ' then some afterQuote else none

/-- Whether parameters may end at a place. -/
def ParameterPlace.mayEnd : ParameterPlace → Bool
  | before | start | token | afterQuote => true
  | name | quoted _ => false

/-- Whether a text is a list of parameters. -/
def areParameters (cs : List Char) : Bool :=
  (cs.foldlM ParameterPlace.next? .before).any ParameterPlace.mayEnd

/-- Whether a subtype means JSON: without its suffix, or by its suffix. -/
def isJsonSubtype (cs : List Char) : Bool :=
  let json := ['j', 's', 'o', 'n']
  match cs.reverse.span (· ≠ '+') with
  | (last, _ :: first) => first.reverse == json || last.reverse == json
  | (_, []) => cs == json

/-- Whether a text is a media type whose content is JSON. -/
def isJson (s : String) : Bool :=
  let cs := s.toList.map Char.toLower
  let kind := cs.takeWhile (· ≠ '/')
  let rest := (cs.dropWhile (· ≠ '/')).drop 1
  let subtype := rest.takeWhile isTokenChar
  kind == "application".toList && isJsonSubtype subtype &&
    match rest.drop subtype.length with
    | [] => true
    | c :: parameters => (c == ';' || c == ' ') && areParameters parameters

end SharedSheet.Web.MediaType
