/-!
Media types, as far as it takes to know JSON.

A media type is a type and a subtype with a slash between them, and then perhaps parameters, each
after a semicolon. A subtype may end in a plus sign and a suffix. Letters count the same in either
case.
-/

namespace FleetIdentity

namespace MediaType

/-- A character of a name. -/
def isNameChar (c : Char) : Bool :=
  c.isAlphanum || "!#$%&'*+-.^_`|~".toList.contains c

/-- A character between quotes. -/
def isQuotedChar (c : Char) : Bool :=
  ' ' ≤ c && c ≤ '~'

/-- The text after the spaces and the semicolon that may follow a quoted value. -/
def afterQuoted? : List Char → Option (List Char)
  | [] => some []
  | ' ' :: rest => afterQuoted? rest
  | ';' :: rest => some rest
  | _ => none

/-- The text after a value between quotes and the semicolon that may follow it. The value is not
empty, and its first character may be a quote. -/
def skipQuoted? : List Char → Option (List Char)
  | [] => none
  | first :: text =>
    if !isQuotedChar first then none
    else match text.dropWhile fun c => c ≠ '"' ∧ isQuotedChar c with
      | '"' :: rest => afterQuoted? rest
      | _ => none

/-- The text after a value that is not quoted and the semicolon that may follow it. -/
def skipPlain? (text : List Char) : Option (List Char) :=
  match text.dropWhile isNameChar with
  | [] => some []
  | ';' :: rest => if rest.length + 1 < text.length then some rest else none
  | _ => none

/-- The text after a parameter. -/
def skipParameter? (text : List Char) : Option (List Char) :=
  match text.dropWhile isNameChar with
  | '=' :: rest =>
    if rest.length + 1 = text.length then none
    else match rest with
      | '"' :: quoted => skipQuoted? quoted
      | _ => skipPlain? rest
  | _ => none

/-- The text is a list of parameters; spaces before a parameter do not count. -/
def areParameters (text : List Char) : (fuel : Nat) → Bool
  | 0 => false
  | fuel + 1 =>
    match text.dropWhile (· = ' ') with
    | [] => true
    | rest => match skipParameter? rest with
      | some rest => areParameters rest fuel
      | none => false

/-- The type and the subtype of a media type in small letters. -/
def essence? (text : String) : Option (String × String) :=
  let (first, rest) := text.toList.span isNameChar
  match rest with
  | '/' :: rest =>
    let (second, rest) := rest.span isNameChar
    let parametersAreGood := match rest with
      | [] => true
      | ';' :: parameters => !second.isEmpty && areParameters parameters (parameters.length + 1)
      | _ => false
    if first.isEmpty || !parametersAreGood then none
    else some ((String.ofList first).toLower, (String.ofList second).toLower)
  | _ => none

/-- The parts of a subtype before and after its last plus sign, which is not its first character. -/
def splitSuffix (subtype : String) : String × Option String :=
  let suffix := subtype.toList.reverse.takeWhile (· ≠ '+')
  let before := subtype.toList.take (subtype.length - suffix.length - 1)
  if before.isEmpty then (subtype, none)
  else (String.ofList before, some (String.ofList suffix.reverse))

/-- The subtype is that of JSON, or its suffix is. -/
def isJsonSubtype (subtype : String) : Bool :=
  let (name, suffix) := splitSuffix subtype
  name == "json" || suffix == some "json"

/-- The media type is one of JSON. -/
def isJson (text : String) : Bool :=
  match essence? text with
  | some (type, subtype) => type == "application" && isJsonSubtype subtype
  | none => false

end MediaType

end FleetIdentity
