import ApiSurface.Text.Blank
import ApiSurface.Text.Word

/-!
# Redaction of credentials

Three kinds of text carry a secret: a bearer token, a value given to a name that
stands for a credential, and a query parameter. Each kind is a recogniser: from a
place in a text it tells how many code points announce the secret, which are kept,
and how many make it up, which are replaced. A text is gone through from left to
right, once per kind, and a recognised stretch is never looked into again.

Names are recognised in any case, including the letters that differ from an English
letter by case alone: the dotted capital and the dotless small *i*, the long *s* and
the sign for kelvin.
-/

namespace ApiSurface.Redaction

open ApiSurface.Text

/-- What a secret is replaced by. -/
def mask : Text := "[REDACTED]"

/-- A recognised stretch of text: the number of code points kept and, after them, the
number of code points that make up the secret. -/
structure Found where
  kept : Nat
  secret : Nat
deriving DecidableEq, Repr

/-- A recogniser: given the code point before a place and the text from there, whether a
secret is announced there. -/
abbrev Recogniser := Option CodePoint → Text → Option Found

/-- Replaces every secret that a recogniser finds in a text, given the code point before
it. `skip` counts the code points of a recognised stretch that are still to be passed
over. -/
def replaceFrom (recognise : Recogniser) : Option CodePoint → Nat → Text → Text
  | _, skip + 1, point :: rest => replaceFrom recognise (some point) skip rest
  | before, 0, point :: rest =>
    match recognise before (point :: rest) with
    | some found =>
      (point :: rest).take found.kept ++ mask ++
        replaceFrom recognise (some point) (found.kept + found.secret - 1) rest
    | none => point :: replaceFrom recognise (some point) 0 rest
  | _, _, [] => []

/-- Replaces every secret that a recogniser finds in a text. -/
def replace (recognise : Recogniser) (text : Text) : Text := replaceFrom recognise none 0 text

/-- The characters that differ from a lower-case letter by case alone. -/
def caseForms (letter : Char) : List Char :=
  [letter, letter.toUpper] ++
    (if letter = 'i' then ['\u0130', '\u0131'] else if letter = 's' then ['\u017f']
      else if letter = 'k' then ['\u212a'] else [])

/-- What follows a word at the beginning of a text, whatever the case of its letters. -/
def afterWord? : List Char → Text → Option Text
  | [], rest => some rest
  | letter :: letters, point :: rest =>
    if point.any (caseForms letter).contains then afterWord? letters rest else none
  | _ :: _, [] => none

/-- Letters and digits, whatever their case. -/
def isAlphanumeric (c : Char) : Bool :=
  c.isAlphanum || ['\u0130', '\u0131', '\u017f', '\u212a'].contains c

/-- Whether a code point may stand in a bearer token. -/
def isOfToken : CodePoint → Bool :=
  CodePoint.any fun c => isAlphanumeric c || ['.', '_', '~', '+', '/', '=', '-'].contains c

/-- Whether a code point may stand in the value of a credential. -/
def isOfValue (point : CodePoint) : Bool :=
  !point.any fun c => isBlank c || [',', ';', '"', '\''].contains c

/-- Whether a code point may stand in a query parameter. -/
def isOfParameter (point : CodePoint) : Bool := !point.any fun c => isBlank c || c = '&'

/-- A stretch of secret code points at the beginning of a text, of which at least one is
needed. `kept` is the number of code points before it. -/
def secretAt (isSecret : CodePoint → Bool) (kept : Nat) (text : Text) : Option Found :=
  match (text.takeWhile isSecret).length with
  | 0 => none
  | count + 1 => some { kept, secret := count + 1 }

/-- A text without one quote at its beginning. -/
def dropQuote : Text → Text
  | point :: rest => if point.any ['"', '\''].contains then rest else point :: rest
  | [] => []

/-- A text without the blanks at its beginning. -/
def dropBlanks (text : Text) : Text := text.dropWhile (CodePoint.any isBlank)

/-- A bearer token: the word, at least one blank, the token. -/
def bearerToken : Recogniser := fun _ text =>
  match afterWord? "bearer".toList text with
  | none => none
  | some rest =>
    let token := dropBlanks rest
    if token.length = rest.length then none
    else secretAt isOfToken (text.length - token.length) token

/-- The names whose values are credentials. -/
def credentialNames : List (List Char) :=
  ["authorization", "token", "password", "passwd", "secret", "apikey", "api_key", "api-key",
    "client-key-data", "client-certificate-data"].map String.toList

/-- What follows a separator, blanks around it, and one quote before and after it, each
of which may be missing. -/
def afterSeparator? (text : Text) : Option Text :=
  match dropBlanks (dropQuote text) with
  | point :: rest =>
    if point.any [':', '='].contains then some (dropQuote (dropBlanks rest)) else none
  | [] => none

/-- What follows the name of a credential that is a word of its own. -/
def afterName? (text : Text) (name : List Char) : Option Text :=
  match afterWord? name text with
  | none => none
  | some rest => if isBoundary (name.getLast?.map .char) rest.head? then some rest else none

/-- The value of a credential: its name, a separator, the value. -/
def credential : Recogniser := fun before text =>
  if isBoundary before text.head? then
    match credentialNames.findSome? (afterName? text) with
    | none => none
    | some rest =>
      match afterSeparator? rest with
      | none => none
      | some value => secretAt isOfValue (text.length - value.length) value
  else none

/-- The names of query parameters that are secret. -/
def parameterNames : List (List Char) :=
  ["token=", "access_token=", "api_key=", "password="].map String.toList

/-- A secret query parameter: its start, its name, the value. -/
def queryParameter : Recogniser := fun _ text =>
  match text with
  | point :: rest =>
    if point.any ['?', '&'].contains then
      match parameterNames.findSome? fun name => afterWord? name rest with
      | none => none
      | some value => secretAt isOfParameter (text.length - value.length) value
    else none
  | [] => none

/-- A text without its credentials. -/
def redact (text : Text) : Text :=
  replace queryParameter (replace credential (replace bearerToken text))

end ApiSurface.Redaction
