import ApiSurface.Decimal.Fixed
import ApiSurface.Value.Number
import ApiSurface.Value.Text

/-!
# Message templates

A message is a template with arguments. A directive is a percent sign, then
possibly the name of an argument, flags, a width and a precision, and last the kind
of text wanted; two percent signs stand for one. Arguments are taken in turn, or by
name from one record; too few, too many or unfit arguments are faults, and so is a
directive that breaks off.
-/

namespace ApiSurface.Text

/-- The arguments of a template: values to be taken in turn, or one record of named ones.
A directive without a name takes the value that is next, which at first is the record
itself. -/
inductive TemplateArguments where
  | inTurn (values : List Value)
  | named (entries : List (Text × Value)) (next : Option Value)

/-- Why a template cannot be filled in. -/
inductive TemplateFault where
  /-- Too few or too many arguments, or one that does not fit its directive. -/
  | unfit
  | missingName
  | unbounded
  | notANumber
  /-- The template ends within a directive. -/
  | incomplete
  /-- The template ends within the name of an argument. -/
  | incompleteName
  | unsupported (kind : CodePoint) (index : Nat)
  /-- A width that is no number of characters. -/
  | tooWide
  /-- A precision that is no number of digits. -/
  | tooPrecise
  /-- A text too long to be made. -/
  | tooLong
deriving DecidableEq, Repr

/-- The wording of a template that cannot be filled, where it has one. -/
def TemplateFault.message : TemplateFault → String
  | notANumber => "cannot convert float NaN to integer"
  | incomplete => "incomplete format"
  | incompleteName => "incomplete format key"
  | tooWide => "width too big"
  | tooPrecise => "precision too big"
  | unsupported kind index =>
    let shown :=
      if 0x1F ≤ kind.number ∧ kind.number ≤ 0x7E then Char.ofNat kind.number else '?'
    "unsupported format character '" ++ String.singleton shown ++ "' (0x" ++
      String.ofList (Nat.toDigits 16 kind.number) ++ ") at index " ++ toString index
  | _ => ""

/-- A directive without its arguments. -/
structure Directive where
  flags : Text
  width : Nat
  precision : Option Nat
  kind : CodePoint
deriving DecidableEq, Repr

namespace TemplateArguments

/-- The next argument and those after it. -/
def next? : TemplateArguments → Except TemplateFault (Value × TemplateArguments)
  | inTurn (value :: values) => .ok (value, inTurn values)
  | inTurn [] => .error .unfit
  | named entries (some value) => .ok (value, named entries none)
  | named _ none => .error .unfit

/-- Makes the argument of a given name the next one. -/
def choose (name : Text) : TemplateArguments → Except TemplateFault TemplateArguments
  | inTurn _ => .error .unfit
  | named entries _ =>
    match entries.lookup name with
    | some value => .ok (named entries (some value))
    | none => .error .missingName

/-- Whether no argument is left over. -/
def isExhausted : TemplateArguments → Bool
  | inTurn values => values.isEmpty
  | named _ _ => true

end TemplateArguments

namespace Directive

/-- Whether a flag is set. -/
def has (directive : Directive) (flag : Char) : Bool := directive.flags.contains (.char flag)

/-- A body put into the width of a directive, behind what must stay in front of it. -/
def pad (directive : Directive) (numeric : Bool) (front body : Text) : Text :=
  let missing := directive.width - (front.length + body.length)
  if directive.has '-' then front ++ body ++ List.replicate missing (.char ' ')
  else if numeric && directive.has '0' then front ++ List.replicate missing (.char '0') ++ body
  else List.replicate missing (.char ' ') ++ front ++ body

/-- The sign in front of a number. -/
def sign (directive : Directive) (negative : Bool) : Text :=
  if negative then "-" else if directive.has '+' then "+"
  else if directive.has ' ' then " " else ""

/-- One code point, which zeros never pad. -/
def ofPoint (directive : Directive) (point : CodePoint) : Text := directive.pad false [] [point]

/-- Text, cut to the precision. -/
def ofText (directive : Directive) (text : Text) : Text :=
  directive.pad false [] (match directive.precision with
    | some most => text.take most
    | none => text)

/-- An integer in a base, with the base's mark if wanted. -/
def ofInteger (directive : Directive) (base : Nat) (mark : Text) (upper : Bool) (n : Int) :
    Text :=
  let digits := Nat.toDigits base n.natAbs
  let digits := List.replicate (directive.precision.getD 0 - digits.length) '0' ++ digits
  directive.pad true (directive.sign (n < 0) ++ if directive.has '#' then mark else [])
    (ofChars (if upper then digits.map Char.toUpper else digits))

/-- The digits of a number with a fraction, in the notation that a letter stands for. -/
def fractionDigits (directive : Directive) (style : Char) (numerator denominator : Nat) :
    List Char :=
  let places := directive.precision.getD 6
  match style with
  | 'f' => Decimal.withPlaces (directive.has '#') places numerator denominator
  | 'e' => Decimal.withExponent (directive.has '#') places numerator denominator
  | _ => Decimal.general (directive.has '#') (max places 1) numerator denominator

/-- A number with a fraction, in the notation that a letter stands for; a capital letter
stands for capitals. -/
def ofDouble (directive : Directive) (letter : Char) (number : Decimal.Double) : Text :=
  let (negative, body) : Bool × List Char :=
    match number with
    | .notANumber => (false, "nan".toList)
    | .infinite negative => (negative, "inf".toList)
    | .finite negative mantissa exponent =>
      let (numerator, denominator) := Decimal.fraction mantissa exponent
      (negative, directive.fractionDigits letter.toLower numerator denominator)
  directive.pad true (directive.sign negative)
    (ofChars (if letter.isUpper then body.map Char.toUpper else body))

/-- The number a value is, for a directive that wants a fraction. -/
def doubleOf : Value → Except TemplateFault Decimal.Double
  | .float x => .ok (Decimal.Double.ofFloat x)
  | .int n =>
    match Decimal.Double.ofFloat (Float.ofInt n) with
    | .infinite _ => .error .unbounded
    | number => .ok number
  | .bool b => .ok (Decimal.Double.ofFloat (if b then 1.0 else 0.0))
  | _ => .error .unfit

/-- The integer a value is, for a directive that wants one; fractions are dropped. -/
def integerOf : Value → Except TemplateFault Int
  | .text _ => .error .unfit
  | value =>
    match value.toInteger with
    | .ok n => .ok n
    | .error .unreadable => .error .notANumber
    | .error .unbounded => .error .unbounded
    | .error .wrongType => .error .unfit

/-- The integer a value is, for a directive that wants nothing else. -/
def exactIntegerOf (value : Value) : Except TemplateFault Int :=
  match value.asInteger? with
  | some n => .ok n
  | none => .error .unfit

/-- The code point of a number. -/
def pointOfNumber (n : Int) : Except TemplateFault CodePoint :=
  if n < 0 then .error .unbounded
  else
    match CodePoint.ofNat? n.toNat with
    | some point => .ok point
    | none => .error .unbounded

/-- The one code point a value stands for. -/
def pointOf : Value → Except TemplateFault CodePoint
  | .text [point] => .ok point
  | .text _ => .error .unfit
  | value =>
    match value.asInteger? with
    | some n => pointOfNumber n
    | none => .error .unfit

/-- Text with everything beyond the printable ASCII characters escaped. -/
def asciiOnly (text : Text) : Text :=
  text.flatMap fun point =>
    if point.number < 0x7F then [point] else ofChars (numberEscape point.number)

/-- The greatest precision of an integer. -/
def greatestIntegerPrecision : Nat := Nat.pow 2 31 - 4

/-- An integer in a base, unless the precision is too great for one. -/
def fillInteger (directive : Directive) (base : Nat) (mark : Text) (upper : Bool) (n : Int) :
    Except TemplateFault Text :=
  if greatestIntegerPrecision < directive.precision.getD 0 then .error .unbounded
  else .ok (directive.ofInteger base mark upper n)

/-- What a directive makes of a value, whatever its width. `index` is the place of its kind
in the template. -/
def fillAnyWidth (directive : Directive) (index : Nat) (value : Value) :
    Except TemplateFault Text :=
  match directive.kind with
  | .char 's' => .ok (directive.ofText value.toText)
  | .char 'r' => .ok (directive.ofText value.shown)
  | .char 'a' => .ok (directive.ofText (asciiOnly value.shown))
  | .char 'c' => (pointOf value).map directive.ofPoint
  | .char 'd' => (integerOf value).bind (directive.fillInteger 10 "" false)
  | .char 'i' => (integerOf value).bind (directive.fillInteger 10 "" false)
  | .char 'u' => (integerOf value).bind (directive.fillInteger 10 "" false)
  | .char 'o' => (exactIntegerOf value).bind (directive.fillInteger 8 "0o" false)
  | .char 'x' => (exactIntegerOf value).bind (directive.fillInteger 16 "0x" false)
  | .char 'X' => (exactIntegerOf value).bind (directive.fillInteger 16 "0X" true)
  | .char letter =>
    if ['e', 'E', 'f', 'F', 'g', 'G'].contains letter then
      (doubleOf value).map (directive.ofDouble letter)
    else .error (.unsupported letter index)
  | .half place => .error (.unsupported (.half place) index)

/-- The greatest width for which there is room. -/
def roomiestWidth : Nat := Nat.pow 2 40

/-- What a directive makes of a value, if there is room for it. -/
def fill (directive : Directive) (index : Nat) (value : Value) : Except TemplateFault Text :=
  if directive.width ≤ roomiestWidth then directive.fillAnyWidth index value
  else
    match { directive with width := 0 }.fillAnyWidth index value with
    | .error fault => .error fault
    | .ok _ => .error .tooLong

end Directive

/-- The name in parentheses at the beginning of a directive, with the parentheses that
are still open, and what follows it. -/
def templateName (opened : Nat) : Text → Except TemplateFault (Text × Text)
  | [] => .error .incompleteName
  | .char ')' :: rest =>
    match opened with
    | 0 => .ok ([], rest)
    | opened + 1 => (templateName opened rest).map fun (name, rest) => (.char ')' :: name, rest)
  | .char '(' :: rest =>
    (templateName (opened + 1) rest).map fun (name, rest) => (.char '(' :: name, rest)
  | point :: rest => (templateName opened rest).map fun (name, rest) => (point :: name, rest)

/-- The number that stands for a star, which may be as far below zero as a machine word
of a given greatest number reaches. -/
def starNumber (limit : Nat) (value : Value) : Except TemplateFault Int :=
  match value.asInteger? with
  | some n => if -(limit : Int) - 1 ≤ n ∧ n ≤ limit then .ok n else .error .unbounded
  | none => .error .unfit

/-- A number in a directive, or one taken from the arguments if a star stands for it; a
number beyond a limit is a fault. -/
def templateNumber (limit : Nat) (beyond : TemplateFault) (arguments : TemplateArguments) :
    Text → Except TemplateFault (Option Int × TemplateArguments × Text)
  | .char '*' :: rest => do
    let (value, arguments) ← arguments.next?
    let n ← starNumber limit value
    .ok (some n, arguments, rest)
  | text =>
    let digits := text.takeWhile (CodePoint.any Char.isDigit)
    let rest := text.dropWhile (CodePoint.any Char.isDigit)
    let number := ofDigits (digits.filterMap pointDigit)
    if limit < number then .error beyond
    else .ok (if digits.isEmpty then none else some number, arguments, rest)

/-- The greatest width. -/
def greatestWidth : Nat := Nat.pow 2 63 - 1

/-- The greatest precision. -/
def greatestPrecision : Nat := Nat.pow 2 31 - 1

/-- The precision of a directive, if it has one. -/
def templatePrecision (arguments : TemplateArguments) :
    Text → Except TemplateFault (Option Nat × TemplateArguments × Text)
  | .char '.' :: rest =>
    (templateNumber greatestPrecision .tooPrecise arguments rest).map
      fun (number, arguments, rest) => (some (number.getD 0).toNat, arguments, rest)
  | text => .ok (none, arguments, text)

/-- A width that may be negative, which puts the text to the left. A negative width with
no positive counterpart counts as none. -/
def withWidth (flags : Text) : Option Int → Text × Nat
  | some n =>
    if n < 0 then (.char '-' :: flags, if n.natAbs ≤ greatestWidth then n.natAbs else 0)
    else (flags, n.toNat)
  | none => (flags, 0)

/-- Reads the name of a directive, if it has one, and makes its argument the next. -/
def templateKey (arguments : TemplateArguments) :
    Text → Except TemplateFault (TemplateArguments × Text)
  | .char '(' :: rest =>
    match arguments with
    | .inTurn _ => .error .unfit
    | .named _ _ => do
      let (name, rest) ← templateName 0 rest
      let arguments ← arguments.choose name
      .ok (arguments, rest)
  | text => .ok (arguments, text)

/-- Leaves out a letter for the size of a number, which means nothing. -/
def skipSize : Text → Text
  | point :: rest => if point.any ['h', 'l', 'L'].contains then rest else point :: rest
  | [] => []

/-- Whether a character is a flag. -/
def isTemplateFlag (c : Char) : Bool := ['-', '+', ' ', '#', '0'].contains c

/-- What a directive stands for, given what follows its percent sign: the text, the
arguments left, and the rest of the template. -/
def fillDirective (arguments : TemplateArguments) (index : Nat) (text : Text) :
    Except TemplateFault (Text × TemplateArguments × Text) := do
  let isFlag := CodePoint.any isTemplateFlag
  let (arguments, afterKey) ← templateKey arguments text
  let (width, arguments, rest) ←
    templateNumber greatestWidth .tooWide arguments (afterKey.dropWhile isFlag)
  let (flags, width) := withWidth (afterKey.takeWhile isFlag) width
  let (precision, arguments, rest) ← templatePrecision arguments rest
  match skipSize rest with
  | [] => .error .incomplete
  | kind :: rest =>
    let (value, arguments) ← arguments.next?
    let directive : Directive := { flags, width, precision, kind }
    let filled ← directive.fill (index + (text.length - rest.length)) value
    .ok (filled, arguments, rest)

/-- Fills in a template from an index on, with at most `fuel` directives and code points. -/
def fillFrom : Nat → TemplateArguments → Nat → Text → Except TemplateFault Text
  | _, arguments, _, [] => if arguments.isExhausted then .ok [] else .error .unfit
  | 0, _, _, _ :: _ => .error .incomplete
  | fuel + 1, arguments, index, .char '%' :: .char '%' :: rest =>
    (fillFrom fuel arguments (index + 2) rest).map (.char '%' :: ·)
  | fuel + 1, arguments, index, .char '%' :: rest =>
    match fillDirective arguments index rest with
    | .error fault => .error fault
    | .ok (filled, arguments, more) =>
      (fillFrom fuel arguments (index + 1 + (rest.length - more.length)) more).map (filled ++ ·)
  | fuel + 1, arguments, index, point :: rest =>
    (fillFrom fuel arguments (index + 1) rest).map (point :: ·)

/-- A template with its arguments filled in. -/
def fillTemplate (template : Text) (arguments : TemplateArguments) : Except TemplateFault Text :=
  fillFrom template.length arguments 0 template

end ApiSurface.Text
