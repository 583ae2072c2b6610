import Mathlib.Data.List.Basic
import Mathlib.Tactic.Tauto

/-! JSON texts over code points: a reader that takes the value at the front of a text, and the grammar of the texts that
spell a value in any layout. A number with a fraction or an exponent stays the literal it is. -/

namespace CanX.Numeric

abbrev Point := Fin 0x110000

def point (character : Char) : Point := Fin.ofNat _ character.toNat

def points (literal : String) : List Point := literal.toList.map point

inductive Json where
  | null
  | boolean (value : Bool)
  | integer (value : Int)
  | decimal (literal : List Point)
  | string (value : List Point)
  | array (elements : List Json)
  | object (fields : List (List Point × Json))

/-- The text is no JSON text, or holds an integer of more digits than are converted. -/
inductive JsonFault where
  | decode
  | digits
  deriving DecidableEq

namespace Json

/-- The last of the fields of one name. -/
def field (fields : List (List Point × Json)) (name : List Point) : Option Json :=
  (fields.findRev? fun entry => entry.1 = name).map Prod.snd

section Reading

def blank (character : Point) : Bool :=
  character = point ' ' || character = point '\t' || character = point '\n' || character = point '\r'

def skip (text : List Point) : List Point := text.dropWhile blank

def digit (character : Point) : Bool := 0x30 ≤ character.val && character.val ≤ 0x39

def digitsValue (digits : List Point) : Nat := digits.foldl (fun high digit => 10 * high + (digit.val - 0x30)) 0

def hexDigit (character : Point) : Option Nat :=
  if 0x30 ≤ character.val ∧ character.val ≤ 0x39 then some (character.val - 0x30)
  else if 0x41 ≤ character.val ∧ character.val ≤ 0x46 then some (character.val - 0x37)
  else if 0x61 ≤ character.val ∧ character.val ≤ 0x66 then some (character.val - 0x57)
  else none

def hexUnit (first second third fourth : Point) : Option Nat := do
  let high ← hexDigit first
  let upper ← hexDigit second
  let lower ← hexDigit third
  let low ← hexDigit fourth
  return 0x1000 * high + 0x100 * upper + 0x10 * lower + low

/-- The letters that stand for one character behind a backslash. -/
def named : List (Point × Point) :=
  [(point '"', point '"'), (point '\\', point '\\'), (point '/', point '/'), (point 'b', Fin.ofNat _ 0x08),
    (point 'f', Fin.ofNat _ 0x0C), (point 'n', point '\n'), (point 'r', point '\r'), (point 't', point '\t')]

def unitPoint (unit : Nat) : Point := Fin.ofNat _ unit

/-- The character of two surrogates. -/
def pairPoint (high low : Nat) : Point := Fin.ofNat _ (0x10000 + 0x400 * (high - 0xD800) + (low - 0xDC00))

/-- The unit that a second escape joins to a high surrogate, and what follows it. -/
def joined (unit : Nat) (text : List Point) : Option (Point × List Point) :=
  match text with
  | slash :: letter :: first :: second :: third :: fourth :: rest =>
    if 0xD800 ≤ unit ∧ unit ≤ 0xDBFF ∧ slash = point '\\' ∧ letter = point 'u' then do
      let low ← hexUnit first second third fourth
      if 0xDC00 ≤ low ∧ low ≤ 0xDFFF then
        return (pairPoint unit low, rest)
      else return (unitPoint unit, text)
    else some (unitPoint unit, text)
  | _ => some (unitPoint unit, text)

/-- The character of an escape, behind its backslash. -/
def readEscape : List Point → Option (Point × List Point)
  | [] => none
  | letter :: rest =>
    if letter = point 'u' then
      match rest with
      | first :: second :: third :: fourth :: rest => do
        let unit ← hexUnit first second third fourth
        joined unit rest
      | _ => none
    else (named.lookup letter).map fun character => (character, rest)

/-- A string behind its opening quote. -/
def readString : Nat → List Point → Except JsonFault (List Point × List Point)
  | 0, _ => .error .decode
  | _ + 1, [] => .error .decode
  | fuel + 1, first :: rest =>
    if first = point '"' then .ok ([], rest)
    else if first.val < 0x20 then .error .decode
    else if first = point '\\' then
      match readEscape rest with
      | none => .error .decode
      | some escaped => do
        let whole ← readString fuel escaped.2
        return (escaped.1 :: whole.1, whole.2)
    else do
      let whole ← readString fuel rest
      return (first :: whole.1, whole.2)

def maxDigits : Nat := 4300

/-- A point and the digits behind it, where both are there. -/
def readFraction (text : List Point) : List Point × List Point :=
  match text with
  | dot :: first :: rest =>
    if dot = point '.' ∧ digit first then (dot :: first :: rest.takeWhile digit, rest.dropWhile digit) else ([], text)
  | _ => ([], text)

def readExponent (text : List Point) : List Point × List Point :=
  match text with
  | letter :: sign :: first :: rest =>
    if letter = point 'e' ∨ letter = point 'E' then
      if digit sign then (letter :: sign :: (first :: rest).takeWhile digit, (first :: rest).dropWhile digit)
      else if (sign = point '+' ∨ sign = point '-') ∧ digit first then
        (letter :: sign :: first :: rest.takeWhile digit, rest.dropWhile digit)
      else ([], text)
    else ([], text)
  | [letter, first] =>
    if (letter = point 'e' ∨ letter = point 'E') ∧ digit first then ([letter, first], []) else ([], text)
  | _ => ([], text)

/-- A number behind its sign. -/
def readUnsigned (sign : List Point) : List Point → Except JsonFault (Json × List Point)
  | [] => .error .decode
  | first :: rest =>
    if digit first then
      let whole := if first = point '0' then [first] else first :: rest.takeWhile digit
      let fraction := readFraction (if first = point '0' then rest else rest.dropWhile digit)
      let exponent := readExponent fraction.2
      if fraction.1 = [] ∧ exponent.1 = [] then
        if maxDigits < whole.length then .error .digits
        else .ok (.integer (if sign = [] then digitsValue whole else -(digitsValue whole : Int)), exponent.2)
      else .ok (.decimal (sign ++ whole ++ fraction.1 ++ exponent.1), exponent.2)
    else .error .decode

def keywords : List (List Point × Json) :=
  [(points "null", .null), (points "true", .boolean true), (points "false", .boolean false),
    (points "NaN", .decimal (points "NaN")), (points "Infinity", .decimal (points "Infinity"))]

/-- A value that no bracket or quote opens. -/
def readPlain : List Point → Except JsonFault (Json × List Point)
  | [] => .error .decode
  | first :: rest =>
    if digit first then readUnsigned [] (first :: rest)
    else if first = point '-' then
      if (points "Infinity").isPrefixOf rest then
        .ok (.decimal (points "-Infinity"), rest.drop (points "Infinity").length)
      else readUnsigned [first] rest
    else
      match keywords.find? fun keyword => keyword.1.isPrefixOf (first :: rest) with
      | some keyword => .ok (keyword.2, (first :: rest).drop keyword.1.length)
      | none => .error .decode

mutual

/-- The value at the front of a text, and what follows it. -/
def readValue : Nat → List Point → Except JsonFault (Json × List Point)
  | 0, _ => .error .decode
  | _ + 1, [] => .error .decode
  | fuel + 1, first :: rest =>
    if first = point '"' then do
      let whole ← readString fuel rest
      return (.string whole.1, whole.2)
    else if first = point '[' then
      match skip rest with
      | [] => .error .decode
      | next :: after =>
        if next = point ']' then .ok (.array [], after)
        else do
          let whole ← readElements fuel (next :: after)
          return (.array whole.1, whole.2)
    else if first = point '{' then
      match skip rest with
      | [] => .error .decode
      | next :: after =>
        if next = point '}' then .ok (.object [], after)
        else do
          let whole ← readFields fuel (next :: after)
          return (.object whole.1, whole.2)
    else readPlain (first :: rest)

def readElements : Nat → List Point → Except JsonFault (List Json × List Point)
  | 0, _ => .error .decode
  | fuel + 1, text => do
    let element ← readValue fuel text
    match skip element.2 with
    | [] => .error .decode
    | next :: after =>
      if next = point ']' then .ok ([element.1], after)
      else if next = point ',' then do
        let rest ← readElements fuel (skip after)
        return (element.1 :: rest.1, rest.2)
      else .error .decode

def readFields : Nat → List Point → Except JsonFault (List (List Point × Json) × List Point)
  | 0, _ => .error .decode
  | _ + 1, [] => .error .decode
  | fuel + 1, first :: text =>
    if first = point '"' then do
      let name ← readString fuel text
      match skip name.2 with
      | [] => .error .decode
      | colon :: behind =>
        if colon = point ':' then do
          let value ← readValue fuel (skip behind)
          match skip value.2 with
          | [] => .error .decode
          | next :: after =>
            if next = point '}' then .ok ([(name.1, value.1)], after)
            else if next = point ',' then do
              let rest ← readFields fuel (skip after)
              return ((name.1, value.1) :: rest.1, rest.2)
            else .error .decode
        else .error .decode
    else .error .decode

end

def byteOrderMark : Point := Fin.ofNat _ 0xFEFF

/-- The value of a whole text. Each nested value takes two of the fuel and at least one character. -/
def loads (text : List Point) : Except JsonFault Json :=
  if text.head? = some byteOrderMark then .error .decode
  else do
    let whole ← readValue (2 * text.length) (skip text)
    if skip whole.2 = [] then return whole.1 else .error .decode

end Reading

section Grammar

def Gap (space : List Point) : Prop := ∀ character ∈ space, blank character = true

/-- What may follow a number. -/
def Ends (text : List Point) : Prop :=
  ∀ character ∈ text.head?, blank character = true ∨ character ∈ [point ',', point ']', point '}']

def High (unit : Nat) : Prop := 0xD800 ≤ unit ∧ unit ≤ 0xDBFF

def Low (unit : Nat) : Prop := 0xDC00 ≤ unit ∧ unit ≤ 0xDFFF

/-- The text starts with the escape of a low surrogate. -/
inductive LowEscape : List Point → Prop where
  | starts (digits : hexUnit first second third fourth = some unit) (low : Low unit) :
      LowEscape (point '\\' :: point 'u' :: first :: second :: third :: fourth :: rest)

/-- The inside of a string and the characters it stands for. An escaped high surrogate that no escaped low one follows
stands for itself. -/
inductive Written : List Point → List Point → Prop where
  | nil : Written [] []
  | kept (open' : first ≠ point '"') (printed : 0x20 ≤ first.val) (unescaped : first ≠ point '\\')
      (rest : Written body value) : Written (first :: body) (first :: value)
  | letter (listed : named.lookup letter = some character) (rest : Written body value) :
      Written (point '\\' :: letter :: body) (character :: value)
  | unit (digits : hexUnit first second third fourth = some unit) (alone : High unit → ¬LowEscape body)
      (rest : Written body value) :
      Written (point '\\' :: point 'u' :: first :: second :: third :: fourth :: body) (unitPoint unit :: value)
  | pair (digits : hexUnit first second third fourth = some upper) (high : High upper)
      (others : hexUnit fifth sixth seventh eighth = some lower) (low : Low lower) (rest : Written body value) :
      Written (point '\\' :: point 'u' :: first :: second :: third :: fourth :: point '\\' :: point 'u' :: fifth ::
        sixth :: seventh :: eighth :: body) (pairPoint upper lower :: value)

def Digits (text : List Point) : Prop := text ≠ [] ∧ ∀ character ∈ text, digit character = true

/-- The digits of an integer: none follow a leading zero. -/
def Whole (text : List Point) : Prop := Digits text ∧ (text.head? = some (point '0') → text = [point '0'])

inductive Fraction : List Point → Prop where
  | none : Fraction []
  | some (digits : Digits text) : Fraction (point '.' :: text)

inductive Exponent : List Point → Prop where
  | none : Exponent []
  | some (letter : first = point 'e' ∨ first = point 'E') (signed : sign ∈ [[], [point '+'], [point '-']])
      (digits : Digits text) : Exponent (first :: (sign ++ text))

/-- A value that no bracket or quote opens. An integer has no more digits than are converted; a number with a fraction
or an exponent is kept as it is written. -/
inductive Token : List Point → Json → Prop where
  | keyword (listed : (text, value) ∈ keywords) : Token text value
  | infinity : Token (points "-Infinity") (.decimal (points "-Infinity"))
  | natural (whole : Whole text) (few : text.length ≤ maxDigits) : Token text (.integer (digitsValue text))
  | negative (whole : Whole text) (few : text.length ≤ maxDigits) :
      Token (point '-' :: text) (.integer (-(digitsValue text : Int)))
  | decimal (signed : sign = [] ∨ sign = [point '-']) (whole : Whole text) (fraction : Fraction tail)
      (exponent : Exponent power) (either : ¬(tail = [] ∧ power = [])) :
      Token (sign ++ text ++ tail ++ power) (.decimal (sign ++ text ++ tail ++ power))

inductive Form where
  | value (value : Json)
  | elements (elements : List Json)
  | fields (fields : List (List Point × Json))

/-- The text is a value, or what stands between the brackets of one, with any gaps. -/
inductive Spells : Form → List Point → Prop where
  | plain (token : Token text value) : Spells (.value value) text
  | string (written : Written body value) : Spells (.value (.string value)) (point '"' :: (body ++ [point '"']))
  | emptyArray (gap : Gap space) : Spells (.value (.array [])) (point '[' :: (space ++ [point ']']))
  | array (gap : Gap space) (inside : Spells (.elements elements) text) :
      Spells (.value (.array elements)) (point '[' :: (space ++ (text ++ [point ']'])))
  | emptyObject (gap : Gap space) : Spells (.value (.object [])) (point '{' :: (space ++ [point '}']))
  | object (gap : Gap space) (inside : Spells (.fields fields) text) :
      Spells (.value (.object fields)) (point '{' :: (space ++ (text ++ [point '}'])))
  | last (element : Spells (.value value) text) (gap : Gap space) : Spells (.elements [value]) (text ++ space)
  | more (element : Spells (.value value) text) (before : Gap space) (behind : Gap next)
      (rest : Spells (.elements elements) others) :
      Spells (.elements (value :: elements)) (text ++ (space ++ point ',' :: (next ++ others)))
  | lastField (named : Written body name) (before : Gap space) (behind : Gap next)
      (element : Spells (.value value) text) (gap : Gap final) :
      Spells (.fields [(name, value)])
        (point '"' :: (body ++ point '"' :: (space ++ point ':' :: (next ++ (text ++ final)))))
  | moreFields (named : Written body name) (before : Gap space) (behind : Gap next)
      (element : Spells (.value value) text) (gap : Gap final) (apart : Gap further)
      (rest : Spells (.fields fields) others) :
      Spells (.fields ((name, value) :: fields))
        (point '"' :: (body ++ point '"' :: (space ++ point ':' :: (next ++ (text ++ (final ++ point ',' ::
          (further ++ others)))))))

end Grammar

end Json

end CanX.Numeric
