import HardwareFingerprint.Bytes.Basic
import HardwareFingerprint.Numeral.Decimal

/-!
# Output templates

A template is a text with escapes and directives. An escape stands for one byte. A directive is
filled with the next argument, and the template is used again while arguments are left. Where the
arguments run out, an empty text or a zero stands in.
-/
namespace HardwareFingerprint.Machine.Template

set_option autoImplicit false

/-- The value of an octal digit. -/
def octalValue? (c : Char) : Option Nat :=
  (Text.digitValue? c).filter (· < 8)

/-- The bytes of the escapes that have a letter. -/
def letters : List (Char × UInt8) :=
  [('a', 7), ('b', 8), ('t', 9), ('n', 10), ('v', 11), ('f', 12), ('r', 13), ('\\', 92)]

/-- The number that at most three octal digits give, as a byte. -/
def octalByte (digits : List Char) : UInt8 :=
  UInt8.ofNat (digits.foldl (fun n c => n * 8 + (octalValue? c).getD 0) 0)

/-- The byte of an escape, given what follows its backslash, and the rest. A backslash before any
other character stands for itself. -/
def readEscape (cs : List Char) : UInt8 × List Char :=
  let digits := (cs.take 3).takeWhile fun c => (octalValue? c).isSome
  if digits.isEmpty then
    match cs with
    | [] => (92, [])
    | c :: rest =>
      match letters.lookup c with
      | some b => (b, rest)
      | none => (92, cs)
  else (octalByte digits, cs.drop digits.length)

/-- What a directive does with an argument: it is filled to a width, from the right if asked for, or
with zeros, and its precision cuts a text or widens a number. -/
structure Directive where
  isLeft : Bool
  isZeroed : Bool
  isSigned : Bool
  width : Nat
  precision : Option Nat
  conversion : Char

/-- A piece of a template. -/
inductive Item where
  | byte (b : UInt8)
  | directive (d : Directive)
  | broken (reason : String)

/-- The number that decimal digits give. -/
def number (digits : List Char) : Nat :=
  digits.foldl (fun n c => n * 10 + (Text.digitValue? c).getD 0) 0

/-- The conversions that a directive may have. -/
def conversions : List Char :=
  ['s', 'b', 'c', 'd', 'i', 'u', 'o', 'x', 'X']

/-- The directive after a percent sign, and the rest. -/
def readDirective (cs : List Char) : Item × List Char :=
  let isFlag (c : Char) : Bool := ['-', '0', '+', ' ', '#'].contains c
  let flags := cs.takeWhile isFlag
  let rest := cs.dropWhile isFlag
  let width := rest.takeWhile Text.isDigit
  let rest := rest.dropWhile Text.isDigit
  let (precision, rest) := match rest with
    | '.' :: rest => (some (number (rest.takeWhile Text.isDigit)), rest.dropWhile Text.isDigit)
    | rest => (none, rest)
  match rest with
  | [] => (.broken "missing format character", [])
  | c :: rest =>
    if conversions.contains c then
      (.directive ⟨flags.contains '-', flags.contains '0', flags.contains '+', number width,
        precision, c⟩, rest)
    else
      let read := cs.take (cs.length - rest.length)
      (.broken (String.ofList ('%' :: read) ++ ": invalid directive"), [])

/-- The items of a template. Each step reads at least one character, so the length of the template
is steps enough. -/
def itemsIn : Nat → List Char → List Item
  | 0, _ => []
  | _, [] => []
  | steps + 1, c :: cs =>
    if c = '\\' then
      let (b, rest) := readEscape cs
      .byte b :: itemsIn steps rest
    else if c = '%' then
      match cs with
      | '%' :: rest => .byte 37 :: itemsIn steps rest
      | cs =>
        let (item, rest) := readDirective cs
        item :: itemsIn steps rest
    else (Bytes.ofText (String.singleton c)).map Item.byte ++ itemsIn steps cs

def items (template : String) : List Item :=
  itemsIn template.toList.length template.toList

/-- The text whose escapes are read, byte by byte, and whether it asks for the end of all output. -/
def unescapeIn : Nat → List Char → Bytes × Bool
  | 0, _ => ([], false)
  | _, [] => ([], false)
  | steps + 1, c :: cs =>
    if c = '\\' then
      match cs with
      | 'c' :: _ => ([], true)
      | '0' :: d :: cs =>
        let (b, rest) := if (octalValue? d).isSome then readEscape (d :: cs) else (0, d :: cs)
        let (more, stop) := unescapeIn steps rest
        (b :: more, stop)
      | cs =>
        let (b, rest) := readEscape cs
        let (more, stop) := unescapeIn steps rest
        (b :: more, stop)
    else
      let (more, stop) := unescapeIn steps cs
      (Bytes.ofText (String.singleton c) ++ more, stop)

def unescape (s : String) : Bytes × Bool :=
  unescapeIn s.toList.length s.toList

/-- The bytes filled with spaces to a width. -/
def padTo (d : Directive) (b : Bytes) : Bytes :=
  let spaces := List.replicate (d.width - b.length) 32
  if d.isLeft then b ++ spaces else spaces ++ b

/-- A number written as a directive asks. -/
def numberText (d : Directive) (n : Int) : Bytes :=
  let base := match d.conversion with
    | 'o' => 8
    | 'x' | 'X' => 16
    | _ => 10
  let magnitude := if base = 10 ∧ d.conversion ≠ 'u' then n.natAbs
    else (n % Numeral.countOf 64).toNat
  let digits := Nat.toDigits base magnitude
  let digits := if d.conversion = 'X' then digits.map Text.upperChar else digits
  let sign := if base = 10 ∧ d.conversion ≠ 'u' then
      if n < 0 then ['-'] else if d.isSigned then ['+'] else []
    else []
  let least := match d.precision with
    | some p => p
    | none => if d.isZeroed ∧ ¬ d.isLeft then d.width - sign.length else 0
  let digits := List.replicate (least - digits.length) '0' ++ digits
  padTo d (Bytes.ofText (String.ofList (sign ++ digits)))

/-- The number that an argument gives. Nothing gives zero, and a quote gives the number of the
character after it. -/
def argumentNumber (s : String) : Except String Int :=
  match s.toList with
  | [] => .ok 0
  | '\'' :: c :: _ => .ok c.toNat
  | '"' :: c :: _ => .ok c.toNat
  | '-' :: cs =>
    match Numeral.readBelow (Numeral.countOf 63 + 1) cs with
    | .ok n => .ok (-(n : Int))
    | .error _ => .error (s ++ ": expected numeric value")
  | cs =>
    match Numeral.readBelow (Numeral.countOf 64) cs with
    | .ok n => .ok n
    | .error _ => .error (s ++ ": expected numeric value")

/-- What filling a template comes to so far. -/
structure Filled where
  written : Bytes
  complaints : List String
  stopped : Bool

/-- One use of the items, with the arguments that are left. -/
def fill : List Item → List String → Filled → Filled × List String
  | [], arguments, f => (f, arguments)
  | .byte b :: items, arguments, f => fill items arguments { f with written := f.written ++ [b] }
  | .broken reason :: _, _, f =>
    ({ f with complaints := f.complaints ++ [reason], stopped := true }, [])
  | .directive d :: items, arguments, f =>
    let argument := arguments.headD ""
    let add (b : Bytes) : Filled := { f with written := f.written ++ b }
    match d.conversion with
    | 's' =>
      let b := Bytes.ofText argument
      fill items arguments.tail (add (padTo d (match d.precision with
        | some p => b.take p
        | none => b)))
    | 'c' => fill items arguments.tail (add (padTo d ((Bytes.ofText argument ++ [0]).take 1)))
    | 'b' =>
      let (b, stop) := unescape argument
      if stop then ({ add b with stopped := true }, [])
      else fill items arguments.tail (add (padTo d b))
    | _ =>
      match argumentNumber argument with
      | .ok n => fill items arguments.tail (add (numberText d n))
      | .error complaint =>
        fill items arguments.tail
          { add (numberText d 0) with complaints := f.complaints ++ [complaint] }

/-- Uses the items again while arguments are left. Each use but the last takes an argument, so their
number is rounds enough. -/
def rounds (items : List Item) : Nat → List String → Filled → Filled
  | 0, _, f => f
  | n + 1, arguments, f =>
    let (f', rest) := fill items arguments f
    if f'.stopped || rest.isEmpty || rest.length = arguments.length then f'
    else rounds items n rest f'

/-- The template filled with the arguments. -/
def apply (template : String) (arguments : List String) : Filled :=
  rounds (items template) (arguments.length + 1) arguments ⟨[], [], false⟩

end HardwareFingerprint.Machine.Template
