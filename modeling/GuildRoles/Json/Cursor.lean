import GuildRoles.Json.Value

/-!
# Reading JSON text

A cursor walks the UTF-8 bytes of a text and knows its place: the line, counted from 1, and the
column, the number of bytes read since the last line feed. A fault found at the cursor is
reported at that place; a fault found while looking at the next byte is reported one byte
further ("peek" faults). Faults of meaning, such as a value of the wrong kind, start without a
place and get the cursor's place when the read of the enclosing value gives up (`fixPlace`).

The readers here are the leaves: blanks, literal words, strings with their escapes, numbers with
their three kinds, and skipping a whole value. Loops carry fuel equal to the bytes left, since
each round consumes a byte.
-/

namespace GuildRoles.Json

/-- A place in a text: the line from 1 and the bytes read since the last line feed. -/
structure Place where
  line : Nat
  column : Nat
  deriving DecidableEq, Repr

/-- What went wrong while reading a text. -/
inductive Fault where
  | eofInList
  | eofInObject
  | eofInString
  | eofInValue
  | expectedColon
  | expectedListCommaOrEnd
  | expectedObjectCommaOrEnd
  | expectedIdent
  | expectedValue
  | invalidEscape
  | invalidNumber
  | numberOutOfRange
  | controlCharacterInString
  | keyMustBeString
  | loneSurrogate
  | trailingComma
  | trailingCharacters
  | unexpectedEndOfHexEscape
  | recursionLimit
  /-- A fault of meaning, with its sentence. -/
  | meaning (text : String)
  deriving DecidableEq, Repr

/-- The sentence of a fault. -/
def Fault.text : Fault → String
  | .eofInList => "EOF while parsing a list"
  | .eofInObject => "EOF while parsing an object"
  | .eofInString => "EOF while parsing a string"
  | .eofInValue => "EOF while parsing a value"
  | .expectedColon => "expected `:`"
  | .expectedListCommaOrEnd => "expected `,` or `]`"
  | .expectedObjectCommaOrEnd => "expected `,` or `\x7d`"
  | .expectedIdent => "expected ident"
  | .expectedValue => "expected value"
  | .invalidEscape => "invalid escape"
  | .invalidNumber => "invalid number"
  | .numberOutOfRange => "number out of range"
  | .controlCharacterInString => "control character (\\u0000-\\u001F) found while parsing a string"
  | .keyMustBeString => "key must be a string"
  | .loneSurrogate => "lone leading surrogate in hex escape"
  | .trailingComma => "trailing comma"
  | .trailingCharacters => "trailing characters"
  | .unexpectedEndOfHexEscape => "unexpected end of hex escape"
  | .recursionLimit => "recursion limit exceeded"
  | .meaning text => text

/-- A fault and, once known, its place. -/
structure ReadError where
  fault : Fault
  place : Option Place
  deriving DecidableEq, Repr

/-- The message of a read error: the fault's sentence, then its place when it has one. -/
def ReadError.message (e : ReadError) : String :=
  match e.place with
  | some p => e.fault.text ++ " at line " ++ toString p.line ++ " column " ++ toString p.column
  | none => e.fault.text

/-- The bytes not yet read, with the place of the first of them. -/
structure Cursor where
  rest : List UInt8
  line : Nat
  column : Nat

namespace Cursor

/-- A cursor at the start of a text. -/
def ofString (s : String) : Cursor := ⟨s.toUTF8.toList, 1, 0⟩

/-- The place of the cursor. -/
def place (c : Cursor) : Place := ⟨c.line, c.column⟩

/-- The place one byte further on, or the cursor's place at the end of the text. -/
def peekPlace (c : Cursor) : Place :=
  match c.rest with
  | [] => c.place
  | 10 :: _ => ⟨c.line + 1, 0⟩
  | _ :: _ => ⟨c.line, c.column + 1⟩

/-- The cursor after one more byte. -/
def advance (c : Cursor) : Cursor :=
  match c.rest with
  | [] => c
  | 10 :: bs => ⟨bs, c.line + 1, 0⟩
  | _ :: bs => ⟨bs, c.line, c.column + 1⟩

/-- Whether a byte is a blank between JSON tokens. -/
def isBlankByte (b : UInt8) : Bool := b == 32 || b == 10 || b == 9 || b == 13

/-- The cursor after the blanks at its front. -/
def skipBlank : List UInt8 → Nat → Nat → Cursor
  | [], l, c => ⟨[], l, c⟩
  | b :: bs, l, c =>
    if b == 10 then skipBlank bs (l + 1) 0
    else if isBlankByte b then skipBlank bs l (c + 1)
    else ⟨b :: bs, l, c⟩

/-- The cursor after every remaining byte. -/
def toEnd : List UInt8 → Nat → Nat → Cursor
  | [], l, c => ⟨[], l, c⟩
  | b :: bs, l, c => if b == 10 then toEnd bs (l + 1) 0 else toEnd bs l (c + 1)

end Cursor

/-- A reader: it moves a cursor and may fail; the cursor keeps its moves when it fails. -/
abbrev Read := ExceptT ReadError (StateM Cursor)

namespace Read

/-- The next byte, not consumed. -/
def peek : Read (Option UInt8) := do return (← get).rest.head?

/-- Consumes one byte. -/
def bump : Read Unit := modify Cursor.advance

/-- Consumes and returns the next byte. -/
def next : Read (Option UInt8) := do
  let b ← peek
  if b.isSome then bump
  return b

/-- Skips blanks and returns the next byte, not consumed. -/
def blank : Read (Option UInt8) := do
  modify fun c => Cursor.skipBlank c.rest c.line c.column
  peek

/-- Fails with a fault at the cursor. -/
def fail {α : Type} (f : Fault) : Read α := do throw ⟨f, some (← get).place⟩

/-- Fails with a fault one byte further on. -/
def failPeek {α : Type} (f : Fault) : Read α := do throw ⟨f, some (← get).peekPlace⟩

/-- Fails with a fault of meaning that has no place yet. -/
def failMeaning {α : Type} (text : String) : Read α := throw ⟨.meaning text, none⟩

/-- Gives a fault without a place the place of the cursor when the reader gave up. -/
def fixPlace {α : Type} (r : Read α) : Read α :=
  tryCatch r fun e =>
    match e.place with
    | some _ => throw e
    | none => do throw { e with place := some (← get).place }

/-- Runs a reader and returns its outcome, keeping the cursor where it stopped. -/
def attempt {α : Type} (r : Read α) : Read (Except ReadError α) :=
  tryCatch (Except.ok <$> r) fun e => pure (.error e)

/-- Fuel for a loop that consumes a byte each round. -/
def fuelLeft : Read Nat := do return (← get).rest.length + 2

/-- Consumes the rest of a literal word, byte by byte. -/
def ident : List UInt8 → Read Unit
  | [] => pure ()
  | b :: bs => do
    match ← next with
    | none => fail .eofInValue
    | some x => if x == b then ident bs else fail .expectedIdent

/-! ### Strings -/

/-- The value of a hexadecimal digit. -/
def hexValue (b : UInt8) : Option Nat :=
  if 48 ≤ b ∧ b ≤ 57 then some (b.toNat - 48)
  else if 97 ≤ b ∧ b ≤ 102 then some (b.toNat - 87)
  else if 65 ≤ b ∧ b ≤ 70 then some (b.toNat - 55)
  else none

/-- Reads four hexadecimal digits of an escape. -/
def hex4 : Read Nat := do
  let c ← get
  match c.rest with
  | a :: b :: d :: e :: _ =>
    bump; bump; bump; bump
    match hexValue a, hexValue b, hexValue d, hexValue e with
    | some w, some x, some y, some z => pure (((w * 16 + x) * 16 + y) * 16 + z)
    | _, _, _, _ => fail .invalidEscape
  | _ =>
    set (Cursor.toEnd c.rest c.line c.column)
    fail .eofInString

/-- Puts the UTF-8 bytes of a code point in front of a reversed byte list. -/
def pushCodePoint (n : Nat) (acc : List UInt8) : List UInt8 :=
  if n < 0x80 then n.toUInt8 :: acc
  else if n < 0x800 then
    (0x80 + n % 64).toUInt8 :: (0xC0 + n / 64).toUInt8 :: acc
  else if n < 0x10000 then
    (0x80 + n % 64).toUInt8 :: (0x80 + n / 64 % 64).toUInt8 :: (0xE0 + n / 4096).toUInt8 :: acc
  else
    (0x80 + n % 64).toUInt8 :: (0x80 + n / 64 % 64).toUInt8 :: (0x80 + n / 4096 % 64).toUInt8 ::
      (0xF0 + n / 262144).toUInt8 :: acc

/-- Reads a `\u` escape after the `u`; a surrogate must come in a pair. -/
def unicodeEscape (acc : List UInt8) : Read (List UInt8) := do
  let n ← hex4
  if 0xDC00 ≤ n ∧ n ≤ 0xDFFF then fail .loneSurrogate
  else if n < 0xD800 ∨ n > 0xDBFF then pure (pushCodePoint n acc)
  else
    match ← peek with
    | none => fail .eofInString
    | some 92 =>
      bump
      match ← peek with
      | none => fail .eofInString
      | some 117 =>
        bump
        let n2 ← hex4
        if n2 < 0xDC00 ∨ n2 > 0xDFFF then fail .loneSurrogate
        else pure (pushCodePoint ((n - 0xD800) * 1024 + (n2 - 0xDC00) + 0x10000) acc)
      | some _ => do bump; fail .unexpectedEndOfHexEscape
    | some _ => do bump; fail .unexpectedEndOfHexEscape

/-- Reads an escape after its backslash. -/
def escape (acc : List UInt8) : Read (List UInt8) := do
  match ← next with
  | none => fail .eofInString
  | some 34 => pure (34 :: acc)
  | some 92 => pure (92 :: acc)
  | some 47 => pure (47 :: acc)
  | some 98 => pure (8 :: acc)
  | some 102 => pure (12 :: acc)
  | some 110 => pure (10 :: acc)
  | some 114 => pure (13 :: acc)
  | some 116 => pure (9 :: acc)
  | some 117 => unicodeEscape acc
  | some _ => fail .invalidEscape

/-- Reads string bytes up to the closing quote, which it consumes. -/
def stringBytes : Nat → List UInt8 → Read (List UInt8)
  | 0, _ => fail .eofInString
  | fuel + 1, acc => do
    match ← peek with
    | none => fail .eofInString
    | some 34 => do bump; pure acc.reverse
    | some 92 => do
      bump
      let acc ← escape acc
      stringBytes fuel acc
    | some b =>
      bump
      if b < 32 then fail .controlCharacterInString else stringBytes fuel (b :: acc)

/-- The text of UTF-8 bytes, which the readers above always produce valid. -/
def decodeText (bytes : List UInt8) : String :=
  (String.fromUTF8? ⟨bytes.toArray⟩).getD ""

/-- Reads the rest of a string after its opening quote. -/
def string : Read String := do
  let bytes ← stringBytes (← fuelLeft) []
  pure (decodeText bytes)

/-- Skips an escape after its backslash without checking surrogates. -/
def skipEscape : Read Unit := do
  match ← next with
  | none => fail .eofInString
  | some b =>
    if b == 34 || b == 92 || b == 47 || b == 98 || b == 102 || b == 110 || b == 114 || b == 116
    then pure ()
    else if b == 117 then do let _ ← hex4; pure ()
    else fail .invalidEscape

/-- Skips the rest of a string after its opening quote. -/
def skipStringBytes : Nat → Read Unit
  | 0 => fail .eofInString
  | fuel + 1 => do
    match ← peek with
    | none => fail .eofInString
    | some 34 => bump
    | some 92 => do bump; skipEscape; skipStringBytes fuel
    | some b => if b < 32 then fail .controlCharacterInString else do bump; skipStringBytes fuel

/-- Skips the rest of a string after its opening quote. -/
def skipString : Read Unit := do skipStringBytes (← fuelLeft)

/-! ### Numbers -/

/-- Whether a byte is an ASCII digit. -/
def isDigit (b : UInt8) : Bool := 48 ≤ b && b ≤ 57

/-- The value of an ASCII digit. -/
def digitOf (b : UInt8) : Nat := b.toNat - 48

/-- Whether a byte starts an exponent. -/
def isExponentMark (b : UInt8) : Bool := b == 101 || b == 69

/-- The binary64 number of the decimal parts, or a fault when it is out of range. -/
def floatOfParts (positive : Bool) (significand : Nat) (exponent : Int) : Read Number :=
  match Binary64.ofDecimal (!positive) significand exponent with
  | some x => pure (.float x)
  | none => fail .numberOutOfRange

/-- Skips ASCII digits. -/
def skipDigits : Nat → Read Unit
  | 0 => pure ()
  | fuel + 1 => do
    match ← peek with
    | some b => if isDigit b then do bump; skipDigits fuel else pure ()
    | none => pure ()

/-- An exponent too large for 32 bits: infinite magnitudes are refused, tiny ones are zero. -/
def exponentOverflow (positive zeroSignificand positiveExponent : Bool) : Read Number := do
  if !zeroSignificand && positiveExponent then fail .numberOutOfRange
  else
    skipDigits (← fuelLeft)
    pure (.float ⟨!positive, 0, Binary64.minExponent⟩)

/-- Clamps an exponent to 32 signed bits. -/
def clampExponent (e : Int) : Int := max (-Int.pow 2 31) (min e (Int.pow 2 31 - 1))

/-- The binary64 number of a significand and the exponent read so far. -/
def exponentEnd (positive : Bool) (significand : Nat) (start : Int) (positiveExponent : Bool)
    (e : Int) : Read Number :=
  floatOfParts positive significand (clampExponent (if positiveExponent then start + e else start - e))

/-- Reads the digits of an exponent after its first digit. -/
def exponentDigits (positive : Bool) (significand : Nat) (start : Int) (positiveExponent : Bool) :
    Nat → Int → Read Number
  | 0, e => exponentEnd positive significand start positiveExponent e
  | fuel + 1, e => do
    match ← peek with
    | some b =>
      if isDigit b then do
        bump
        let e' := e * 10 + digitOf b
        if e' > Int.pow 2 31 - 1 then exponentOverflow positive (significand == 0) positiveExponent
        else exponentDigits positive significand start positiveExponent fuel e'
      else exponentEnd positive significand start positiveExponent e
    | none => exponentEnd positive significand start positiveExponent e

/-- Reads an exponent from its `e`. -/
def exponent (positive : Bool) (significand : Nat) (start : Int) : Read Number := do
  bump
  let positiveExponent ← do
    match ← peek with
    | some 43 => do bump; pure true
    | some 45 => do bump; pure false
    | _ => pure true
  match ← next with
  | none => fail .eofInValue
  | some b =>
    if isDigit b then exponentDigits positive significand start positiveExponent (← fuelLeft) (digitOf b)
    else fail .invalidNumber

/-- After the significand has no room left: the further digits are dropped. -/
def decimalOverflow (positive : Bool) (significand : Nat) (e : Int) : Read Number := do
  skipDigits (← fuelLeft)
  match ← peek with
  | some b =>
    if isExponentMark b then exponent positive significand e
    else floatOfParts positive significand e
  | none => floatOfParts positive significand e

/-- Ends the fraction digits: at least one is needed, then an exponent may follow. -/
def decimalEnd (positive : Bool) (significand : Nat) (before after : Int) : Read Number := do
  if after == 0 then
    match ← peek with
    | some _ => failPeek .invalidNumber
    | none => failPeek .eofInValue
  else
    let e := before + after
    match ← peek with
    | some b =>
      if isExponentMark b then exponent positive significand e
      else floatOfParts positive significand e
    | none => floatOfParts positive significand e

/-- Reads fraction digits; `after` counts them downwards. -/
def decimalDigits (positive : Bool) (before : Int) : Nat → Nat → Int → Read Number
  | 0, s, after => decimalEnd positive s before after
  | fuel + 1, s, after => do
    match ← peek with
    | some b =>
      if isDigit b then
        let s' := s * 10 + digitOf b
        if s' > Nat.pow 2 64 - 1 then decimalOverflow positive s (before + after)
        else do
          bump
          decimalDigits positive before fuel s' (after - 1)
      else decimalEnd positive s before after
    | none => decimalEnd positive s before after

/-- Reads a fraction from its point. -/
def decimal (positive : Bool) (significand : Nat) (before : Int) : Read Number := do
  bump
  decimalDigits positive before (← fuelLeft) significand 0

/-- Reads integer digits that no longer fit 64 bits: each adds to the exponent. -/
def longInteger (positive : Bool) (significand : Nat) : Nat → Int → Read Number
  | 0, e => floatOfParts positive significand e
  | fuel + 1, e => do
    match ← peek with
    | some b =>
      if isDigit b then do bump; longInteger positive significand fuel (e + 1)
      else if b == 46 then decimal positive significand e
      else if isExponentMark b then exponent positive significand e
      else floatOfParts positive significand e
    | none => floatOfParts positive significand e

/-- Ends an integer part: a fraction or exponent makes a binary64 number; otherwise a natural
number, a negative integer from `-1` to `-2^63`, or a binary64 number for `-0` and below. -/
def numberTail (positive : Bool) (significand : Nat) : Read Number := do
  match ← peek with
  | some 46 => decimal positive significand 0
  | some b =>
    if isExponentMark b then exponent positive significand 0
    else if positive then pure (.nat significand)
    else if 1 ≤ significand ∧ significand ≤ Nat.pow 2 63 then pure (.neg (-(significand : Int)))
    else pure (.float (Binary64.ofNat significand).neg)
  | none =>
    if positive then pure (.nat significand)
    else if 1 ≤ significand ∧ significand ≤ Nat.pow 2 63 then pure (.neg (-(significand : Int)))
    else pure (.float (Binary64.ofNat significand).neg)

/-- Reads integer digits while they fit 64 bits. -/
def integerDigits (positive : Bool) : Nat → Nat → Read Number
  | 0, s => numberTail positive s
  | fuel + 1, s => do
    match ← peek with
    | some b =>
      if isDigit b then
        let s' := s * 10 + digitOf b
        if s' > Nat.pow 2 64 - 1 then longInteger positive s (← fuelLeft) 0
        else do
          bump
          integerDigits positive fuel s'
      else numberTail positive s
    | none => numberTail positive s

/-- Reads a number after its minus sign, if any. -/
def number (positive : Bool) : Read Number := do
  match ← next with
  | none => fail .eofInValue
  | some 48 =>
    match ← peek with
    | some b => if isDigit b then failPeek .invalidNumber else numberTail positive 0
    | none => numberTail positive 0
  | some b =>
    if isDigit b then integerDigits positive (← fuelLeft) (digitOf b)
    else fail .invalidNumber

/-- Skips an exponent from its `e`. -/
def skipExponent : Read Unit := do
  bump
  match ← peek with
  | some 43 => bump
  | some 45 => bump
  | _ => pure ()
  match ← peek with
  | some b => if isDigit b then do bump; skipDigits (← fuelLeft) else do bump; fail .invalidNumber
  | none => fail .invalidNumber

/-- Skips a number after its minus sign, if any, without computing it. -/
def skipNumber : Read Unit := do
  match ← peek with
  | some 48 =>
    bump
    match ← peek with
    | some b => if isDigit b then failPeek .invalidNumber else pure ()
    | none => pure ()
  | some b => if isDigit b then do bump; skipDigits (← fuelLeft) else do bump; fail .invalidNumber
  | none => fail .invalidNumber
  match ← peek with
  | some 46 =>
    bump
    match ← peek with
    | some b =>
      if isDigit b then
        skipDigits (← fuelLeft)
        match ← peek with
        | some e => if isExponentMark e then skipExponent else pure ()
        | none => pure ()
      else failPeek .invalidNumber
    | none => failPeek .invalidNumber
  | some b => if isExponentMark b then skipExponent else pure ()
  | none => pure ()

/-! ### Skipping a value -/

mutual

/-- Skips one value, checking its syntax only. -/
def skipValue : Nat → Read Unit
  | 0 => fail .eofInValue
  | fuel + 1 => do
    match ← blank with
    | none => failPeek .eofInValue
    | some 110 => do bump; ident [117, 108, 108]
    | some 116 => do bump; ident [114, 117, 101]
    | some 102 => do bump; ident [97, 108, 115, 101]
    | some 45 => do bump; skipNumber
    | some 34 => do bump; skipString
    | some 91 => do
      bump
      match ← blank with
      | some 93 => bump
      | none => failPeek .eofInList
      | some _ => do skipValue fuel; skipItems fuel
    | some 123 => do
      bump
      match ← blank with
      | some 125 => bump
      | none => failPeek .eofInObject
      | some _ => skipEntries fuel
    | some b => if isDigit b then skipNumber else failPeek .expectedValue

/-- Skips the rest of a list after an item. -/
def skipItems : Nat → Read Unit
  | 0 => fail .eofInList
  | fuel + 1 => do
    match ← blank with
    | some 44 => do bump; skipValue fuel; skipItems fuel
    | some 93 => bump
    | some _ => failPeek .expectedListCommaOrEnd
    | none => failPeek .eofInList

/-- Skips entries of an object from a key. -/
def skipEntries : Nat → Read Unit
  | 0 => fail .eofInObject
  | fuel + 1 => do
    match ← blank with
    | some 34 => bump
    | some _ => failPeek .keyMustBeString
    | none => failPeek .eofInObject
    skipString
    match ← blank with
    | some 58 => bump
    | some _ => failPeek .expectedColon
    | none => failPeek .eofInObject
    skipValue fuel
    match ← blank with
    | some 44 => do bump; skipEntries fuel
    | some 125 => bump
    | some _ => failPeek .expectedObjectCommaOrEnd
    | none => failPeek .eofInObject

end

/-- Skips one value. -/
def skip : Read Unit := do skipValue (← fuelLeft)

end Read

end GuildRoles.Json
