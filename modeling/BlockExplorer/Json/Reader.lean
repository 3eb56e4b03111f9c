import BlockExplorer.Encoding.Utf
import BlockExplorer.Json.Document

/-!
Reading JSON text. A fault carries the rest of the text from the place at fault on, so a position is
the length of what stands before it. The names `NaN`, `Infinity` and `-Infinity` are numbers. Two
limits hold: how deep a document may nest, and how long an integer may be. Plain text and objects of
one member are read as what they were written for (`read_as_quoted_text`, `read_as_member_text`).
-/

namespace BlockExplorer.Json

open CodePoint

inductive Flaw where
  | value
  | propertyName
  | colon
  | comma
  | unterminated
  | controlCharacter
  | escape
  | unicodeEscape
  | extraData
  | byteOrderMark
  deriving DecidableEq, Repr

def Flaw.text : Flaw → String
  | .value => "Expecting value"
  | .propertyName => "Expecting property name enclosed in double quotes"
  | .colon => "Expecting ':' delimiter"
  | .comma => "Expecting ',' delimiter"
  | .unterminated => "Unterminated string starting at"
  | .controlCharacter => "Invalid control character at"
  | .escape => "Invalid \\escape"
  | .unicodeEscape => "Invalid \\uXXXX escape"
  | .extraData => "Extra data"
  | .byteOrderMark => "Unexpected UTF-8 BOM (decode using utf-8-sig)"

/-- A fault while reading, with the text from the place at fault on. -/
inductive Stop where
  | broken (what : Flaw) (rest : Text)
  | longInteger (digits : Nat)
  | deepArray
  | deepObject

def skipBlanks (text : Text) : Text := text.dropWhile isJsonBlank

def takeDigits : Text → Text × Text
  | [] => ([], [])
  | c :: rest =>
      if isAsciiDigit c then
        let (digits, suffix) := takeDigits rest
        (c :: digits, suffix)
      else ([], c :: rest)

def digitsValue (digits : Text) : Nat := Numeral.ofDigits (digits.map (· - 0x30))

/-- Digits behind a point. A point without a digit does not belong to the number. -/
def takeFraction : Text → Option (Text × Text)
  | 0x2E :: rest =>
      match takeDigits rest with
      | ([], _) => none
      | found => some found
  | _ => none

/-- A power of ten. Without digits it does not belong to the number. -/
def takePower : Text → Option (Int × Text)
  | [] => none
  | c :: rest =>
      if c = 0x65 ∨ c = 0x45 then
        let (negative, body) := Numeral.takeSign rest
        match takeDigits body with
        | ([], _) => none
        | (digits, suffix) => some (Numeral.signed negative (digitsValue digits), suffix)
      else none

def takeWhole : Text → Option (Text × Text)
  | [] => none
  | c :: rest =>
      if c = 0x30 then some ([c], rest)
      else if isAsciiDigit c then
        let (digits, suffix) := takeDigits rest
        some (c :: digits, suffix)
      else none

def number (text : Text) : Except Stop (Json × Text) :=
  let (negative, body) :=
    match text with
    | 0x2D :: rest => (true, rest)
    | _ => (false, text)
  match takeWhole body with
  | none => .error (.broken .value text)
  | some (whole, rest) =>
      let fraction := takeFraction rest
      let (places, rest) := fraction.getD ([], rest)
      let power := takePower rest
      let (exponent, rest) := power.getD (0, rest)
      if fraction.isSome || power.isSome then
        let digits := digitsValue (whole ++ places)
        .ok (.float (Binary64.ofDecimal negative digits (exponent - places.length)), rest)
      else if Numeral.maxDigits < whole.length then .error (.longInteger whole.length)
      else .ok (.int (Numeral.signed negative (digitsValue whole)), rest)

def hexValue : Text → Option Nat
  | [a, b, c, d] => do
      let a ← Hex.digitValue? a
      let b ← Hex.digitValue? b
      let c ← Hex.digitValue? c
      let d ← Hex.digitValue? d
      some (a * 4096 + b * 256 + c * 16 + d)
  | _ => none

def shortEscape? (c : Nat) : Option Nat :=
  if c = doubleQuote ∨ c = backslash ∨ c = 0x2F then some c
  else if c = 0x62 then some 0x08
  else if c = 0x66 then some 0x0C
  else if c = 0x6E then some 0x0A
  else if c = 0x72 then some 0x0D
  else if c = 0x74 then some 0x09
  else none

/-- The four digits behind `\u` and at least one more character; the text from the `u` on is what a
fault points at. -/
def takeUnit (fromLetter : Text) : Except Stop (Nat × Text) :=
  let digits := fromLetter.drop 1
  match digits.drop 4 with
  | [] => .error (.broken .unicodeEscape fromLetter)
  | rest =>
      match hexValue (digits.take 4) with
      | none => .error (.broken .unicodeEscape fromLetter)
      | some unit => .ok (unit, rest)

/-- What `\u` spells: a code unit, or a character of two units when a high surrogate is followed by
a low one. -/
def takeUnicodeEscape (fromLetter : Text) : Except Stop (Nat × Text) := do
  let (unit, rest) ← takeUnit fromLetter
  match rest with
  | 0x5C :: 0x75 :: more =>
      if Utf.isHighSurrogate unit && 4 < more.length then
        let (next, after) ← takeUnit (0x75 :: more)
        if Utf.isLowSurrogate next then .ok (Utf.joinSurrogates unit next, after)
        else .ok (unit, rest)
      else .ok (unit, rest)
  | _ => .ok (unit, rest)

/-- The rest of a string up to its closing quote. `opening` is the text from the opening quote on.
Each step takes a character at least. -/
def stringFrom (opening : Text) : (fuel : Nat) → Text → Except Stop (Text × Text)
  | 0, _ => .error (.broken .unterminated opening)
  | _ + 1, [] => .error (.broken .unterminated opening)
  | fuel + 1, c :: rest =>
      if c = doubleQuote then .ok ([], rest)
      else if c = backslash then
        match rest with
        | [] => .error (.broken .unterminated opening)
        | letter :: after =>
            if letter = 0x75 then do
              let (point, after) ← takeUnicodeEscape rest
              let (content, suffix) ← stringFrom opening fuel after
              .ok (point :: content, suffix)
            else
              match shortEscape? letter with
              | none => .error (.broken .escape (c :: rest))
              | some point => do
                  let (content, suffix) ← stringFrom opening fuel after
                  .ok (point :: content, suffix)
      else if c ≤ 0x1F then .error (.broken .controlCharacter (c :: rest))
      else do
        let (content, suffix) ← stringFrom opening fuel rest
        .ok (c :: content, suffix)

/-- The items of an array from the first one on, with a reader for each. `loop` bounds their
number. -/
def items (item : Text → Except Stop (Json × Text)) :
    (loop : Nat) → Text → Except Stop (List Json × Text)
  | 0, content => .error (.broken .value content)
  | loop + 1, content => do
      let (value, rest) ← item content
      match skipBlanks rest with
      | 0x5D :: suffix => .ok ([value], suffix)
      | 0x2C :: rest =>
          let (values, suffix) ← items item loop (skipBlanks rest)
          .ok (value :: values, suffix)
      | rest => .error (.broken .comma rest)

def members (loop : Nat) (item : Text → Except Stop (Json × Text)) :
    (count : Nat) → Text → Except Stop (List (Text × Json) × Text)
  | 0, content => .error (.broken .propertyName content)
  | count + 1, content =>
      match content with
      | 0x22 :: start => do
          let (name, rest) ← stringFrom content loop start
          match skipBlanks rest with
          | 0x3A :: rest =>
              let (value, rest) ← item (skipBlanks rest)
              match skipBlanks rest with
              | 0x7D :: suffix => .ok ([(name, value)], suffix)
              | 0x2C :: rest =>
                  let (others, suffix) ← members loop item count (skipBlanks rest)
                  .ok ((name, value) :: others, suffix)
              | rest => .error (.broken .comma rest)
          | rest => .error (.broken .colon rest)
      | _ => .error (.broken .propertyName content)

def constants : List (Text × Json) :=
  [(Text.ofString "null", .null), (Text.ofString "true", .bool true),
    (Text.ofString "false", .bool false), (Text.ofString "NaN", .float .nan),
    (Text.ofString "Infinity", .float (.infinite false)),
    (Text.ofString "-Infinity", .float (.infinite true))]

def constant? (content : Text) : Option (Json × Text) :=
  constants.findSome? fun (name, value) =>
    if Text.startsWith content name then some (value, content.drop name.length) else none

def scalar (loop : Nat) (content : Text) : Except Stop (Json × Text) :=
  match content with
  | 0x22 :: start => do
      let (value, rest) ← stringFrom content loop start
      .ok (.text value, rest)
  | _ =>
      match constant? content with
      | some found => .ok found
      | none => number content

/-- A value that nests at most `depth` deep. `loop` is at least the length of the whole text. -/
def value (loop : Nat) : (depth : Nat) → Text → Except Stop (Json × Text)
  | 0, content =>
      match content with
      | 0x5B :: _ => .error .deepArray
      | 0x7B :: _ => .error .deepObject
      | _ => scalar loop content
  | depth + 1, content =>
      match content with
      | 0x5B :: rest =>
          match skipBlanks rest with
          | 0x5D :: suffix => .ok (.array [], suffix)
          | rest => do
              let (values, suffix) ← items (value loop depth) loop rest
              .ok (.array values, suffix)
      | 0x7B :: rest =>
          match skipBlanks rest with
          | 0x7D :: suffix => .ok (.object [], suffix)
          | rest => do
              let (found, suffix) ← members loop (value loop depth) loop rest
              .ok (ofMembers found, suffix)
      | _ => scalar loop content

/-- Why a text is no document. A position counts code points; lines and columns begin at one. -/
inductive Fault where
  | broken (what : Flaw) (line column position : Nat)
  | longInteger (digits : Nat)
  | deepArray
  | deepObject
  deriving DecidableEq, Repr

def Fault.message : Fault → String
  | .broken what line column position =>
      s!"{what.text}: line {line} column {column} (char {position})"
  | .longInteger digits =>
      "Exceeds the limit (4300 digits) for integer string conversion: " ++
        s!"value has {digits} digits; " ++
        "use sys.set_int_max_str_digits() to increase the limit"
  | .deepArray =>
      "maximum recursion depth exceeded while decoding a JSON array from a unicode string"
  | .deepObject =>
      "maximum recursion depth exceeded while decoding a JSON object from a unicode string"

/-- Whether the text breaks the rules of the format, rather than a limit of the reader. -/
def Fault.isSyntactic : Fault → Bool
  | .broken .. => true
  | _ => false

def Fault.isDepth : Fault → Bool
  | .deepArray => true
  | .deepObject => true
  | _ => false

def Fault.locate (text rest : Text) (what : Flaw) : Fault :=
  let position := text.length - rest.length
  let before := text.take position
  .broken what (before.count 0x0A + 1) ((before.reverse.takeWhile (· != 0x0A)).length + 1) position

/-- How deep a document may nest. A thousand calls may be under way at a time; each level of a
document takes one of them, and where a file or a reply is read about twenty are taken already. -/
def maxDepth : Nat := 980

def parse (text : Text) : Except Fault Json :=
  let start := skipBlanks text
  match value (text.length + 1) maxDepth start with
  | .error (.broken what rest) => .error (.locate text rest what)
  | .error (.longInteger digits) => .error (.longInteger digits)
  | .error .deepArray => .error .deepArray
  | .error .deepObject => .error .deepObject
  | .ok (document, rest) =>
      match skipBlanks rest with
      | [] => .ok document
      | rest => .error (.locate text rest .extraData)

/-- Text that was decoded beforehand must not begin with a byte order mark. -/
def parseText (text : Text) : Except Fault Json :=
  match text with
  | 0xFEFF :: _ => .error (.locate text text .byteOrderMark)
  | _ => parse text

def IsPlain (c : Nat) : Prop := c ≠ doubleQuote ∧ c ≠ backslash ∧ 0x1F < c

instance (c : Nat) : Decidable (IsPlain c) := inferInstanceAs (Decidable (_ ∧ _))

theorem string_from_of_plain {content : Text} (plain : ∀ c ∈ content, IsPlain c) {fuel : Nat}
    (room : content.length < fuel) (opening rest : Text) :
    stringFrom opening fuel (content ++ doubleQuote :: rest) = .ok (content, rest) := by
  induction content generalizing fuel with
  | nil =>
      cases fuel with
      | zero => cases room
      | succ fuel => rfl
  | cons c content induction =>
      obtain ⟨⟨noQuote, noEscape, visible⟩, others⟩ := List.forall_mem_cons.mp plain
      cases fuel with
      | zero => cases room
      | succ fuel =>
          have later := induction others (Nat.lt_of_succ_lt_succ room)
          rw [List.cons_append, stringFrom.eq_def]
          simp only [if_neg noQuote, if_neg noEscape, if_neg (Nat.not_le_of_lt visible), later]
          rfl

theorem skip_blanks_of_dense {first : Nat} (dense : isJsonBlank first = false) (rest : Text) :
    skipBlanks (first :: rest) = first :: rest := by
  rw [skipBlanks, List.dropWhile_cons_of_neg (by simp [dense])]

/-- Text that is read as a value, whatever follows it. -/
structure ReadAs (text : Text) (depth : Nat) (found : Json) : Prop where
  dense : ∀ rest, skipBlanks (text ++ rest) = text ++ rest
  read : ∀ loop rest, text.length ≤ loop → value loop depth (text ++ rest) = .ok (found, rest)

def quotedText (content : Text) : Text := doubleQuote :: (content ++ [doubleQuote])

def memberText (name item : Text) : Text := 0x7B :: (quotedText name ++ 0x3A :: (item ++ [0x7D]))

theorem string_from_quoted_text {content : Text} (plain : ∀ c ∈ content, IsPlain c) {loop : Nat}
    (room : content.length < loop) (opening rest : Text) :
    stringFrom opening loop (content ++ [doubleQuote] ++ rest) = .ok (content, rest) := by
  rw [List.append_assoc]
  exact string_from_of_plain plain room opening rest

theorem read_as_quoted_text {content : Text} (plain : ∀ c ∈ content, IsPlain c) (depth : Nat) :
    ReadAs (quotedText content) depth (.text content) where
  dense rest := skip_blanks_of_dense rfl _
  read loop rest room := by
    have inside : content.length < loop := by
      simp only [quotedText, List.length_cons, List.length_append] at room
      omega
    have whole : scalar loop (quotedText content ++ rest) = .ok (.text content, rest) := by
      rw [quotedText, List.cons_append, scalar, string_from_quoted_text plain inside]
      rfl
    cases depth <;> exact whole

theorem read_as_member_text {name item : Text} {depth : Nat} {found : Json}
    (plain : ∀ c ∈ name, IsPlain c) (inner : ReadAs item depth found) :
    ReadAs (memberText name item) (depth + 1) (.object [(name, found)]) where
  dense rest := skip_blanks_of_dense rfl _
  read loop rest room := by
    simp only [memberText, quotedText, List.length_cons, List.length_append] at room
    obtain ⟨count, rfl⟩ : ∃ count, loop = count + 1 := ⟨loop - 1, by omega⟩
    have named (opening : Text) := string_from_quoted_text plain
      (show name.length < count + 1 by omega) opening (0x3A :: (item ++ 0x7D :: rest))
    have colon := skip_blanks_of_dense (show isJsonBlank 0x3A = false from rfl)
      (item ++ 0x7D :: rest)
    have close := skip_blanks_of_dense (show isJsonBlank 0x7D = false from rfl) rest
    have held := inner.read (count + 1) (0x7D :: rest) (by omega)
    have read : members (count + 1) (value (count + 1) depth) (count + 1)
        (doubleQuote :: (name ++ [doubleQuote] ++ 0x3A :: (item ++ 0x7D :: rest))) =
          .ok ([(name, found)], rest) := by
      simp only [members, named, bind, Except.bind, colon, inner.dense, held, close]
    have start := skip_blanks_of_dense (show isJsonBlank doubleQuote = false from rfl)
      (name ++ [doubleQuote] ++ 0x3A :: (item ++ 0x7D :: rest))
    have split : memberText name item ++ rest =
        0x7B :: doubleQuote :: (name ++ [doubleQuote] ++ 0x3A :: (item ++ 0x7D :: rest)) := by
      simp only [memberText, quotedText, List.cons_append, List.append_assoc, List.nil_append]
    rw [split]
    simp only [value, start, read, bind, Except.bind]
    rfl

theorem ReadAs.parse {text : Text} {found : Json} (read : ReadAs text maxDepth found) :
    parse text = .ok found := by
  have start := read.dense []
  have whole := read.read (text.length + 1) [] (Nat.le_succ _)
  rw [List.append_nil] at start whole
  simp only [Json.parse, start, whole]
  rfl

end BlockExplorer.Json
