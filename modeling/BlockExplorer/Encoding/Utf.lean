import BlockExplorer.Encoding.Hex

/-!
Unicode transformation formats. `decodeUtf8` is strict; `decodeDocument` finds out which of the five
formats a JSON document is written in and lets lone surrogates pass; `repairUtf8` puts U+FFFD where
a strict reader would stop. A refusal says which bytes are at fault and why.
-/

namespace BlockExplorer.Utf

inductive Codec where
  | utf8
  | utf16 (bigEndian : Bool)
  | utf32 (bigEndian : Bool)
  deriving DecidableEq, Repr

def Codec.name : Codec → String
  | .utf8 => "utf-8"
  | .utf16 false => "utf-16-le"
  | .utf16 true => "utf-16-be"
  | .utf32 false => "utf-32-le"
  | .utf32 true => "utf-32-be"

inductive Reason where
  | invalidStart
  | invalidContinuation
  | unexpectedEnd
  | truncated
  | outOfRange
  deriving DecidableEq, Repr

def Reason.text : Reason → String
  | .invalidStart => "invalid start byte"
  | .invalidContinuation => "invalid continuation byte"
  | .unexpectedEnd => "unexpected end of data"
  | .truncated => "truncated data"
  | .outOfRange => "code point not in range(0x110000)"

/-- The `width` bytes from `start` on cannot be read; `byte` is the first of them. -/
structure Fault where
  codec : Codec
  start : Nat
  width : Nat
  byte : UInt8
  reason : Reason
  deriving DecidableEq, Repr

def Fault.message (fault : Fault) : String :=
  let place :=
    if fault.width = 1 then
      s!"byte 0x{Hex.lowerString [fault.byte]} in position {fault.start}"
    else s!"bytes in position {fault.start}-{fault.start + fault.width - 1}"
  s!"'{fault.codec.name}' codec can't decode {place}: {fault.reason.text}"

/-- What stands at the beginning of some bytes: a code point or a fault, and how wide it is. -/
inductive Step where
  | point (c width : Nat)
  | bad (reason : Reason) (width : Nat)

def isTail (b : Nat) : Bool := 0x80 ≤ b && b ≤ 0xBF

def secondRange (first : Nat) : Nat × Nat :=
  if first = 0xE0 then (0xA0, 0xBF)
  else if first = 0xED then (0x80, 0x9F)
  else if first = 0xF0 then (0x90, 0xBF)
  else if first = 0xF4 then (0x80, 0x8F)
  else (0x80, 0xBF)

def allowsSecond (first second : Nat) : Bool :=
  (secondRange first).1 ≤ second && second ≤ (secondRange first).2

/-- The first code point of UTF-8 text that begins with the byte `first`. A sequence that the end of
the text cuts short is faulty as a whole; otherwise the fault stops before the byte that does not
fit. -/
def stepUtf8 (first : Nat) (rest : List Nat) : Step :=
  if first < 0x80 then .point first 1
  else if first < 0xC2 ∨ 0xF4 < first then .bad .invalidStart 1
  else match rest with
    | [] => .bad .unexpectedEnd 1
    | second :: rest =>
        if !allowsSecond first second then .bad .invalidContinuation 1
        else if first < 0xE0 then .point ((first - 0xC0) * 64 + (second - 0x80)) 2
        else match rest with
          | [] => .bad .unexpectedEnd 2
          | third :: rest =>
              if !isTail third then .bad .invalidContinuation 2
              else if first < 0xF0 then
                .point ((first - 0xE0) * 4096 + (second - 0x80) * 64 + (third - 0x80)) 3
              else match rest with
                | [] => .bad .unexpectedEnd 3
                | fourth :: _ =>
                    if !isTail fourth then .bad .invalidContinuation 3
                    else .point ((first - 0xF0) * 262144 + (second - 0x80) * 4096
                      + (third - 0x80) * 64 + (fourth - 0x80)) 4

/-- As `stepUtf8`, but three bytes that spell a surrogate pass. -/
def stepLenientUtf8 (first : Nat) (rest : List Nat) : Step :=
  match first, rest with
  | 0xED, second :: third :: _ =>
      if 0xA0 ≤ second && second ≤ 0xBF && isTail third then
        .point (0xD000 + (second - 0x80) * 64 + (third - 0x80)) 3
      else stepUtf8 first rest
  | _, _ => stepUtf8 first rest

def unit16 (bigEndian : Bool) (a b : Nat) : Nat := if bigEndian then a * 256 + b else b * 256 + a

def isHighSurrogate (c : Nat) : Bool := 0xD800 ≤ c && c ≤ 0xDBFF

def isLowSurrogate (c : Nat) : Bool := 0xDC00 ≤ c && c ≤ 0xDFFF

def joinSurrogates (high low : Nat) : Nat := 0x10000 + (high - 0xD800) * 1024 + (low - 0xDC00)

def stepUtf16 (bigEndian : Bool) (first : Nat) (rest : List Nat) : Step :=
  match rest with
  | [] => .bad .truncated 1
  | second :: rest =>
      let unit := unit16 bigEndian first second
      match rest with
      | third :: fourth :: _ =>
          let next := unit16 bigEndian third fourth
          if isHighSurrogate unit && isLowSurrogate next then .point (joinSurrogates unit next) 4
          else .point unit 2
      | _ => .point unit 2

def stepUtf32 (bigEndian : Bool) (first : Nat) (rest : List Nat) : Step :=
  match rest with
  | second :: third :: fourth :: _ =>
      let value :=
        if bigEndian then unit16 true first second * 65536 + unit16 true third fourth
        else unit16 false third fourth * 65536 + unit16 false first second
      if value < 0x110000 then .point value 4 else .bad .outOfRange 4
  | _ => .bad .truncated (1 + rest.length)

/-- Reads code point after code point. Each step takes a byte at least, so `fuel` suffices when it
is the number of bytes. -/
def decodeWith (codec : Codec) (step : Nat → List Nat → Step) :
    (fuel position : Nat) → List Nat → Except Fault Text
  | 0, _, _ => .ok []
  | _ + 1, _, [] => .ok []
  | fuel + 1, position, first :: rest =>
      match step first rest with
      | .bad reason width => .error ⟨codec, position, width, UInt8.ofNat first, reason⟩
      | .point c width => do
          let text ← decodeWith codec step fuel (position + width) (rest.drop (width - 1))
          .ok (c :: text)

def values (bytes : Bytes) : List Nat := bytes.map UInt8.toNat

def decodeUtf8 (bytes : Bytes) : Except Fault Text :=
  decodeWith .utf8 stepUtf8 bytes.length 0 (values bytes)

/-- UTF-8 in which U+FFFD takes the place of every faulty sequence. -/
def repairWith : (fuel : Nat) → List Nat → Text
  | 0, _ => []
  | _ + 1, [] => []
  | fuel + 1, first :: rest =>
      match stepUtf8 first rest with
      | .bad _ width => 0xFFFD :: repairWith fuel (rest.drop (width - 1))
      | .point c width => c :: repairWith fuel (rest.drop (width - 1))

def repairUtf8 (bytes : Bytes) : Text := repairWith bytes.length (values bytes)

def encodePoint (c : Nat) : List Nat :=
  if c < 0x80 then [c]
  else if c < 0x800 then [0xC0 + c / 64, 0x80 + c % 64]
  else if c < 0x10000 then [0xE0 + c / 4096, 0x80 + c / 64 % 64, 0x80 + c % 64]
  else [0xF0 + c / 262144, 0x80 + c / 4096 % 64, 0x80 + c / 64 % 64, 0x80 + c % 64]

def encodeUtf8 (text : Text) : Bytes := (text.flatMap encodePoint).map UInt8.ofNat

/-- The format of a JSON document and the number of bytes of its byte order mark. Without a mark the
zero bytes among the first four tell the format, since a document begins with two ASCII
characters. -/
def documentFormat : List Nat → Codec × Nat
  | 0x00 :: 0x00 :: 0xFE :: 0xFF :: _ => (.utf32 true, 4)
  | 0xFF :: 0xFE :: 0x00 :: 0x00 :: _ => (.utf32 false, 4)
  | 0xFE :: 0xFF :: _ => (.utf16 true, 2)
  | 0xFF :: 0xFE :: _ => (.utf16 false, 2)
  | 0xEF :: 0xBB :: 0xBF :: _ => (.utf8, 3)
  | a :: b :: c :: d :: _ =>
      if a = 0 then (if b ≠ 0 then .utf16 true else .utf32 true, 0)
      else if b = 0 then (if c ≠ 0 ∨ d ≠ 0 then .utf16 false else .utf32 false, 0)
      else (.utf8, 0)
  | [a, b] =>
      if a = 0 then (.utf16 true, 0) else if b = 0 then (.utf16 false, 0) else (.utf8, 0)
  | _ => (.utf8, 0)

/-- The text of a JSON document. A mark of two or four bytes counts in the position of a fault, the
three-byte mark of UTF-8 does not. -/
def decodeDocument (bytes : Bytes) : Except Fault Text :=
  let all := values bytes
  let (codec, mark) := documentFormat all
  let body := all.drop mark
  match codec with
  | .utf8 => decodeWith codec stepLenientUtf8 body.length 0 body
  | .utf16 bigEndian => decodeWith codec (stepUtf16 bigEndian) body.length mark body
  | .utf32 bigEndian => decodeWith codec (stepUtf32 bigEndian) body.length mark body

theorem values_encode_utf8 {text : Text} (ascii : ∀ c ∈ text, c < 0x80) :
    values (encodeUtf8 text) = text := by
  induction text with
  | nil => rfl
  | cons c rest induction =>
      obtain ⟨low, others⟩ := List.forall_mem_cons.mp ascii
      have later := induction others
      simp only [values, encodeUtf8] at later
      simp only [values, encodeUtf8, List.flatMap_cons, encodePoint, if_pos low,
        List.cons_append, List.nil_append, List.map_cons, later, UInt8.toNat_ofNat']
      rw [Nat.mod_eq_of_lt (by omega)]

theorem step_lenient_utf8_of_ascii {c : Nat} (low : c < 0x80) (rest : List Nat) :
    stepLenientUtf8 c rest = .point c 1 := by
  rw [stepLenientUtf8.eq_def]
  split
  · omega
  · rw [stepUtf8.eq_def, if_pos low]

theorem decode_with_of_ascii (codec : Codec) {text : Text} (ascii : ∀ c ∈ text, c < 0x80)
    {fuel : Nat} (room : text.length ≤ fuel) (position : Nat) :
    decodeWith codec stepLenientUtf8 fuel position text = .ok text := by
  induction text generalizing fuel position with
  | nil => cases fuel <;> rfl
  | cons c rest induction =>
      obtain ⟨low, others⟩ := List.forall_mem_cons.mp ascii
      cases fuel with
      | zero => simp at room
      | succ fuel =>
          have enough : rest.length ≤ fuel := by simpa using room
          have later := induction others enough (position + 1)
          simp only [decodeWith, step_lenient_utf8_of_ascii low, Nat.sub_self, List.drop_zero,
            later]
          rfl

/-- No zero byte and no byte order mark hints at another format. -/
theorem document_format_of_ascii {text : List Nat} (ascii : ∀ c ∈ text, 0 < c ∧ c < 0x80) :
    documentFormat text = (.utf8, 0) := by
  have low : ∀ c, 0x80 ≤ c → c ∉ text := fun c high member => by
    have := ascii c member
    omega
  have nonzero : ∀ c, c = 0 → c ∉ text := fun c zero member => by
    have := ascii c member
    omega
  rw [documentFormat.eq_def]
  split
  · exact absurd (by simp) (nonzero 0 rfl)
  · exact absurd (by simp) (low 0xFF (by decide))
  · exact absurd (by simp) (low 0xFE (by decide))
  · exact absurd (by simp) (low 0xFF (by decide))
  · exact absurd (by simp) (low 0xEF (by decide))
  · rw [if_neg fun zero => nonzero _ zero (by simp), if_neg fun zero => nonzero _ zero (by simp)]
  · rw [if_neg fun zero => nonzero _ zero (by simp), if_neg fun zero => nonzero _ zero (by simp)]
  · rfl

/-- Plain text is a document in UTF-8. -/
theorem decode_document_encode_utf8 {text : Text} (ascii : ∀ c ∈ text, 0 < c ∧ c < 0x80) :
    decodeDocument (encodeUtf8 text) = .ok text := by
  have low : ∀ c ∈ text, c < 0x80 := fun c member => (ascii c member).2
  simp only [decodeDocument, values_encode_utf8 low, document_format_of_ascii ascii, List.drop_zero]
  exact decode_with_of_ascii _ low (Nat.le_refl _) 0

end BlockExplorer.Utf
