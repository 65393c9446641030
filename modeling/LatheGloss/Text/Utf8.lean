import LatheGloss.Text.Basic

/-! UTF-8. Reading stops at the first bytes that are no character, or replaces such bytes. Bytes
are at fault as far as they could begin a character, and at least the first one.
-/

namespace LatheGloss.Text.Utf8

inductive Flaw where
  | invalidStart
  | invalidContinuation
  | unexpectedEnd
  deriving DecidableEq

/-- How many bytes at which position are no character, the first of them, and why. -/
structure Fault where
  flaw : Flaw
  position : Nat
  length : Nat
  byte : UInt8
  deriving DecidableEq

def Flaw.message : Flaw → Text
  | invalidStart => "invalid start byte"
  | invalidContinuation => "invalid continuation byte"
  | unexpectedEnd => "unexpected end of data"

def lowerHexByte (byte : UInt8) : Text :=
  [Nat.digitChar (byte.toNat / 16), Nat.digitChar (byte.toNat % 16)]

def Fault.message (fault : Fault) : Text :=
  let place :=
    if fault.length = 1 then
      "byte 0x" ++ lowerHexByte fault.byte ++ " in position "
        ++ Text.ofNat fault.position
    else
      "bytes in position " ++ Text.ofNat fault.position ++ ↑ '-'
        :: Text.ofNat (fault.position + fault.length - 1)
  "'utf-8' codec can't decode " ++ place ++ ": " ++ fault.flaw.message

/-- What the first byte of a character tells: its bits, how many bytes follow, and in which
range the first of them lies. -/
structure Lead where
  bits : Nat
  following : Nat
  low : Nat
  high : Nat

/-- The ranges leave out overlong forms, surrogates and what lies beyond the last character. -/
def lead? (byte : UInt8) : Option Lead :=
  let b := byte.toNat
  if b < 0x80 then some ⟨b, 0, 0x80, 0xBF⟩
  else if b < 0xC2 then none
  else if b < 0xE0 then some ⟨b - 0xC0, 1, 0x80, 0xBF⟩
  else if b = 0xE0 then some ⟨0, 2, 0xA0, 0xBF⟩
  else if b = 0xED then some ⟨0xD, 2, 0x80, 0x9F⟩
  else if b < 0xF0 then some ⟨b - 0xE0, 2, 0x80, 0xBF⟩
  else if b = 0xF0 then some ⟨0, 3, 0x90, 0xBF⟩
  else if b < 0xF4 then some ⟨b - 0xF0, 3, 0x80, 0xBF⟩
  else if b = 0xF4 then some ⟨4, 3, 0x80, 0x8F⟩
  else none

/-- The code point that following bytes complete, with the bytes after them, or the flaw in them
and how many bytes were taken until then. -/
def complete (low high taken value : Nat)
    : Nat → List UInt8 → Except (Flaw × Nat) (Nat × List UInt8)
  | 0, rest => .ok (value, rest)
  | _ + 1, [] => .error (.unexpectedEnd, taken)
  | following + 1, byte :: rest =>
      if low ≤ byte.toNat ∧ byte.toNat ≤ high then
        complete 0x80 0xBF (taken + 1) (value * 0x40 + (byte.toNat - 0x80)) following rest
      else
        .error (.invalidContinuation, taken)

/-- The first character and the bytes after it, or why there is none and how many bytes are at
fault. -/
def decodeChar (byte : UInt8) (rest : List UInt8) : Except (Flaw × Nat) (Character × List UInt8) :=
  match lead? byte with
  | none => .error (.invalidStart, 1)
  | some lead =>
      (complete lead.low lead.high 1 lead.bits lead.following rest).map fun (code, after) =>
        (.ofNat code, after)

theorem complete_length {low high taken value following code : Nat} {bytes after : List UInt8}
    (h : complete low high taken value following bytes = .ok (code, after))
    : after.length ≤ bytes.length := by
  fun_induction complete low high taken value following bytes with
  | case1 =>
      cases h
      simp
  | case2 => cases h
  | case3 low high taken value following byte rest _ ih =>
      have := ih h
      simp
      omega
  | case4 => cases h

theorem decodeChar_length {byte : UInt8} {rest after : List UInt8} {c : Character}
    (h : decodeChar byte rest = .ok (c, after))
    : after.length < (byte :: rest).length := by
  unfold decodeChar at h
  split at h
  · cases h
  · next lead _ =>
      cases found : complete lead.low lead.high 1 lead.bits lead.following rest with
      | error => simp [found, Except.map] at h
      | ok result =>
          simp only [found, Except.map, Except.ok.injEq, Prod.mk.injEq] at h
          have shorter := complete_length found
          simp [← h.2]
          omega

/-- Reads on behind the characters read before in reverse; the bytes are the last ones of so
many. -/
def decodeFrom (total : Nat) (read : Text) : List UInt8 → Except Fault Text
  | [] => .ok read.reverse
  | byte :: rest =>
      match _h : decodeChar byte rest with
      | .ok (c, after) => decodeFrom total (c :: read) after
      | .error (flaw, length) =>
          .error { flaw, position := total - (byte :: rest).length, length, byte }
  termination_by bytes => bytes.length
  decreasing_by exact decodeChar_length _h

/-- The text that bytes spell. -/
def decode (bytes : List UInt8) : Except Fault Text :=
  decodeFrom bytes.length [] bytes

/-- Reads on with a replacement character for bytes that are no character, behind the characters
read before in reverse. -/
def decodeLossyFrom (read : Text) : List UInt8 → Text
  | [] => read.reverse
  | byte :: rest =>
      match _h : decodeChar byte rest with
      | .ok (c, after) => decodeLossyFrom (c :: read) after
      | .error (_, length) => decodeLossyFrom ('\uFFFD' :: read) (rest.drop (length - 1))
  termination_by bytes => bytes.length
  decreasing_by
    · exact decodeChar_length _h
    · simp only [List.length_drop, List.length_cons]
      omega

/-- The text that bytes spell, with a replacement character wherever they spell none. -/
def decodeLossy (bytes : List UInt8) : Text :=
  decodeLossyFrom [] bytes

/-- The bytes of a character. Surrogates have none of their own; one that stands for a byte that was
no character has that byte, the low one of its code point. -/
def bytesOf : Character → List UInt8
  | .scalar c => String.utf8EncodeChar c
  | .surrogate index => [.ofNat index]

/-- The bytes of a text. -/
def bytes (text : Text) : List UInt8 :=
  text.flatMap bytesOf

/-- The surrogates that stand for bytes outside ASCII where such bytes are no characters. -/
def isEscapedByte (c : Character) : Bool :=
  0xDC80 ≤ c.toNat && c.toNat ≤ 0xDCFF

/-- Characters that cannot be encoded: the first of them, where it stands and how many they are. -/
structure Unencodable where
  first : Character
  position : Nat
  length : Nat
  deriving DecidableEq

def Unencodable.message (fault : Unencodable) : Text :=
  let place :=
    if fault.length = 1 then
      "character '\\u" ++ Text.hex 4 fault.first.toNat ++ "' in position "
        ++ Text.ofNat fault.position
    else
      "characters in position " ++ Text.ofNat fault.position ++ ↑ '-'
        :: Text.ofNat (fault.position + fault.length - 1)
  "'utf-8' codec can't encode " ++ place ++ ": surrogates not allowed"

/-- The first characters of a text that are not allowed in it, with all surrogates behind the first
of them. -/
def unencodable? (allowed : Character → Bool) (text : Text) : Option Unencodable :=
  match text.dropWhile allowed with
  | [] => none
  | first :: rest =>
      some
        {
          first, position := (text.takeWhile allowed).length,
          length := 1 + (rest.takeWhile (!Character.isScalar ·)).length
        }

/-- The bytes of a text of scalar values. -/
def encode (text : Text) : Except Unencodable (List UInt8) :=
  match unencodable? Character.isScalar text with
  | none => .ok (bytes text)
  | some fault => .error fault

/-- The bytes of texts up to the first one that cannot be encoded, and why it cannot. -/
def encodeAll : List Text → List UInt8 × Option Unencodable
  | [] => ([], none)
  | text :: rest =>
      match encode text with
      | .error fault => ([], some fault)
      | .ok bytes =>
          let (more, fault) := encodeAll rest
          (bytes ++ more, fault)

end LatheGloss.Text.Utf8
