/-
Text as bytes and back, strictly: a character an encoding lacks cannot be
encoded, and bytes that no text encodes to cannot be decoded.
-/
import ScriptPress.Stream

namespace ScriptPress

/-- Which byte of a unit comes first. -/
inductive ByteOrder where
  | little
  | big
  deriving DecidableEq, Repr

inductive Encoding where
  | utf8
  | ascii
  | latin1
  | utf16 (order : ByteOrder)
  deriving DecidableEq, Repr

/-! ## One byte for each character -/

namespace SingleByte

/-- Encode characters with codes below `limit`, at most 256. -/
def encode (limit : Nat) (text : List Char) : Option Bytes :=
  text.mapM fun c => if c.toNat < limit then some c.toNat.toUInt8 else none

def decode (limit : Nat) (bytes : Bytes) : Option (List Char) :=
  bytes.mapM fun b => if b.toNat < limit then some (Char.ofNat b.toNat) else none

end SingleByte

/-! ## Units of sixteen bits -/

namespace Utf16

/-- The units of a character: one, or a high and a low surrogate. -/
def units (c : Char) : List Nat :=
  let n := c.toNat
  if n < 0x10000 then [n]
  else [0xD800 + (n - 0x10000) / 0x400, 0xDC00 + (n - 0x10000) % 0x400]

def isHigh (u : Nat) : Bool := 0xD800 ≤ u && u < 0xDC00

def isLow (u : Nat) : Bool := 0xDC00 ≤ u && u < 0xE000

/-- The text of some units, unless a surrogate stands alone. -/
def ofUnits : List Nat → Option (List Char)
  | [] => some []
  | u :: rest =>
    if isHigh u then
      match rest with
      | low :: rest =>
        if isLow low then
          (ofUnits rest).map
            (Char.ofNat (0x10000 + (u - 0xD800) * 0x400 + (low - 0xDC00)) :: ·)
        else none
      | [] => none
    else if isLow u then none
    else (ofUnits rest).map (Char.ofNat u :: ·)

def bytesOfUnit (order : ByteOrder) (u : Nat) : Bytes :=
  let high := (u / 256).toUInt8
  let low := (u % 256).toUInt8
  match order with
  | .little => [low, high]
  | .big => [high, low]

/-- The units of some bytes, of which there has to be an even number. -/
def unitsOfBytes (order : ByteOrder) : Bytes → Option (List Nat)
  | [] => some []
  | [_] => none
  | a :: b :: rest =>
    let u := match order with
      | .little => b.toNat * 256 + a.toNat
      | .big => a.toNat * 256 + b.toNat
    (unitsOfBytes order rest).map (u :: ·)

end Utf16

/-! ## Encodings -/

namespace Encoding

/-- The encoding known under a name. -/
def named? : String → Option Encoding
  | "utf-8" => some utf8
  | "ascii" => some ascii
  | "latin-1" => some latin1
  | "utf-16-le" => some (utf16 .little)
  | "utf-16-be" => some (utf16 .big)
  | _ => none

def encode? (encoding : Encoding) (text : List Char) : Option Bytes :=
  match encoding with
  | utf8 => some (text.flatMap String.utf8EncodeChar)
  | ascii => SingleByte.encode 128 text
  | latin1 => SingleByte.encode 256 text
  | utf16 order => some (text.flatMap fun c => (Utf16.units c).flatMap (Utf16.bytesOfUnit order))

def decode? (encoding : Encoding) (bytes : Bytes) : Option (List Char) :=
  match encoding with
  | utf8 => bytes.toByteArray.utf8Decode?.map Array.toList
  | ascii => SingleByte.decode 128 bytes
  | latin1 => SingleByte.decode 256 bytes
  | utf16 order => (Utf16.unitsOfBytes order bytes).bind Utf16.ofUnits

/-- Text encoded as UTF-8 is what its bytes decode to. -/
theorem decode?_encode?_utf8 (text : List Char) :
    (utf8.encode? text).bind utf8.decode? = some text := by
  have back : (text.flatMap String.utf8EncodeChar).toByteArray.utf8Decode? = some text.toArray :=
    List.utf8Decode?_utf8Encode
  simp [encode?, decode?, back]

end Encoding
end ScriptPress
