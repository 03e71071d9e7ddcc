import EmployeeGateway.Json.Reader
import EmployeeGateway.Text.Codec

/-!
# JSON documents given as bytes

A JSON document that arrives as bytes names no encoding, so the encoding is
told from its first bytes (`ByteEncoding.detect`):

* a byte order mark decides: `00 00 FE FF` or `FF FE 00 00` is UTF-32,
  `FE FF` or `FF FE` is UTF-16 (each in the order the mark shows, the mark
  dropped), `EF BB BF` is UTF-8 with the mark dropped;
* otherwise zero bytes among the first four do, since a document starts with
  an ASCII character: `00 00` starts UTF-32 big-endian text, `00 XX` UTF-16
  big-endian, `XX 00 00 00` UTF-32 little-endian and `XX 00` with anything
  else after it UTF-16 little-endian; of a document of two bytes, `00 XX` is
  UTF-16 big-endian and `XX 00` little-endian;
* anything else is UTF-8.

`Json.readBytes` decodes the bytes (`Codec`) and reads the text with a
nesting limit. Bytes that do not decode fail before any reading.
-/

namespace EmployeeGateway

/-- The encodings a JSON document in bytes can be in. -/
inductive ByteEncoding where
  | utf8
  | utf8Marked
  | utf16Marked
  | utf16 (bigEndian : Bool)
  | utf32Marked
  | utf32 (bigEndian : Bool)
  deriving Repr, DecidableEq, Inhabited

namespace ByteEncoding

/-- Tell the encoding of a document from its first bytes. -/
def detect (bs : List Nat) : ByteEncoding :=
  match bs with
  | 0 :: 0 :: 0xFE :: 0xFF :: _ => .utf32Marked
  | 0xFF :: 0xFE :: 0 :: 0 :: _ => .utf32Marked
  | 0xFE :: 0xFF :: _ => .utf16Marked
  | 0xFF :: 0xFE :: _ => .utf16Marked
  | 0xEF :: 0xBB :: 0xBF :: _ => .utf8Marked
  | a :: b :: c :: d :: _ =>
    if a == 0 then (if b == 0 then .utf32 true else .utf16 true)
    else if b == 0 then (if c == 0 && d == 0 then .utf32 false else .utf16 false)
    else .utf8
  | [a, b] =>
    if a == 0 then .utf16 true
    else if b == 0 then .utf16 false
    else .utf8
  | _ => .utf8

/-- The characters of the bytes in this encoding, if they decode. -/
def decode : ByteEncoding → List Nat → Option (List Char)
  | .utf8, bs => Codec.utf8Chars bs
  | .utf8Marked, bs => Codec.utf8Chars (bs.drop 3)
  | .utf16Marked, bs => Codec.utf16Chars (bs.take 2 == [0xFE, 0xFF]) (bs.drop 2)
  | .utf16 big, bs => Codec.utf16Chars big bs
  | .utf32Marked, bs => Codec.utf32Chars (bs.take 4 == [0, 0, 0xFE, 0xFF]) (bs.drop 4)
  | .utf32 big, bs => Codec.utf32Chars big bs

end ByteEncoding

namespace Json

/-- Why bytes are not a JSON document. -/
inductive BytesError where
  /-- The bytes do not decode in the encoding they show. -/
  | undecodable
  /-- The text is not a document. -/
  | text (e : ReadError)
  deriving Repr, DecidableEq, Inhabited

/-- Read a JSON document from bytes, with at most `room` arrays and objects
open at once. -/
def readBytes (room : Nat) (bs : List Nat) : Except BytesError Value :=
  match (ByteEncoding.detect bs).decode bs with
  | none => .error .undecodable
  | some cs => (readNestedChars room cs).mapError .text

end Json

end EmployeeGateway
