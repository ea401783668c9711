import PackageStore.Json.Basic
import PackageStore.Text.Quoted

/-!
Contract: the code points of a JSON document that arrives as bytes.

Owns: the choice among UTF-8, UTF-16 and UTF-32, by byte order mark or by where the zero bytes
stand, decoding that lets lone surrogates pass, and the first fault of an undecodable document.
-/

set_option autoImplicit false

namespace PackageStore.Json

/-- The order of the bytes of a unit. -/
inductive ByteOrder where
  | little
  | big
deriving DecidableEq, Repr

inductive Encoding where
  | utf8
  | utf16 (order : ByteOrder)
  | utf32 (order : ByteOrder)
deriving DecidableEq, Repr

inductive DecodeReason where
  | invalidStart
  | invalidContinuation
  | unexpectedEnd
  | truncated
  | outOfRange
deriving DecidableEq, Repr

/-- What cannot be decoded: the reason, where it stands and the bytes concerned. -/
structure DecodeFault where
  encoding : Encoding
  reason : DecodeReason
  position : Nat
  bytes : List UInt8
deriving DecidableEq, Repr

def Encoding.name : Encoding → String
  | .utf8 => "utf-8"
  | .utf16 .little => "utf-16-le"
  | .utf16 .big => "utf-16-be"
  | .utf32 .little => "utf-32-le"
  | .utf32 .big => "utf-32-be"

def DecodeReason.text : DecodeReason → String
  | .invalidStart => "invalid start byte"
  | .invalidContinuation => "invalid continuation byte"
  | .unexpectedEnd => "unexpected end of data"
  | .truncated => "truncated data"
  | .outOfRange => "code point not in range(0x110000)"

def DecodeFault.message (fault : DecodeFault) : String :=
  let place :=
    match fault.bytes with
    | [byte] => s!"byte 0x" ++ String.ofList (Text.hexPadded 2 byte.toNat)
        ++ s!" in position {fault.position}"
    | bytes => s!"bytes in position {fault.position}-{fault.position + bytes.length - 1}"
  s!"'{fault.encoding.name}' codec can't decode {place}: {fault.reason.text}"

/-- The encoding of a document, the number of bytes of its mark, and whether positions count from
behind the mark. -/
def Encoding.detect : List UInt8 → Encoding × Nat × Bool
  | 0x00 :: 0x00 :: 0xFE :: 0xFF :: _ => (.utf32 .big, 4, false)
  | 0xFF :: 0xFE :: 0x00 :: 0x00 :: _ => (.utf32 .little, 4, false)
  | 0xFE :: 0xFF :: _ => (.utf16 .big, 2, false)
  | 0xFF :: 0xFE :: _ => (.utf16 .little, 2, false)
  | 0xEF :: 0xBB :: 0xBF :: _ => (.utf8, 3, true)
  | first :: second :: third :: fourth :: _ =>
      if first = 0 then (if second = 0 then .utf32 .big else .utf16 .big, 0, false)
      else if second = 0 then
        (if third = 0 && fourth = 0 then .utf32 .little else .utf16 .little, 0, false)
      else (.utf8, 0, false)
  | [first, second] =>
      if first = 0 then (.utf16 .big, 0, false)
      else if second = 0 then (.utf16 .little, 0, false)
      else (.utf8, 0, false)
  | _ => (.utf8, 0, false)

/-- The outcome of one decoding step: a code point and the number of bytes it took, or a fault
over a number of bytes. -/
inductive DecodeStep where
  | code (value : CodePoint) (width : Nat)
  | fault (reason : DecodeReason) (width : Nat)
deriving DecidableEq, Repr

def isContinuation (byte : UInt8) : Bool :=
  byte &&& 0xC0 == 0x80

/-- Whether `second` may follow the first byte of a sequence of three or four. -/
def isSecondByte (first second : UInt8) : Bool :=
  isContinuation second
    && !(first == 0xE0 && second < 0xA0)
    && !(first == 0xF0 && second < 0x90)
    && !(first == 0xF4 && 0x90 ≤ second)

/-- The low six bits. -/
def payload (byte : UInt8) : Nat :=
  (byte &&& 0x3F).toNat

/-- The first code point of a UTF-8 text. A surrogate written with three bytes passes. -/
def utf8Step : List UInt8 → DecodeStep
  | [] => .fault .unexpectedEnd 0
  | first :: rest =>
      if first < 0x80 then .code first.toNat 1
      else if first < 0xC2 || 0xF5 ≤ first then .fault .invalidStart 1
      else if first < 0xE0 then
        match rest with
        | [] => .fault .unexpectedEnd 1
        | second :: _ =>
            if isContinuation second then .code ((first &&& 0x1F).toNat * 64 + payload second) 2
            else .fault .invalidContinuation 1
      else if first < 0xF0 then
        match rest with
        | [] => .fault .unexpectedEnd 1
        | [second] =>
            if isSecondByte first second && !(first == 0xED && 0xA0 ≤ second) then
              .fault .unexpectedEnd 2
            else .fault .invalidContinuation 1
        | second :: third :: _ =>
            if !isSecondByte first second then .fault .invalidContinuation 1
            else if isContinuation third then
              .code (((first &&& 0x0F).toNat * 64 + payload second) * 64 + payload third) 3
            else if first == 0xED && 0xA0 ≤ second then .fault .invalidContinuation 1
            else .fault .invalidContinuation 2
      else
        match rest with
        | [] => .fault .unexpectedEnd 1
        | second :: more =>
            if !isSecondByte first second then .fault .invalidContinuation 1
            else
              match more with
              | [] => .fault .unexpectedEnd 2
              | third :: last =>
                  if !isContinuation third then .fault .invalidContinuation 2
                  else
                    match last with
                    | [] => .fault .unexpectedEnd 3
                    | fourth :: _ =>
                        if isContinuation fourth then
                          .code ((((first &&& 0x07).toNat * 64 + payload second) * 64
                            + payload third) * 64 + payload fourth) 4
                        else .fault .invalidContinuation 3

/-- The number that the bytes of a unit spell. -/
def unitValue (order : ByteOrder) (bytes : List UInt8) : Nat :=
  let ordered := match order with
    | .big => bytes
    | .little => bytes.reverse
  ordered.foldl (fun number byte => number * 256 + byte.toNat) 0

/-- The code point of a surrogate pair. -/
def joinSurrogates (high low : Nat) : CodePoint :=
  0x10000 + (high - 0xD800) * 0x400 + (low - 0xDC00)

def isHighSurrogate (code : Nat) : Bool :=
  0xD800 ≤ code && code ≤ 0xDBFF

def isLowSurrogate (code : Nat) : Bool :=
  0xDC00 ≤ code && code ≤ 0xDFFF

/-- The first code point of a UTF-16 text. A surrogate without its partner passes. -/
def utf16Step (order : ByteOrder) : List UInt8 → DecodeStep
  | a :: b :: rest =>
      let unit := unitValue order [a, b]
      match rest with
      | c :: d :: _ =>
          let next := unitValue order [c, d]
          if isHighSurrogate unit && isLowSurrogate next then .code (joinSurrogates unit next) 4
          else .code unit 2
      | _ => .code unit 2
  | bytes => .fault .truncated bytes.length

/-- The first code point of a UTF-32 text. Surrogates pass. -/
def utf32Step (order : ByteOrder) : List UInt8 → DecodeStep
  | a :: b :: c :: d :: _ =>
      let unit := unitValue order [a, b, c, d]
      if unit < 0x110000 then .code unit 4 else .fault .outOfRange 4
  | bytes => .fault .truncated bytes.length

def Encoding.step : Encoding → List UInt8 → DecodeStep
  | .utf8 => utf8Step
  | .utf16 order => utf16Step order
  | .utf32 order => utf32Step order

/-- Decodes up to `fuel` code points of the bytes that start at `position`. -/
def decodeFrom (encoding : Encoding) (fuel position : Nat) (bytes : List UInt8) :
    Except DecodeFault (List CodePoint) :=
  match fuel, bytes with
  | _, [] => .ok []
  | 0, _ => .ok []
  | fuel + 1, bytes =>
      match encoding.step bytes with
      | .code value width =>
          (decodeFrom encoding fuel (position + width) (bytes.drop width)).map (value :: ·)
      | .fault reason width =>
          .error { encoding, reason, position, bytes := bytes.take width }

/-- The code points of a document. -/
def decode (bytes : List UInt8) : Except DecodeFault (List CodePoint) :=
  let (encoding, mark, fromMark) := Encoding.detect bytes
  decodeFrom encoding bytes.length (if fromMark then 0 else mark) (bytes.drop mark)

end PackageStore.Json
