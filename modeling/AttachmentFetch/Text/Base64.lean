import AttachmentFetch.Text.Utf8

/-! Base64 with the standard alphabet. Reading is canonical: padding has to be
present and exact, and the bits that padding leaves over have to be zero, so
every byte string has one spelling. -/
namespace AttachmentFetch.Text.Base64

def symbol (value : Nat) : UInt8 :=
  if value < 26 then UInt8.ofNat (65 + value)
  else if value < 52 then UInt8.ofNat (71 + value)
  else if value < 62 then UInt8.ofNat (value - 4)
  else if value = 62 then 43 else 47

def sextet? (byte : UInt8) : Option Nat :=
  let code := byte.toNat
  if 65 ≤ code ∧ code < 91 then some (code - 65)
  else if 97 ≤ code ∧ code < 123 then some (code - 71)
  else if 48 ≤ code ∧ code < 58 then some (code + 4)
  else if code = 43 then some 62
  else if code = 47 then some 63
  else none

def pad : UInt8 := 61

def encode : Bytes → Bytes
  | a :: b :: c :: rest =>
    let bits := a.toNat * 65536 + b.toNat * 256 + c.toNat
    symbol (bits / 262144) :: symbol (bits / 4096 % 64) :: symbol (bits / 64 % 64)
      :: symbol (bits % 64) :: encode rest
  | [a, b] =>
    let bits := a.toNat * 1024 + b.toNat * 4
    [symbol (bits / 4096), symbol (bits / 64 % 64), symbol (bits % 64), pad]
  | [a] =>
    let bits := a.toNat * 16
    [symbol (bits / 64), symbol (bits % 64), pad, pad]
  | [] => []

inductive Fault where
  | badSymbol (byte : UInt8) (offset : Nat)
  | badLength (symbols : Nat)
  | badTrailingBits (byte : UInt8) (offset : Nat)
  | badPadding
  deriving DecidableEq, Repr

def Fault.message : Fault → String
  | .badSymbol byte offset => s!"Invalid symbol {byte}, offset {offset}."
  | .badLength symbols => s!"Invalid input length: {symbols}"
  | .badTrailingBits byte offset => s!"Invalid last symbol {byte}, offset {offset}."
  | .badPadding => "Invalid padding"

def value (offset : Nat) (byte : UInt8) : Except Fault Nat :=
  match sextet? byte with
  | some value => .ok value
  | none => .error (.badSymbol byte offset)

/-- The symbols of the last group before its padding, and whether the group
ends in padding. A padding byte needs two symbols before it and only padding after it. -/
def lastSymbols (offset : Nat) : Bytes → Nat → Except Fault (List Nat × Nat)
  | [], _ => .ok ([], 0)
  | byte :: rest, index =>
    if byte = pad then
      if index < 2 then .error (.badSymbol pad (offset + index))
      else if rest.all (· = pad) then .ok ([], 1 + rest.length)
      else .error (.badSymbol pad (offset + index))
    else do
      let symbol ← value (offset + index) byte
      let (symbols, pads) ← lastSymbols offset rest (index + 1)
      return (symbol :: symbols, pads)

def decodeLast (offset : Nat) (group : Bytes) : Except Fault Bytes := do
  let (symbols, pads) ← lastSymbols offset group 0
  if !symbols.isEmpty && symbols.length < 2 then
    throw (.badLength (offset + symbols.length))
  if (symbols.length + pads) % 4 ≠ 0 then throw .badPadding
  match symbols with
  | [a, b, c, d] =>
    let bits := ((a * 64 + b) * 64 + c) * 64 + d
    return [UInt8.ofNat (bits / 65536), UInt8.ofNat (bits / 256), UInt8.ofNat bits]
  | [a, b, c] =>
    let bits := (a * 64 + b) * 64 + c
    if bits % 4 ≠ 0 then throw (.badTrailingBits (symbol c) (offset + 2))
    return [UInt8.ofNat (bits / 1024), UInt8.ofNat (bits / 4)]
  | [a, b] =>
    let bits := a * 64 + b
    if bits % 16 ≠ 0 then throw (.badTrailingBits (symbol b) (offset + 1))
    return [UInt8.ofNat (bits / 16)]
  | _ => return []

def decodeGroups (offset : Nat) : Bytes → Except Fault Bytes
  | a :: b :: c :: d :: e :: rest => do
    let w ← value offset a
    let x ← value (offset + 1) b
    let y ← value (offset + 2) c
    let z ← value (offset + 3) d
    let bits := ((w * 64 + x) * 64 + y) * 64 + z
    let tail ← decodeGroups (offset + 4) (e :: rest)
    return UInt8.ofNat (bits / 65536) :: UInt8.ofNat (bits / 256) :: UInt8.ofNat bits :: tail
  | group => decodeLast offset group

/-- A text one symbol too long whose extra symbol is foreign is blamed on that
symbol, before anything else: a stray line end is the usual cause. -/
def decode (text : Bytes) : Except Fault Bytes :=
  match text.getLast? with
  | some last =>
    if text.length % 4 = 1 ∧ last ≠ pad ∧ (sextet? last).isNone then
      .error (.badSymbol last (text.length - 1))
    else decodeGroups 0 text
  | none => .ok []

end AttachmentFetch.Text.Base64
