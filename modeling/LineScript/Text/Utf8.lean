import LineScript.Text.Quote

/-!
Decoding of bytes as UTF-8, with an exact account of the first fault: which bytes are wrong, where
they stand and why.
-/

namespace LineScript.Text

inductive DecodeReason where
  | invalidStart
  | invalidContinuation
  | unexpectedEnd
deriving DecidableEq, Repr

/-- The first fault in a row of bytes: the faulty bytes and their position. -/
structure DecodeFault where
  reason : DecodeReason
  position : Nat
  bytes : List UInt8
deriving DecidableEq, Repr

namespace DecodeReason

def text : DecodeReason → String
  | invalidStart => "invalid start byte"
  | invalidContinuation => "invalid continuation byte"
  | unexpectedEnd => "unexpected end of data"

end DecodeReason

namespace DecodeFault

def message (fault : DecodeFault) : String :=
  let reason := fault.reason.text
  match fault.bytes with
  | [byte] =>
      let shown := String.ofList (hexDigits 2 byte.toNat)
      s!"'utf-8' codec can't decode byte 0x{shown} in position {fault.position}: {reason}"
  | bytes =>
      let last := fault.position + bytes.length - 1
      s!"'utf-8' codec can't decode bytes in position {fault.position}-{last}: {reason}"

end DecodeFault

/-- How many bytes follow a first byte, and the bounds of the second byte. -/
def followers? (byte : Nat) : Option (Nat × Nat × Nat) :=
  if 0xC2 ≤ byte && byte ≤ 0xDF then some (1, 0x80, 0xBF)
  else if byte == 0xE0 then some (2, 0xA0, 0xBF)
  else if byte == 0xED then some (2, 0x80, 0x9F)
  else if 0xE1 ≤ byte && byte ≤ 0xEF then some (2, 0x80, 0xBF)
  else if byte == 0xF0 then some (3, 0x90, 0xBF)
  else if 0xF1 ≤ byte && byte ≤ 0xF3 then some (3, 0x80, 0xBF)
  else if byte == 0xF4 then some (3, 0x80, 0x8F)
  else none

def leadBits (count byte : Nat) : Nat :=
  if count == 1 then byte % 32 else if count == 2 then byte % 16 else byte % 8

structure Decoding where
  chars : List Char
  pending : List UInt8
  missing : Nat
  value : Nat
  low : Nat
  high : Nat
  count : Nat

namespace Decoding

def start : Decoding := ⟨[], [], 0, 0, 0, 0, 0⟩

def step (state : Decoding) (byte : UInt8) : Except DecodeFault Decoding :=
  let n := byte.toNat
  if state.missing == 0 then
    if n < 128 then
      .ok { state with chars := Char.ofNat n :: state.chars, count := state.count + 1 }
    else
      match followers? n with
      | none => .error ⟨.invalidStart, state.count, [byte]⟩
      | some (missing, low, high) =>
          .ok { state with
            pending := [byte], missing, value := leadBits missing n, low, high
            count := state.count + 1 }
  else if state.low ≤ n && n ≤ state.high then
    let value := state.value * 64 + n % 64
    if state.missing == 1 then
      .ok { state with
        chars := Char.ofNat value :: state.chars, pending := [], missing := 0
        count := state.count + 1 }
    else
      .ok { state with
        pending := byte :: state.pending, missing := state.missing - 1, value
        low := 0x80, high := 0xBF, count := state.count + 1 }
  else
    .error
      ⟨.invalidContinuation, state.count - state.pending.length, state.pending.reverse⟩

def finish (state : Decoding) : Except DecodeFault (List Char) :=
  if state.missing == 0 then .ok state.chars.reverse
  else
    .error ⟨.unexpectedEnd, state.count - state.pending.length, state.pending.reverse⟩

end Decoding

def decodeUtf8 (bytes : List UInt8) : Except DecodeFault (List Char) := do
  let state ← bytes.foldlM Decoding.step Decoding.start
  state.finish

def portionSize : Nat := 8192

def startsSurrogate (pending : List UInt8) (byte : UInt8) : Bool :=
  pending == [0xED] && 0xA0 ≤ byte && byte ≤ 0xBF

namespace Decoding

/-- Reads one byte of a portion. The start of a surrogate at the end of a portion is faulty only
when the next portion begins, and there it is the first thing. -/
def stepInPortion (state : Decoding) (isLast : Bool) (byte : UInt8) : Except DecodeFault Decoding :=
  (state.step byte).mapError fun fault =>
    if isLast && startsSurrogate state.pending byte then { fault with position := 0 } else fault

def readPortion (state : Decoding) : List UInt8 → Except DecodeFault Decoding
  | [] => .ok state
  | byte :: rest => do
      let state ← state.stepInPortion rest.isEmpty byte
      state.readPortion rest

/-- At the start of a portion and at the end of a file positions are counted anew, from the first
byte of a character that is not finished. -/
def countAnew (state : Decoding) : Decoding :=
  { state with count := state.pending.length }

end Decoding

def portions (size : Nat) (bytes : List UInt8) : List (List UInt8) :=
  if size = 0 ∨ bytes = [] then []
  else bytes.take size :: portions size (bytes.drop size)
termination_by bytes.length
decreasing_by
  rename_i h
  have : bytes.length ≠ 0 := by simp_all
  simp; omega

def decodePortions (bytes : List UInt8) : Except DecodeFault (List Char) := do
  let state ← (portions portionSize bytes).foldlM
    (fun state portion => state.countAnew.readPortion portion) Decoding.start
  state.countAnew.finish

end LineScript.Text
