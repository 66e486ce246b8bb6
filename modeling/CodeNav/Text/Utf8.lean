import CodeNav.Text.Hex

/-! UTF-8 as a machine that reads one byte at a time. A byte that cannot follow the bytes before
it ends their sequence, so a broken sequence is always as long as it can be. Reading is either
lenient, each broken sequence becoming one replacement character, or strict, the first broken
sequence being the fault. -/
namespace CodeNav.Text.Utf8

abbrev Bytes := List UInt8

/-- Where the machine stands between two bytes: between characters, or inside one with `owed`
bytes to come, the next of them from `low` to `high`, and `value` read so far. -/
inductive State where
  | start
  | inside (owed low high value : Nat)
deriving DecidableEq, Repr

def replacement : Char := Char.ofNat 0xFFFD

def lead (byte : UInt8) : List Char × State :=
  let b := byte.toNat
  if b < 0x80 then ([Char.ofNat b], .start)
  else if 0xC2 ≤ b ∧ b ≤ 0xDF then ([], .inside 1 0x80 0xBF (b - 0xC0))
  else if b = 0xE0 then ([], .inside 2 0xA0 0xBF 0)
  else if b = 0xED then ([], .inside 2 0x80 0x9F 0xD)
  else if 0xE1 ≤ b ∧ b ≤ 0xEF then ([], .inside 2 0x80 0xBF (b - 0xE0))
  else if b = 0xF0 then ([], .inside 3 0x90 0xBF 0)
  else if 0xF1 ≤ b ∧ b ≤ 0xF3 then ([], .inside 3 0x80 0xBF (b - 0xF0))
  else if b = 0xF4 then ([], .inside 3 0x80 0x8F 4)
  else ([replacement], .start)

def State.feed : State → UInt8 → List Char × State
  | .start, byte => lead byte
  | .inside owed low high value, byte =>
    if low ≤ byte.toNat ∧ byte.toNat ≤ high then
      let value := 64 * value + (byte.toNat - 0x80)
      if owed ≤ 1 then ([Char.ofNat value], .start) else ([], .inside (owed - 1) 0x80 0xBF value)
    else (replacement :: (lead byte).1, (lead byte).2)

def State.finish : State → List Char
  | .start => []
  | .inside .. => [replacement]

def readFrom (state : State) : Bytes → List Char
  | [] => state.finish
  | byte :: rest => (state.feed byte).1 ++ readFrom (state.feed byte).2 rest

def decodeLossy (bytes : Bytes) : String := String.ofList (readFrom .start bytes)

def encode (text : String) : Bytes := text.toUTF8.toList

inductive Cause where
  | badStart
  | badContinuation
  | truncated
deriving DecidableEq, Repr

structure Fault where
  byte : UInt8
  offset : Nat
  length : Nat
  cause : Cause
deriving DecidableEq, Repr

structure Begun where
  byte : UInt8
  length : Nat

def faultFrom (state : State) (begun : Begun) (offset : Nat) : Bytes → Option Fault
  | [] =>
    match state with
    | .start => none
    | .inside .. => some ⟨begun.byte, offset - begun.length, begun.length, .truncated⟩
  | byte :: rest =>
    match state with
    | .start =>
      match lead byte with
      | ([], next) => faultFrom next ⟨byte, 1⟩ (offset + 1) rest
      | (_ :: _, _) =>
        if byte.toNat < 0x80 then faultFrom .start ⟨byte, 0⟩ (offset + 1) rest
        else some ⟨byte, offset, 1, .badStart⟩
    | .inside _ low high _ =>
      if low ≤ byte.toNat ∧ byte.toNat ≤ high then
        faultFrom (state.feed byte).2 ⟨begun.byte, begun.length + 1⟩ (offset + 1) rest
      else some ⟨begun.byte, offset - begun.length, begun.length, .badContinuation⟩

def decode (bytes : Bytes) : Except Fault String :=
  match faultFrom .start ⟨0, 0⟩ 0 bytes with
  | some fault => .error fault
  | none => .ok (decodeLossy bytes)

def Cause.message : Cause → String
  | .badStart => "invalid start byte"
  | .badContinuation => "invalid continuation byte"
  | .truncated => "unexpected end of data"

def Fault.message (fault : Fault) : String :=
  let place :=
    if fault.length = 1 then s!"byte 0x{String.ofList (hexDigits 2 fault.byte.toNat)} in position {fault.offset}"
    else s!"bytes in position {fault.offset}-{fault.offset + fault.length - 1}"
  s!"'utf-8' codec can't decode {place}: {fault.cause.message}"

end CodeNav.Text.Utf8
