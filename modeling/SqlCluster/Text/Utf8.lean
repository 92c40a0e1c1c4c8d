/-!
Text as UTF-8. Reading goes from character to character; where the bytes at hand are no character,
`scan` leaves a fault that says how many bytes it covers and why, and goes on behind it. A strict
reading takes the first fault as its answer, a lenient one replaces each by U+FFFD.
-/

namespace SqlCluster.Text.Utf8

/-- The bytes of one character. -/
def encodeChar (c : Char) : List UInt8 := String.utf8EncodeChar c

/-- The bytes of a text. -/
def encode (s : List Char) : List UInt8 := s.flatMap encodeChar

/-- Why bytes are no character. -/
inductive Reason where
  | start
  | continuation
  | endOfData
  deriving DecidableEq, Repr

/-- Bytes that are no character: how many of them, and why. -/
structure Fault where
  reason : Reason
  span : Nat
  deriving DecidableEq, Repr

/-- Whether a byte continues a character. -/
def isContinuation (b : UInt8) : Bool := 0x80 ≤ b && b < 0xc0

/-- Whether a byte may follow the first byte of a character: no character is written longer than
it has to be, none is a surrogate and none lies beyond the last code point. -/
def mayFollow (lead b : UInt8) : Bool :=
  isContinuation b && !(lead == 0xe0 && b < 0xa0) && !(lead == 0xed && 0xa0 ≤ b) &&
    !(lead == 0xf0 && b < 0x90) && !(lead == 0xf4 && 0x90 ≤ b)

/-- The six bits of a byte that continues a character. -/
def low (b : UInt8) : Nat := b.toNat % 64

/-- The characters and faults of a byte string. -/
def scan : List UInt8 → List (Except Fault Char)
  | [] => []
  | a :: s =>
    if a < 0x80 then .ok (Char.ofNat a.toNat) :: scan s
    else if a < 0xc2 || 0xf4 < a then .error ⟨.start, 1⟩ :: scan s
    else match s with
      | [] => [.error ⟨.endOfData, 1⟩]
      | b :: s =>
        if !mayFollow a b then .error ⟨.continuation, 1⟩ :: scan (b :: s)
        else if a < 0xe0 then .ok (Char.ofNat (a.toNat % 32 * 64 + low b)) :: scan s
        else match s with
          | [] => [.error ⟨.endOfData, 2⟩]
          | c :: s =>
            if !isContinuation c then .error ⟨.continuation, 2⟩ :: scan (c :: s)
            else if a < 0xf0 then
              .ok (Char.ofNat ((a.toNat % 16 * 64 + low b) * 64 + low c)) :: scan s
            else match s with
              | [] => [.error ⟨.endOfData, 3⟩]
              | d :: s =>
                if !isContinuation d then .error ⟨.continuation, 3⟩ :: scan (d :: s)
                else
                  .ok (Char.ofNat (((a.toNat % 8 * 64 + low b) * 64 + low c) * 64 + low d)) ::
                    scan s

theorem scan_ne_nil {bytes : List UInt8} (h : bytes ≠ []) : scan bytes ≠ [] := by
  fun_cases scan bytes with
  | case1 => exact absurd rfl h
  | _ => simp

/-- The text of a byte string, or the offset of its first fault with the fault. -/
def strict (offset : Nat) : List (Except Fault Char) → Except (Nat × Fault) (List Char)
  | [] => .ok []
  | .error f :: _ => .error (offset, f)
  | .ok c :: s => do return c :: (← strict (offset + (encodeChar c).length) s)

/-- Reads a byte string that has to be free of faults. -/
def decode (bytes : List UInt8) : Except (Nat × Fault) (List Char) := strict 0 (scan bytes)

/-- Reads a byte string if it is free of faults. -/
def decode? (bytes : List UInt8) : Option (List Char) := (decode bytes).toOption

/-- Reads any byte string, with U+FFFD in place of each fault. -/
def decodeLossy (bytes : List UInt8) : List Char :=
  (scan bytes).map fun
    | .ok c => c
    | .error _ => Char.ofNat 0xfffd

/-- A byte string with each surrogate that is written like a character put as U+FFFD, which takes
as many bytes. -/
def replaceSurrogates : List UInt8 → List UInt8
  | [] => []
  | a :: s =>
    match s with
    | b :: c :: r =>
      if a = 0xed ∧ 0xa0 ≤ b ∧ isContinuation b ∧ isContinuation c then
        0xef :: 0xbf :: 0xbd :: replaceSurrogates r
      else a :: replaceSurrogates (b :: c :: r)
    | s => a :: s

/-- What is wrong with the bytes of a fault, in words. -/
def Reason.text : Reason → String
  | .start => "invalid start byte"
  | .continuation => "invalid continuation byte"
  | .endOfData => "unexpected end of data"

end SqlCluster.Text.Utf8
