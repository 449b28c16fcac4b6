import LoxReader.Text.Basic

/-!
UTF-8. `decode` takes well-formed bytes only and says where others go wrong; `decodeLossy` puts
U+FFFD for each ill-formed part.
-/

namespace LoxReader.Text

abbrev Bytes := List UInt8

structure ByteRange where
  low : Nat
  high : Nat
  deriving DecidableEq, Repr

namespace ByteRange

def contains (r : ByteRange) (b : UInt8) : Bool := r.low ≤ b.toNat && b.toNat ≤ r.high

def continuation : ByteRange := ⟨0x80, 0xBF⟩

end ByteRange

/-- What the first bytes of a non-empty input are: a character, bytes that begin no character, or
a character that the end of the input cuts short. -/
inductive Sequence where
  | complete (c : Char) (rest : Bytes)
  | illFormed (length : Nat)
  | truncated
  deriving Repr

namespace Sequence

/-- The bits of a first byte and the ranges of the bytes that must follow it. -/
def lead? (b : UInt8) : Option (Nat × List ByteRange) :=
  let n := b.toNat
  if n < 0x80 then some (n, [])
  else if n < 0xC2 then none
  else if n < 0xE0 then some (n - 0xC0, [.continuation])
  else if n = 0xE0 then some (n - 0xE0, [⟨0xA0, 0xBF⟩, .continuation])
  else if n = 0xED then some (n - 0xE0, [⟨0x80, 0x9F⟩, .continuation])
  else if n < 0xF0 then some (n - 0xE0, [.continuation, .continuation])
  else if n = 0xF0 then some (n - 0xF0, [⟨0x90, 0xBF⟩, .continuation, .continuation])
  else if n < 0xF4 then some (n - 0xF0, [.continuation, .continuation, .continuation])
  else if n = 0xF4 then some (n - 0xF0, [⟨0x80, 0x8F⟩, .continuation, .continuation])
  else none

/-- Reads the bytes that `ranges` asks for, behind `length` bytes whose bits are `value`. -/
def follow : List ByteRange → Nat → Nat → Bytes → Sequence
  | [], value, _, bytes => .complete (Char.ofNat value) bytes
  | _ :: _, _, _, [] => .truncated
  | range :: ranges, value, length, b :: bytes =>
      if range.contains b then follow ranges (value * 64 + (b.toNat - 0x80)) (length + 1) bytes
      else .illFormed length

def first (b : UInt8) (bytes : Bytes) : Sequence :=
  match lead? b with
  | some (value, ranges) => follow ranges value 1 bytes
  | none => .illFormed 1

theorem length_of_follow {ranges : List ByteRange} {value length : Nat} {bytes rest : Bytes}
    {c : Char} (h : follow ranges value length bytes = .complete c rest) :
    rest.length ≤ bytes.length := by
  fun_induction follow ranges value length bytes with
  | case1 => simp only [complete.injEq] at h; simp [h.2]
  | case2 => simp at h
  | case3 range ranges value length b bytes _ ih => exact Nat.le_succ_of_le (ih h)
  | case4 => simp at h

theorem length_of_first {b : UInt8} {bytes rest : Bytes} {c : Char}
    (h : first b bytes = .complete c rest) : rest.length ≤ bytes.length := by
  unfold first at h
  split at h
  · exact length_of_follow h
  · simp at h

end Sequence

/-- Where bytes stop being UTF-8: behind `validUpTo` bytes, by `length` bytes that begin no
character or, without a length, by the end of the input. -/
structure DecodeError where
  validUpTo : Nat
  length : Option Nat
  deriving DecidableEq, Repr

def DecodeError.message (e : DecodeError) : String :=
  match e.length with
  | some length => s!"invalid utf-8 sequence of {length} bytes from index {e.validUpTo}"
  | none => s!"incomplete utf-8 byte sequence from index {e.validUpTo}"

/-- Decodes the bytes that follow the text `before`, which is kept in reverse order. -/
def decodeAfter (before : Text) (offset : Nat) : Bytes → Except DecodeError Text
  | [] => .ok before.reverse
  | b :: bytes =>
      match h : Sequence.first b bytes with
      | .complete c rest =>
          have := Sequence.length_of_first h
          decodeAfter (c :: before) (offset + c.utf8Size) rest
      | .illFormed length => .error ⟨offset, some length⟩
      | .truncated => .error ⟨offset, none⟩
termination_by bytes => bytes.length

def decode (bytes : Bytes) : Except DecodeError Text := decodeAfter [] 0 bytes

/-- A well-formed character of an input, or the bytes of an ill-formed part. -/
inductive Chunk where
  | char (c : Char)
  | illFormed (bytes : Bytes)
  deriving DecidableEq, Repr

def chunks : Bytes → List Chunk
  | [] => []
  | b :: bytes =>
      match h : Sequence.first b bytes with
      | .complete c rest =>
          have := Sequence.length_of_first h
          .char c :: chunks rest
      | .illFormed length =>
          .illFormed (b :: bytes.take (length - 1)) :: chunks (bytes.drop (length - 1))
      | .truncated => [.illFormed (b :: bytes)]
termination_by bytes => bytes.length

def Chunk.lossy : Chunk → Char
  | char c => c
  | illFormed _ => '\uFFFD'

def decodeLossy (bytes : Bytes) : Text := (chunks bytes).map Chunk.lossy

def encode (t : Text) : Bytes := t.flatMap String.utf8EncodeChar

end LoxReader.Text
