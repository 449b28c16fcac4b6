import LoxReader.Text.Utf8
import LoxReader.Unicode.DefaultIgnorable
import LoxReader.Unicode.GraphemeExtend
import LoxReader.Unicode.Printable

/-!
Quoted text, in which every character is visible and a quote or a line break can only be part of
an escape.
-/

namespace LoxReader.Text

open Unicode

/-- The halfwidth voicing marks extend the character in front of them, yet have a place of their
own. -/
def isVoicingMark (c : Char) : Bool := c == '\uFF9E' || c == '\uFF9F'

/-- Whether a character by itself shows nothing that can be read. -/
def isHidden (c : Char) : Bool :=
  (isGraphemeExtend c && !isVoicingMark c) || isDefaultIgnorable c || !isPrintable c

def escapeCodePoint (c : Char) : Text :=
  '\\' :: 'u' :: '\x7b' :: Nat.toDigits 16 c.toNat ++ ['\x7d']

def escape (c : Char) : Text :=
  match c with
  | '"' => ['\\', '"']
  | '\\' => ['\\', '\\']
  | '\t' => ['\\', 't']
  | '\r' => ['\\', 'r']
  | '\n' => ['\\', 'n']
  | '\x00' => ['\\', '0']
  | _ => if isHidden c then escapeCodePoint c else [c]

def quote (t : Text) : Text := '"' :: t.flatMap escape ++ ['"']

def escapeByte (b : UInt8) : Text :=
  '\\' :: 'x' :: [Nat.digitChar (b.toNat / 16), Nat.digitChar (b.toNat % 16)].map Char.toUpper

def Chunk.escape : Chunk → Text
  | char c => Text.escape c
  | illFormed bytes => bytes.flatMap escapeByte

def quoteBytes (bytes : Bytes) : Text := '"' :: (chunks bytes).flatMap Chunk.escape ++ ['"']

end LoxReader.Text
