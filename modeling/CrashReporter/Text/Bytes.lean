-- Text in bytes that may be damaged. Each character that can be read is kept, and
-- a mark stands for each byte that is part of none.

namespace CrashReporter.Text

/-- Stands for a byte that is part of no character. -/
def brokenMark : Char := '\x00'

/-- The characters from a place on, with marks between them. -/
def charsFrom (bytes : ByteArray) (i : Nat) : List Char :=
  if i < bytes.size then
    match bytes.utf8DecodeChar? i with
    | some c => c :: charsFrom bytes (i + c.utf8Size)
    | none => brokenMark :: charsFrom bytes (i + 1)
  else []
termination_by bytes.size - i
decreasing_by
  · have := c.utf8Size_pos
    omega
  · omega

/-- The characters in some bytes. A NUL among the bytes would pass for a mark. -/
def charsOfBytes (bytes : List UInt8) : List Char := charsFrom ⟨bytes.toArray⟩ 0

end CrashReporter.Text
