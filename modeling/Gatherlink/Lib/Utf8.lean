import Gatherlink.Lib.BigEndian

/-! Text as byte strings. -/

namespace Gatherlink.Lib.Utf8
open Lib.BigEndian

def encode (text : String) : Bytes := text.toByteArray.data.toList

/-- The text behind a byte string, if it is valid UTF-8. -/
def decode (bytes : Bytes) : Option String := String.fromUTF8? ⟨bytes.toArray⟩

@[simp] theorem decode_encode (text : String) : decode (encode text) = some text := by
  have valid : (⟨(encode text).toArray⟩ : ByteArray).IsValidUTF8 := text.isValidUTF8
  exact dif_pos valid

variable {text : String}

theorem encode_decode {bytes : Bytes} (decoded : decode bytes = some text) : encode text = bytes := by
  unfold decode String.fromUTF8? at decoded
  split at decoded
  · obtain rfl := Option.some.inj decoded
    exact List.toList_toArray ..
  · contradiction

theorem encode_eq_nil : encode text = [] ↔ text = "" := by
  constructor
  · intro empty
    have same : decode (encode text) = decode (encode "") := by
      rw [empty]
      rfl
    simpa using same
  · rintro rfl
    rfl

end Gatherlink.Lib.Utf8
