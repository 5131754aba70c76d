import ServiceStack.Proofs.Text.Lossy

/-!
The octets of a text show that text and no other one.
-/

namespace ServiceStack.Utf8

lemma reads_encode (cs : List Char) : Reads (cs.flatMap encodeChar) cs := by
  induction cs with
  | nil => exact .nil
  | cons c cs ih => exact .char c ih

@[simp] lemma lossyChars_encode (s : String) : lossyChars (encode s) = s.toList :=
  reads_iff.mp (reads_encode s.toList)

@[simp] lemma lossy_encode (s : String) : lossy (encode s) = s := by
  rw [lossy, lossyChars_encode, String.ofList_toList]

lemma encode_injective : Function.Injective encode :=
  Function.LeftInverse.injective lossy_encode

end ServiceStack.Utf8
