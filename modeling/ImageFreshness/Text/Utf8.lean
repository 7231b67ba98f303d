/-!
# Characters in bytes

`chars` reads bytes as UTF-8.  It reads on behind bytes that belong to no character, so that whoever
does not look at a part of a text need not care what it is made of.
-/

namespace ImageFreshness.Text

/-- The characters from a place on, at most `fuel` of them.  A byte that belongs to no character
    counts as `stray`. -/
def charsFrom (stray : Char) (bytes : ByteArray) : Nat → Nat → List Char
  | 0, _ => []
  | fuel + 1, place =>
    if place < bytes.size then
      match bytes.utf8DecodeChar? place with
      | some c => c :: charsFrom stray bytes fuel (place + c.utf8Size)
      | none => stray :: charsFrom stray bytes fuel (place + 1)
    else []

/-- Each character takes a byte at least, so there are no more of them than bytes. -/
def chars (stray : Char) (bytes : ByteArray) : List Char := charsFrom stray bytes bytes.size 0

/-! ### Bytes of a text -/

theorem size_utf8Encode_cons (c : Char) (cs : List Char) :
    (c :: cs).utf8Encode.size = c.utf8Size + cs.utf8Encode.size := by
  rw [List.utf8Encode_cons, ByteArray.size_append, List.utf8Encode_singleton,
    List.size_toByteArray, String.length_utf8EncodeChar]

theorem length_le_size_utf8Encode (cs : List Char) : cs.length ≤ cs.utf8Encode.size := by
  induction cs with
  | nil => exact Nat.zero_le _
  | cons c cs ih =>
    rw [List.length_cons, size_utf8Encode_cons]
    have hsize := c.utf8Size_pos
    omega

theorem charsFrom_utf8Encode (stray : Char) (before after : List Char) {fuel : Nat}
    (hfuel : after.length ≤ fuel) :
    charsFrom stray (before ++ after).utf8Encode fuel before.utf8Encode.size = after := by
  induction fuel generalizing before after with
  | zero => exact (List.length_eq_zero_iff.mp (Nat.le_zero.mp hfuel)).symm
  | succ fuel ih =>
    cases after with
    | nil => simp [charsFrom]
    | cons c after =>
      have hplace : before.utf8Encode.size < (before ++ c :: after).utf8Encode.size := by
        rw [List.utf8Encode_append, ByteArray.size_append, size_utf8Encode_cons]
        have hsize := c.utf8Size_pos
        omega
      have hchar : (before ++ c :: after).utf8Encode.utf8DecodeChar? before.utf8Encode.size =
          some c := by
        rw [ByteArray.utf8DecodeChar?_eq_utf8DecodeChar?_extract, List.utf8Encode_append,
          ByteArray.size_append, ByteArray.extract_append_eq_right rfl rfl]
        exact List.utf8DecodeChar?_utf8Encode_cons
      have hnext : before.utf8Encode.size + c.utf8Size = (before ++ [c]).utf8Encode.size := by
        rw [List.utf8Encode_append, ByteArray.size_append, size_utf8Encode_cons,
          List.utf8Encode_nil, ByteArray.size_empty, Nat.add_zero]
      have hrest := ih (before ++ [c]) after (Nat.le_of_succ_le_succ hfuel)
      rw [List.append_assoc, List.singleton_append] at hrest
      simp only [charsFrom, if_pos hplace, hchar, hnext, hrest]

/-- No byte of a text is astray. -/
theorem chars_toUTF8 (stray : Char) (text : String) : chars stray text.toUTF8 = text.toList := by
  have hbytes : text.toUTF8 = text.toList.utf8Encode := String.utf8Encode_toList.symm
  have hchars := charsFrom_utf8Encode stray [] text.toList (length_le_size_utf8Encode text.toList)
  rw [chars, hbytes]
  exact hchars

end ImageFreshness.Text
