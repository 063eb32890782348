import ApiPages.Link.Percent
import ApiPages.Proofs.Text.Pieces

/-!
# Reading percent-encoded paths

What follows a link reads its path segment by segment: an escape stands for
a byte, any other character for its own bytes, and the bytes of a segment
for the text they are in UTF-8. Read so, the encoding of a path is the path
(`decodePath?_encodePath`). It holds no character that ends a path in a
link, since all that is not unreserved is escaped.
-/

namespace ApiPages.Link

/-! ## Characters -/

/-- What a digit of an escape counts. -/
def hexValue? (c : Char) : Option Nat :=
  let n := c.toNat
  if 0x30 ≤ n ∧ n ≤ 0x39 then some (n - 0x30)
  else if 0x41 ≤ n ∧ n ≤ 0x46 then some (n - 0x37)
  else if 0x61 ≤ n ∧ n ≤ 0x66 then some (n - 0x57)
  else none

/-- The bytes that a segment stands for. -/
def segmentBytes : List Char → List UInt8
  | [] => []
  | '%' :: high :: low :: more =>
    match hexValue? high, hexValue? low with
    | some x, some y => UInt8.ofNat (16 * x + y) :: segmentBytes more
    | _, _ => String.utf8EncodeChar '%' ++ segmentBytes (high :: low :: more)
  | c :: more => String.utf8EncodeChar c ++ segmentBytes more

/-- A hexadecimal digit is read back as its value. -/
theorem hexValue?_hexDigit : ∀ n < 16, hexValue? (hexDigit n) = some n := by decide

/-- An escape is read as its byte. -/
theorem segmentBytes_percentByte (b : UInt8) (more : List Char) :
    segmentBytes (percentByte b ++ more) = b :: segmentBytes more := by
  have hb : b.toNat < 256 := b.toNat_lt
  have hdigits : 16 * (b.toNat / 16) + b.toNat % 16 = b.toNat := Nat.div_add_mod b.toNat 16
  simp only [percentByte, List.cons_append, List.nil_append, segmentBytes,
    hexValue?_hexDigit (b.toNat / 16) (by omega), hexValue?_hexDigit (b.toNat % 16) (by omega),
    hdigits, UInt8.ofNat_toNat]

/-- Escaped bytes are read back one by one. -/
theorem segmentBytes_percentBytes (bs : List UInt8) (more : List Char) :
    segmentBytes (bs.flatMap percentByte ++ more) = bs ++ segmentBytes more := by
  induction bs with
  | nil => rfl
  | cons b bs ih =>
    rw [List.flatMap_cons, List.append_assoc, segmentBytes_percentByte, ih, List.cons_append]

/-- Any character but the escapes' own stands for itself. -/
theorem segmentBytes_of_ne {c : Char} (h : c ≠ '%') (more : List Char) :
    segmentBytes (c :: more) = String.utf8EncodeChar c ++ segmentBytes more := by
  rw [segmentBytes]
  intro _ _ _ heq
  exact absurd heq h

/-- An encoded character is read as its own bytes. -/
theorem segmentBytes_percentChar (c : Char) (more : List Char) :
    segmentBytes (percentChar c ++ more) = String.utf8EncodeChar c ++ segmentBytes more := by
  unfold percentChar
  split
  · next hkept =>
    -- What begins an escape is itself escaped.
    have hc : c ≠ '%' := by
      rintro rfl
      revert hkept
      decide
    exact segmentBytes_of_ne hc more
  · exact segmentBytes_percentBytes _ _

/-- So an escaped text has the bytes of the text. -/
theorem segmentBytes_flatMap (cs : List Char) :
    segmentBytes (cs.flatMap percentChar) = cs.flatMap String.utf8EncodeChar := by
  induction cs with
  | nil => rfl
  | cons c cs ih => rw [List.flatMap_cons, segmentBytes_percentChar, ih, List.flatMap_cons]

/-- The characters of an encoded one are unreserved, or start an escape. -/
theorem mem_percentChar {c x : Char} (h : x ∈ percentChar c) : isUnreserved x = true ∨ x = '%' := by
  have hdigit : ∀ n < 16, isUnreserved (hexDigit n) = true := by decide
  unfold percentChar at h
  split at h
  · next hkept =>
    rw [List.mem_singleton] at h
    exact Or.inl (h ▸ hkept)
  · obtain ⟨b, -, hb⟩ := List.mem_flatMap.mp h
    have hlt : b.toNat < 256 := b.toNat_lt
    simp only [percentByte, List.mem_cons, List.not_mem_nil, or_false] at hb
    rcases hb with rfl | rfl | rfl
    · exact Or.inr rfl
    · exact Or.inl (hdigit _ (by omega))
    · exact Or.inl (hdigit _ (by omega))

/-! ## Paths -/

/-- The text of a segment, unless its bytes are none. -/
def decodeSegment? (segment : List Char) : Option (List Char) :=
  (segmentBytes segment).toByteArray.utf8Decode?.map Array.toList

/-- A path read segment by segment. -/
def decodePath? (path : String) : Option String :=
  ((Text.splitOn '/' path.toList).mapM decodeSegment?).map fun pieces =>
    String.ofList (Text.joinWith ['/'] pieces)

/-- So it decodes to that text, which its bytes determine. -/
theorem decodeSegment?_flatMap (cs : List Char) :
    decodeSegment? (cs.flatMap percentChar) = some cs := by
  rw [decodeSegment?, segmentBytes_flatMap]
  change (cs.utf8Encode).utf8Decode?.map Array.toList = some cs
  rw [List.utf8Decode?_utf8Encode]
  rfl

/-- The segments of an encoded path. -/
theorem splitOn_encodePath (path : String) :
    Text.splitOn '/' (encodePath path).toList
      = (Text.splitOn '/' path.toList).map fun piece => piece.flatMap percentChar := by
  rw [encodePath, String.toList_ofList, Text.splitOn_joinWith]
  · simpa using Text.splitOn_ne_nil '/' path.toList
  · intro piece hpiece hslash
    obtain ⟨own, -, rfl⟩ := List.mem_map.mp hpiece
    obtain ⟨c, -, hc⟩ := List.mem_flatMap.mp hslash
    rcases mem_percentChar hc with h | h
    · revert h
      decide
    · revert h
      decide

/-- The characters of an encoded path. -/
theorem mem_encodePath {path : String} {c : Char} (h : c ∈ (encodePath path).toList) :
    isUnreserved c = true ∨ c = '%' ∨ c = '/' := by
  rw [encodePath, String.toList_ofList] at h
  rcases Text.mem_joinWith h with hslash | ⟨piece, hpiece, hc⟩
  · exact Or.inr (Or.inr (List.mem_singleton.mp hslash))
  · obtain ⟨own, -, rfl⟩ := List.mem_map.mp hpiece
    obtain ⟨x, -, hx⟩ := List.mem_flatMap.mp hc
    exact (mem_percentChar hx).imp_right Or.inl

/-- The segments of an escaped path decode to those of the path. -/
theorem mapM_decodeSegment? (pieces : List (List Char)) :
    (pieces.map fun piece => piece.flatMap percentChar).mapM decodeSegment? = some pieces := by
  induction pieces with
  | nil => rfl
  | cons piece pieces ih =>
    rw [List.map_cons, List.mapM_cons, decodeSegment?_flatMap, ih]
    rfl

/-- Reading undoes the encoding. -/
theorem decodePath?_encodePath (path : String) : decodePath? (encodePath path) = some path := by
  rw [decodePath?, splitOn_encodePath, mapM_decodeSegment?, Option.map_some, Text.joinWith_splitOn,
    String.ofList_toList]

end ApiPages.Link
