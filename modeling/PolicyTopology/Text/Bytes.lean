import PolicyTopology.Text.CodePoint

/-!
# The bytes of a text

Outside of a program a text is kept as bytes: each character as its bytes in UTF-8. Bytes that are
no UTF-8 can be read too: a byte at which no character begins is read as one of the surrogates from
U+DC80 to U+DCFF, and such a surrogate is kept as its byte. Every other surrogate is without bytes.

No byte is lost when bytes are read as a text and the text is kept again (`bytes?_ofBytes`). The
other way round this holds of the characters alone (`ofBytes_bytes?`): surrogates whose bytes make
up a character are read back as that character.
-/

namespace PolicyTopology.Text

/-- The distance from a byte at which no character begins to the surrogate as which it is read. -/
def byteOffset : Nat := 0xDC00

def codePointBytes? (n : Nat) : Option (List UInt8) :=
  if n < codePointBound && !isSurrogate n then some (String.utf8EncodeChar (Char.ofNat n))
  else if byteOffset + 0x80 ≤ n && n < byteOffset + 0x100 then some [UInt8.ofNat (n - byteOffset)]
  else none

def codePointsBytes? : List Nat → Option (List UInt8)
  | [] => some []
  | n :: rest => do return (← codePointBytes? n) ++ (← codePointsBytes? rest)

def bytes? (text : String) : Option (List UInt8) := codePointsBytes? (codePoints text)

def front? (bytes : List UInt8) : Option Char :=
  (bytes.take 4).toByteArray.utf8DecodeChar? 0

/-- The code points that bytes are read as. The first `skip` bytes are passed over: they belong to a
character that begins before them. -/
def readBytes : Nat → List UInt8 → List Nat
  | _, [] => []
  | skip + 1, _ :: rest => readBytes skip rest
  | 0, byte :: rest =>
    match front? (byte :: rest) with
    | some c => c.toNat :: readBytes (c.utf8Size - 1) rest
    | none => (byteOffset + byte.toNat) :: readBytes 0 rest

def ofBytes (bytes : List UInt8) : String := ofCodePoints (readBytes 0 bytes)

/-- The bytes of a character begin with that character. -/
theorem front?_append (c : Char) (rest : List UInt8) :
    front? (String.utf8EncodeChar c ++ rest) = some c := by
  have short : (String.utf8EncodeChar c).length ≤ 4 := by
    rw [String.length_utf8EncodeChar]
    exact Char.utf8Size_le_four c
  rw [front?, List.take_append, List.take_of_length_le short, List.toByteArray_append]
  exact ByteArray.utf8DecodeChar?_utf8EncodeChar_append

/-- Bytes that begin with a character are its bytes and others. -/
theorem exists_append_of_front? {bytes : List UInt8} {c : Char} (h : front? bytes = some c) :
    ∃ others, bytes = String.utf8EncodeChar c ++ others := by
  obtain ⟨others, equal⟩ := ByteArray.exists_of_utf8DecodeChar?_eq_some h
  have start : bytes.take 4 = String.utf8EncodeChar c ++ others.data.toList := by
    simpa using congrArg (fun array => array.data.toList) equal
  refine ⟨others.data.toList ++ bytes.drop 4, ?_⟩
  rw [← List.append_assoc, ← start, List.take_append_drop]

/-- A byte of the lower half is a character. -/
theorem front?_of_lt {byte : UInt8} (h : byte.toNat < 0x80) (rest : List UInt8) :
    front? (byte :: rest) = some (Char.ofNat byte.toNat) := by
  have number : (Char.ofNat byte.toNat).toNat = byte.toNat :=
    toNat_ofNat (by simp only [codePointBound]; omega)
      (by simp only [isSurrogate, Bool.and_eq_false_iff, decide_eq_false_iff_not]; omega)
  have size : (Char.ofNat byte.toNat).utf8Size = 1 := by
    rw [Char.utf8Size_eq_one_iff, UInt32.le_iff_toNat_le]
    change (Char.ofNat byte.toNat).toNat ≤ 127
    omega
  have spelled : String.utf8EncodeChar (Char.ofNat byte.toNat) = [byte] := by
    rw [String.utf8EncodeChar_eq_singleton size, List.cons.injEq, ← UInt8.toNat_inj]
    refine ⟨?_, rfl⟩
    change (Char.ofNat byte.toNat).toNat % 256 = byte.toNat
    omega
  simpa [spelled] using front?_append (Char.ofNat byte.toNat) rest

/-- The bytes of a character as a code point. -/
theorem codePointBytes?_toNat (c : Char) :
    codePointBytes? c.toNat = some (String.utf8EncodeChar c) := by
  simp [codePointBytes?, toNat_lt, isSurrogate_toNat]

/-- The bytes of the surrogate as which a byte of the upper half is read. -/
theorem codePointBytes?_byteOffset {byte : UInt8} (h : 0x80 ≤ byte.toNat) :
    codePointBytes? (byteOffset + byte.toNat) = some [byte] := by
  have bound := byte.toNat_lt
  have surrogate : isSurrogate (byteOffset + byte.toNat) = true := by
    simp only [isSurrogate, Bool.and_eq_true, decide_eq_true_eq]
    simp only [byteOffset]
    omega
  simp [codePointBytes?, surrogate, h, bound]

/-- What bytes are read as, after some that are passed over, has the other bytes. -/
theorem codePointsBytes?_readBytes (skip : Nat) (bytes : List UInt8) :
    codePointsBytes? (readBytes skip bytes) = some (bytes.drop skip) := by
  fun_induction readBytes skip bytes with
  | case1 => simp [codePointsBytes?]
  | case2 skip byte rest ih => simpa using ih
  | case3 byte rest c hc ih =>
    obtain ⟨others, equal⟩ := exists_append_of_front? hc
    have after : rest.drop (c.utf8Size - 1) = others := by
      have dropped : (byte :: rest).drop (c.utf8Size - 1 + 1) = others := by
        rw [Nat.sub_add_cancel c.utf8Size_pos, equal, ← String.length_utf8EncodeChar,
          List.drop_left]
      simpa using dropped
    simp [codePointsBytes?, codePointBytes?_toNat, ih, after, equal]
  | case4 byte rest hc ih =>
    have upper : 0x80 ≤ byte.toNat := by
      refine Nat.le_of_not_lt fun lower => ?_
      rw [front?_of_lt lower] at hc
      contradiction
    simp [codePointsBytes?, codePointBytes?_byteOffset upper, ih]

/-- What bytes are read as are code points. -/
theorem lt_of_mem_readBytes {skip : Nat} {bytes : List UInt8} {n : Nat}
    (h : n ∈ readBytes skip bytes) : n < codePointBound := by
  fun_induction readBytes skip bytes with
  | case1 => simp at h
  | case2 skip byte rest ih => exact ih h
  | case3 byte rest c hc ih =>
    rcases List.mem_cons.mp h with rfl | h
    · exact toNat_lt c
    · exact ih h
  | case4 byte rest hc ih =>
    rcases List.mem_cons.mp h with rfl | h
    · have bound := byte.toNat_lt
      simp only [byteOffset, codePointBound]
      omega
    · exact ih h

/-- No byte is lost when bytes are read as a text. -/
theorem bytes?_ofBytes (bytes : List UInt8) : bytes? (ofBytes bytes) = some bytes := by
  rw [bytes?, ofBytes, codePoints_ofCodePoints fun _ => lt_of_mem_readBytes]
  exact codePointsBytes?_readBytes 0 bytes

/-- Passing bytes over is dropping them. -/
theorem readBytes_skip (skip : Nat) (bytes : List UInt8) :
    readBytes skip bytes = readBytes 0 (bytes.drop skip) := by
  induction skip generalizing bytes with
  | zero => rfl
  | succ skip ih =>
    cases bytes with
    | nil => rfl
    | cons byte rest => exact ih rest

/-- The bytes of a character are read as that character. -/
theorem readBytes_append (c : Char) (rest : List UInt8) :
    readBytes 0 (String.utf8EncodeChar c ++ rest) = c.toNat :: readBytes 0 rest := by
  have found := front?_append c rest
  have length := String.length_utf8EncodeChar c
  have positive := c.utf8Size_pos
  cases spelled : String.utf8EncodeChar c with
  | nil => simp [spelled] at length; omega
  | cons byte others =>
    simp only [spelled, List.cons_append, List.length_cons] at found length ⊢
    rw [readBytes, found]
    simp only
    rw [readBytes_skip, ← length, Nat.add_sub_cancel, List.drop_left]

/-- Code points that have bytes are code points. -/
theorem lt_of_codePointBytes? {n : Nat} {bytes : List UInt8} (h : codePointBytes? n = some bytes) :
    n < codePointBound := by
  unfold codePointBytes? at h
  split at h
  · next inside => exact (by simpa using inside : n < codePointBound ∧ _).1
  · split at h
    · next inside =>
      simp only [Bool.and_eq_true, decide_eq_true_eq] at inside
      simp only [byteOffset] at inside
      simp only [codePointBound]
      omega
    · contradiction

/-- Characters are read back from their bytes. -/
theorem readBytes_codePointsBytes? {points : List Nat} {bytes : List UInt8}
    (h : codePointsBytes? points = some bytes)
    (characters : ∀ n ∈ points, isSurrogate n = false) : readBytes 0 bytes = points := by
  induction points generalizing bytes with
  | nil =>
    obtain rfl := Option.some.inj h
    rfl
  | cons n rest ih =>
    simp only [codePointsBytes?, Option.bind_eq_bind, Option.bind_eq_some_iff, Option.pure_def,
      Option.some.injEq] at h
    obtain ⟨first, hfirst, others, hothers, rfl⟩ := h
    have character := characters n (by simp)
    have bound := lt_of_codePointBytes? hfirst
    simp only [codePointBytes?, bound, character, decide_true, Bool.not_false, Bool.and_self,
      if_true, Option.some.injEq] at hfirst
    rw [← hfirst, readBytes_append, toNat_ofNat bound character,
      ih hothers fun m hm => characters m (by simp [hm])]

/-- A text of characters is read back from its bytes. -/
theorem ofBytes_bytes? {text : String} {bytes : List UInt8} (h : bytes? text = some bytes)
    (characters : ∀ n ∈ codePoints text, isSurrogate n = false) : ofBytes bytes = text := by
  have points := readBytes_codePointsBytes? h characters
  apply codePoints_injective
  rw [ofBytes, codePoints_ofCodePoints fun _ => lt_of_mem_readBytes, points]

end PolicyTopology.Text
