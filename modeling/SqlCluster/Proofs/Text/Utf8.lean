import Mathlib.Data.List.Basic
import SqlCluster.Text.Utf8

/-!
Text as UTF-8 and back. The bytes of a character are read as that character, whatever follows them
(`scan_encodeChar_append`), so the bytes of a text are read as that text.
-/

namespace SqlCluster.Text.Utf8

/-! ### Bytes by their values -/

theorem toNat_ofNat_of_lt {n : ℕ} (h : n < 256) : (UInt8.ofNat n).toNat = n := by
  rw [UInt8.toNat_ofNat']
  exact Nat.mod_eq_of_lt h

theorem isContinuation_iff {b : UInt8} : isContinuation b ↔ 0x80 ≤ b.toNat ∧ b.toNat < 0xc0 := by
  simp [isContinuation, UInt8.le_iff_toNat_le, UInt8.lt_iff_toNat_lt]

theorem mayFollow_iff {a b : UInt8} :
    mayFollow a b ↔ isContinuation b ∧ (a.toNat = 0xe0 → 0xa0 ≤ b.toNat) ∧
      (a.toNat = 0xed → b.toNat < 0xa0) ∧ (a.toNat = 0xf0 → 0x90 ≤ b.toNat) ∧
      (a.toNat = 0xf4 → b.toNat < 0x90) := by
  simp [mayFollow, UInt8.le_iff_toNat_le, UInt8.lt_iff_toNat_lt, ← UInt8.toNat_inj, and_assoc,
    imp_iff_not_or]

variable {a b c d : UInt8} {s : List UInt8}

theorem scan_one (ha : a.toNat < 0x80) : scan (a :: s) = .ok (Char.ofNat a.toNat) :: scan s := by
  rw [scan.eq_def]
  exact if_pos (UInt8.lt_iff_toNat_lt.2 ha)

/-- A first byte of several is neither ASCII nor one that begins no character. -/
theorem scan_lead (ha : 0xc2 ≤ a.toNat) (ha' : a.toNat ≤ 0xf4) :
    ¬ a < 0x80 ∧ ¬ (a < 0xc2 ∨ 0xf4 < a) := by
  simp only [UInt8.lt_iff_toNat_lt, UInt8.reduceToNat]
  omega

theorem scan_two (ha : 0xc2 ≤ a.toNat) (ha' : a.toNat < 0xe0) (hb : mayFollow a b) :
    scan (a :: b :: s) = .ok (Char.ofNat (a.toNat % 32 * 64 + low b)) :: scan s := by
  obtain ⟨hascii, hlead⟩ := scan_lead ha (by omega)
  have hshort : a < 0xe0 := UInt8.lt_iff_toNat_lt.2 ha'
  rw [scan.eq_def]
  simp [hascii, hlead, hb, hshort]

theorem scan_three (ha : 0xe0 ≤ a.toNat) (ha' : a.toNat < 0xf0) (hb : mayFollow a b)
    (hc : isContinuation c) :
    scan (a :: b :: c :: s) =
      .ok (Char.ofNat ((a.toNat % 16 * 64 + low b) * 64 + low c)) :: scan s := by
  obtain ⟨hascii, hlead⟩ := scan_lead (a := a) (by omega) (by omega)
  have hlong : ¬ a < 0xe0 := by rwa [UInt8.lt_iff_toNat_lt, Nat.not_lt]
  have hshort : a < 0xf0 := UInt8.lt_iff_toNat_lt.2 ha'
  rw [scan.eq_def]
  simp [hascii, hlead, hb, hc, hlong, hshort]

theorem scan_four (ha : 0xf0 ≤ a.toNat) (ha' : a.toNat ≤ 0xf4) (hb : mayFollow a b)
    (hc : isContinuation c) (hd : isContinuation d) :
    scan (a :: b :: c :: d :: s) =
      .ok (Char.ofNat (((a.toNat % 8 * 64 + low b) * 64 + low c) * 64 + low d)) :: scan s := by
  obtain ⟨hascii, hlead⟩ := scan_lead (a := a) (by omega) ha'
  have hlong : ¬ a < 0xe0 := by
    rw [UInt8.lt_iff_toNat_lt, Nat.not_lt]
    exact Nat.le_trans (by decide) ha
  have hlonger : ¬ a < 0xf0 := by rwa [UInt8.lt_iff_toNat_lt, Nat.not_lt]
  rw [scan.eq_def]
  simp [hascii, hlead, hb, hc, hd, hlong, hlonger]

/-! ### Characters -/

/-- The bytes of a character are read as that character. -/
theorem scan_encodeChar_append (c : Char) (s : List UInt8) :
    scan (encodeChar c ++ s) = .ok c :: scan s := by
  have hvalid : c.toNat < 0xd800 ∨ 0xdfff < c.toNat ∧ c.toNat < 0x110000 := c.valid
  have hnat : c.val.toNat = c.toNat := rfl
  have hchar : Char.ofNat c.toNat = c := Char.ofNat_toNat c
  rw [encodeChar, String.utf8EncodeChar]
  simp only [hnat]
  generalize c.toNat = v at hvalid hchar
  have hlow (n : ℕ) : (UInt8.ofNat (n % 64 + 128)).toNat = n % 64 + 128 :=
    toNat_ofNat_of_lt (by omega)
  have hcontinuation (n : ℕ) : isContinuation (UInt8.ofNat (n % 64 + 128)) := by
    rw [isContinuation_iff, hlow]
    omega
  split
  next hone =>
    have hv := toNat_ofNat_of_lt (n := v) (by omega)
    rw [List.singleton_append, scan_one (by omega), hv, hchar]
  split
  next hone htwo =>
    have hlead := toNat_ofNat_of_lt (n := v / 64 % 32 + 192) (by omega)
    rw [List.cons_append, List.singleton_append, scan_two (by omega) (by omega), hlead, low, hlow]
    · rw [show (v / 64 % 32 + 192) % 32 * 64 + (v % 64 + 128) % 64 = v by omega, hchar]
    · rw [mayFollow_iff, hlead, hlow]
      exact ⟨hcontinuation v, by omega, by omega, by omega, by omega⟩
  split
  next hone htwo hthree =>
    have hlead := toNat_ofNat_of_lt (n := v / 4096 % 16 + 224) (by omega)
    simp only [List.cons_append, List.nil_append]
    rw [scan_three (by omega) (by omega) _ (hcontinuation _), hlead, low, low, hlow, hlow]
    · rw [show ((v / 4096 % 16 + 224) % 16 * 64 + (v / 64 % 64 + 128) % 64) * 64 +
        (v % 64 + 128) % 64 = v by omega, hchar]
    · rw [mayFollow_iff, hlead, hlow]
      exact ⟨hcontinuation _, by omega, by omega, by omega, by omega⟩
  next hone htwo hthree =>
    have hlead := toNat_ofNat_of_lt (n := v / 262144 % 8 + 240) (by omega)
    simp only [List.cons_append, List.nil_append]
    rw [scan_four (by omega) (by omega) _ (hcontinuation _) (hcontinuation _), hlead, low, low,
      low, hlow, hlow, hlow]
    · rw [show (((v / 262144 % 8 + 240) % 8 * 64 + (v / 4096 % 64 + 128) % 64) * 64 +
        (v / 64 % 64 + 128) % 64) * 64 + (v % 64 + 128) % 64 = v by omega, hchar]
    · rw [mayFollow_iff, hlead, hlow]
      exact ⟨hcontinuation _, by omega, by omega, by omega, by omega⟩

/-- The bytes of a character beyond ASCII are not those of ASCII characters. -/
theorem eq_of_mem_encodeChar {c : Char} {b : UInt8} (h : b ∈ encodeChar c) (hb : b.toNat < 0x80) :
    Char.ofNat b.toNat = c := by
  have hnat : c.val.toNat = c.toNat := rfl
  rw [encodeChar, String.utf8EncodeChar] at h
  simp only [hnat] at h
  -- no byte but the one of an ASCII character is as low
  have hhigh (n : ℕ) (hn : 0x80 ≤ n) (hn' : n < 256) : b ≠ UInt8.ofNat n := by
    rintro rfl
    rw [toNat_ofNat_of_lt hn'] at hb
    omega
  split at h
  next hone =>
    rw [List.mem_singleton.1 h, toNat_ofNat_of_lt (by omega), Char.ofNat_toNat]
  exfalso
  split at h
  · simp only [List.mem_cons, List.not_mem_nil, or_false] at h
    rcases h with h | h <;> exact hhigh _ (by omega) (by omega) h
  split at h
  · simp only [List.mem_cons, List.not_mem_nil, or_false] at h
    rcases h with h | h | h <;> exact hhigh _ (by omega) (by omega) h
  · simp only [List.mem_cons, List.not_mem_nil, or_false] at h
    rcases h with h | h | h | h <;> exact hhigh _ (by omega) (by omega) h

theorem encodeChar_of_ascii {c : Char} (h : c.toNat < 128) :
    encodeChar c = [UInt8.ofNat c.toNat] := by
  have hsize : c.utf8Size = 1 := by
    rw [Char.utf8Size_eq_one_iff, UInt32.le_iff_toNat_le]
    exact Nat.le_of_lt_succ h
  rw [encodeChar, String.utf8EncodeChar_eq_singleton hsize]
  rfl

/-! ### Texts -/

@[simp] theorem encode_nil : encode [] = [] := rfl

theorem encode_append (s t : List Char) : encode (s ++ t) = encode s ++ encode t :=
  List.flatMap_append

theorem encode_concat (s : List Char) (c : Char) :
    encode (s ++ [c]) = encode s ++ encodeChar c := by
  rw [encode_append, encode, encode, List.flatMap_singleton]

/-- The bytes of a text are read as that text. -/
theorem scan_encode (s : List Char) : scan (encode s) = s.map .ok := by
  induction s with
  | nil => rw [encode_nil, scan.eq_def]; rfl
  | cons c s ih =>
    rw [encode, List.flatMap_cons, scan_encodeChar_append, ← encode, ih]
    rfl

theorem decodeLossy_encode (s : List Char) : decodeLossy (encode s) = s := by
  rw [decodeLossy, scan_encode, List.map_map]
  exact List.map_id s

end SqlCluster.Text.Utf8
