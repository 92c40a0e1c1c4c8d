import SqlCluster.Proofs.Json.Document
import SqlCluster.Proofs.Text.Utf8

/-!
Documents as bytes. A value is written in printable ASCII (`printable_of_write`), and bytes of ASCII
are taken for what they are, whatever encodings a document may have; so the bytes of the text of a
value are read as that value (`read_of_write`).
-/

namespace SqlCluster

namespace Text

variable {s : List Char} {c : Char} {bytes : List UInt8}

/-- Whether a text consists of printable ASCII characters. -/
def Printable (s : List Char) : Prop := ∀ c ∈ s, ' ' ≤ c ∧ c ≤ '~'

instance : DecidablePred Printable := fun s => List.decidableBAll _ s

theorem bounds_of_printable (h : ' ' ≤ c ∧ c ≤ '~') : 32 ≤ c.toNat ∧ c.toNat ≤ 126 := h

/-! ### Bytes -/

theorem ascii_of_mem_encode (h : Printable s) : ∀ b ∈ Utf8.encode s, b ≠ 0 ∧ b < 0x80 := by
  intro b hb
  rw [Utf8.encode, List.mem_flatMap] at hb
  obtain ⟨c, hc, hb⟩ := hb
  have hbounds := bounds_of_printable (h c hc)
  rw [Utf8.encodeChar_of_ascii (by omega), List.mem_singleton] at hb
  have hvalue : b.toNat = c.toNat := by
    rw [hb, UInt8.toNat_ofNat']
    omega
  constructor
  · rintro rfl
    rw [UInt8.toNat_zero] at hvalue
    omega
  · rw [UInt8.lt_iff_toNat_lt, hvalue]
    exact Nat.lt_of_le_of_lt hbounds.2 (by decide)

theorem ofMark?_of_ascii (h : ∀ b ∈ bytes, b ≠ 0 ∧ b < 0x80) : Encoding.ofMark? bytes = none := by
  unfold Encoding.ofMark?
  split
  next => exact absurd rfl (h 0 (by simp)).1
  next => exact absurd (h 0xff (by simp)).2 (by decide)
  next => exact absurd (h 0xfe (by simp)).2 (by decide)
  next => exact absurd (h 0xff (by simp)).2 (by decide)
  next => exact absurd (h 0xef (by simp)).2 (by decide)
  next => rfl

theorem ofZeros_of_nonzero (h : ∀ b ∈ bytes, b ≠ 0) : Encoding.ofZeros bytes = .utf8 false := by
  unfold Encoding.ofZeros
  split
  next a b _ _ _ => rw [if_neg (h a (by simp)), if_neg (h b (by simp))]
  next a b => rw [if_neg (h a (by simp)), if_neg (h b (by simp))]
  next => rfl

/-- Bytes of ASCII bear no mark and show no other encoding. -/
theorem detect_of_ascii (h : ∀ b ∈ bytes, b ≠ 0 ∧ b < 0x80) :
    Encoding.detect bytes = .utf8 false := by
  rw [Encoding.detect, ofMark?_of_ascii h, Option.getD_none]
  exact ofZeros_of_nonzero fun b hb => (h b hb).1

theorem replaceSurrogates_of_ascii (h : ∀ b ∈ bytes, b ≠ 0 ∧ b < 0x80) :
    Utf8.replaceSurrogates bytes = bytes := by
  fun_induction Utf8.replaceSurrogates bytes with
  | case1 => rfl
  | case2 a b c r hcond =>
    obtain ⟨rfl, -⟩ := hcond
    exact absurd (h 0xed (by simp)).2 (by decide)
  | case3 a b c r hcond ih =>
    rw [ih fun d hd => h d (List.mem_cons_of_mem a hd)]
  | case4 a s hshort => rfl

theorem strict_map_ok (offset : Nat) (s : List Char) :
    Utf8.strict offset (s.map .ok) = .ok s := by
  induction s generalizing offset with
  | nil => rfl
  | cons c s ih =>
    rw [List.map_cons, Utf8.strict, ih]
    rfl

theorem decodeDocument_encode (h : Printable s) : decodeDocument (Utf8.encode s) = .ok s := by
  have hascii := ascii_of_mem_encode h
  rw [decodeDocument, detect_of_ascii hascii, Encoding.decode]
  simp only [if_false, Bool.false_eq_true, replaceSurrogates_of_ascii hascii, Utf8.decode,
    Utf8.scan_encode, strict_map_ok]

end Text

namespace Json

open Text

variable {s t : List Char} {c : Char}

/-! ### The writer -/

theorem printable_append (hs : Printable s) (ht : Printable t) : Printable (s ++ t) := by
  intro c hc
  rcases List.mem_append.1 hc with hc | hc
  · exact hs c hc
  · exact ht c hc

theorem printable_cons (hc : ' ' ≤ c ∧ c ≤ '~') (hs : Printable s) : Printable (c :: s) :=
  List.forall_mem_cons.2 ⟨hc, hs⟩

theorem printable_of_digits (h : ∀ c ∈ s, c.isDigit) : Printable s := by
  intro c hc
  have hbounds := Text.toNat_of_isDigit (h c hc)
  exact ⟨show 32 ≤ c.toNat by omega, show c.toNat ≤ 126 by omega⟩

theorem printable_hexPadded {n : ℕ} (hn : n < 65536) : Printable (hexPadded 4 n) := by
  have hdigit : ∀ d < 16, ' ' ≤ hexDigit d ∧ hexDigit d ≤ '~' := by decide
  rw [hexPadded_four hn]
  intro c hc
  simp only [List.mem_cons, List.not_mem_nil, or_false] at hc
  rcases hc with rfl | rfl | rfl | rfl <;> exact hdigit _ (by omega)

theorem printable_codeEscape {n : ℕ} (hn : n < 65536) : Printable (codeEscape n) :=
  printable_cons (by decide) (printable_cons (by decide) (printable_hexPadded hn))

theorem printable_writeChar (c : Char) : Printable (writeChar c) := by
  have hvalid : c.toNat < 0xd800 ∨ 0xdfff < c.toNat ∧ c.toNat < 0x110000 := c.valid
  have hwritten := written_writeChar c
  generalize writeChar c = w at hwritten ⊢
  cases hwritten with
  | letter _ _ printable => exact printable_cons (by decide) (printable_cons printable nofun)
  | plain _ _ printable => exact printable_cons printable nofun
  | code short => exact printable_codeEscape short
  | pair long =>
    exact printable_append (printable_codeEscape (by omega)) (printable_codeEscape (by omega))

theorem printable_writeText (s : List Char) : Printable (writeText s) := by
  refine printable_append (printable_cons (by decide) ?_) (by decide)
  intro c hc
  obtain ⟨d, -, hc⟩ := List.mem_flatMap.1 hc
  exact printable_writeChar d c hc

theorem printable_writeInt (n : ℤ) : Printable (writeInt n) := by
  refine printable_append ?_ (printable_of_digits Numeral.isDigit_of_mem_toDigits)
  split <;> decide

theorem printable_exponentText (e : ℤ) : Printable (Double.exponentText e) := by
  refine printable_cons (by decide) (printable_cons ?_ (printable_append ?_ ?_))
  · split <;> decide
  · exact printable_of_digits Numeral.isDigit_of_mem_zeros
  · exact printable_of_digits Numeral.isDigit_of_mem_toDigits

theorem printable_layOut (hs : ∀ c ∈ s, c.isDigit) (point : ℤ) :
    Printable (Double.layOut s point) := by
  have htake : ∀ k, Printable (s.take k) :=
    fun k => printable_of_digits fun c hc => hs c (List.mem_of_mem_take hc)
  have hdrop : ∀ k, Printable (s.drop k) :=
    fun k => printable_of_digits fun c hc => hs c (List.mem_of_mem_drop hc)
  have hzeros : ∀ k, Printable (List.replicate k '0') :=
    fun k => printable_of_digits Numeral.isDigit_of_mem_zeros
  rw [Double.layOut]
  split
  · split
    · exact printable_cons (by decide) (printable_cons (by decide)
        (printable_append (hzeros _) (printable_of_digits hs)))
    · refine printable_append (printable_append (htake _) (hzeros _))
        (printable_cons (by decide) ?_)
      split
      · decide
      · exact hdrop _
  · refine printable_append (printable_append (htake _) ?_) (printable_exponentText _)
    split
    · decide
    · exact printable_cons (by decide) (hdrop _)

theorem printable_text {x : Double} (hx : x.isFinite) : Printable x.text := by
  cases x with
  | nan => cases hx
  | infinity negative => cases hx
  | finite negative m q h =>
    rw [Double.text]
    refine printable_append (by split <;> decide) ?_
    split
    case isTrue => decide
    case isFalse hm =>
      exact printable_layOut (Double.nearest_pointed h (Nat.pos_of_ne_zero hm) false).1.digits _

theorem printable_entry (k : String) (hs : Printable s) (ht : Printable t) :
    Printable (writeText k.toList ++ ':' :: ' ' :: (s ++ t)) :=
  printable_append (printable_writeText k.toList)
    (printable_cons (by decide) (printable_cons (by decide) (printable_append hs ht)))

mutual

theorem printable_of_write : ∀ (v : Value) (t : List Char), write v = .ok t → Printable t
  | .null => by
    intro t h
    cases h
    decide
  | .bool true => by
    intro t h
    cases h
    decide
  | .bool false => by
    intro t h
    cases h
    decide
  | .int n => by
    intro t h
    rw [write] at h
    split at h
    next =>
      cases h
      exact printable_writeInt n
    next => cases h
  | .float x => by
    intro t h
    rw [write] at h
    split at h
    next hx =>
      cases h
      exact printable_text hx
    next => cases h
  | .text k => by
    intro t h
    cases h
    exact printable_writeText k.toList
  | .list [] => by
    intro t h
    cases h
    decide
  | .list (v :: vs) => by
    intro t h
    obtain ⟨tv, ts, hv, hvs, rfl⟩ := exists_of_write_list h
    exact printable_cons (by decide)
      (printable_append (printable_of_write v tv hv) (printable_of_writeItems vs ts hvs))
  | .dict [] => by
    intro t h
    cases h
    decide
  | .dict ((k, v) :: es) => by
    intro t h
    obtain ⟨tv, ts, hv, hes, rfl⟩ := exists_of_write_dict h
    exact printable_cons (by decide) (printable_entry k (printable_of_write v tv hv)
      (printable_of_writeEntries es ts hes))
  | .bytes _ | .date _ | .datetime _ | .object _ | .statement .. => nofun

theorem printable_of_writeItems :
    ∀ (vs : List Value) (t : List Char), writeItems vs = .ok t → Printable t
  | [] => by
    intro t h
    cases h
    decide
  | v :: vs => by
    intro t h
    obtain ⟨tv, ts, hv, hvs, rfl⟩ := exists_of_writeItems_cons h
    exact printable_cons (by decide) (printable_cons (by decide)
      (printable_append (printable_of_write v tv hv) (printable_of_writeItems vs ts hvs)))

theorem printable_of_writeEntries :
    ∀ (es : List (String × Value)) (t : List Char), writeEntries es = .ok t → Printable t
  | [] => by
    intro t h
    cases h
    decide
  | (k, v) :: es => by
    intro t h
    obtain ⟨tv, ts, hv, hes, rfl⟩ := exists_of_writeEntries_cons h
    exact printable_cons (by decide) (printable_cons (by decide) (printable_entry k
      (printable_of_write v tv hv) (printable_of_writeEntries es ts hes)))

end

/-- The bytes of the text of a value are read as that value. -/
theorem read_of_write {v : Value} (h : write v = .ok t) (hkeys : v.HasDistinctKeys) :
    read (Utf8.encode t) = .ok v := by
  rw [read, decodeDocument_encode (printable_of_write v t h)]
  dsimp only
  rw [readWhole_of_write h hkeys]

end Json

end SqlCluster
