import Mathlib.Data.Bool.AllAny
import SqlCluster.Proofs.Number.Integer

/-!
Words for what is not a number. A floating point number is read as one that is none exactly if its
text is the word for that, in letters of either case, with a sign or without and with blanks around
it (`Numeral.readDouble?_eq_nan_iff`). No digits denote what is not a number.
-/

namespace SqlCluster

theorem Double.ofDecimal_ne_nan (negative : Bool) (n : Nat) (e : Int) :
    Double.ofDecimal negative n e ≠ .nan := by
  have hparts (m : Nat) (q : Int) : Double.ofParts negative m q ≠ .nan := by
    intro h
    rw [Double.ofParts] at h
    split at h <;> cases h
  intro h
  simp only [Double.ofDecimal] at h
  split at h
  · cases h
  split at h
  · cases h
  simp only [Double.ofRatio] at h
  split at h
  · cases h
  split at h
  · exact hparts _ _ h
  · exact hparts _ _ h

namespace Numeral

open Text

variable {s t word : List Char} {c : Char}

/-- Whether a character is a blank where it stands around a floating point number. -/
def isOuterBlank (c : Char) : Bool := isAsciiBlank (plainChar c)

/-- A text for what is not a number. -/
inductive NamesNan : List Char → Prop
  | intro {before sign word behind : List Char} {negative : Bool} :
    (∀ c ∈ before, isOuterBlank c) → (∀ c ∈ behind, isOuterBlank c) → Sign sign negative →
    word.map Char.toLower = "nan".toList → NamesNan (before ++ (sign ++ word ++ behind))

/-! ### Underscores -/

theorem withoutUnderscores?_of_notMem {last : Option Char} (hlast : last ≠ some '_')
    (h : '_' ∉ s) : withoutUnderscores? last s = some s := by
  induction s generalizing last with
  | nil => simp [withoutUnderscores?, hlast]
  | cons c s ih =>
    rw [List.mem_cons, not_or] at h
    have hc : c ≠ '_' := Ne.symm h.1
    rw [withoutUnderscores?, if_neg hc, if_neg (by simp [hlast]), ih (by simpa using hc) h.2]
    rfl

/-- Where no digit is left there were no underscores, since they stand behind digits. -/
theorem eq_of_withoutUnderscores? {last : Option Char} (hlast : ¬ last.any Char.isDigit)
    (h : withoutUnderscores? last s = some t) (ht : ∀ c ∈ t, ¬ c.isDigit) : s = t := by
  induction s generalizing last t with
  | nil =>
    rw [withoutUnderscores?] at h
    split at h <;> cases h
    rfl
  | cons c s ih =>
    rw [withoutUnderscores?] at h
    simp only [if_neg hlast] at h
    split at h
    · cases h
    split at h
    · cases h
    obtain ⟨rest, hrest, rfl⟩ := Option.map_eq_some_iff.1 h
    obtain ⟨hc, ht⟩ := List.forall_mem_cons.1 ht
    rw [ih (by simpa using hc) hrest ht]

/-! ### Letters -/

/-- The letters of the word are of ASCII, and neither digits, blanks, signs nor underscores. -/
theorem letter_spec (h : c.toLower ∈ "nan".toList) :
    c.toNat < 128 ∧ ¬ c.isDigit ∧ isAsciiBlank c = false ∧ c ∉ ['_', '+', '-'] := by
  have hascii : c.toNat < 128 := by
    have hletters : ∀ c ∈ "nan".toList, c.toNat < 128 := List.all_iff_forall_prop.1 rfl
    by_cases hupper : c.val ≥ 65 ∧ c.val ≤ 90
    · exact Nat.lt_of_le_of_lt hupper.2 (by decide)
    · have hlower : c.toLower = c := dif_neg hupper
      exact hletters c (hlower ▸ h)
  have hall : ∀ n < 128, (Char.ofNat n).toLower ∈ "nan".toList → ¬ (Char.ofNat n).isDigit ∧
      isAsciiBlank (Char.ofNat n) = false ∧ Char.ofNat n ∉ ['_', '+', '-'] := by
    decide
  have hspec := hall c.toNat hascii
  rw [Char.ofNat_toNat] at hspec
  exact ⟨hascii, hspec h⟩

/-- A character that is made plain is a letter of the word only if it was one before. -/
theorem plainChar_eq_self_of_letter (h : (plainChar c).toLower ∈ "nan".toList) :
    plainChar c = c := by
  obtain hlt | hle := Nat.lt_or_ge c.toNat 128
  · exact plainChar_of_lt hlt
  obtain ⟨hplain, -⟩ | ⟨d, -, hd, hplain⟩ | hplain := plainChar_of_le hle
  · rw [hplain] at h
    exact absurd h (by decide)
  · rw [hplain] at h
    exact absurd (isDigit_digitChar hd) (letter_spec h).2.1
  · rw [hplain] at h
    exact absurd h (by decide)

theorem letter_of_mem (h : word.map Char.toLower = "nan".toList) (hc : c ∈ word) :
    c.toLower ∈ "nan".toList := by
  rw [← h]
  exact List.mem_map_of_mem hc

/-! ### Signs -/

theorem mem_cutSign (h : c ∈ s) : c = '-' ∨ c = '+' ∨ c ∈ (cutSign s).2 := by
  unfold cutSign
  split
  · exact (List.mem_cons.1 h).imp_right .inr
  · exact .inr (List.mem_cons.1 h)
  · exact .inr (.inr h)

theorem cutSign_append {sign : List Char} {negative : Bool} (h : Sign sign negative)
    (hword : ∀ c ∈ word, c ≠ '-' ∧ c ≠ '+') : cutSign (sign ++ word) = (negative, word) := by
  cases h with
  | plus | minus => rfl
  | absent =>
    rw [List.nil_append]
    unfold cutSign
    split
    · exact absurd rfl (hword '-' List.mem_cons_self).1
    · exact absurd rfl (hword '+' List.mem_cons_self).2
    · rfl

/-! ### Reading -/

theorem readDecimal?_ne_nan (negative : Bool) (s : List Char) :
    readDecimal? negative s ≠ some .nan := by
  intro h
  simp only [readDecimal?] at h
  obtain ⟨-, h⟩ := Option.ite_none_left_eq_some.1 h
  obtain ⟨e, -, he⟩ := Option.map_eq_some_iff.1 h
  exact Double.ofDecimal_ne_nan _ _ _ he

/-- What is not a number is read from the word for it and from no numeral. -/
theorem readDouble?_eq_nan_iff_word : readDouble? s = some .nan ↔
    ∃ body, withoutUnderscores? none (plain s) = some body ∧
      (cutSign body).2.map Char.toLower = "nan".toList := by
  have hword {t : List Char} : String.ofList t = "nan" ↔ t = "nan".toList := by
    rw [← String.toList_inj, String.toList_ofList]
  rw [readDouble?, Option.bind_eq_bind, Option.bind_eq_some_iff]
  apply exists_congr
  intro body
  apply and_congr_right
  intro _
  generalize cutSign body = cut
  dsimp only
  constructor
  · intro h
    split at h
    · cases h
    split at h
    next hnan => exact hword.1 hnan
    · exact absurd h (readDecimal?_ne_nan _ _)
  · intro hnan
    rw [hnan, if_neg (by decide), if_pos (by decide)]

theorem plain_eq_map_trim (s : List Char) : plain s = (trim isOuterBlank s).map plainChar :=
  trim_map isAsciiBlank plainChar s

theorem namesNan_of_readDouble? (h : readDouble? s = some .nan) : NamesNan s := by
  obtain ⟨body, hbody, hnan⟩ := readDouble?_eq_nan_iff_word.1 h
  obtain ⟨before, behind, hs, hbefore, hbehind, -⟩ := exists_trim isOuterBlank s
  obtain ⟨sign, word, htrim, hsign, hword⟩ := exists_sign (trim isOuterBlank s)
  have hdigits : ∀ c ∈ body, ¬ c.isDigit := by
    intro c hc
    rcases mem_cutSign hc with rfl | rfl | hc
    · decide
    · decide
    · exact (letter_spec (letter_of_mem hnan hc)).2.1
  have hbody : plain s = body := eq_of_withoutUnderscores? (by simp) hbody hdigits
  rw [← hbody, plain_eq_map_trim, hword] at hnan
  have hletters : word.map plainChar = word := by
    refine (List.map_congr_left fun c hc => ?_).trans word.map_id
    exact plainChar_eq_self_of_letter (letter_of_mem hnan (List.mem_map_of_mem hc))
  rw [hs, htrim]
  exact .intro hbefore hbehind hsign (hletters ▸ hnan)

/-- A sign and the word are in ASCII, and hold neither blanks nor underscores. -/
theorem mem_signed_word {sign : List Char} {negative : Bool} (hsign : Sign sign negative)
    (hword : word.map Char.toLower = "nan".toList) (hc : c ∈ sign ++ word) :
    c.toNat < 128 ∧ isAsciiBlank c = false ∧ c ≠ '_' := by
  rcases List.mem_append.1 hc with hc | hc
  · cases hsign with
    | absent => cases hc
    | plus | minus =>
      rw [List.mem_singleton.1 hc]
      decide
  · obtain ⟨hascii, -, hblank, hmarks⟩ := letter_spec (letter_of_mem hword hc)
    exact ⟨hascii, hblank, fun h => hmarks (by simp [h])⟩

theorem readDouble?_of_namesNan (h : NamesNan s) : readDouble? s = some .nan := by
  obtain @⟨before, sign, word, behind, negative, hbefore, hbehind, hsign, hnan⟩ := h
  have hspec (c : Char) (hc : c ∈ sign ++ word) := mem_signed_word hsign hnan hc
  have hsame : (sign ++ word).map plainChar = sign ++ word :=
    (List.map_congr_left fun c hc => plainChar_of_lt (hspec c hc).1).trans (List.map_id _)
  have hne : sign ++ word ≠ [] := by
    intro hnil
    rw [(List.append_eq_nil_iff.1 hnil).2] at hnan
    cases hnan
  have htrimmed : IsTrimmed isOuterBlank (sign ++ word) := isTrimmed_of_forall fun c hc => by
    rw [isOuterBlank, plainChar_of_lt (hspec c hc).1, (hspec c hc).2.1]
  have hmarks : ∀ c ∈ word, c ≠ '-' ∧ c ≠ '+' := by
    intro c hc
    have hnone := (letter_spec (letter_of_mem hnan hc)).2.2.2
    exact ⟨fun heq => hnone (by simp [heq]), fun heq => hnone (by simp [heq])⟩
  refine readDouble?_eq_nan_iff_word.2 ⟨sign ++ word, ?_, ?_⟩
  · rw [plain_eq_map_trim, trim_append htrimmed hne hbefore hbehind, hsame]
    exact withoutUnderscores?_of_notMem nofun fun hc => (hspec '_' hc).2.2 rfl
  · rw [cutSign_append hsign hmarks]
    exact hnan

/-- What is not a number is read from its names and from nothing else. -/
theorem readDouble?_eq_nan_iff : readDouble? s = some .nan ↔ NamesNan s :=
  ⟨namesNan_of_readDouble?, readDouble?_of_namesNan⟩

end Numeral

end SqlCluster
