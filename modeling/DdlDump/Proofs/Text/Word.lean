import DdlDump.Proofs.Text.Front
import DdlDump.Text.Blank
import DdlDump.Text.Word

/-!
# Words and blanks

No character is both a blank and part of a word, so that the end of a word is visible. Both classes
are lists of intervals; that these do not meet is checked interval by interval.
-/

namespace DdlDump

/-- Characters in one of two lists of intervals that do not meet are not in the other. -/
lemma inRanges_eq_false_of_disjoint {rs qs : List (Nat × Nat)} {c : Char}
    (hdisjoint : ∀ r ∈ rs, ∀ q ∈ qs, r.2 < q.1 ∨ q.2 < r.1) (hc : inRanges rs c = true) :
    inRanges qs c = false := by
  unfold inRanges at hc ⊢
  obtain ⟨r, hr, hcr⟩ := List.any_eq_true.1 hc
  rw [List.any_eq_false]
  intro q hq hcq
  simp only [Bool.and_eq_true, decide_eq_true_eq] at hcr hcq
  have hapart := hdisjoint r hr q hq
  omega

/-- What holds of every code point of ASCII holds of its characters. -/
lemma ascii_forall {P : Char → Prop} (h : ∀ n < 128, P (Char.ofNat n)) {c : Char}
    (hc : c.toNat < 128) : P c := by
  have hcode := h c.toNat hc
  rwa [Char.ofNat_toNat] at hcode

/-- Blanks are no word characters. -/
lemma isWordChar_eq_false_of_isBlank {c : Char} (hc : isBlank c = true) : isWordChar c = false := by
  have hascii : ∀ {c : Char}, c.toNat < 128 → isBlank c = true →
      (c.isAlphanum || c == '_') = false :=
    ascii_forall (P := fun c => isBlank c = true → (c.isAlphanum || c == '_') = false) (by decide)
  have hbeyond : ∀ r ∈ blankRanges, ∀ q ∈ wordRanges, r.2 < q.1 ∨ q.2 < r.1 := by decide +kernel
  unfold isWordChar
  split
  · next h => exact hascii h hc
  · exact inRanges_eq_false_of_disjoint hbeyond hc

/-- Word characters are visible. -/
lemma isBlank_eq_false_of_isWordChar {c : Char} (hc : isWordChar c = true) : isBlank c = false := by
  by_contra hblank
  rw [isWordChar_eq_false_of_isBlank (by simpa using hblank)] at hc
  exact absurd hc (by decide)

/-- Word characters do not indent. -/
lemma isIndent_eq_false_of_isWordChar {c : Char} (hc : isWordChar c = true) :
    isIndent c = false := by
  by_contra hindent
  have hblank := isBlank_of_isIndent (c := c) (by simpa using hindent)
  rw [isBlank_eq_false_of_isWordChar hc] at hblank
  exact absurd hblank (by decide)

/-- Beyond ASCII a character is its own capital. -/
lemma toUpper_of_not_lt {c : Char} (hc : ¬ c.toNat < 128) : c.toUpper = c := by
  unfold Char.toUpper
  rw [dif_neg]
  rintro ⟨-, hz⟩
  exact hc (Nat.lt_of_le_of_lt hz (by decide))

namespace Text

/-! ### The word at the start of a text -/

section AtStart

variable {w r : Text}

/-- No word goes on where the next character, if there is one, is no word character. -/
lemma atWordEnd_iff : atWordEnd r = true ↔ ∀ c ∈ r.head?, isWordChar c = false := by
  unfold atWordEnd word
  cases r with
  | nil => simp
  | cons c r =>
    rw [List.takeWhile_cons]
    cases hc : isWordChar c <;> simp [hc]

/-- A word goes on where the next character is a word character. -/
lemma atWordEnd_eq_false_iff : atWordEnd r = false ↔ ∃ c ∈ r.head?, isWordChar c = true := by
  rw [← Bool.not_eq_true, atWordEnd_iff]
  simp

/-- No word goes on with a character that is no word character. -/
lemma atWordEnd_cons_iff {c : Char} : atWordEnd (c :: r) = true ↔ isWordChar c = false := by
  rw [atWordEnd_iff]
  simp

/-- Word characters are taken as a word up to where it ends. -/
lemma word_append (hw : ∀ c ∈ w, isWordChar c = true) (hr : atWordEnd r = true) :
    word (w ++ r) = w :=
  takeWhile_run_append hw (atWordEnd_iff.1 hr)

/-- What is behind such a word is what follows it. -/
lemma afterWord_append (hw : ∀ c ∈ w, isWordChar c = true) (hr : atWordEnd r = true) :
    afterWord (w ++ r) = r :=
  dropWhile_run_append hw (atWordEnd_iff.1 hr)

/-- A blank ends a word. -/
lemma atWordEnd_blank {c : Char} (hc : isBlank c = true) (r : Text) :
    atWordEnd (c :: r) = true :=
  atWordEnd_cons_iff.2 (isWordChar_eq_false_of_isBlank hc)

/-- A space ends a word. -/
lemma atWordEnd_space (r : Text) : atWordEnd (' ' :: r) = true :=
  atWordEnd_blank (by decide) r

end AtStart

end Text

end DdlDump
