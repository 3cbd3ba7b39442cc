import DocReport.Text.Case

/-!
Lower case and the words that tags are compared with. Above ASCII only the Kelvin sign has an ASCII
letter as its lower case, so for words of other ASCII letters lowering ASCII alone is enough.
-/
namespace DocReport.Text

/-- The small ASCII letters but for `k`. -/
def isPlainLetter (c : Char) : Bool :=
  97 ≤ c.toNat && c.toNat ≤ 122 && c.toNat != 107

theorem toNat_lt_of_plainLetter {c : Char} (plain : isPlainLetter c = true) : c.toNat < 0x80 := by
  simp only [isPlainLetter, Bool.and_eq_true, decide_eq_true_eq] at plain
  omega

/-- Every capital in the table has its lower case above ASCII, but for the Kelvin sign. -/
theorem caseRuns_lower : ∀ run ∈ caseRuns,
    0x80 ≤ run.first + run.forward - run.back ∨
      run.first = run.last ∧ run.first + run.forward - run.back = 107 := by
  decide +kernel

theorem isPlainLetter_ofNat {n : Nat} (outside : 0x80 ≤ n ∨ n = 107) :
    isPlainLetter (Char.ofNat n) = false := by
  rcases outside with above | kelvin
  · by_cases valid : n.isValidChar
    · have same : (Char.ofNat n).toNat = n := by
        rw [Char.ofNat, dif_pos valid]
        rfl
      cases plain : isPlainLetter (Char.ofNat n) with
      | false => rfl
      | true =>
        have := toNat_lt_of_plainLetter plain
        omega
    · simp [Char.ofNat, valid]
      decide
  · rw [kelvin]
    decide

theorem isPlainLetter_lowerCharacter {c : Char} (above : 0x80 ≤ c.toNat) :
    isPlainLetter (lowerCharacter c) = false := by
  rw [lowerCharacter, if_neg (by omega)]
  split
  · rename_i run found
    have held := List.find?_some found
    simp only [CaseRun.holds, Bool.and_eq_true, decide_eq_true_eq] at held
    apply isPlainLetter_ofNat
    rcases caseRuns_lower run (List.mem_of_find?_eq_some found) with low | ⟨single, kelvin⟩
    · left
      omega
    · right
      omega
  · cases plain : isPlainLetter c with
    | false => rfl
    | true =>
      have := toNat_lt_of_plainLetter plain
      omega

theorem lowerAfter_cons_of_lt {c : Char} (ascii : c.toNat < 0x80) (done r : Text) :
    lowerAfter done (c :: r) = c.toLower :: lowerAfter (c :: done) r := by
  have sigma : c ≠ 'Σ' := by
    rintro rfl
    exact absurd ascii (by decide)
  have dotted : c ≠ 'İ' := by
    rintro rfl
    exact absurd ascii (by decide)
  simp [lowerAfter, sigma, dotted, lowerCharacter, ascii]

/-- A character above ASCII leaves something in lower case that is no plain letter. -/
theorem exists_mem_lowerAfter_cons {c : Char} (above : 0x80 ≤ c.toNat) (done r : Text) :
    ∃ d ∈ lowerAfter done (c :: r), isPlainLetter d = false := by
  by_cases sigma : c = 'Σ'
  · by_cases final : meetsCased done && !meetsCased r
    · exact ⟨'ς', by simp [lowerAfter, sigma, final], by decide⟩
    · exact ⟨'σ', by simp [lowerAfter, sigma, final], by decide⟩
  · by_cases dotted : c = 'İ'
    · exact ⟨'\u0307', by simp [lowerAfter, dotted], by decide⟩
    · exact ⟨lowerCharacter c, by simp [lowerAfter, sigma, dotted],
        isPlainLetter_lowerCharacter above⟩

theorem toLower_of_le {c : Char} (above : 0x80 ≤ c.toNat) : c.toLower = c := by
  have capital : ¬ (c.val ≥ 'A'.val ∧ c.val ≤ 'Z'.val) := by
    rintro ⟨_, bound⟩
    have small : c.toNat ≤ 'Z'.toNat := UInt32.le_iff_toNat_le.1 bound
    exact absurd (Nat.le_trans above small) (by decide)
  exact dif_neg capital

/-- A word of plain letters is the lower case of a text exactly if it is its ASCII lower case. -/
theorem lowerAfter_eq_iff (done t word : Text)
    (plain : ∀ c ∈ word, isPlainLetter c = true) :
    lowerAfter done t = word ↔ lowerAscii t = word := by
  induction t generalizing done word with
  | nil => rfl
  | cons c r ih =>
    by_cases ascii : c.toNat < 0x80
    · rw [lowerAfter_cons_of_lt ascii]
      cases word with
      | nil => simp [lowerAscii]
      | cons w ws =>
        have rest := ih (c :: done) ws fun d member => plain d (List.mem_cons_of_mem _ member)
        simp only [lowerAscii, List.map_cons, List.cons.injEq] at rest ⊢
        rw [rest]
    · have above : 0x80 ≤ c.toNat := Nat.le_of_not_lt ascii
      constructor
      · rintro rfl
        obtain ⟨d, member, other⟩ := exists_mem_lowerAfter_cons above done r
        simp [plain d member] at other
      · rintro rfl
        have first := plain c.toLower (by simp [lowerAscii])
        rw [toLower_of_le above] at first
        have := toNat_lt_of_plainLetter first
        omega

theorem lower_eq_iff (t word : Text) (plain : word.all isPlainLetter = true) :
    lower t = word ↔ lowerAscii t = word :=
  lowerAfter_eq_iff [] t word (List.all_eq_true.1 plain)

end DocReport.Text
