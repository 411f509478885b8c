/-!
# Blank characters

`isBlank` is the Unicode property White_Space, and `trim` cuts blanks from both ends of a text. The
main facts: what is cut is blank (`exists_pad_trimChars`), what is left has no blank at either end
(`trimChars_trimChars`), and blanks at the ends never matter (`trimChars_pad`).
-/

namespace Transports.Text

/-- The code points with the property White_Space, as inclusive ranges. -/
def blankRanges : List (Nat × Nat) :=
  [(0x09, 0x0D), (0x20, 0x20), (0x85, 0x85), (0xA0, 0xA0), (0x1680, 0x1680), (0x2000, 0x200A),
   (0x2028, 0x2029), (0x202F, 0x202F), (0x205F, 0x205F), (0x3000, 0x3000)]

def isBlank (c : Char) : Bool :=
  blankRanges.any fun r => r.1 ≤ c.toNat && c.toNat ≤ r.2

/-- A list of characters without the blanks at its two ends. -/
def trimChars (cs : List Char) : List Char :=
  ((cs.dropWhile isBlank).reverse.dropWhile isBlank).reverse

/-- A text without the blanks at its two ends. -/
def trim (s : String) : String :=
  String.ofList (trimChars s.toList)

@[simp] theorem toList_trim (s : String) : (trim s).toList = trimChars s.toList := by
  simp [trim]

/-! ## Padding -/

theorem dropWhile_append_of_blank {pad : List Char} (h : ∀ c ∈ pad, isBlank c = true)
    (cs : List Char) : (pad ++ cs).dropWhile isBlank = cs.dropWhile isBlank := by
  induction pad with
  | nil => rfl
  | cons c pad ih =>
    rw [List.cons_append, List.dropWhile_cons, if_pos (h c (by simp))]
    exact ih fun d hd => h d (by simp [hd])

theorem dropWhile_isBlank_eq_nil_iff {cs : List Char} :
    cs.dropWhile isBlank = [] ↔ ∀ c ∈ cs, isBlank c = true := by
  induction cs with
  | nil => simp
  | cons c cs ih =>
    rw [List.dropWhile_cons]
    split
    · next h => rw [ih]; simp [h]
    · next h => simp [h]

/-- Blanks before and after a text do not change what `trimChars` leaves. -/
theorem trimChars_pad {l r : List Char} (hl : ∀ c ∈ l, isBlank c = true)
    (hr : ∀ c ∈ r, isBlank c = true) (cs : List Char) :
    trimChars (l ++ cs ++ r) = trimChars cs := by
  unfold trimChars
  rw [List.append_assoc, dropWhile_append_of_blank hl]
  congr 1
  rcases h : cs.dropWhile isBlank with _ | ⟨d, ds⟩
  · -- nothing but blanks is left, so both sides are empty
    have hcs : ∀ c ∈ cs, isBlank c = true := dropWhile_isBlank_eq_nil_iff.1 h
    rw [dropWhile_append_of_blank hcs, dropWhile_isBlank_eq_nil_iff.2 hr]
  · rw [List.dropWhile_append, h]
    simp only [List.isEmpty_cons, Bool.false_eq_true, if_false, List.reverse_append]
    exact dropWhile_append_of_blank (fun c hc => hr c (List.mem_reverse.1 hc)) _

/-- A text is what `trimChars` leaves of it between two runs of blanks. -/
theorem exists_pad_trimChars (cs : List Char) :
    ∃ l r, (∀ c ∈ l, isBlank c = true) ∧ (∀ c ∈ r, isBlank c = true) ∧
      cs = l ++ trimChars cs ++ r := by
  refine ⟨cs.takeWhile isBlank, ((cs.dropWhile isBlank).reverse.takeWhile isBlank).reverse,
    fun c hc => ?_, fun c hc => ?_, ?_⟩
  · exact List.all_eq_true.1 List.all_takeWhile c hc
  · exact List.all_eq_true.1 List.all_takeWhile c (List.mem_reverse.1 hc)
  · unfold trimChars
    rw [List.append_assoc, ← List.reverse_append, List.takeWhile_append_dropWhile,
      List.reverse_reverse, List.takeWhile_append_dropWhile]

@[simp] theorem trimChars_trimChars (cs : List Char) : trimChars (trimChars cs) = trimChars cs := by
  obtain ⟨l, r, hl, hr, h⟩ := exists_pad_trimChars cs
  have := trimChars_pad hl hr (trimChars cs)
  rwa [← h, eq_comm] at this

@[simp] theorem trim_trim (s : String) : trim (trim s) = trim s := by
  simp [trim]

/-- Nothing is left exactly of a text that is all blank. -/
theorem trimChars_eq_nil_iff {cs : List Char} :
    trimChars cs = [] ↔ ∀ c ∈ cs, isBlank c = true := by
  constructor
  · intro h
    obtain ⟨l, r, hl, hr, hcs⟩ := exists_pad_trimChars cs
    rw [h, List.append_nil] at hcs
    intro c hc
    rw [hcs, List.mem_append] at hc
    exact hc.elim (hl c) (hr c)
  · intro h
    rw [trimChars, dropWhile_isBlank_eq_nil_iff.2 h]
    rfl

end Transports.Text
