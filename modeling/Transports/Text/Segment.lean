/-!
# The last segment of a name

Names of types are paths whose segments end at `.` or `:`. `lastSegment` is the part behind the last
of these separators, the whole name if there is none. It is found by bytes: a search from the end of
the name tells at which byte it starts (`segmentStart`), and the name is cut there (`lastSegment?`).
A cut inside a character fails (`dropBytes?`), but this one never does (`lastSegment?_eq`), because
a separator is a single byte.
-/

namespace Transports.Text

/-- Whether a character ends a segment of a name. -/
def isSeparator (c : Char) : Bool :=
  c == '.' || c == ':'

/-- The longest end of a list of characters that holds no separator. -/
def lastSegmentChars (cs : List Char) : List Char :=
  (cs.reverse.takeWhile fun c => !isSeparator c).reverse

/-- The part of a name behind its last separator. -/
def lastSegment (name : String) : String :=
  String.ofList (lastSegmentChars name.toList)

@[simp] theorem toList_lastSegment (name : String) :
    (lastSegment name).toList = lastSegmentChars name.toList := by
  simp [lastSegment]

theorem not_isSeparator_of_mem_lastSegmentChars {cs : List Char} {c : Char}
    (h : c ∈ lastSegmentChars cs) : isSeparator c = false := by
  have := List.all_eq_true.1 List.all_takeWhile c (List.mem_reverse.1 h)
  simpa using this

/-- What stands before the last segment is empty or ends in a separator. -/
theorem exists_append_lastSegmentChars (cs : List Char) :
    ∃ front, cs = front ++ lastSegmentChars cs ∧
      ∀ c ∈ front.getLast?, isSeparator c = true := by
  refine ⟨(cs.reverse.dropWhile fun c => !isSeparator c).reverse, ?_, ?_⟩
  · rw [lastSegmentChars, ← List.reverse_append, List.takeWhile_append_dropWhile,
      List.reverse_reverse]
  · intro c hc
    rw [List.getLast?_reverse] at hc
    have := List.head?_dropWhile_not (fun c => !isSeparator c) cs.reverse
    rw [Option.mem_def.1 hc] at this
    simpa using this

/-- Only what stands behind some separator counts for the last segment. -/
theorem lastSegmentChars_append {cs : List Char} (h : ∃ c ∈ cs, isSeparator c = true)
    (front : List Char) : lastSegmentChars (front ++ cs) = lastSegmentChars cs := by
  obtain ⟨c, hc, hs⟩ := h
  unfold lastSegmentChars
  rw [List.reverse_append, List.takeWhile_append, if_neg]
  intro hl
  have he := (List.takeWhile_prefix _).eq_of_length hl
  have hn := List.all_eq_true.1 List.all_takeWhile c (he ▸ List.mem_reverse.2 hc)
  simp [hs] at hn

theorem lastSegment_append {s : String} (h : ∃ c ∈ s.toList, isSeparator c = true)
    (front : String) : lastSegment (front ++ s) = lastSegment s := by
  unfold lastSegment
  rw [String.toList_append, lastSegmentChars_append h]

/-! ## Cutting by bytes -/

/-- The text behind its first `n` bytes. There is none if the cut falls inside a character or behind
the end. -/
def dropBytes? (s : String) (n : Nat) : Option String :=
  (s.pos? ⟨n⟩).map fun p => (s.sliceFrom p).copy

theorem pos?_eq_some_iff {s : String} {n : Nat} {p : s.Pos} :
    s.pos? ⟨n⟩ = some p ↔ p.offset.byteIdx = n := by
  unfold String.pos? String.Slice.pos?
  split
  · simp only [Option.map_some, Option.some.injEq]
    constructor
    · rintro rfl
      rfl
    · rintro rfl
      rfl
  · next h =>
    simp only [Option.map_none, reduceCtorEq, false_iff]
    rintro rfl
    exact h (String.Pos.Raw.isValidForSlice_eq_true_iff.2 p.isValid.toSlice)

theorem dropBytes?_eq_some_iff {s t : String} {n : Nat} :
    dropBytes? s n = some t ↔ ∃ front, s = front ++ t ∧ front.utf8ByteSize = n := by
  simp only [dropBytes?, Option.map_eq_some_iff, pos?_eq_some_iff,
    String.copy_sliceFrom_eq_iff_exists_splits]
  constructor
  · rintro ⟨p, rfl, front, h⟩
    exact ⟨front, h.eq_append, congrArg String.Pos.Raw.byteIdx h.offset_eq_rawEndPos.symm⟩
  · rintro ⟨front, hs, rfl⟩
    have hvalid := String.Pos.Raw.isValid_iff_exists_append.2 ⟨front, t, hs, rfl⟩
    exact ⟨s.pos _ hvalid, rfl, front, hs, rfl⟩

/-! ## The search from the end -/

/-- The byte at which the last character with a property starts. The characters to be searched are
given with the last first, and byte `stop` is the one behind them. -/
def lastPlace? (p : Char → Bool) : List Char → Nat → Option Nat
  | [], _ => none
  | c :: rest, stop =>
    if p c then some (stop - c.utf8Size) else lastPlace? p rest (stop - c.utf8Size)

/-- The byte at which the last segment of a name starts. -/
def segmentStart (name : String) : Nat :=
  match lastPlace? isSeparator name.toList.reverse name.utf8ByteSize with
  | some place => place + 1
  | none => 0

/-- The name from that byte on. -/
def lastSegment? (name : String) : Option String :=
  dropBytes? name (segmentStart name)

theorem utf8Size_of_isSeparator {c : Char} (h : isSeparator c = true) : c.utf8Size = 1 := by
  simp only [isSeparator, Bool.or_eq_true, beq_iff_eq] at h
  rcases h with rfl | rfl <;> rfl

/-- The search passes over characters without the property. -/
theorem lastPlace?_reverse_append {p : Char → Bool} {back : List Char}
    (h : ∀ c ∈ back, p c = false) (rest : List Char) (stop : Nat) :
    lastPlace? p (back.reverse ++ rest) (stop + (String.ofList back).utf8ByteSize) =
      lastPlace? p rest stop := by
  induction back generalizing rest stop with
  | nil => simp
  | cons c back ih =>
    have hstop : stop + (String.ofList (c :: back)).utf8ByteSize =
        stop + c.utf8Size + (String.ofList back).utf8ByteSize := by
      rw [String.ofList_cons, String.utf8ByteSize_append, String.utf8ByteSize_singleton,
        Nat.add_assoc]
    rw [List.reverse_cons, List.append_assoc, List.singleton_append, hstop,
      ih fun d hd => h d (List.mem_cons_of_mem c hd)]
    simp [lastPlace?, h c]

/-- The search ends right behind what stands before the last segment. -/
theorem segmentStart_append {front s : List Char}
    (hfront : ∀ c ∈ front.getLast?, isSeparator c = true) (hs : ∀ c ∈ s, isSeparator c = false) :
    segmentStart (String.ofList (front ++ s)) = (String.ofList front).utf8ByteSize := by
  unfold segmentStart
  rw [String.toList_ofList, List.reverse_append, String.ofList_append, String.utf8ByteSize_append,
    lastPlace?_reverse_append hs]
  rcases List.eq_nil_or_concat front with rfl | ⟨t, c, rfl⟩
  · rfl
  · have hc : isSeparator c = true := hfront c (by simp)
    have hsize := utf8Size_of_isSeparator hc
    simp [lastPlace?, hc, hsize, String.ofList_append]

/-- **The cut never fails**, and what it leaves is the last segment. -/
theorem lastSegment?_eq (name : String) : lastSegment? name = some (lastSegment name) := by
  obtain ⟨front, hname, hfront⟩ := exists_append_lastSegmentChars name.toList
  have hsplit : name = String.ofList (front ++ lastSegmentChars name.toList) := by
    rw [← hname, String.ofList_toList]
  refine dropBytes?_eq_some_iff.2 ⟨String.ofList front, ?_, ?_⟩
  · rw [lastSegment, ← String.ofList_append, ← hsplit]
  · rw [← segmentStart_append hfront fun c => not_isSeparator_of_mem_lastSegmentChars, ← hsplit]

end Transports.Text
