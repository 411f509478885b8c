import Transports.Text.Segment
/-!
# Cuts and last segments

A cut by bytes can fall inside a character; it fails there and behind the end, and nowhere else
(`isSome_dropBytes?_iff`). The last segment of a name is said without the search for it
(`LastSegmentOf`): every name has one (`lastSegmentOf_lastSegment`), and it is the longest end of
the name without a separator (`LastSegmentOf.longest`).
-/

namespace Transports.Text

/-! ## Where a text can be cut -/

/-- Of two ways to put one text together, one has the longer front. -/
theorem exists_of_append_eq_append {a b c d : String} (h : a ++ b = c ++ d) :
    (∃ e, c = a ++ e ∧ b = e ++ d) ∨ ∃ e, a = c ++ e ∧ d = e ++ b := by
  have hlist := congrArg String.toList h
  rw [String.toList_append, String.toList_append, List.append_eq_append_iff] at hlist
  rcases hlist with ⟨e, hc, hb⟩ | ⟨e, ha, hd⟩
  · exact .inl ⟨String.ofList e, String.toList_inj.1 (by simpa using hc),
      String.toList_inj.1 (by simpa using hb)⟩
  · exact .inr ⟨String.ofList e, String.toList_inj.1 (by simpa using ha),
      String.toList_inj.1 (by simpa using hd)⟩

/-- A front of a text that starts with a character is empty, or it starts with that character. -/
theorem eq_empty_or_exists_of_singleton_append {c : Char} {b d e : String}
    (h : String.singleton c ++ b = e ++ d) : e = "" ∨ ∃ f, e = String.singleton c ++ f := by
  have hlist := congrArg String.toList h
  rw [String.toList_append, String.toList_append, String.toList_singleton, List.singleton_append,
    List.cons_eq_append_iff] at hlist
  rcases hlist with ⟨he, -⟩ | ⟨f, he, -⟩
  · exact .inl (String.toList_inj.1 (by simpa using he))
  · exact .inr ⟨String.ofList f, String.toList_inj.1 (by simpa using he)⟩

/-- Byte `n` of a text belongs to a character that starts at an earlier byte. -/
def InsideCharacter (s : String) (n : Nat) : Prop :=
  ∃ front c back, s = front ++ String.singleton c ++ back ∧ front.utf8ByteSize < n ∧
    n < front.utf8ByteSize + c.utf8Size

theorem InsideCharacter.append {s : String} {n : Nat} (h : InsideCharacter s n) (front : String) :
    InsideCharacter (front ++ s) (front.utf8ByteSize + n) := by
  obtain ⟨f, c, b, rfl, hlt, hlt'⟩ := h
  refine ⟨front ++ f, c, b, by simp only [String.append_assoc], ?_, ?_⟩
  · rw [String.utf8ByteSize_append]
    omega
  · rw [String.utf8ByteSize_append]
    omega

/-- No character lies across the border of two parts of a text. -/
theorem not_insideCharacter_append (front back : String) :
    ¬InsideCharacter (front ++ back) front.utf8ByteSize := by
  rintro ⟨f, c, b, hs, hlt, hlt'⟩
  rw [String.append_assoc] at hs
  rcases exists_of_append_eq_append hs with ⟨e, rfl, -⟩ | ⟨e, rfl, he⟩
  · rw [String.utf8ByteSize_append] at hlt
    omega
  · -- what the front has beyond `f` is nothing, or starts with all of the character
    rw [String.utf8ByteSize_append] at hlt hlt'
    rcases eq_empty_or_exists_of_singleton_append he with rfl | ⟨e', rfl⟩
    · rw [String.utf8ByteSize_empty] at hlt
      omega
    · rw [String.utf8ByteSize_append, String.utf8ByteSize_singleton] at hlt'
      omega

/-- Every byte of a text is a border of two parts, or inside a character. -/
theorem exists_append_or_insideCharacter (cs : List Char) {n : Nat}
    (h : n ≤ (String.ofList cs).utf8ByteSize) :
    (∃ front back, String.ofList cs = front ++ back ∧ front.utf8ByteSize = n) ∨
      InsideCharacter (String.ofList cs) n := by
  induction cs generalizing n with
  | nil =>
    have hn : n = 0 := by simpa using h
    exact .inl ⟨"", "", rfl, hn.symm⟩
  | cons c cs ih =>
    rw [String.ofList_cons] at h ⊢
    rw [String.utf8ByteSize_append, String.utf8ByteSize_singleton] at h
    by_cases h0 : n = 0
    · exact .inl ⟨"", _, (String.empty_append).symm, h0.symm⟩
    by_cases hc : n < c.utf8Size
    · refine .inr ⟨"", c, String.ofList cs, by rw [String.empty_append], ?_, ?_⟩
      · rw [String.utf8ByteSize_empty]
        omega
      · rw [String.utf8ByteSize_empty]
        omega
    have hn : n = (String.singleton c).utf8ByteSize + (n - c.utf8Size) := by
      rw [String.utf8ByteSize_singleton]
      omega
    rcases ih (n := n - c.utf8Size) (by omega) with ⟨front, back, hcs, hfront⟩ | hinside
    · refine .inl ⟨String.singleton c ++ front, back, by rw [hcs, String.append_assoc], ?_⟩
      rw [String.utf8ByteSize_append, hfront, ← hn]
    · exact .inr (hn ▸ hinside.append (String.singleton c))

/-- **A cut fails** exactly inside a character and behind the end. -/
theorem isSome_dropBytes?_iff {s : String} {n : Nat} :
    (dropBytes? s n).isSome ↔ n ≤ s.utf8ByteSize ∧ ¬InsideCharacter s n := by
  rw [Option.isSome_iff_exists]
  constructor
  · rintro ⟨t, ht⟩
    obtain ⟨front, rfl, rfl⟩ := dropBytes?_eq_some_iff.1 ht
    refine ⟨?_, not_insideCharacter_append front t⟩
    rw [String.utf8ByteSize_append]
    omega
  · rintro ⟨hle, hinside⟩
    rw [← String.ofList_toList (s := s)] at hle hinside
    rcases exists_append_or_insideCharacter s.toList hle with ⟨front, back, hs, hfront⟩ | h
    · rw [String.ofList_toList] at hs
      exact ⟨back, dropBytes?_eq_some_iff.2 ⟨front, hs, hfront⟩⟩
    · exact absurd h hinside

/-! ## The last segment -/

def HasSeparator (s : String) : Prop :=
  '.' ∈ s.toList ∨ ':' ∈ s.toList

def EndsInSeparator (s : String) : Prop :=
  ∃ t, s = t ++ "." ∨ s = t ++ ":"

/-- The end of a name behind all its separators. -/
structure LastSegmentOf (name s : String) : Prop where
  /-- It starts the name or stands right behind a separator. -/
  exists_front : ∃ front, name = front ++ s ∧ (front = "" ∨ EndsInSeparator front)
  plain : ¬HasSeparator s

theorem isSeparator_iff {c : Char} : isSeparator c = true ↔ c = '.' ∨ c = ':' := by
  simp [isSeparator]

theorem hasSeparator_iff {s : String} :
    HasSeparator s ↔ ∃ c ∈ s.toList, isSeparator c = true := by
  constructor
  · rintro (h | h)
    · exact ⟨'.', h, rfl⟩
    · exact ⟨':', h, rfl⟩
  · rintro ⟨c, hc, hs⟩
    rcases isSeparator_iff.1 hs with rfl | rfl
    · exact .inl hc
    · exact .inr hc

theorem endsInSeparator_iff {s : String} :
    EndsInSeparator s ↔ ∃ c ∈ s.toList.getLast?, isSeparator c = true := by
  constructor
  · rintro ⟨t, rfl | rfl⟩
    · exact ⟨'.', by simp, rfl⟩
    · exact ⟨':', by simp, rfl⟩
  · rintro ⟨c, hc, hs⟩
    obtain ⟨cs, hcs⟩ := List.getLast?_eq_some_iff.1 hc
    refine ⟨String.ofList cs, ?_⟩
    rcases isSeparator_iff.1 hs with rfl | rfl
    · exact .inl (String.toList_inj.1 (by simpa using hcs))
    · exact .inr (String.toList_inj.1 (by simpa using hcs))

section
variable {name s t front : String}

theorem HasSeparator.append (h : HasSeparator s) : HasSeparator (s ++ t) := by
  obtain ⟨c, hc, hs⟩ := hasSeparator_iff.1 h
  exact hasSeparator_iff.2 ⟨c, by simp [hc], hs⟩

theorem EndsInSeparator.hasSeparator (h : EndsInSeparator s) : HasSeparator s := by
  obtain ⟨c, hc, hs⟩ := endsInSeparator_iff.1 h
  exact hasSeparator_iff.2 ⟨c, List.mem_of_getLast? hc, hs⟩

/-- A text that ends in a separator has it in its last part, unless that is empty. -/
theorem EndsInSeparator.of_append (h : EndsInSeparator (front ++ s)) (hs : s ≠ "") :
    EndsInSeparator s := by
  obtain ⟨c, hc, hsep⟩ := endsInSeparator_iff.1 h
  rw [String.toList_append, List.getLast?_append] at hc
  cases hlast : s.toList.getLast? with
  | none => exact absurd (String.toList_inj.1 (List.getLast?_eq_none_iff.1 hlast)) hs
  | some d =>
    rw [hlast, Option.some_or] at hc
    exact endsInSeparator_iff.2 ⟨c, hlast ▸ hc, hsep⟩

/-- **The last segment is the longest end** of the name that is free of separators. -/
theorem LastSegmentOf.longest (h : LastSegmentOf name s) (hname : name = front ++ t)
    (ht : ¬HasSeparator t) : ∃ u, s = u ++ t := by
  obtain ⟨f, hf, hends⟩ := h.exists_front
  rcases exists_of_append_eq_append (hname.symm.trans hf) with ⟨e, rfl, rfl⟩ | ⟨e, -, rfl⟩
  · -- `t` would reach into what stands before the segment, and there is a separator
    by_cases he : e = ""
    · exact ⟨"", by rw [he, String.empty_append, String.empty_append]⟩
    · rcases hends with hempty | hends
      · exact absurd (String.append_eq_empty_iff.1 hempty).2 he
      · exact absurd (hends.of_append he).hasSeparator.append ht
  · exact ⟨e, rfl⟩

theorem LastSegmentOf.unique (h : LastSegmentOf name s) (h' : LastSegmentOf name t) : s = t := by
  obtain ⟨f, hf, -⟩ := h.exists_front
  obtain ⟨f', hf', -⟩ := h'.exists_front
  obtain ⟨u, rfl⟩ := h.longest hf' h'.plain
  obtain ⟨v, hv⟩ := h'.longest hf h.plain
  -- each is an end of the other, so neither is longer
  have hsize := congrArg String.utf8ByteSize hv
  simp only [String.utf8ByteSize_append] at hsize
  have hu : u = "" := String.utf8ByteSize_eq_zero_iff.1 (by omega)
  rw [hu, String.empty_append]

theorem LastSegmentOf.eq_empty_iff (h : LastSegmentOf name s) :
    s = "" ↔ name = "" ∨ EndsInSeparator name := by
  obtain ⟨front, rfl, hends⟩ := h.exists_front
  constructor
  · rintro rfl
    rwa [String.append_empty]
  · intro hname
    rcases hname with hname | hname
    · exact (String.append_eq_empty_iff.1 hname).2
    · by_cases hs : s = ""
      · exact hs
      · exact absurd (hname.of_append hs).hasSeparator h.plain

theorem lastSegmentOf_lastSegment (name : String) : LastSegmentOf name (lastSegment name) := by
  obtain ⟨front, hname, hfront⟩ := exists_append_lastSegmentChars name.toList
  refine ⟨⟨String.ofList front, String.toList_inj.1 (by simpa using hname), ?_⟩, fun hsep => ?_⟩
  · cases hlast : front.getLast? with
    | none => exact .inl (by rw [List.getLast?_eq_none_iff.1 hlast, String.ofList_nil])
    | some c => exact .inr (endsInSeparator_iff.2 ⟨c, by simpa using hlast, hfront c hlast⟩)
  · obtain ⟨c, hc, hs⟩ := hasSeparator_iff.1 hsep
    rw [toList_lastSegment] at hc
    rw [not_isSeparator_of_mem_lastSegmentChars hc] at hs
    exact Bool.false_ne_true hs

/-- A text without a separator is its own last segment. -/
theorem lastSegment_of_plain (h : ¬HasSeparator s) : lastSegment s = s :=
  (lastSegmentOf_lastSegment s).unique ⟨⟨"", (String.empty_append).symm, .inl rfl⟩, h⟩

end

end Transports.Text
