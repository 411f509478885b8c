import Transports.Directory
import Transports.Proofs.Text.Segment
/-!
# Simple names

The simple name of a type is the longest end of its name without a separator
(`simpleName_longest_end`). All else about it follows from that reading: when it is empty, that a
namespace has no part in it, and that it is its own simple name. The search and the cut that find it
go by bytes, and still no character is ever cut in two.
-/

namespace Transports

open Text

/-- **The simple name of a type is the longest end of its name without a separator.** What stands
before it is empty or ends in a separator, and it is empty exactly if the name is empty or ends in
one. A namespace has no part in the simple name of what is joined to it, if that has a separator,
and a type named by a simple name has that simple name. The cut is never refused, because it never
falls inside a character. -/
theorem simpleName_longest_end (h : Handle) :
    LastSegmentOf h.name h.simpleName ∧
    (∀ front t, h.name = front ++ t → ¬HasSeparator t → ∃ u, h.simpleName = u ++ t) ∧
    (h.simpleName = "" ↔ h.name = "" ∨ EndsInSeparator h.name) ∧
    (∀ space typeName, HasSeparator typeName → h.name = Directory.qualified space typeName →
      ∀ k : Handle, k.name = typeName → h.simpleName = k.simpleName) ∧
    (∀ k : Handle, k.name = h.simpleName → k.simpleName = h.simpleName) ∧
    dropBytes? h.name (segmentStart h.name) = some h.simpleName ∧
    ¬InsideCharacter h.name (segmentStart h.name) := by
  have hlast : LastSegmentOf h.name h.simpleName := by
    rw [h.simpleName_eq]
    exact lastSegmentOf_lastSegment h.name
  have hcut : dropBytes? h.name (segmentStart h.name) = some h.simpleName := by
    rw [h.simpleName_eq]
    exact lastSegment?_eq h.name
  refine ⟨hlast, fun front t => hlast.longest, hlast.eq_empty_iff,
    fun space typeName hsep hname k hk => ?_, fun k hk => ?_, hcut, ?_⟩
  · rw [h.simpleName_eq, k.simpleName_eq, hname, hk]
    exact lastSegment_append (hasSeparator_iff.1 hsep) space
  · rw [k.simpleName_eq, hk]
    exact lastSegment_of_plain hlast.plain
  · exact (isSome_dropBytes?_iff.1 (Option.isSome_iff_exists.2 ⟨_, hcut⟩)).2

/-- Characters of several bytes on both sides of the separators. -/
theorem simpleName_beyond_ascii :
    HasSeparator ".ü:größe" ∧
    (Handle.plain none "日本.ü:größe" .socketChannel).name =
      Directory.qualified "日本" ".ü:größe" ∧
    (Handle.plain none "日本.ü:größe" .socketChannel).simpleName =
      (Handle.plain none ".ü:größe" .socketChannel).simpleName ∧
    (Handle.plain none "日本.ü:größe" .socketChannel).simpleName = "größe" ∧
    (Handle.plain none "größe" .eventLoop).simpleName = "größe" := by
  have hsep : HasSeparator ".ü:größe" := .inl (by decide)
  have hjoin : (Handle.plain none "日本.ü:größe" .socketChannel).name =
      Directory.qualified "日本" ".ü:größe" := by decide
  have hname : (Handle.plain none "日本.ü:größe" .socketChannel).simpleName = "größe" := by
    rw [Handle.simpleName_eq]
    decide +kernel
  obtain ⟨-, -, -, hjoined, hself, -⟩ :=
    simpleName_longest_end (.plain none "日本.ü:größe" .socketChannel)
  refine ⟨hsep, hjoin, hjoined "日本" ".ü:größe" hsep hjoin _ rfl, hname, ?_⟩
  rw [hself (.plain none "größe" .eventLoop) hname.symm, hname]

end Transports
