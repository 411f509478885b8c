/-!
# Texts up to the case of ASCII letters

`sameLetters` compares two texts character by character and ignores the case of the letters `A` to
`Z`, and of no others: letters beyond ASCII differ from every ASCII letter, whatever they look like.
-/

namespace Transports.Text

/-- The characters of a text with ASCII capitals made small. -/
def smallLetters (s : String) : List Char :=
  s.toList.map Char.toLower

/-- Whether two texts agree up to the case of ASCII letters. -/
def sameLetters (s t : String) : Bool :=
  smallLetters s == smallLetters t

theorem sameLetters_iff {s t : String} :
    sameLetters s t = true ↔ smallLetters s = smallLetters t := by
  simp [sameLetters]

end Transports.Text
