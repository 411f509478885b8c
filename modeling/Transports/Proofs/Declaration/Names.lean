import Mathlib.Data.List.Nodup
import Transports.Directory
import Transports.Proofs.Detection.Search
/-!
# Joined names never clash

Namespaces are any texts, and they are joined to the declared names without a separator. Still no
two of the names asked for by the built-in backends lead to one entry of a directory
(`eq_of_qualified_eq`): the last segment of a joined name is that of the declared name, and no two
of the declared names share it.
-/

namespace Transports.Declaration

/-- Every name that the detection of a built-in backend may ask for. -/
def builtInNames : List String :=
  epoll.typeNames ++ kqueue.typeNames ++ ioUring.typeNames

theorem all_any_isSeparator :
    (builtInNames.all fun a => a.toList.any Text.isSeparator) = true := by
  decide +kernel

theorem exists_separator {a : String} (ha : a ∈ builtInNames) :
    ∃ c ∈ a.toList, Text.isSeparator c = true :=
  List.any_eq_true.1 (List.all_eq_true.1 all_any_isSeparator a ha)

theorem nodup_map_lastSegment : (builtInNames.map Text.lastSegment).Nodup := by
  decide +kernel

theorem lastSegment_qualified {a : String} (ha : a ∈ builtInNames) (space : String) :
    Text.lastSegment (Directory.qualified space a) = Text.lastSegment a :=
  Text.lastSegment_append (exists_separator ha) space

/-- A joined name tells the declared name, whatever the namespaces are. -/
theorem eq_of_qualified_eq {a b space space' : String} (ha : a ∈ builtInNames)
    (hb : b ∈ builtInNames) (h : Directory.qualified space a = Directory.qualified space' b) :
    a = b := by
  refine List.inj_on_of_nodup_map nodup_map_lastSegment ha hb ?_
  rw [← lastSegment_qualified ha space, ← lastSegment_qualified hb space', h]

theorem mem_builtInNames {t : Transport} {d : Declaration} {a : String} (hd : of? t = some d)
    (ha : a ∈ d.typeNames) : a ∈ builtInNames := by
  simp only [builtInNames, List.mem_append]
  cases t with
  | nio => cases hd
  | epoll => cases hd; exact .inl (.inl ha)
  | kqueue => cases hd; exact .inl (.inr ha)
  | ioUring => cases hd; exact .inr ha

/-- No two backends declare one name. -/
theorem eq_of_mem_typeNames {t u : Transport} {d e : Declaration} {a : String}
    (hd : of? t = some d) (he : of? u = some e) (ha : a ∈ d.typeNames) (hb : a ∈ e.typeNames) :
    t = u := by
  have hn := nodup_map_lastSegment.of_map
  simp only [builtInNames, List.nodup_append', List.disjoint_append_left] at hn
  obtain ⟨⟨-, -, hek⟩, -, heu, hku⟩ := hn
  cases t <;> cases hd <;> cases u <;> cases he
  · rfl
  · exact absurd hb (hek ha)
  · exact absurd hb (heu ha)
  · exact absurd ha (hek hb)
  · rfl
  · exact absurd hb (hku ha)
  · exact absurd ha (heu hb)
  · exact absurd ha (hku hb)
  · rfl

/-- **Two backends never meet in a directory**, whatever their namespaces are. -/
theorem qualified_ne {t u : Transport} {d e : Declaration} {a b : String} (hd : of? t = some d)
    (he : of? u = some e) (htu : t ≠ u) (ha : a ∈ d.typeNames) (hb : b ∈ e.typeNames)
    (space space' : String) : Directory.qualified space a ≠ Directory.qualified space' b := by
  intro h
  have hab := eq_of_qualified_eq (mem_builtInNames hd ha) (mem_builtInNames he hb) h
  exact htu (eq_of_mem_typeNames hd he ha (hab ▸ hb))

end Transports.Declaration
