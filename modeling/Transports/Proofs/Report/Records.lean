import Transports.Report
import Transports.Proofs.Failure.Chain
/-!
# What is written of a record

A record is written as one line and what follows from it: the seven rows of its types if the backend
is available, and else the failures beneath its cause, one on each line. A row has the name of the
type in its slot or a dash (`Report.row_of_available`): nothing else can happen, as an available
record refuses its types for domain sockets only, and only if it has none.
-/

namespace Transports

namespace Report

def rowWith (s : Slot) (text : String) : String :=
  "    " ++ padded 24 s.label ++ " " ++ text

def causedBy (e : Failure) : String :=
  "    caused by: " ++ e.message

section
variable {c : Capability} {s : Slot}

theorem row_of_ok {h : Handle} (hh : c.handle s = .ok h) : row c s = rowWith s h.name := by
  rw [row, hh]
  rfl

theorem row_of_unsupported {name capability : String}
    (hh : c.handle s = .error (.unsupported name capability)) : row c s = rowWith s "-" := by
  rw [row, hh]
  rfl

/-- **A row of an available record** has the name of the type in its slot, or a dash if it is one of
the two for domain sockets and there are none. -/
theorem row_of_available {o : Offer} (ho : c.availability = .available o) :
    (s.isDomain = true ∧ c.supportsDomainSockets = false ∧
        c.handle s = .error (.unsupported c.name "domain sockets") ∧ row c s = rowWith s "-") ∨
      ¬ (s.isDomain = true ∧ c.supportsDomainSockets = false) ∧
        ∃ h, o.handle? s = some h ∧ c.handle s = .ok h ∧ row c s = rowWith s h.name := by
  obtain ⟨name, availability⟩ := c
  cases ho
  have hsome := o.isSome_handle? s
  have hhandle : (Capability.available name o).handle s = _ := Capability.handle_available
  cases hh : o.handle? s with
  | some h =>
    rw [hh] at hsome hhandle
    refine .inr ⟨fun ⟨hdomain, hnone⟩ => ?_, h, rfl, hhandle, row_of_ok hhandle⟩
    have hnone : o.domain?.isSome = false := hnone
    rw [hdomain, hnone] at hsome
    cases hsome
  | none =>
    rw [hh] at hsome hhandle
    obtain ⟨hdomain, hnone⟩ : s.isDomain = true ∧ o.domain?.isSome = false := by simpa using hsome
    exact .inl ⟨hdomain, hnone, hhandle, row_of_unsupported hhandle⟩

theorem recordLines_of_cause?_eq_none (h : c.cause? = none) :
    recordLines c = availableLine c :: Slot.all.map (row c) := by
  rw [recordLines, h]

theorem recordLines_of_cause? {cause : Cause} (h : c.cause? = some cause) :
    recordLines c = unavailableLine c cause :: cause.chain.map causedBy := by
  rw [recordLines, h]
  rfl

/-- The lines of an available record depend on the names of its types, and on nothing else in its
offer. -/
theorem recordLines_available {name : String} {o : Offer} {names : Slot → Option String}
    (hnames : ∀ s, (o.handle? s).map (·.name) = names s) :
    recordLines (.available name o) = availableLine (.available name o) ::
      Slot.all.map fun s => rowWith s ((names s).getD "-") := by
  rw [recordLines_of_cause?_eq_none rfl]
  congr 1
  refine List.map_congr_left fun s _ => ?_
  rw [← hnames s]
  cases hh : o.handle? s with
  | some h => exact row_of_ok (by rw [Capability.handle_available, hh])
  | none => exact row_of_unsupported (by rw [Capability.handle_available, hh])

end

end Report

end Transports
