import Transports.Proofs.Declaration.Names
import Transports.Proofs.Resolver.Reached
/-!
# Records over a directory do not depend on each other

Over a directory the searches for two transports never lead to one name (`Declaration.Owns.ne`), so
no search changes how an accessor answers another one. Whatever was asked of a resolver before, the
record of a transport is the one that it would have got alone (`Resolver.Reached.eq_alone`).
-/

namespace Transports

/-- The full name of the type that an effect is about: that of a question, or of the handle whose
accessor is called. -/
def Effect.name? : Effect → Option String
  | .soughtNamespace _ => none
  | .asked space typeName => some (Directory.qualified space typeName)
  | .consulted id => some id.name
  | .constructed _ _ => none
  | .told _ => none

theorem Effect.name?_eq_none {e : Effect} (he : e.isProbe = false) : e.name? = none := by
  cases e with
  | soughtNamespace _ => rfl
  | asked _ _ => cases he
  | consulted _ => cases he
  | constructed _ _ => rfl
  | told _ => rfl

/-- No name belongs to two backends, whatever the namespaces are. -/
theorem Declaration.Owns.ne {t u : Transport} {d e : Declaration} {n n' : Namespaces}
    {name name' : String} (hd : of? t = some d) (he : of? u = some e) (htu : t ≠ u)
    (h : d.Owns n name) (h' : e.Owns n' name') : name ≠ name' := by
  obtain ⟨space, -, a, ha, rfl⟩ := h
  obtain ⟨space', -, b, hb, rfl⟩ := h'
  exact qualified_ne hd he htu ha hb space space'

namespace Resolver

def ofDirectory (dir : Directory) (n : Namespaces) (settings : Settings)
    (verdict? : Option Verdict) : Resolver where
  settings := settings
  surroundings := dir.surroundings n
  verdict? := verdict?

/-- The record that a transport gets alone: on a resolver that knows no record yet, and first. -/
def alone (r : Resolver) (past : History) (t : Transport) : Capability :=
  (((r.get t).run {}).run past).1.1

theorem alone_eq (r : Resolver) (past : History) (t : Transport) :
    r.alone past t = r.recordAt t past := by
  unfold alone
  rw [run_get_of_unknown rfl]
  rfl

/-- **What other searches leave alone**: if the record of a transport depends on the calls of some
handles only, and no other search calls them, then it is the one at the start whenever it is
computed, and until then those handles were not called. -/
theorem Reached.undisturbed {r : Resolver} {past now : History} {touches : List FirstTouch}
    {m : Memory} (h : r.Reached past touches m now) {t : Transport} {names : String → Prop}
    (hother : ∀ u before, u ≠ t → ∀ id : Handle.Id, names id.name →
      (r.trace u before).consultations id = 0)
    (hcongr : ∀ before, History.AgreeOn names past before →
      r.recordAt t before = r.recordAt t past) :
    (∀ c, m.record? t = some c → c = r.recordAt t past) ∧
      (m.record? t = none → History.AgreeOn names past now) := by
  induction h with
  | start => exact ⟨fun _ hc => (by cases hc), fun _ _ _ => rfl⟩
  | quiet _ hq ih =>
    refine ⟨ih.1, fun ht id hid => ?_⟩
    rw [ih.2 ht id hid, History.consultations_append, History.consultations_eq_zero hq,
      Nat.add_zero]
  | @first _ m now u _ hu ih =>
    simp only [Memory.record?_store]
    by_cases htu : t = u
    · -- the handles were not called before, so the record is the one at the start
      subst htu
      rw [if_pos rfl]
      refine ⟨fun c hc => ?_, fun ht => by cases ht⟩
      cases hc
      exact hcongr now (ih.2 hu)
    · -- the search for another transport calls none of the handles
      rw [if_neg htu]
      refine ⟨ih.1, fun ht id hid => ?_⟩
      rw [ih.2 ht id hid, History.consultations_append, hother u now (Ne.symm htu) id hid,
        Nat.add_zero]

section
variable {dir : Directory} {n : Namespaces} {settings : Settings} {verdict? : Option Verdict}
  {t : Transport} {past past' now : History}

/-- A search is about the names of its own backend, and there is one only behind an open gate. -/
theorem owns_of_mem_trace {e : Effect} {name : String}
    (he : e ∈ (ofDirectory dir n settings verdict?).trace t past) (hn : e.name? = some name) :
    ∃ d, Declaration.of? t = some d ∧ d.missingToken? settings = none ∧ d.Owns n name := by
  cases hd : Declaration.of? t with
  | none =>
    obtain rfl := Declaration.of?_eq_none_iff.1 hd
    rw [trace_nio] at he
    cases he
  | some d =>
    refine ⟨d, rfl, ?_⟩
    rcases (detects_compute _ t past hd).mem_effects he with
      rfl | ⟨_, rfl⟩ | ⟨space, hspace, htoken, ⟨a, ha, rfl⟩ | ⟨entry, hentry, rfl⟩⟩
    · cases hn
    · cases hn
    · cases hn
      exact ⟨htoken, space, hspace, a, ha, rfl⟩
    · cases hn
      refine ⟨htoken, space, hspace, d.entryPoint, ?_, Directory.name_of_resolve hentry⟩
      exact List.mem_cons_self

/-- A record depends on how often the handles of its own backend were called, and on nothing else
that happened before. -/
theorem recordAt_congr
    (h : ∀ d, Declaration.of? t = some d → History.AgreeOn (d.Owns n) past past') :
    (ofDirectory dir n settings verdict?).recordAt t past =
      (ofDirectory dir n settings verdict?).recordAt t past' := by
  cases hd : Declaration.of? t with
  | none =>
    obtain rfl := Declaration.of?_eq_none_iff.1 hd
    rfl
  | some d =>
    have hrun := run_compute (ofDirectory dir n settings verdict?) t past
    simp only [compute, hd] at hrun
    have hrun' := run_detect_transfer hrun rfl rfl (fun _ _ => rfl) (h d hd)
    have := run_compute (ofDirectory dir n settings verdict?) t past'
    simp only [compute, hd] at this
    exact (Prod.mk.inj (hrun'.symm.trans this)).1

/-- The search for a transport calls no accessor that another search may call. -/
theorem consultations_trace {u : Transport} {d : Declaration} (hd : Declaration.of? u = some d)
    (htu : t ≠ u) {id : Handle.Id} (hid : d.Owns n id.name) :
    ((ofDirectory dir n settings verdict?).trace t past).consultations id = 0 := by
  refine List.countP_eq_zero.2 fun e he heq => ?_
  have hname : e.name? = some id.name := by rw [beq_iff_eq.1 heq]; rfl
  obtain ⟨d', hd', -, h'⟩ := owns_of_mem_trace he hname
  exact Declaration.Owns.ne hd' hd htu h' hid rfl

/-- **No record depends on what was asked before**: the records that are known are those that the
transports get alone, and the accessors behind those that are not known were not called. -/
theorem Reached.isolated {touches : List FirstTouch} {m : Memory}
    (h : (ofDirectory dir n settings verdict?).Reached past touches m now) :
    (∀ t c, m.record? t = some c → c = (ofDirectory dir n settings verdict?).alone past t) ∧
      ∀ t d, m.record? t = none → Declaration.of? t = some d →
        History.AgreeOn (d.Owns n) past now := by
  have hbackend : ∀ t d, Declaration.of? t = some d →
      (∀ c, m.record? t = some c →
        c = (ofDirectory dir n settings verdict?).recordAt t past) ∧
      (m.record? t = none → History.AgreeOn (d.Owns n) past now) := by
    intro t d hd
    refine h.undisturbed (fun u before htu id hid => consultations_trace hd htu hid)
      fun before hbefore => (recordAt_congr fun e he => ?_).symm
    cases hd.symm.trans he
    exact hbefore
  refine ⟨fun t c hc => ?_, fun t d ht hd => (hbackend t d hd).2 ht⟩
  rw [alone_eq]
  cases hd : Declaration.of? t with
  | none =>
    obtain rfl := Declaration.of?_eq_none_iff.1 hd
    obtain ⟨before, -, rfl⟩ := h.record?_eq_some_iff.1 hc
    rfl
  | some d => exact (hbackend t d hd).1 c hc

end

end Resolver

end Transports
