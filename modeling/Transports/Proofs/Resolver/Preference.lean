import Transports.Proofs.Resolver.Visits
/-!
# The record to use

The record to use is the first available one of the candidates: the transport that the settings
name, if they name one, then epoll, kqueue and the fallback, which is available on every resolver.
Whatever was asked before, only candidates up to that one are computed, and whatever is asked later,
it stays the record to use (`preferred_first_available`).
-/

namespace Transports

def Settings.candidates (s : Settings) : List Transport :=
  s.preferred?.toList ++ [.epoll, .kqueue, .nio]

namespace Memory

/-- The record of a transport is known, and the transport is unavailable. -/
def RulesOut (m : Memory) (t : Transport) : Prop :=
  ∃ c, m.record? t = some c ∧ c.isAvailable = false

/-- By the records known, `t` is the first available of the candidates `l`, and `c` its record; the
candidates `before` it are unavailable. -/
structure Picks (m : Memory) (l before : List Transport) (t : Transport) (c : Capability) :
    Prop where
  isPrefix : before ++ [t] <+: l
  ruledOut : ∀ u ∈ before, m.RulesOut u
  known : m.record? t = some c
  isAvailable : c.isAvailable = true

section
variable {m m' : Memory} {l l' before : List Transport} {t : Transport} {c : Capability}

theorem RulesOut.within (h : m.RulesOut t) (hm : m.Within m') : m'.RulesOut t := by
  obtain ⟨c, hc, hn⟩ := h
  exact ⟨c, hm t c hc, hn⟩

theorem Picks.within (h : m.Picks l before t c) (hm : m.Within m') : m'.Picks l before t c where
  isPrefix := h.isPrefix
  ruledOut u hu := (h.ruledOut u hu).within hm
  known := hm t c h.known
  isAvailable := h.isAvailable

theorem RulesOut.not_picks (h : m.RulesOut t) : ¬ m.Picks l before t c := by
  intro hp
  obtain ⟨c', hc', hn⟩ := h
  cases hp.known.symm.trans hc'
  exact Bool.false_ne_true (hn.symm.trans hp.isAvailable)

theorem picks_singleton (hc : m.record? t = some c) (ha : c.isAvailable = true) :
    m.Picks [t] [] t c :=
  ⟨List.prefix_refl _, fun _ hu => (List.not_mem_nil hu).elim, hc, ha⟩

/-- Further candidates behind the one picked do not matter. -/
theorem Picks.append_right (h : m.Picks l before t c) (l' : List Transport) :
    m.Picks (l ++ l') before t c :=
  ⟨h.isPrefix.trans (List.prefix_append _ _), h.ruledOut, h.known, h.isAvailable⟩

/-- Unavailable candidates in front are passed over. -/
theorem Picks.append_left (h : m.Picks l before t c) (hl' : ∀ u ∈ l', m.RulesOut u) :
    m.Picks (l' ++ l) (l' ++ before) t c where
  isPrefix := by
    rw [List.append_assoc]
    exact (List.prefix_append_right_inj l').2 h.isPrefix
  ruledOut u hu := (List.mem_append.1 hu).elim (hl' u) (h.ruledOut u)
  known := h.known
  isAvailable := h.isAvailable

theorem Picks.length_le {before' : List Transport} {t' : Transport} {c' : Capability}
    (h : m.Picks l before t c) (h' : m.Picks l before' t' c') : before.length ≤ before'.length := by
  refine Nat.le_of_not_lt fun hlt => ?_
  -- otherwise the shorter prefix ends with a transport that the longer one passes over
  have hp : before' ++ [t'] <+: before := by
    refine List.prefix_of_prefix_length_le h'.isPrefix
      ((List.prefix_append _ _).trans h.isPrefix) ?_
    rw [List.length_append, List.length_singleton]
    exact hlt
  exact (h.ruledOut t' (hp.subset (by simp))).not_picks h'

/-- Only one candidate is the first available one. -/
theorem Picks.unique {before' : List Transport} {t' : Transport} {c' : Capability}
    (h : m.Picks l before t c) (h' : m.Picks l before' t' c') :
    before = before' ∧ t = t' ∧ c = c' := by
  have hlength : before.length = before'.length := Nat.le_antisymm (h.length_le h') (h'.length_le h)
  have heq : before ++ [t] = before' ++ [t'] :=
    (List.prefix_of_prefix_length_le h.isPrefix h'.isPrefix (by simp [hlength])).eq_of_length
      (by simp [hlength])
  obtain ⟨rfl, ht⟩ := List.append_inj heq hlength
  cases ht
  exact ⟨rfl, rfl, Option.some.inj (h.known.symm.trans h'.known)⟩

end

end Memory

/-! ## What the procedure visits -/

namespace Procedure

section
variable {m : Memory} {l visited : List Transport}

theorem visits_firstAvailable? {c? : Option Capability}
    (h : (firstAvailable? l).Visits m visited c?) :
    (∃ before t c, c? = some c ∧ visited = before ++ [t] ∧ m.Picks l before t c) ∨
      (c? = none ∧ visited = l ∧ ∀ u ∈ l, m.RulesOut u) := by
  induction l generalizing visited with
  | nil =>
    obtain ⟨rfl, rfl⟩ := h
    exact .inr ⟨rfl, rfl, fun _ hu => by cases hu⟩
  | cons t l ih =>
    obtain ⟨c, rest, hc, rfl, h⟩ := h
    dsimp only at h
    split at h
    · next ha =>
      obtain ⟨rfl, rfl⟩ := h
      exact .inl ⟨[], t, c, rfl, rfl, (Memory.picks_singleton hc ha).append_right l⟩
    · next ha =>
      have hout : ∀ u ∈ [t], m.RulesOut u := by
        intro u hu
        cases List.mem_singleton.1 hu
        exact ⟨c, hc, by simpa using ha⟩
      rcases ih h with ⟨before, t', c', rfl, rfl, hp⟩ | ⟨rfl, rfl, hl⟩
      · exact .inl ⟨t :: before, t', c', rfl, rfl, hp.append_left hout⟩
      · refine .inr ⟨rfl, rfl, fun u hu => ?_⟩
        rcases List.mem_cons.1 hu with rfl | hu
        · exact hout u List.mem_cons_self
        · exact hl u hu

theorem visits_chosen? {named : Option Transport} {c? : Option Capability}
    (h : (chosen? named).Visits m visited c?) :
    (∃ t c, c? = some c ∧ visited = [t] ∧ m.Picks named.toList [] t c) ∨
      (c? = none ∧ visited = named.toList ∧ ∀ u ∈ named.toList, m.RulesOut u) := by
  cases named with
  | none =>
    obtain ⟨rfl, rfl⟩ := h
    exact .inr ⟨rfl, rfl, fun _ hu => by cases hu⟩
  | some t =>
    obtain ⟨c, rest, hc, rfl, h⟩ := h
    dsimp only at h
    split at h
    · next ha =>
      obtain ⟨rfl, rfl⟩ := h
      exact .inl ⟨t, c, rfl, rfl, Memory.picks_singleton hc ha⟩
    · next ha =>
      obtain ⟨rfl, rfl⟩ := h
      refine .inr ⟨rfl, rfl, fun u hu => ?_⟩
      cases List.mem_singleton.1 hu
      exact ⟨c, hc, by simpa using ha⟩

/-- The candidates are visited in order, up to the first that is available. -/
theorem visits_preferred {named : Option Transport} {c : Capability}
    (hnio : ∀ c, m.record? .nio = some c → c.isAvailable = true)
    (h : (preferred named).Visits m visited c) :
    ∃ before t, visited = before ++ [t] ∧
      m.Picks (named.toList ++ [.epoll, .kqueue, .nio]) before t c := by
  obtain ⟨l₁, l₂, c?, rfl, hchosen, hrest⟩ := visits_bind_iff.1 h
  rcases visits_chosen? hchosen with ⟨t, c', rfl, rfl, hp⟩ | ⟨rfl, rfl, hout⟩
  · obtain ⟨rfl, rfl⟩ := hrest
    exact ⟨[], t, rfl, hp.append_right _⟩
  · obtain ⟨l₃, l₄, c?, rfl, hfirst, hlast⟩ := visits_bind_iff.1 hrest
    rcases visits_firstAvailable? hfirst with ⟨before, t, c', rfl, rfl, hp⟩ | ⟨rfl, rfl, hout'⟩
    · obtain ⟨rfl, rfl⟩ := hlast
      refine ⟨named.toList ++ before, t, by simp, ?_⟩
      exact (hp.append_right [.nio]).append_left hout
    · obtain ⟨c', rest, hc, rfl, rfl, rfl⟩ := hlast
      refine ⟨named.toList ++ [.epoll, .kqueue], .nio, by simp, ?_⟩
      have hp : m.Picks ([.epoll, .kqueue] ++ [.nio]) ([.epoll, .kqueue] ++ []) .nio c :=
        (Memory.picks_singleton hc (hnio c hc)).append_left hout'
      exact hp.append_left hout

end

end Procedure

/-! ## The record to use -/

namespace Resolver

/-- **The fallback is available** on every resolver. -/
theorem isAvailable_recordAt_nio (r : Resolver) (past : History) :
    (r.recordAt .nio past).isAvailable = true := rfl

section
variable {r : Resolver} {past now : History} {touches : List FirstTouch} {m : Memory}

theorem Reached.isAvailable_nio (h : r.Reached past touches m now) {c : Capability}
    (hc : m.record? .nio = some c) : c.isAvailable = true := by
  obtain ⟨before, -, rfl⟩ := h.record?_eq_some_iff.1 hc
  exact r.isAvailable_recordAt_nio before

/-- **A call for the record to use** picks the first available candidate, and computes the records
of the candidates up to it that were not known. -/
theorem reached_preferred (host : Host) (h : r.Reached past touches m now) :
    ∃ before t c more m' now', (r.preferred.run m).run now = ((c, m'), now') ∧
      r.Reached past (touches ++ more) m' now' ∧ m'.Picks r.settings.candidates before t c ∧
      ∀ u, u ∈ more.map (·.transport) ↔ u ∈ before ++ [t] ∧ m.record? u = none := by
  obtain ⟨c, visited, more, m', now', hrun, h', hvisits, hnone⟩ :=
    (Procedure.preferred r.settings.preferred?).visits_run host h
  rw [Procedure.run_preferred] at hrun
  obtain ⟨before, t, rfl, hp⟩ :=
    Procedure.visits_preferred (fun _ hc => h'.isAvailable_nio hc) hvisits
  refine ⟨before, t, c, more, m', now', hrun, h', hp, fun u => ?_⟩
  rw [h.mem_map_transport_iff h', ne_eq, hnone]
  tauto

end

end Resolver

/-- A candidate that is picked or passed over is known. -/
theorem Memory.Picks.record?_ne_none {m : Memory} {l before : List Transport} {t u : Transport}
    {c : Capability} (h : m.Picks l before t c) (hu : u ∈ before ++ [t]) : m.record? u ≠ none := by
  intro hn
  rcases List.mem_append.1 hu with hu | hu
  · obtain ⟨c', hc', -⟩ := h.ruledOut u hu
    cases hn.symm.trans hc'
  · cases List.mem_singleton.1 hu
    cases hn.symm.trans h.known

/-- While the candidates up to the one picked are known, calls for the record to use give the same
record again, and nothing is searched for. -/
theorem Resolver.Reached.run_preferred {r : Resolver} {past now : History}
    {touches : List FirstTouch} {m : Memory} {before : List Transport} {t : Transport}
    {c : Capability} (host : Host) (h : r.Reached past touches m now)
    (hp : m.Picks r.settings.candidates before t c) :
    ∃ now', (r.preferred.run m).run now = ((c, m), now') ∧ now'.probes = now.probes := by
  obtain ⟨before', t', c', computed, m', now', hrun, h', hp', hcomputed⟩ :=
    reached_preferred host h
  obtain ⟨rfl, rfl, rfl⟩ := (hp.within (h.within h')).unique hp'
  have hnone : computed.map (·.transport) = [] := by
    refine List.eq_nil_iff_forall_not_mem.2 fun u hu => ?_
    obtain ⟨hu, hn⟩ := (hcomputed u).1 hu
    exact hp.record?_ne_none hu hn
  cases List.map_eq_nil_iff.1 hnone
  have hprobes := (h.computes h').probes_eq
  rw [List.append_nil] at h'
  cases h.memory_unique h'
  exact ⟨now', hrun, by rw [hprobes, List.flatMap_nil, List.append_nil]⟩

/-- The calls of threads whose steps alternate pick by any memory that knows the records handed
out. -/
theorem Crew.picks_of_answered {r : Resolver} {host : Host} {past now : History}
    {programs : List (List Request)} {schedule : List Nat} {crew : Crew} {m known : Memory}
    (hrun : (((ofRequests r.settings programs).run r host schedule).run {}).run past =
      ((crew, m), now))
    (hknown : ∀ x ∈ crew.handed, known.record? x.1 = some x.2)
    (hnio : ∀ c, known.record? .nio = some c → c.isAvailable = true) {i : Nat}
    {requests : List Request} {answers : List Answer} (hi : programs[i]? = some requests)
    (hdone : crew.threads[i]? = some (.done answers)) {a : Answer}
    (ha : (.preferred, a) ∈ requests.zip answers) :
    ∃ before t c, a = .record c ∧ known.Picks r.settings.candidates before t c := by
  obtain ⟨p, l, hp, hvisits⟩ :=
    (leadsTo_run hrun).2 hknown i (.done answers) [] answers hdone ⟨rfl, rfl⟩
  have hthread : (ofRequests r.settings programs).threads[i]? =
      some (Procedure.ofRequests r.settings requests) := by
    rw [ofRequests, List.getElem?_map, hi]
    rfl
  cases hthread.symm.trans hp
  obtain ⟨visited, h⟩ := List.forall₂_zip (Procedure.forall₂_of_visits_ofRequests hvisits) ha
  obtain ⟨l₁, l₂, c, rfl, hpreferred, -, rfl⟩ := Procedure.visits_bind_iff.1 h
  obtain ⟨before, t, -, hpicks⟩ := Procedure.visits_preferred hnio hpreferred
  exact ⟨before, t, c, rfl, hpicks⟩

/-- A candidate that the fixed order does not hold is the one that the settings name. -/
theorem Settings.mem_candidates_iff {s : Settings} {t : Transport} :
    t ∈ s.candidates ↔ s.preferred? = some t ∨ t = .epoll ∨ t = .kqueue ∨ t = .nio := by
  simp [candidates]

/-- **The record to use is the first available candidate.** In every state that threads lead a
resolver to, a call for the record to use gives the record of the first available candidate, and
computes the records of the candidates up to it that were not known, and no other. It is the record
that all earlier calls gave, also those whose steps alternated with the steps of other threads, and
the one that every later call gives, without any further search. -/
theorem preferred_first_available (r : Resolver) (host : Host) (programs : List (List Request))
    (schedule : List Nat) (past : History) :
    ∃ crew m now,
      (((Crew.ofRequests r.settings programs).run r host schedule).run {}).run past =
        ((crew, m), now) ∧
      (((r.get .nio).run m).run now).1.1.isAvailable = true ∧
      ∃ before t c computed m' now',
        (r.preferred.run m).run now = ((c, m'), now') ∧
        m'.Picks r.settings.candidates before t c ∧
        r.Computes computed m now m' now' ∧
        (∀ u, u ∈ computed.map (·.transport) ↔ u ∈ before ++ [t] ∧ m.record? u = none) ∧
        c.name = t.name ∧ (t = .ioUring → r.settings.preferred? = some .ioUring) ∧
        (∀ (i : Nat) requests answers, programs[i]? = some requests →
          crew.threads[i]? = some (.done answers) →
          ∀ a, (.preferred, a) ∈ requests.zip answers → a = .record c) ∧
        ∀ (later : Crew) (more : List Nat), ∃ later' m'' now'' last,
          ((later.run r host more).run m').run now' = ((later', m''), now'') ∧
          (r.preferred.run m'').run now'' = ((c, m''), last) ∧ last.probes = now''.probes := by
  obtain ⟨crew, touches, m, now, hrun, h⟩ := Crew.tracks_ofRequests r host programs schedule past
  obtain ⟨cnio, _, m₁, now₁, hnio, h₁, hknown, -, -⟩ := Resolver.reached_get h.reached .nio
  obtain ⟨before, t, c, computed, m', now', hcall, h', hp, hcomputed⟩ :=
    Resolver.reached_preferred host h.reached
  refine ⟨crew, m, now, hrun, ?_, before, t, c, computed, m', now', hcall, hp,
    h.reached.computes h', hcomputed, h'.name_eq hp.known, ?_, ?_, fun later more => ?_⟩
  · rw [hnio]
    exact h₁.isAvailable_nio hknown
  · rintro rfl
    simpa using Settings.mem_candidates_iff.1 (hp.isPrefix.subset (by simp : Transport.ioUring ∈ _))
  · -- an earlier call went by records that are still known
    intro i requests answers hi hdone a ha
    have hknown : ∀ x ∈ crew.handed, m'.record? x.1 = some x.2 :=
      fun x hx => h.reached.within h' x.1 x.2 (h.known x hx)
    obtain ⟨before', t', c', rfl, hp'⟩ :=
      Crew.picks_of_answered hrun hknown (fun _ hc => h'.isAvailable_nio hc) hi hdone ha
    rw [(hp.unique hp').2.2]
  · obtain ⟨later', more', m'', now'', hlater, h''⟩ := later.reached_run host more h'
    obtain ⟨last, hcall', hprobes⟩ := h''.run_preferred host (hp.within (h'.within h''))
    exact ⟨later', m'', now'', last, hlater, hcall', hprobes⟩

end Transports
