import Transports.Proofs.Resolver.Building
import Transports.Proofs.Resolver.Marks
import Transports.Proofs.Resolver.Origin
/-!
# The log tells what happened

The marks that a request leaves can be read off the records that are known in the end
(`Request.marks`), and with them everything that it tells. `log_tells_records` puts this together
for requests served one after the other, for threads under any schedule, and for building.
-/

namespace Transports

/-! ## The marks of requests -/

/-- The record of a transport is known, and the transport is available. -/
def Memory.offers (m : Memory) (t : Transport) : Bool :=
  (m.record? t).any (·.isAvailable)

def Memory.searchMarks (m : Memory) : List Transport → List Mark
  | [] => []
  | t :: l => .touch t :: if m.offers t then [] else m.searchMarks l

/-- The marks of a call for the record to use: if a transport is preferred and unavailable, that is
told between its own touch and those of the others. -/
def Memory.preferredMarks (m : Memory) : Option Transport → List Mark
  | none => m.searchMarks [.epoll, .kqueue, .nio]
  | some t => .touch t :: if m.offers t then [] else
      .tell (.preferenceUnavailable t.name) :: m.searchMarks [.epoll, .kqueue, .nio]

/-- The marks of a request with its answer, by the records that a memory knows. -/
def Request.marks (settings : Settings) (m : Memory) : Request → Answer → List Mark
  | get t, _ => [.touch t]
  | getByName name, _ =>
    match Transport.ofText name with
    | .error _ => []
    | .ok t => [.touch t]
  | records, _ => Transport.all.map .touch
  | firstRecords n, _ => (Transport.all.take n).map .touch
  | preferred, _ => m.preferredMarks settings.preferred?
  | newGroup t _ _, .group g => .touch t :: if m.offers t then [.group g] else []
  | newGroup t _ _, _ => [.touch t]

def Request.allMarks (settings : Settings) (m : Memory) (l : List (Request × Answer)) : List Mark :=
  l.flatMap fun x => x.1.marks settings m x.2

section
variable {m : Memory} {l : List Mark}

theorem Memory.offers_of_known {t : Transport} {c : Capability} (h : m.record? t = some c) :
    m.offers t = c.isAvailable := by
  rw [offers, h, Option.any_some]

namespace Procedure

theorem marks_getAll {ts : List Transport} {cs : List Capability}
    (h : (getAll ts).Leaves m l cs) : l = ts.map .touch := by
  induction ts generalizing l cs with
  | nil => exact h.1
  | cons t ts ih =>
    obtain ⟨c, rest, -, rfl, h⟩ := h
    obtain ⟨l₁, l₂, cs, rfl, hrest, rfl, -⟩ := leaves_bind_iff.1 h
    rw [ih hrest, List.append_nil, List.map_cons]

/-- The transports are touched up to the first that is available; a last one may stand behind
them. -/
theorem marks_firstAvailable? {ts : List Transport} {c? : Option Capability}
    (h : (firstAvailable? ts).Leaves m l c?) (last : List Transport) :
    m.searchMarks (ts ++ last) = l ++ if c?.isSome then [] else m.searchMarks last := by
  induction ts generalizing l with
  | nil =>
    obtain ⟨rfl, rfl⟩ := h
    rfl
  | cons t ts ih =>
    obtain ⟨c, rest, hc, rfl, h⟩ := h
    rw [List.cons_append, Memory.searchMarks, Memory.offers_of_known hc, List.cons_append]
    congr 1
    dsimp only at h
    cases ha : c.isAvailable with
    | true =>
      rw [if_pos ha] at h
      obtain ⟨rfl, rfl⟩ := h
      rfl
    | false =>
      rw [if_neg (by rw [ha]; exact Bool.false_ne_true)] at h
      exact ih h

theorem marks_unpreferred {c : Capability} (h : unpreferred.Leaves m l c) :
    l = m.searchMarks [.epoll, .kqueue, .nio] := by
  obtain ⟨l₁, l₂, c?, rfl, hfirst, hlast⟩ := leaves_bind_iff.1 h
  have hsearch := marks_firstAvailable? hfirst [.nio]
  cases c? with
  | some c' =>
    obtain ⟨rfl, -⟩ := hlast
    exact hsearch.symm
  | none =>
    obtain ⟨c', rest, -, rfl, rfl, -⟩ := hlast
    have hnio : m.searchMarks [.nio] = [.touch .nio] := by simp [Memory.searchMarks]
    exact (hsearch.trans (by rw [hnio]; rfl)).symm

theorem marks_preferred {named : Option Transport} {c : Capability}
    (hname : ∀ t c, m.record? t = some c → c.name = t.name)
    (h : (preferred named).Leaves m l c) : l = m.preferredMarks named := by
  obtain ⟨l₁, l₂, c?, rfl, hchosen, hrest⟩ := leaves_bind_iff.1 h
  cases named with
  | none =>
    obtain ⟨rfl, rfl⟩ := hchosen
    exact marks_unpreferred hrest
  | some t =>
    obtain ⟨c', rest, hc, rfl, hchosen⟩ := hchosen
    rw [Memory.preferredMarks, Memory.offers_of_known hc, List.cons_append]
    congr 1
    dsimp only at hchosen
    cases ha : c'.isAvailable with
    | true =>
      rw [if_pos ha] at hchosen
      obtain ⟨rfl, rfl⟩ := hchosen
      exact hrest.1
    | false =>
      rw [if_neg (by rw [ha]; exact Bool.false_ne_true)] at hchosen
      obtain ⟨rest, rfl, rfl, rfl⟩ := hchosen
      rw [hname t c' hc, marks_unpreferred hrest]
      rfl

theorem marks_newGroup {n : Nat} {factory : ThreadFactory} {c : Capability} {a : Answer}
    (h : (newGroup n factory c).Leaves m l a) :
    ∃ g, a = .group g ∧ l = if c.isAvailable then [.group g] else [] := by
  obtain ⟨name, offer | cause⟩ := c
  · obtain ⟨g, rest, rfl, rfl, rfl⟩ := h
    exact ⟨g, rfl, rfl⟩
  · obtain ⟨rfl, rfl⟩ := h
    exact ⟨_, rfl, rfl⟩

/-- **The marks of a request** are those of its procedure. -/
theorem marks_procedure {settings : Settings} {q : Request} {a : Answer}
    (hname : ∀ t c, m.record? t = some c → c.name = t.name)
    (h : (q.procedure settings).Leaves m l a) : l = q.marks settings m a := by
  cases q with
  | get t =>
    obtain ⟨c, rest, -, rfl, rfl, -⟩ := h
    rfl
  | getByName name =>
    simp only [Request.procedure] at h
    simp only [Request.marks]
    cases ht : Transport.ofText name with
    | error u =>
      rw [ht] at h
      exact h.1
    | ok t =>
      rw [ht] at h
      obtain ⟨c, rest, -, rfl, rfl, -⟩ := h
      rfl
  | records =>
    obtain ⟨l₁, l₂, cs, rfl, hall, rfl, -⟩ := leaves_bind_iff.1 h
    rw [marks_getAll hall, List.append_nil]
    rfl
  | firstRecords n =>
    obtain ⟨l₁, l₂, cs, rfl, hall, rfl, -⟩ := leaves_bind_iff.1 h
    rw [marks_getAll hall, List.append_nil]
    rfl
  | preferred =>
    obtain ⟨l₁, l₂, c, rfl, hcall, rfl, -⟩ := leaves_bind_iff.1 h
    rw [marks_preferred hname hcall, List.append_nil]
    rfl
  | newGroup t n factory =>
    obtain ⟨c, rest, hc, rfl, h⟩ := h
    obtain ⟨g, rfl, rfl⟩ := marks_newGroup h
    rw [Request.marks, Memory.offers_of_known hc]

theorem marks_ofRequests {settings : Settings} {requests : List Request} {answers : List Answer}
    (hname : ∀ t c, m.record? t = some c → c.name = t.name)
    (h : (ofRequests settings requests).Leaves m l answers) :
    l = Request.allMarks settings m (requests.zip answers) := by
  induction requests generalizing l answers with
  | nil => exact h.1
  | cons q requests ih =>
    obtain ⟨l₁, l₂, a, rfl, hq, h⟩ := leaves_bind_iff.1 h
    obtain ⟨l₃, l₄, rest, rfl, hrest, rfl, rfl⟩ := leaves_bind_iff.1 h
    rw [marks_procedure hname hq, ih hrest, List.append_nil]
    rfl

end Procedure

end

/-! ## Levels -/

/-- What is told besides the marks themselves is of level debug. -/
theorem Memory.level_of_mem_log {m : Memory} {known : List Transport} {marks : List Mark}
    (hmarks : ∀ e, .tell e ∈ marks → e.level = .debug) :
    ∀ e ∈ m.log known marks, e.level = .debug := by
  induction marks generalizing known with
  | nil => exact fun _ he => by cases he
  | cons mark marks ih =>
    have hrest : ∀ known, ∀ e ∈ m.log known marks, e.level = .debug :=
      fun _ => ih fun e he => hmarks e (List.mem_cons_of_mem _ he)
    intro e he
    cases mark with
    | touch t =>
      rcases List.mem_append.1 he with he | he
      · unfold touchNews at he
        split at he
        · cases he
        · obtain ⟨c, -, rfl⟩ := List.mem_map.1 he
          exact c.describes_event.level_eq
      · exact hrest _ e he
    | tell e' =>
      rcases List.mem_cons.1 he with rfl | he
      · exact hmarks e List.mem_cons_self
      · exact hrest _ e he
    | group g =>
      rcases List.mem_append.1 he with he | he
      · cases g with
        | error refusal => cases he
        | ok g =>
          cases List.mem_singleton.1 he
          rfl
      · exact hrest _ e he

theorem Memory.not_tell_of_mem_searchMarks {m : Memory} {ts : List Transport} {e : Event} :
    .tell e ∉ m.searchMarks ts := by
  induction ts with
  | nil => exact List.not_mem_nil
  | cons t ts ih =>
    unfold searchMarks
    split <;> simp [ih]

/-- The only event among the marks of requests is that of a preference that is unavailable. -/
theorem Request.exists_of_tell_mem {settings : Settings} {m : Memory}
    {l : List (Request × Answer)} {e : Event} (he : .tell e ∈ allMarks settings m l) :
    ∃ name, e = .preferenceUnavailable name := by
  obtain ⟨⟨q, a⟩, -, he⟩ := List.mem_flatMap.1 he
  cases q with
  | get t => simp [marks] at he
  | getByName name =>
    simp only [marks] at he
    split at he <;> simp at he
  | records =>
    obtain ⟨_, -, he⟩ := List.mem_map.1 he
    cases he
  | firstRecords n =>
    obtain ⟨_, -, he⟩ := List.mem_map.1 he
    cases he
  | preferred =>
    simp only [marks] at he
    cases hp : settings.preferred? with
    | none =>
      rw [hp] at he
      exact absurd he Memory.not_tell_of_mem_searchMarks
    | some t =>
      rw [hp, Memory.preferredMarks] at he
      split at he
      · simp at he
      · simp only [List.mem_cons, reduceCtorEq, false_or, Mark.tell.injEq,
          Memory.not_tell_of_mem_searchMarks, or_false] at he
        exact ⟨_, he⟩
  | newGroup t n factory =>
    cases a with
    | group g =>
      simp only [marks] at he
      split at he <;> simp at he
    | _ => simp [marks] at he

theorem Verdict.level_event (v : Verdict) :
    v.event.level = if v.isConsistent then .info else .warn := by
  cases v <;> rfl

theorem Setup.level_of_mem_news {s : Setup} {host : Host} {e : Event} (he : e ∈ s.news host) :
    e.level ≠ .error := by
  unfold news at he
  rw [List.mem_append, List.mem_append] at he
  obtain (he | he) | he := he
  · unfold preferenceNews at he
    split at he
    · cases he
    · cases List.mem_singleton.1 he
      exact fun hl => by cases hl
  · obtain ⟨v, -, rfl⟩ := List.mem_map.1 he
    cases v <;> exact fun hl => by cases hl
  · unfold directoryNews at he
    split at he
    · cases he
    · cases List.mem_singleton.1 he
      exact fun hl => by cases hl

theorem History.Calm.level_of_mem_events {h : History} (hcalm : h.Calm) {e : Event}
    (he : e ∈ h.events) : e.level ≠ .error := by
  obtain ⟨effect, heffect, hsome⟩ := List.mem_filterMap.1 he
  cases effect <;> cases hsome
  exact hcalm e heffect

/-! ## Runs -/

/-- What building tells if the lookup is given: whether the preference names a transport, and the
verdict on the versions if the settings ask for it. -/
theorem Setup.news_of_lookup {s : Setup} (h : s.lookup?.isSome = true) (host : Host) :
    s.news host =
      (match s.settings.preference.map Transport.ofText with
        | some (.error u) => [.preferenceIgnored ⟨u⟩]
        | _ => []) ++
        if s.settings.warnVersions then
          [(Verdict.of (s.artifacts?.getD linkedArtifacts)).event] else [] := by
  obtain ⟨lookup, hl⟩ := Option.isSome_iff_exists.1 h
  unfold news preferenceNews verdict? directoryNews Settings.check
  rw [hl, List.append_nil]
  congr 1
  · cases s.settings.preference with
    | none => rfl
    | some p => cases ht : Transport.ofText p <;> simp [ht]
  · split <;> rfl

/-- **Requests served one after the other** tell what their marks tell. -/
theorem Resolver.Reached.log_serve {r : Resolver} {past now : History} {touches : List FirstTouch}
    {m : Memory} (h : r.Reached past touches m now) (host : Host) (requests : List Request) :
    ∃ answers m' now', ((r.serve host requests).run m).run now = ((answers, m'), now') ∧
      Logs m now (Request.allMarks r.settings m' (requests.zip answers)) m' now' := by
  obtain ⟨answers, marks, m', now', hrun, hlogs, hleaves⟩ :=
    (Procedure.ofRequests r.settings requests).logs_run r host m now
  obtain ⟨_, _, _, _, hrun', h'⟩ :=
    (Procedure.ofRequests r.settings requests).reached_run host h
  cases hrun.symm.trans hrun'
  obtain rfl := Procedure.marks_ofRequests (fun _ _ hc => h'.name_eq hc)
    (hleaves m' (.refl m'))
  rw [Procedure.run_ofRequests] at hrun
  exact ⟨answers, m', now', hrun, hlogs⟩

/-- A thread that has finished has left the marks of its requests. -/
theorem Crew.Leaves.own_eq {settings : Settings} {programs : List (List Request)} {m : Memory}
    {marks : List (Nat × Mark)} {crew : Crew}
    (h : (ofRequests settings programs).Leaves m marks crew)
    (hname : ∀ t c, m.record? t = some c → c.name = t.name) {i : Nat} {requests : List Request}
    {answers : List Answer} (hi : programs[i]? = some requests)
    (hdone : crew.threads[i]? = some (.done answers)) :
    Mark.own i marks = Request.allMarks settings m (requests.zip answers) := by
  obtain ⟨p, hp, hl⟩ := h i (.done answers) [] answers hdone ⟨rfl, rfl⟩
  have hthread : (ofRequests settings programs).threads[i]? =
      some (Procedure.ofRequests settings requests) := by
    rw [ofRequests, List.getElem?_map, hi]
    rfl
  cases hthread.symm.trans hp
  rw [List.append_nil] at hl
  exact Procedure.marks_ofRequests hname hl

/-- **The log tells what happened.** The event of a record, as it shows in the log, tells what the
record says, and the other way round. What threads do under any schedule, whatever the collaborators
are, is told in full by their marks, by the records that are known in the end: the first touch of a
native transport tells the event of its record, every other touch nothing. Each thread that has
finished has left the marks of its requests, in order; so does whoever makes requests from there on.
Among the marks of a call for the record to use is the event of an unavailable preference, between
the touch of the preferred transport and those of the others. Building tells of the preference and
of the versions only. Nothing of this is of level error. -/
theorem log_tells_records (r : Resolver) (host : Host) (past : History) :
    (∀ c : Capability, c.event.Describes c) ∧
    (∀ programs schedule, ∃ crew marks m now,
      (((Crew.ofRequests r.settings programs).run r host schedule).run {}).run past =
          ((crew, m), now) ∧
        (∀ t, m.record? t ≠ none ↔ t ∈ Mark.touched (marks.map (·.2))) ∧
        now.events = past.events ++ m.log [] (marks.map (·.2)) ∧
        (∀ e ∈ m.log [] (marks.map (·.2)), e.level ≠ .error) ∧
        (∀ (i : Nat) requests answers, programs[i]? = some requests →
          crew.threads[i]? = some (.done answers) →
          Mark.own i marks = Request.allMarks r.settings m (requests.zip answers)) ∧
        ∀ requests, ∃ answers m' now' marks',
          ((r.serve host requests).run m).run now = ((answers, m'), now') ∧
            marks' = Request.allMarks r.settings m' (requests.zip answers) ∧
            (∀ t, m'.record? t ≠ none ↔ t ∈ Mark.touched marks' ∨ m.record? t ≠ none) ∧
            now'.events = now.events ++ m'.log m.known marks' ∧
            ∀ e ∈ m'.log m.known marks', e.level = .debug) ∧
    (∀ v : Verdict, v.event.level = if v.isConsistent then .info else .warn) ∧
    ∀ s : Setup, (s.build host).run past = (s.resolver host, past ++ (s.news host).map .told) ∧
      (∀ e ∈ s.news host, e.level ≠ .error) ∧
      (s.lookup?.isSome = true → s.news host =
        (match s.settings.preference.map Transport.ofText with
          | some (.error u) => [.preferenceIgnored ⟨u⟩]
          | _ => []) ++
          if s.settings.warnVersions then
            [(Verdict.of (s.artifacts?.getD linkedArtifacts)).event] else []) := by
  refine ⟨Capability.describes_event, fun programs schedule => ?_, Verdict.level_event, fun s =>
    ⟨s.run_build host past, fun e => s.level_of_mem_news, fun hs => s.news_of_lookup hs host⟩⟩
  obtain ⟨crew, touches, m, now, hrun, h⟩ := Crew.tracks_ofRequests r host programs schedule past
  obtain ⟨_, marks, _, _, hrun', hlogs, hleaves⟩ :=
    (Crew.ofRequests r.settings programs).logs_run r host schedule {} past
  cases hrun.symm.trans hrun'
  have hevents : now.events = past.events ++ m.log [] (marks.map (·.2)) :=
    hlogs.events_eq m (.refl m)
  refine ⟨crew, marks, m, now, hrun, fun t => ?_, hevents, fun e he => ?_,
    fun i requests answers hi hdone =>
      (hleaves m (.refl m)).own_eq (fun _ _ hc => h.reached.name_eq hc) hi hdone,
    fun requests => ?_⟩
  · rw [← Memory.mem_known_iff, hlogs.mem_known_iff, List.mem_append]
    exact ⟨fun ht => ht.resolve_right List.not_mem_nil, .inl⟩
  · obtain ⟨_, _, added, hrun', hcalm⟩ :=
      Crew.calm_run r host {} past (Crew.calm_ofRequests r.settings programs) schedule
    cases hrun.symm.trans hrun'
    rw [History.events_append, List.append_cancel_left_eq] at hevents
    exact hcalm.level_of_mem_events (hevents ▸ he)
  · obtain ⟨answers, m', now', hserve, hlogs'⟩ := h.reached.log_serve host requests
    refine ⟨answers, m', now', _, hserve, rfl, fun t => ?_, hlogs'.events_eq m' (.refl m'),
      Memory.level_of_mem_log fun e he => ?_⟩
    · rw [← Memory.mem_known_iff, hlogs'.mem_known_iff, List.mem_append, Memory.mem_known_iff]
    · obtain ⟨name, rfl⟩ := Request.exists_of_tell_mem he
      rfl

end Transports
