import Transports.Proofs.Resolver.Alone
import Transports.Proofs.Resolver.AtMostOnce
/-!
# A backend sees its own names only

The names that the built-in backends ask for are pairwise different once they are joined, whatever
the namespaces are (`Declaration.nodup_joinedNames`). So a backend cannot tell two worlds apart that
hold the same under its own names (`Declaration.SameView`): in every run of a resolver over the one
or the other it gets the same record (`backends_isolated`).
-/

namespace Transports

/-! ## The joined names -/

namespace Declaration

/-- The names that the detection of a backend asks a directory for. -/
def joinedNames (d : Declaration) (n : Namespaces) : List String :=
  match n.get d.tier with
  | none => []
  | some space => d.typeNames.map (Directory.qualified space)

theorem mem_joinedNames_iff {d : Declaration} {n : Namespaces} {name : String} :
    name ∈ d.joinedNames n ↔ d.Owns n name := by
  unfold joinedNames Owns
  cases n.get d.tier <;> simp [eq_comm]

theorem joinedNames_congr {d : Declaration} {n n' : Namespaces}
    (hn : n.get d.tier = n'.get d.tier) : d.joinedNames n = d.joinedNames n' := by
  simp only [joinedNames, hn]

/-- The last segments tell the declared names. -/
theorem map_lastSegment_joinedNames {t : Transport} {d : Declaration} {n : Namespaces}
    {space : String} (hd : of? t = some d) (hspace : n.get d.tier = some space) :
    (d.joinedNames n).map Text.lastSegment = d.typeNames.map Text.lastSegment := by
  simp only [joinedNames, hspace, List.map_map]
  exact List.map_congr_left fun a ha => lastSegment_qualified (mem_builtInNames hd ha) space

/-- **No joined name comes up twice**, whatever the namespaces are. -/
theorem nodup_joinedNames (standard incubator : String) :
    let n : Namespaces := { standard := some standard, incubator := some incubator }
    (epoll.joinedNames n ++ kqueue.joinedNames n ++ ioUring.joinedNames n).Nodup := by
  intro n
  refine List.Nodup.of_map Text.lastSegment ?_
  rw [List.map_append, List.map_append,
    map_lastSegment_joinedNames (t := .epoll) (n := n) rfl rfl,
    map_lastSegment_joinedNames (t := .kqueue) (n := n) rfl rfl,
    map_lastSegment_joinedNames (t := .ioUring) (n := n) rfl rfl, ← List.map_append,
    ← List.map_append]
  exact nodup_map_lastSegment

end Declaration

/-! ## Worlds -/

def Namespaces.told (f : NamespaceSource) (past : History) : Namespaces where
  standard := f past .standard
  incubator := f past .incubator

@[simp] theorem Namespaces.get_told (f : NamespaceSource) (past : History) (tier : Tier) :
    (told f past).get tier = f past tier := by
  cases tier <;> rfl

/-- What a resolver over a directory meets. -/
structure World where
  directory : Directory
  namespaceOf : NamespaceSource
  settings : Settings
  /-- What happened before the resolver is used. -/
  past : History

namespace World

def resolver (w : World) (verdict? : Option Verdict) : Resolver where
  settings := w.settings
  surroundings := { lookup := w.directory.lookup, namespaceOf := w.namespaceOf }
  verdict? := verdict?

def namespaces (w : World) : Namespaces :=
  .told w.namespaceOf w.past

/-- In every run of a resolver a transport gets the record: nothing else is handed out for it on the
way, and it is what a further request gives. -/
def Gives (w : World) (t : Transport) (c : Capability) : Prop :=
  ∀ (verdict? : Option Verdict) (host : Host) (programs : List (List Request))
    (schedule : List Nat), ∃ crew m now m' now',
      (((Crew.ofRequests w.settings programs).run (w.resolver verdict?) host schedule).run {}).run
          w.past = ((crew, m), now) ∧
        (∀ c', (t, c') ∈ crew.handed → c' = c) ∧
        (((w.resolver verdict?).get t).run m).run now = ((c, m'), now')

end World

/-- To a backend two worlds are the same: they agree on the namespace of its tier at any time, on
the opt-in, on what stands under its joined names, and on how often handles there were called. -/
structure Declaration.SameView (d : Declaration) (w w' : World) : Prop where
  namespaceOf_eq : ∀ before before', w.namespaceOf before d.tier = w'.namespaceOf before' d.tier
  enables_eq : ∀ token ∈ d.optIn?, w.settings.enables token = w'.settings.enables token
  find?_eq : ∀ name ∈ d.joinedNames w.namespaces, w.directory.find? name = w'.directory.find? name
  agreeOn : History.AgreeOn (· ∈ d.joinedNames w.namespaces) w.past w'.past

namespace Declaration.SameView

variable {d : Declaration} {w w' : World}

/-- The joined names are the same at any time in both worlds. -/
theorem joinedNames_eq (h : d.SameView w w') (before before' : History) :
    d.joinedNames (.told w.namespaceOf before) = d.joinedNames (.told w'.namespaceOf before') := by
  refine joinedNames_congr ?_
  rw [Namespaces.get_told, Namespaces.get_told, h.namespaceOf_eq before before']

theorem owns_iff (h : d.SameView w w') {before : History} {name : String} :
    d.Owns (.told w.namespaceOf before) name ↔ name ∈ d.joinedNames w.namespaces := by
  rw [← mem_joinedNames_iff, h.joinedNames_eq before w'.past, ← h.joinedNames_eq w.past w'.past]
  rfl

theorem left (h : d.SameView w w') : d.SameView w w where
  namespaceOf_eq before before' :=
    (h.namespaceOf_eq before w.past).trans (h.namespaceOf_eq before' w.past).symm
  enables_eq _ _ := rfl
  find?_eq _ _ := rfl
  agreeOn _ _ := rfl

theorem symm (h : d.SameView w w') : d.SameView w' w where
  namespaceOf_eq before before' := (h.namespaceOf_eq before' before).symm
  enables_eq token ht := (h.enables_eq token ht).symm
  find?_eq name hname := by
    refine (h.find?_eq name ?_).symm
    unfold World.namespaces at hname ⊢
    rwa [h.joinedNames_eq w.past w'.past]
  agreeOn id hid := by
    refine (h.agreeOn id ?_).symm
    unfold World.namespaces at hid ⊢
    rwa [h.joinedNames_eq w.past w'.past]

theorem missingToken?_eq (h : d.SameView w w') :
    d.missingToken? w.settings = d.missingToken? w'.settings := by
  unfold missingToken?
  cases ht : d.optIn? with
  | none => rfl
  | some token => simp only [Option.filter, h.enables_eq token ht]

end Declaration.SameView

/-! ## What a search in a world depends on -/

namespace World

section
variable {w w' : World} {verdict? verdict?' : Option Verdict} {t : Transport}
  {past past' : History}

/-- The resolver over the directory and the namespaces that are told after a history. -/
def directoryAt (w : World) (verdict? : Option Verdict) (past : History) : Resolver :=
  .ofDirectory w.directory (.told w.namespaceOf past) w.settings verdict?

/-- A search after a history is one with the namespaces that are told at that time. -/
theorem run_compute_told (w : World) (verdict? : Option Verdict) (t : Transport)
    (past : History) :
    ((w.resolver verdict?).compute t).run past =
      ((w.directoryAt verdict? past).compute t).run past := by
  unfold Resolver.compute
  cases Declaration.of? t with
  | none => rfl
  | some d =>
    simp only [Declaration.detect]
    have hspace : (w.directoryAt verdict? past).surroundings.namespaceOf past d.tier =
        w.namespaceOf past d.tier := Namespaces.get_told ..
    rw [Act.run_bind_of_run (Surroundings.run_seek ..),
      Act.run_bind_of_run (Surroundings.run_seek ..), hspace]
    rfl

theorem recordAt_told (w : World) (verdict? : Option Verdict) (t : Transport) (past : History) :
    (w.resolver verdict?).recordAt t past = (w.directoryAt verdict? past).recordAt t past :=
  congrArg (·.1) (w.run_compute_told verdict? t past)

theorem trace_told (w : World) (verdict? : Option Verdict) (t : Transport) (past : History) :
    (w.resolver verdict?).trace t past = (w.directoryAt verdict? past).trace t past :=
  congrArg (·.2.drop past.length) (w.run_compute_told verdict? t past)

/-- A search is about the joined names of its own backend. -/
theorem mem_joinedNames_of_mem_trace {e : Effect} {name : String}
    (he : e ∈ (w.resolver verdict?).trace t past) (hn : e.name? = some name) :
    ∃ d, Declaration.of? t = some d ∧ name ∈ d.joinedNames (.told w.namespaceOf past) := by
  rw [trace_told] at he
  obtain ⟨d, hd, -, hown⟩ := Resolver.owns_of_mem_trace he hn
  exact ⟨d, hd, Declaration.mem_joinedNames_iff.2 hown⟩

/-- What looks the same to a backend gives it the same record, after histories that agree on its own
handles. -/
theorem recordAt_eq (hview : ∀ d, Declaration.of? t = some d → d.SameView w w')
    (hpast : ∀ d, Declaration.of? t = some d →
      History.AgreeOn (· ∈ d.joinedNames w.namespaces) past past') :
    (w.resolver verdict?).recordAt t past = (w'.resolver verdict?').recordAt t past' := by
  rw [recordAt_told, recordAt_told]
  cases hd : Declaration.of? t with
  | none =>
    obtain rfl := Declaration.of?_eq_none_iff.1 hd
    rfl
  | some d =>
    have h := hview d hd
    have hn : (Namespaces.told w.namespaceOf past).get d.tier =
        (Namespaces.told w'.namespaceOf past').get d.tier := by
      rw [Namespaces.get_told, Namespaces.get_told, h.namespaceOf_eq past past']
    have hdetects : Detects d w'.settings (w'.directoryAt verdict?' past').surroundings past' _ _ :=
      ((w.directoryAt verdict? past).detects_compute t past hd).transfer hn h.missingToken?_eq
        (fun name hname => h.find?_eq name (h.owns_iff.1 hname))
        (fun id hid => hpast d hd id (h.owns_iff.1 hid))
    exact (hdetects.unique ((w'.directoryAt verdict?' past').detects_compute t past' hd)).1

/-- Every record that is kept is the one at the start: no other search calls the handles of the
backend, and the namespace of its tier stays. -/
theorem eq_recordAt (hview : ∀ d, Declaration.of? t = some d → d.SameView w w)
    {touches : List FirstTouch} {m : Memory} {now : History} {c : Capability}
    (h : (w.resolver verdict?).Reached w.past touches m now) (hc : m.record? t = some c) :
    c = (w.resolver verdict?).recordAt t w.past := by
  cases hd : Declaration.of? t with
  | none =>
    obtain rfl := Declaration.of?_eq_none_iff.1 hd
    obtain ⟨before, -, rfl⟩ := h.record?_eq_some_iff.1 hc
    rfl
  | some d =>
    have hother : ∀ u before, u ≠ t → ∀ id : Handle.Id, id.name ∈ d.joinedNames w.namespaces →
        ((w.resolver verdict?).trace u before).consultations id = 0 := by
      intro u before htu id hid
      rw [trace_told]
      exact Resolver.consultations_trace hd htu ((hview d hd).owns_iff.2 hid)
    refine (h.undisturbed hother fun before hbefore => ?_).1 c hc
    refine recordAt_eq hview fun e he => ?_
    cases hd.symm.trans he
    exact fun id hid => (hbefore id hid).symm

/-- **In every run a backend gets the record at the start.** -/
theorem gives_recordAt (hview : ∀ d, Declaration.of? t = some d → d.SameView w w) :
    w.Gives t ((w.resolver none).recordAt t w.past) := by
  intro verdict? host programs schedule
  obtain ⟨crew, touches, m, now, hrun, h⟩ :=
    Crew.tracks_ofRequests (w.resolver verdict?) host programs schedule w.past
  obtain ⟨c, more, m', now', hget, h', hc, -, -⟩ := Resolver.reached_get h.reached t
  refine ⟨crew, m, now, m', now', hrun, fun c' hc' => ?_, ?_⟩
  · show c' = (w.resolver verdict?).recordAt t w.past
    exact eq_recordAt hview h.reached (h.known _ hc')
  · rw [hget, eq_recordAt hview h' hc]
    rfl

end

end World

/-- **Backends are isolated.** The 22 joined names that the built-in backends ask for are pairwise
different, whatever the namespaces are, and a search is about no other names than those of its own
backend. So if two worlds look the same to a backend, whatever else they hold, it gets the same
record in every run of a resolver over the one or the other. -/
theorem backends_isolated :
    (∀ standard incubator : String,
      let n : Namespaces := { standard := some standard, incubator := some incubator }
      (Declaration.epoll.joinedNames n).length = 8 ∧
        (Declaration.kqueue.joinedNames n).length = 8 ∧
        (Declaration.ioUring.joinedNames n).length = 6 ∧
        (Declaration.epoll.joinedNames n ++ Declaration.kqueue.joinedNames n ++
          Declaration.ioUring.joinedNames n).Nodup) ∧
    (∀ (w : World) (verdict? : Option Verdict) (t : Transport) (before : History),
      ∀ e ∈ (w.resolver verdict?).trace t before, ∀ name, e.name? = some name →
        ∃ d, Declaration.of? t = some d ∧ name ∈ d.joinedNames (.told w.namespaceOf before)) ∧
    ∀ (t : Transport) (w w' : World), (∀ d, Declaration.of? t = some d → d.SameView w w') →
      ∃ c, w.Gives t c ∧ w'.Gives t c := by
  refine ⟨fun standard incubator => ⟨rfl, rfl, rfl, Declaration.nodup_joinedNames _ _⟩,
    fun w verdict? t before e he name hn => World.mem_joinedNames_of_mem_trace he hn,
    fun t w w' hview => ⟨_, World.gives_recordAt fun d hd => (hview d hd).left, ?_⟩⟩
  rw [World.recordAt_eq hview fun d hd => (hview d hd).agreeOn]
  exact World.gives_recordAt fun d hd => (hview d hd).symm.left

end Transports
