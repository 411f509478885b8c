import Transports.BuiltIn
import Transports.Proofs.Declaration.Names
import Transports.Proofs.Detection.Origin
import Transports.Proofs.Directory.Insertions
/-!
# The built-in types are those that are declared

Two tables name the types of a native backend: its declaration, by which detection asks, and the
types that the platform puts into a directory. They agree name by name and role by role
(`BuiltIn.meets_epoll`, `BuiltIn.meets_ioUring`), so whatever a directory held before, and whatever
the namespaces are, every question of the declaration is answered as detection expects
(`Declaration.ProvidedBy`), and the backend is available as soon as its facility works
(`builtIn_provides_declared`).
-/

namespace Transports

/-! ## A search fails only where an answer is unfit -/

/-- What a search needs of a type it has found: an entry point has an accessor that reports nothing,
and a group type has a constructor. -/
def Handle.Fit (h : Handle) : Prop :=
  (h.role = .entryPoint → ∃ answer, h.member = .accessor answer ∧ ∀ k, answer k = none) ∧
    (h.role = .eventLoopGroup → ∃ make, h.member = .constructor make)

open Search

/-- If every question is answered with a fit type of the role asked for, the search succeeds. -/
theorem Search.exists_ok {s : Surroundings} {space : String} {steps : List Step}
    {found : List Handle} {past during : History} {outcome : Except Cause (List Handle)}
    (h : Search s space steps found past outcome during)
    (hanswer : ∀ typeName role, .find typeName role ∈ steps → ∀ before, ∃ t,
      s.lookup before space typeName = .ok t ∧ t.role = role ∧ t.Fit)
    (hfound : ∀ t ∈ found, t.Fit) : ∃ all, outcome = .ok all := by
  induction h with
  | done => exact ⟨_, rfl⟩
  | @stop step rest found past cause effects hf =>
    exfalso
    cases hf with
    | missing ha =>
      obtain ⟨t, ht, -, -⟩ := hanswer _ _ List.mem_cons_self past
      cases ha.symm.trans ht
    | misfit ha hr =>
      obtain ⟨t, ht, hrole, -⟩ := hanswer _ _ List.mem_cons_self past
      cases ha.symm.trans ht
      exact hr hrole
    | noAccessor hof hm =>
      obtain ⟨answer, ha, -⟩ := (hfound _ (List.mem_of_find?_eq_some hof)).1 (role_of_ofRole hof)
      exact hm answer ha
    | refused hof hm he =>
      obtain ⟨answer, ha, hnone⟩ :=
        (hfound _ (List.mem_of_find?_eq_some hof)).1 (role_of_ofRole hof)
      cases hm.symm.trans ha
      cases he.symm.trans (hnone _)
    | noConstructor hof hm =>
      obtain ⟨make, ha⟩ := (hfound _ (List.mem_of_find?_eq_some hof)).2 (role_of_ofRole hof)
      exact hm make ha
  | go hp _ ih =>
    refine ih (fun a role hs => hanswer a role (List.mem_cons_of_mem _ hs)) fun t ht => ?_
    rcases List.mem_append.1 ht with ht | ht
    · exact hfound t ht
    · cases hp with
      | find ha hr =>
        obtain ⟨t', ht', -, hfit⟩ := hanswer _ _ List.mem_cons_self _
        cases List.mem_singleton.1 ht
        cases ha.symm.trans ht'
        exact hfit
      | consult => cases ht
      | bind => cases ht

/-- Past both gates, a detection answered with fit types makes its backend available. -/
theorem Detects.exists_available {d : Declaration} {settings : Settings} {s : Surroundings}
    {past effects : History} {c : Capability} {space : String}
    (h : Detects d settings s past c effects) (hspace : s.namespaceOf past d.tier = some space)
    (htoken : d.missingToken? settings = none)
    (hanswer : ∀ typeName role, .find typeName role ∈ d.steps → ∀ before, ∃ t,
      s.lookup before space typeName = .ok t ∧ t.role = role ∧ t.Fit) :
    ∃ o, c = .available d.name o := by
  cases h with
  | homeless hspace' => cases hspace.symm.trans hspace'
  | gated _ htoken' => cases htoken.symm.trans htoken'
  | failed hspace' _ hs =>
    cases hspace.symm.trans hspace'
    obtain ⟨all, ho⟩ := hs.exists_ok hanswer fun _ ht => by cases ht
    cases ho
  | passed _ _ _ _ => exact ⟨_, rfl⟩

/-! ## What a declaration demands -/

/-- A type carries what a facility gives to its role: the entry point has the accessor, and the
group type the constructor. -/
def Facility.Equips (f : Facility) (t : Transport) (h : Handle) : Prop :=
  (h.role = .entryPoint → h.member = .accessor f.answer) ∧
    (h.role = .eventLoopGroup → h.member = .constructor (f.constructor t))

theorem Facility.Equips.fit {f : Facility} {t : Transport} {h : Handle} (he : f.Equips t h)
    (hf : f.cause? = none) : h.Fit := by
  refine ⟨fun hr => ⟨f.answer, he.1 hr, fun _ => ?_⟩, fun hr => ⟨_, he.2 hr⟩⟩
  rw [answer, hf, Option.map_none]

/-- The name that a step asks for, and the role that the type must play. -/
def Search.Step.demand? : Step → Option (String × Role)
  | find typeName role => some (typeName, role)
  | consult => none
  | bind => none

namespace Declaration

/-- The questions of a detection with the roles that the answers must play, in order. -/
def demands (d : Declaration) : List (String × Role) :=
  d.steps.filterMap (·.demand?)

theorem mem_demands_iff {d : Declaration} {typeName : String} {role : Role} :
    (typeName, role) ∈ d.demands ↔ .find typeName role ∈ d.steps := by
  unfold demands
  rw [List.mem_filterMap]
  constructor
  · rintro ⟨step, hs, hd⟩
    cases step <;> cases hd
    exact hs
  · exact fun hs => ⟨_, hs, rfl⟩

theorem map_fst_demands (d : Declaration) : d.demands.map (·.1) = d.typeNames := by
  rw [← d.filterMap_typeName?_steps, demands, List.map_filterMap]
  congr 1
  funext step
  cases step <;> rfl

/-- Every question of the declaration is answered in a directory with a type of the role demanded,
which carries what the facility gives to that role. -/
def ProvidedBy (d : Declaration) (dir : Directory) (space : String) (f : Facility)
    (t : Transport) : Prop :=
  ∀ typeName role, (typeName, role) ∈ d.demands →
    ∃ h, dir.resolve space typeName = .ok h ∧ h.role = role ∧ f.Equips t h

/-- **A backend whose types are there is available** once its gates are open and its facility works,
with domain sockets if it declares both of them. -/
theorem ProvidedBy.exists_run_detect {d : Declaration} {dir : Directory} {space : String}
    {f : Facility} {t : Transport} (h : d.ProvidedBy dir space f t) (hf : f.cause? = none)
    {settings : Settings} (htoken : d.missingToken? settings = none) {namespaceOf : NamespaceSource}
    {past : History} (hspace : namespaceOf past d.tier = some space) :
    ∃ o effects, (d.detect settings { lookup := dir.lookup, namespaceOf }).run past =
      (.available d.name o, past ++ effects) ∧
      (o.domain?.isSome = true ↔
        d.domainServerChannel?.isSome = true ∧ d.domainSocketChannel?.isSome = true) := by
  obtain ⟨c, effects, hdetects, hrun⟩ :=
    detects_detect d settings { lookup := dir.lookup, namespaceOf } past
  obtain ⟨o, rfl⟩ := hdetects.exists_available hspace htoken fun typeName role hs before => by
    obtain ⟨k, hk, hrole, hequips⟩ := h typeName role (mem_demands_iff.2 hs)
    exact ⟨k, hk, hrole, hequips.fit hf⟩
  exact ⟨o, effects, hrun, (hdetects.foundBy_and_linked rfl).2.1.isSome_domain?_iff⟩

end Declaration

/-! ## What the platform puts in -/

namespace Declaration

variable {d : Declaration} {t : Transport}

theorem nodup_typeNames (hd : of? t = some d) : d.typeNames.Nodup := by
  have hn := nodup_map_lastSegment.of_map
  simp only [builtInNames, List.nodup_append'] at hn
  obtain ⟨⟨hepoll, hkqueue, -⟩, hioUring, -⟩ := hn
  cases t <;> cases hd <;> assumption

theorem nodup_map_qualified (hd : of? t = some d) (space : String) :
    (d.typeNames.map (Directory.qualified space)).Nodup := by
  refine (nodup_typeNames hd).map_on fun a ha b hb h => ?_
  exact eq_of_qualified_eq (mem_builtInNames hd ha) (mem_builtInNames hd hb) h

end Declaration

namespace BuiltIn

/-- The types of a facility under a namespace are those that a declaration demands. -/
structure Meets (d : Declaration) (space : String) (f : Facility) (t : Transport)
    (l : List Handle) : Prop where
  perm : (l.map fun h => (h.name, h.role)).Perm
    (d.demands.map fun p => (Directory.qualified space p.1, p.2))
  equips : ∀ h ∈ l, f.Equips t h

section
variable {d : Declaration} {space : String} {f : Facility} {t : Transport} {l : List Handle}

theorem Meets.perm_names (h : Meets d space f t l) :
    (l.map (·.name)).Perm (d.typeNames.map (Directory.qualified space)) := by
  have hnames := h.perm.map Prod.fst
  rw [List.map_map, List.map_map] at hnames
  rw [← d.map_fst_demands, List.map_map]
  exact hnames

theorem Meets.exists_name (h : Meets d space f t l) {k : Handle} (hk : k ∈ l) :
    ∃ a ∈ d.typeNames, k.name = Directory.qualified space a := by
  obtain ⟨a, ha, he⟩ := List.mem_map.1 (h.perm_names.subset (List.mem_map_of_mem hk))
  exact ⟨a, ha, he.symm⟩

theorem Meets.nodup (h : Meets d space f t l) (hd : Declaration.of? t = some d) :
    (l.map (·.name)).Nodup :=
  h.perm_names.nodup_iff.2 (Declaration.nodup_map_qualified hd space)

/-- The types of two backends have no name in common, whatever the namespaces are. -/
theorem Meets.name_ne {e : Declaration} {space' : String} {g : Facility} {u : Transport}
    {l' : List Handle} (h : Meets d space f t l) (h' : Meets e space' g u l')
    (hd : Declaration.of? t = some d) (he : Declaration.of? u = some e) (htu : t ≠ u)
    {k k' : Handle} (hk : k ∈ l) (hk' : k' ∈ l') : k.name ≠ k'.name := by
  obtain ⟨a, ha, hname⟩ := h.exists_name hk
  obtain ⟨b, hb, hname'⟩ := h'.exists_name hk'
  rw [hname, hname']
  exact Declaration.qualified_ne hd he htu ha hb space space'

/-- A name that is not asked for is answered as before. -/
theorem Meets.resolve_insertAll_of_ne (h : Meets d space f t l) (dir : Directory)
    {askedIn typeName : String} (hne : ∀ a ∈ d.typeNames,
      Directory.qualified askedIn typeName ≠ Directory.qualified space a) :
    (dir.insertAll l).resolve askedIn typeName = dir.resolve askedIn typeName := by
  refine Directory.resolve_insertAll_of_ne fun k hk => ?_
  obtain ⟨a, ha, hname⟩ := h.exists_name hk
  rw [hname]
  exact (hne a ha).symm

/-- **Put into any directory, the types provide what the declaration demands.** -/
theorem Meets.providedBy (h : Meets d space f t l) (hd : Declaration.of? t = some d)
    (dir : Directory) : d.ProvidedBy (dir.insertAll l) space f t := by
  intro typeName role hdemand
  obtain ⟨k, hk, he⟩ := List.mem_map.1 (h.perm.symm.subset (List.mem_map_of_mem hdemand))
  obtain ⟨hname, rfl⟩ := Prod.mk.inj he
  exact ⟨k, Directory.resolve_insertAll_of_mem (h.nodup hd) hk hname, rfl, h.equips k hk⟩

/-- What is provided stays so when the types of another backend are put in. -/
theorem Meets.providedBy_insertAll {e : Declaration} {space' : String} {g : Facility}
    {u : Transport} {dir : Directory} (h : Meets d space f t l) (hd : Declaration.of? t = some d)
    (he : Declaration.of? u = some e) (htu : t ≠ u) (hprovided : e.ProvidedBy dir space' g u) :
    e.ProvidedBy (dir.insertAll l) space' g u := by
  intro typeName role hdemand
  have hb : typeName ∈ e.typeNames := by
    rw [← e.map_fst_demands]
    exact List.mem_map_of_mem hdemand
  rw [h.resolve_insertAll_of_ne dir fun a ha =>
    Declaration.qualified_ne he hd htu.symm hb ha space' space]
  exact hprovided typeName role hdemand

end

/-- The eight types of epoll; the domain sockets stand at another place than in the declaration. -/
theorem meets_epoll (f : Facility) (space : String) :
    Meets .epoll space f .epoll (epoll f space) where
  perm := by
    refine .cons _ (.cons _ (.cons _ ?_))
    exact @List.perm_append_comm _ [_, _] [_, _, _]
  equips := by
    simp [epoll, Facility.Equips, Handle.entryPoint, Handle.plain, Handle.groupType]

/-- The six types of io_uring, in the order of the declaration. -/
theorem meets_ioUring (f : Facility) (space : String) :
    Meets .ioUring space f .ioUring (ioUring f space) where
  perm := List.Perm.refl _
  equips := by
    simp [ioUring, Facility.Equips, Handle.entryPoint, Handle.plain, Handle.groupType]

section
variable (f g : Facility) (space space' : String)

theorem epoll_name_ne {h k : Handle} (hh : h ∈ epoll f space) (hk : k ∈ ioUring g space') :
    h.name ≠ k.name :=
  (meets_epoll f space).name_ne (meets_ioUring g space') rfl rfl (by decide) hh hk

/-- Both rows together, as one. -/
theorem nodup_map_name : ((epoll f space ++ ioUring g space').map (·.name)).Nodup := by
  rw [List.map_append, List.nodup_append]
  refine ⟨(meets_epoll f space).nodup rfl, (meets_ioUring g space').nodup rfl, ?_⟩
  intro name hname name' hname'
  obtain ⟨h, hh, rfl⟩ := List.mem_map.1 hname
  obtain ⟨k, hk, rfl⟩ := List.mem_map.1 hname'
  exact epoll_name_ne f g space space' hh hk

/-- Put into the empty directory, whichever first, the two rows are all there is. -/
theorem size_insertAll_insertAll :
    ((Directory.empty.insertAll (epoll f space)).insertAll (ioUring g space')).size = 14 ∧
      ((Directory.empty.insertAll (ioUring g space')).insertAll (epoll f space)).size = 14 := by
  have hnodup := nodup_map_name f g space space'
  have hnodup' : ((ioUring g space' ++ epoll f space).map (·.name)).Nodup :=
    (List.perm_append_comm.map _).nodup_iff.1 hnodup
  rw [← Directory.insertAll_append, ← Directory.insertAll_append,
    Directory.size_insertAll hnodup fun _ _ => Directory.find?_empty _,
    Directory.size_insertAll hnodup' fun _ _ => Directory.find?_empty _]
  exact ⟨rfl, rfl⟩

variable {askedIn a : String} (ha : a ∈ Declaration.kqueue.typeNames)
include ha

/-- The rows hold nothing that kqueue asks for, under whatever namespace. -/
theorem resolve_insertAll_kqueue (dir : Directory) :
    (dir.insertAll (epoll f space)).resolve askedIn a = dir.resolve askedIn a ∧
      (dir.insertAll (ioUring g space')).resolve askedIn a = dir.resolve askedIn a := by
  refine ⟨(meets_epoll f space).resolve_insertAll_of_ne dir fun b hb => ?_,
    (meets_ioUring g space').resolve_insertAll_of_ne dir fun b hb => ?_⟩
  · exact Declaration.qualified_ne (t := .kqueue) (u := .epoll) rfl rfl (by decide) ha hb _ _
  · exact Declaration.qualified_ne (t := .kqueue) (u := .ioUring) rfl rfl (by decide) ha hb _ _

end

end BuiltIn

/-- **The built-in types are those that are declared.** Whatever a directory holds, and whatever the
two namespaces are, the types of epoll answer all eight questions of its declaration once they are
put in, and those of io_uring all six of its own; putting in the others after them changes nothing
of it. So the one backend is available with domain sockets and the other without, once the gates are
open and the facility works. The two rows of types share no name, and no other name notices them.
Alone they are fourteen types that hold nothing for kqueue. -/
theorem builtIn_provides_declared (f g : Facility) (space space' : String) :
    let withEpoll (dir : Directory) := dir.insertAll (BuiltIn.epoll f space)
    let withIoUring (dir : Directory) := dir.insertAll (BuiltIn.ioUring g space')
    (Declaration.epoll.demands.length = 8 ∧ Declaration.ioUring.demands.length = 6) ∧
    (∀ dir, Declaration.epoll.ProvidedBy (withEpoll dir) space f .epoll ∧
      Declaration.ioUring.ProvidedBy (withIoUring dir) space' g .ioUring) ∧
    (∀ dir, (Declaration.epoll.ProvidedBy dir space f .epoll →
        Declaration.epoll.ProvidedBy (withIoUring dir) space f .epoll) ∧
      (Declaration.ioUring.ProvidedBy dir space' g .ioUring →
        Declaration.ioUring.ProvidedBy (withEpoll dir) space' g .ioUring)) ∧
    (∀ (dir : Directory) (settings : Settings) (namespaceOf : NamespaceSource) (past : History),
      Declaration.epoll.ProvidedBy dir space f .epoll → f.cause? = none →
      namespaceOf past .standard = some space →
      ∃ o effects, (Declaration.epoll.detect settings
          { lookup := dir.lookup, namespaceOf }).run past =
        (.available "EPOLL" o, past ++ effects) ∧ o.domain?.isSome = true) ∧
    (∀ (dir : Directory) (settings : Settings) (namespaceOf : NamespaceSource) (past : History),
      Declaration.ioUring.ProvidedBy dir space' g .ioUring → g.cause? = none →
      settings.enables "io_uring" = true → namespaceOf past .incubator = some space' →
      ∃ o effects, (Declaration.ioUring.detect settings
          { lookup := dir.lookup, namespaceOf }).run past =
        (.available "IO_URING" o, past ++ effects) ∧ o.domain? = none) ∧
    (∀ h ∈ BuiltIn.epoll f space, ∀ k ∈ BuiltIn.ioUring g space', h.name ≠ k.name) ∧
    (∀ dir askedIn typeName,
      ((∀ a ∈ Declaration.epoll.typeNames,
          Directory.qualified askedIn typeName ≠ Directory.qualified space a) →
        (withEpoll dir).resolve askedIn typeName = dir.resolve askedIn typeName) ∧
      ((∀ a ∈ Declaration.ioUring.typeNames,
          Directory.qualified askedIn typeName ≠ Directory.qualified space' a) →
        (withIoUring dir).resolve askedIn typeName = dir.resolve askedIn typeName)) ∧
    ∀ fresh, fresh = withIoUring (withEpoll .empty) ∨ fresh = withEpoll (withIoUring .empty) →
      fresh.size = 14 ∧ ∀ askedIn, ∀ a ∈ Declaration.kqueue.typeNames,
        fresh.resolve askedIn a = .error (.notFound (askedIn ++ a)) := by
  intro withEpoll withIoUring
  have hepoll := BuiltIn.meets_epoll f space
  have hioUring := BuiltIn.meets_ioUring g space'
  refine ⟨⟨rfl, rfl⟩, fun dir => ⟨hepoll.providedBy rfl dir, hioUring.providedBy rfl dir⟩,
    fun dir => ⟨hioUring.providedBy_insertAll rfl rfl (by decide),
      hepoll.providedBy_insertAll rfl rfl (by decide)⟩, ?_, ?_,
    fun h hh k hk => BuiltIn.epoll_name_ne f g space space' hh hk,
    fun dir askedIn typeName => ⟨hepoll.resolve_insertAll_of_ne dir,
      hioUring.resolve_insertAll_of_ne dir⟩, ?_⟩
  · intro dir settings namespaceOf past hprovided hf hspace
    have htoken : Declaration.epoll.missingToken? settings = none := rfl
    obtain ⟨o, effects, hrun, hdomain⟩ := hprovided.exists_run_detect hf htoken hspace
    exact ⟨o, effects, hrun, hdomain.2 ⟨rfl, rfl⟩⟩
  · intro dir settings namespaceOf past hprovided hg hs hspace
    have htoken : Declaration.ioUring.missingToken? settings = none := by
      simp [Declaration.missingToken?, Declaration.ioUring, Transport.token, hs]
    obtain ⟨o, effects, hrun, hdomain⟩ := hprovided.exists_run_detect hg htoken hspace
    refine ⟨o, effects, hrun, ?_⟩
    cases ho : o.domain? with
    | none => rfl
    | some pair => simp [ho, Declaration.ioUring] at hdomain
  · obtain ⟨hsize, hsize'⟩ := BuiltIn.size_insertAll_insertAll f g space space'
    rintro fresh (rfl | rfl)
    · refine ⟨hsize, fun askedIn a ha => ?_⟩
      rw [(BuiltIn.resolve_insertAll_kqueue f g space space' ha _).2,
        (BuiltIn.resolve_insertAll_kqueue f g space space' ha _).1]
      rfl
    · refine ⟨hsize', fun askedIn a ha => ?_⟩
      rw [(BuiltIn.resolve_insertAll_kqueue f g space space' ha _).1,
        (BuiltIn.resolve_insertAll_kqueue f g space space' ha _).2]
      rfl

end Transports
