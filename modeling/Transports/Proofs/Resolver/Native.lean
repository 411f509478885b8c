import Transports.Proofs.Declaration.BuiltIn
import Transports.Proofs.Resolver.Building
import Transports.Proofs.Resolver.Gate
import Transports.Proofs.Resolver.Origin
/-!
# The records over the built-in types

A process that brings no types of its own has the types of the platform, and what it finds there is
settled but for the facilities of the host. The fallback is available anyway, and so is epoll if its
facility works; there are no types of kqueue; and io_uring is left alone unless the settings name it
(`Resolver.alone_native`). So epoll is the transport to use, unless the settings name the fallback
(`Settings.choice_eq_ite`).
-/

namespace Transports

/-! ## What a declaration finds where its types are -/

/-- An offer holds the types that a declaration names, under a namespace, and makes its groups over
a facility. -/
structure Offer.Fulfils (o : Offer) (d : Declaration) (space : String) (f : Facility)
    (t : Transport) : Prop where
  name_eq : ∀ slot, (o.handle? slot).map (·.name) =
    (d.slotName? slot).map (Directory.qualified space)
  make_eq : o.constructor.make = f.constructor t

section
variable {d : Declaration} {settings : Settings} {dir : Directory} {namespaceOf : NamespaceSource}
  {space : String} {past now effects : History} {c : Capability} {o : Offer}

/-- The type in a slot is the one that its name leads to. -/
theorem Offer.FoundBy.resolve_eq {slot : Slot} {h : Handle}
    (ho : o.FoundBy d { lookup := dir.lookup, namespaceOf } past now)
    (hspace : namespaceOf past d.tier = some space) (hh : o.handle? slot = some h) :
    ∃ typeName, d.slotName? slot = some typeName ∧ dir.resolve space typeName = .ok h := by
  obtain ⟨space', hspace', hslots⟩ := ho.answered
  cases hspace.symm.trans hspace'
  obtain ⟨typeName, hname, before, -, -, -, hl⟩ := hslots slot h hh
  exact ⟨typeName, hname, hl⟩

theorem Offer.FoundBy.isSome_handle?_eq {s : Surroundings} (ho : o.FoundBy d s past now)
    (slot : Slot) : (o.handle? slot).isSome = (d.slotName? slot).isSome := by
  have hdomain : o.domain?.isSome = d.domainSockets?.isSome := by
    rw [Bool.eq_iff_iff, ho.isSome_domain?_iff]
    unfold Declaration.domainSockets?
    cases d.domainServerChannel? <;> cases d.domainSocketChannel? <;> simp
  rw [Offer.isSome_handle?, hdomain]
  cases slot <;> simp [Declaration.slotName?, Slot.isDomain]

/-- **Where its types are, a declaration is fulfilled** as soon as its gate is open and the facility
works. -/
theorem Declaration.ProvidedBy.fulfils {f : Facility} {t : Transport}
    (h : d.ProvidedBy dir space f t) (hf : f.cause? = none)
    (htoken : d.missingToken? settings = none) (hspace : namespaceOf past d.tier = some space)
    (hdetects : Detects d settings { lookup := dir.lookup, namespaceOf } past c effects) :
    ∃ o, c = .available d.name o ∧ o.Fulfils d space f t := by
  obtain ⟨o, rfl⟩ := hdetects.exists_available hspace htoken fun typeName role hs before => by
    obtain ⟨k, hk, hrole, hequips⟩ := h typeName role (mem_demands_iff.2 hs)
    exact ⟨k, hk, hrole, hequips.fit hf⟩
  obtain ⟨-, hfound, hlinked⟩ := hdetects.foundBy_and_linked rfl
  refine ⟨o, rfl, fun slot => ?_, ?_⟩
  · have hsome := hfound.isSome_handle?_eq slot
    cases hh : o.handle? slot with
    | none =>
      rw [hh, Option.isSome_none, eq_comm, Option.isSome_eq_false_iff, Option.isNone_iff_eq_none]
        at hsome
      rw [hsome]
      rfl
    | some k =>
      obtain ⟨typeName, hname, hk⟩ := hfound.resolve_eq hspace hh
      rw [hname, Option.map_some, Option.map_some, Directory.name_of_resolve hk]
  · -- the group type is the one that the platform provides, which carries the constructor
    have hgroup : o.handle? .eventLoopGroup = some o.eventLoopGroup := rfl
    obtain ⟨typeName, hname, hk⟩ := hfound.resolve_eq hspace hgroup
    cases hname
    have hstep : Search.Step.find d.eventLoopGroup .eventLoopGroup ∈ d.steps := by
      simp [Declaration.steps, Declaration.typeSteps]
    obtain ⟨k, hk', hrole, hequips⟩ := h _ _ (mem_demands_iff.2 hstep)
    cases hk.symm.trans hk'
    have hmember := hlinked.member_eq.symm.trans (hequips.2 hrole)
    exact Member.constructor.inj hmember

/-- A backend whose entry point cannot be found is unavailable for that reason. -/
theorem Detects.eq_of_no_entryPoint {e : LookupFailure}
    (h : Detects d settings { lookup := dir.lookup, namespaceOf } past c effects)
    (hspace : namespaceOf past d.tier = some space) (htoken : d.missingToken? settings = none)
    (hentry : dir.resolve space d.entryPoint = .error e) :
    c = .unavailable d.name (.ofLookup e) := by
  cases h with
  | homeless hspace' => cases hspace.symm.trans hspace'
  | gated _ htoken' => cases htoken.symm.trans htoken'
  | failed hspace' _ hs =>
    cases hspace.symm.trans hspace'
    cases hs with
    | stop hfails =>
      cases hfails with
      | missing ha =>
        cases ha.symm.trans hentry
        rfl
      | misfit ha _ => cases ha.symm.trans hentry
    | go hpasses _ =>
      cases hpasses with
      | find ha _ => cases ha.symm.trans hentry
  | passed hspace' _ hs _ =>
    cases hspace.symm.trans hspace'
    cases hs with
    | go hpasses _ =>
      cases hpasses with
      | find ha _ => cases ha.symm.trans hentry

end

/-! ## The records of a process -/

/-- A facility works for groups of up to some number of loops. -/
structure Facility.Works (f : Facility) (n : Nat) : Prop where
  cause?_eq : f.cause? = none
  exists_openAt : ∀ i < n, ∃ h, f.openAt i = .ok h

/-- The entry point of kqueue, which the platform does not have. -/
def BuiltIn.missingEntryPoint : LookupFailure :=
  .notFound "netcap_native::channel.kqueue.KQueue"

/-- The records of a process in which epoll works and io_uring is left alone. -/
structure Resolver.Native (table : Transport → Capability) (f : Facility) : Prop where
  nio : table .nio = .available "NIO" Fallback.offer
  epoll : ∃ o, table .epoll = .available "EPOLL" o ∧
    o.Fulfils .epoll Namespaces.builtInStandard f .epoll
  kqueue : table .kqueue =
    .unavailable "KQUEUE" (.resolutionFailure (.lookup BuiltIn.missingEntryPoint))
  ioUring : table .ioUring = .unavailable "IO_URING" (.notOptedIn "io_uring")

theorem Directory.resolve_native_kqueue (host : Host) :
    (native host).resolve Namespaces.builtInStandard Declaration.kqueue.entryPoint =
      .error BuiltIn.missingEntryPoint := by
  have hmem : Declaration.kqueue.entryPoint ∈ Declaration.kqueue.typeNames := List.mem_cons_self
  unfold native
  have hrows := fun askedIn dir => @BuiltIn.resolve_insertAll_kqueue host.epoll host.ioUring
    Namespaces.builtInStandard Namespaces.builtInIncubator askedIn _ hmem dir
  rw [(hrows _ _).2, (hrows _ _).1]
  rfl

theorem Directory.providedBy_native (host : Host) :
    Declaration.epoll.ProvidedBy (native host) Namespaces.builtInStandard host.epoll .epoll :=
  (BuiltIn.meets_ioUring _ _).providedBy_insertAll rfl rfl (by decide)
    ((BuiltIn.meets_epoll _ _).providedBy rfl _)

section
variable (host : Host) (settings : Settings) (verdict? : Option Verdict) (past : History)

theorem Resolver.detects_native {t : Transport} {d : Declaration}
    (hd : Declaration.of? t = some d) :
    ∃ effects, Detects d settings
      { lookup := (Directory.native host).lookup, namespaceOf := ({} : Namespaces).source } past
      ((ofDirectory (Directory.native host) {} settings verdict?).alone past t) effects := by
  rw [alone_eq]
  exact ⟨_, (ofDirectory (Directory.native host) {} settings verdict?).detects_compute t past hd⟩

variable {host settings}

/-- **The records over the built-in types**, whatever was done before. -/
theorem Resolver.alone_native (hepoll : host.epoll.cause? = none)
    (hgate : settings.enables "io_uring" = false) :
    Resolver.Native ((ofDirectory (Directory.native host) {} settings verdict?).alone past)
      host.epoll where
  nio := rfl
  epoll := by
    obtain ⟨_, h⟩ := detects_native host settings verdict? past (t := .epoll) rfl
    exact (Directory.providedBy_native host).fulfils hepoll rfl rfl h
  kqueue := by
    obtain ⟨_, h⟩ := detects_native host settings verdict? past (t := .kqueue) rfl
    have hrecord := h.eq_of_no_entryPoint rfl rfl (Directory.resolve_native_kqueue host)
    rwa [Cause.ofLookup, Failure.strip_of_not_isWrapper rfl] at hrecord
  ioUring := alone_ioUring hgate

end

section
variable {table : Transport → Capability} {f : Facility}

theorem Resolver.Native.name_eq (h : Resolver.Native table f) (t : Transport) :
    (table t).name = t.name := by
  obtain ⟨o, hepoll, -⟩ := h.epoll
  cases t with
  | nio => rw [h.nio]; rfl
  | epoll => rw [hepoll]; rfl
  | kqueue => rw [h.kqueue]; rfl
  | ioUring => rw [h.ioUring]; rfl

/-- The fallback and epoll are there, and nothing else. -/
theorem Resolver.Native.isAvailable_eq (h : Resolver.Native table f) (t : Transport) :
    (table t).isAvailable = (t == .nio || t == .epoll) := by
  obtain ⟨o, hepoll, -⟩ := h.epoll
  cases t with
  | nio => rw [h.nio]; rfl
  | epoll => rw [hepoll]; rfl
  | kqueue => rw [h.kqueue]; rfl
  | ioUring => rw [h.ioUring]; rfl

/-- **Epoll is the transport to use** where the native records are these, unless the fallback is
preferred by name. -/
theorem Settings.choice_eq_ite (settings : Settings) (h : Resolver.Native table f) :
    settings.choice table = if settings.preferred? = some .nio then .nio else .epoll := by
  unfold choice
  simp only [h.isAvailable_eq]
  cases settings.preferred? with
  | none => rfl
  | some t => cases t <;> rfl

end

/-- A resolver that is set up from settings alone is one over the built-in types. -/
theorem Setup.resolver_eq_native (settings : Settings) (host : Host) :
    ({ settings } : Setup).resolver host = .ofDirectory (Directory.native host) {} settings
      ({ settings } : Setup).verdict? := rfl

end Transports
