import Transports.Proofs.LoopGroup.Operations
import Transports.Proofs.Report.Records
import Transports.Proofs.Resolver.Native
import Transports.Proofs.Settings.FromEnvironment
/-!
# The report of a process

A report is taken in one go: the settings are read, a resolver is built, every record is asked for
and then the one to use, and a group is made on it. Over the built-in types this comes to the
records that the transports get alone and a choice among them (`Report.exists_run_take`). Where
epoll works and io_uring is not asked for, all of it is settled but for three texts
(`Report.nativeLines`), and the two variables of the environment decide these three
(`report_tells_environment`).
-/

namespace Transports

namespace Report

/-! ## What a report gathers -/

def factoryFor (c : Capability) : ThreadFactory :=
  { stem := String.ofList (Text.smallLetters c.name) }

/-- What a survey finds by a table of records; the group is tried after a history. -/
def ofTable (r : Resolver) (table : Transport → Capability) (host : Host) (before : History) :
    Report where
  settings := r.settings
  verdict? := r.verdict?
  records := Transport.all.map table
  preferred := table (r.settings.choice table)
  group :=
    let c := table (r.settings.choice table)
    ((c.newGroup host threads (factoryFor c)).run before).1.map Trial.of

/-- **A survey is one look at a table**: that of the records which the transports get alone. -/
theorem exists_run_survey (dir : Directory) (n : Namespaces) (settings : Settings)
    (verdict? : Option Verdict) (host : Host) (past : History) :
    let r := Resolver.ofDirectory dir n settings verdict?
    ∃ before m now,
      ((survey r host).run {}).run past = ((ofTable r (r.alone past) host before, m), now) := by
  intro r
  obtain ⟨cs, _, m, now, eager, hrecords, hon, h, hg⟩ :=
    (Procedure.getAll Transport.all).run_eq_runOn host (@Resolver.Reached.start r past) fun _ => rfl
  obtain ⟨c, _, m', before, _, hpreferred, hon', -, -⟩ :=
    (Procedure.preferred settings.preferred?).run_eq_runOn host h hg
  -- the records are those of the table, and so is the one to use
  rw [Procedure.runOn_getAll] at hon
  obtain rfl : Transport.all.map (r.alone past) = cs := (Prod.mk.inj hon).1
  have hchoice := Procedure.run_runOn_preferred (r.alone past) host settings eager
  obtain rfl : c = r.alone past (settings.choice (r.alone past)) := by rwa [hon'] at hchoice
  have hrecords : (r.records.run {}).run past = ((Transport.all.map (r.alone past), m), now) := by
    rwa [Procedure.run_getAll] at hrecords
  have hpreferred : (r.preferred.run m).run now = ((_, m'), before) :=
    Procedure.run_preferred r host ▸ hpreferred
  generalize hc : r.alone past (settings.choice (r.alone past)) = c at hpreferred
  let making := (c.newGroup host threads (factoryFor c)).run before
  have hgroup : ((liftM (c.newGroup host threads (factoryFor c)) : Session _).run m').run before =
      ((making.1, m'), making.2) := Session.run_lift rfl
  refine ⟨before, m', making.2, ?_⟩
  unfold survey
  rw [Session.run_bind_of_run hrecords, Session.run_bind_of_run hpreferred]
  subst hc
  exact Session.run_bind_of_run hgroup

def resolver (env : Environment) (host : Host) : Resolver :=
  .ofDirectory (.native host) {} (.ofEnvironment env)
    ({ settings := .ofEnvironment env } : Setup).verdict?

/-- **What a report gathers**, whatever the environment and the host are. -/
theorem exists_run_take (env : Environment) (host : Host) (past : History) :
    ∃ start before now, (take env host).run past =
      (ofTable (resolver env host) ((resolver env host).alone start) host before, now) := by
  have hbuild := Setup.run_build { settings := .ofEnvironment env } host past
  generalize past ++ _ = start at hbuild
  obtain ⟨before, m, now, hsurvey⟩ :
      ∃ before m now, ((survey (resolver env host) host).run {}).run start =
        ((ofTable (resolver env host) ((resolver env host).alone start) host before, m), now) :=
    exists_run_survey _ _ _ _ host start
  refine ⟨start, before, now, ?_⟩
  unfold take
  rw [Act.run_bind_of_run hbuild, Setup.resolver_eq_native]
  exact Session.run_run' hsurvey

/-- **A report leaves no handle open**, whatever group it was that it tried. -/
theorem held_group_take {env : Environment} {host : Host} {past : History} {t : Trial}
    (h : ((take env host).run past).1.group = .ok t) : t.group.held = [] := by
  obtain ⟨start, before, now, hrun⟩ := exists_run_take env host past
  rw [hrun] at h
  obtain ⟨made, hmade⟩ : ∃ made : Except Refusal (LoopGroup Resource), made.map .of = .ok t :=
    ⟨_, h⟩
  cases made with
  | error e => cases hmade
  | ok g =>
    cases hmade
    exact Trial.held_of g

/-! ## Where epoll works and io_uring is left alone -/

def nioLines : List String :=
  ["  NIO        available  (domain sockets: no)",
   "    server channel           netcap_native::nio::NioServerSocketChannel",
   "    socket channel           netcap_native::nio::NioSocketChannel",
   "    domain server channel    -",
   "    domain socket channel    -",
   "    datagram channel         netcap_native::nio::NioDatagramChannel",
   "    event loop group         netcap_native::nio::NioEventLoopGroup",
   "    event loop               netcap_native::nio::NioEventLoop"]

def epollLines : List String :=
  ["  EPOLL      available  (domain sockets: yes)",
   "    server channel           netcap_native::channel.epoll.EpollServerSocketChannel",
   "    socket channel           netcap_native::channel.epoll.EpollSocketChannel",
   "    domain server channel    netcap_native::channel.epoll.EpollServerDomainSocketChannel",
   "    domain socket channel    netcap_native::channel.epoll.EpollDomainSocketChannel",
   "    datagram channel         netcap_native::channel.epoll.EpollDatagramChannel",
   "    event loop group         netcap_native::channel.epoll.EpollEventLoopGroup",
   "    event loop               netcap_native::channel.epoll.EpollEventLoop"]

def absentLines : List String :=
  ["  KQUEUE     unavailable: failed to resolve transport types: type not found: " ++
     "netcap_native::channel.kqueue.KQueue",
   "    caused by: type not found: netcap_native::channel.kqueue.KQueue",
   "  IO_URING   unavailable: io_uring not enabled explicitly"]

/-- The whole report, by the preference that it shows, what it tells of the versions, and the name
of the transport to use. -/
def nativeLines (shown versions preferred : String) : List String :=
  ["=== netcap transport report (v0.1.0) ===",
   "    transport type: " ++ shown,
   "    versions: " ++ versions] ++
  ["", rule, "  Part A: Capability records", rule] ++
  (nioLines ++ epollLines ++ absentLines) ++
  ["", "  2 of 4 backends available"] ++
  ["", rule, "  Part B: Preferred transport", rule] ++
  ["  using " ++ preferred, "  event loop group: 4 loops on " ++ preferred ++ ", next loop #0", "",
   rule]

theorem recordLines_nio : recordLines (.available "NIO" Fallback.offer) = nioLines := by rfl

theorem recordLines_epoll {o : Offer} {f : Facility}
    (h : o.Fulfils .epoll Namespaces.builtInStandard f .epoll) :
    recordLines (.available "EPOLL" o) = epollLines := by
  have hdomain : o.domain?.isSome = true := by
    have hname := congrArg Option.isSome (h.name_eq .domainServerChannel)
    rw [Option.isSome_map, Offer.isSome_handle?] at hname
    exact hname
  rw [recordLines_available h.name_eq, availableLine, Capability.name_available,
    Capability.supportsDomainSockets_available, hdomain]
  rfl

theorem recordLines_absent :
    recordLines (.unavailable "KQUEUE" (.resolutionFailure (.lookup BuiltIn.missingEntryPoint))) ++
      recordLines (.unavailable "IO_URING" (.notOptedIn "io_uring")) = absentLines := by rfl

/-- What is told of a group of four loops that was just opened. -/
theorem groupLine_of_opened {p : Plan Resource} {g : LoopGroup Resource} (h : p.Opened g)
    (hcount : p.count = threads) :
    groupLine (.ok (.of g)) =
      "  event loop group: 4 loops on " ++ p.transport ++ ", next loop #0" := by
  have hstands : p.Stands ([] : List (LoopGroup.Operation Resource Unit)) g := h.stands
  have hnext : g.next.1.index = 0 := by
    rw [hstands.fst_next]
    exact Nat.zero_mod _
  have hfour : "  event loop group: " ++ toString threads ++ " loops on " =
      "  event loop group: 4 loops on " := by decide +kernel
  have hzero : ", next loop #" ++ toString 0 = ", next loop #0" := by decide +kernel
  have hline : ∀ t : String, "  event loop group: " ++ toString threads ++ " loops on " ++ t ++
      ", next loop #" ++ toString 0 =
      "  event loop group: 4 loops on " ++ t ++ ", next loop #0" := by
    intro t
    rw [hfour, String.append_assoc, hzero]
  have htried : groupLine (.ok (.of g)) = "  event loop group: " ++ toString g.threadCount ++
      " loops on " ++ g.transport ++ ", next loop #" ++ toString g.next.1.index := by
    rw [← Trial.threadCount_of g]
    rfl
  rw [htried, hstands.threadCount_eq, h.transport_eq, hnext, hcount]
  exact hline p.transport

section
variable {env : Environment} {host : Host} {table : Transport → Capability} {before : History}

/-- The constructors of the fallback and of epoll open loops of their own transport. -/
theorem exists_openAt (hepoll : host.epoll.Works threads) (h : Resolver.Native table host.epoll)
    {t : Transport} (ht : t = .nio ∨ t = .epoll) :
    ∃ make openAt, (table t).constructor = .ok make ∧ make.make.transport = t.name ∧
      (∀ k, make.make.attempt k = .ok openAt) ∧ ∀ i < threads, ∃ handle, openAt i = .ok handle := by
  rcases ht with rfl | rfl
  · rw [h.nio]
    exact ⟨_, _, rfl, rfl, fun _ => rfl, fun _ _ => ⟨_, rfl⟩⟩
  · obtain ⟨o, hrecord, ho⟩ := h.epoll
    rw [hrecord]
    refine ⟨o.constructor, host.epoll.openAt, rfl, ?_, fun _ => ?_, hepoll.exists_openAt⟩
    · rw [ho.make_eq]
      rfl
    · rw [ho.make_eq]
      rfl

/-- The group on the transport to use can be made, and four loops are told of. -/
theorem groupLine_native (hepoll : host.epoll.Works threads)
    (h : Resolver.Native table host.epoll) {t : Transport} (ht : t = .nio ∨ t = .epoll)
    (factory : ThreadFactory) (before : History) :
    ∃ g, (((table t).newGroup host threads factory).run before).1 = .ok g ∧
      groupLine (.ok (.of g)) =
        "  event loop group: 4 loops on " ++ t.name ++ ", next loop #0" := by
  obtain ⟨make, openAt, hmake, htransport, hagree, hcalls⟩ := exists_openAt hepoll h ht
  have hthreads : BoundConstructor.effectiveThreads host threads = threads := rfl
  obtain ⟨g, hg, hopened⟩ :
      ∃ g, (((table t).newGroup host threads factory).run before).1 = .ok g ∧
        Plan.Opened ⟨make.make.transport, factory, openAt, threads⟩ g :=
    Capability.exists_newGroup hmake (hagree _) (by rw [hthreads]; decide) hcalls
  exact ⟨g, hg, by rw [groupLine_of_opened hopened rfl, htransport]⟩

end

/-! ## The whole report -/

section
variable {r : Resolver} {host : Host} {table : Transport → Capability}

theorem flatMap_recordLines {f : Facility} (h : Resolver.Native table f) :
    (Transport.all.map table).flatMap recordLines = nioLines ++ epollLines ++ absentLines := by
  obtain ⟨o, hepoll, ho⟩ := h.epoll
  have hall : (Transport.all.map table).flatMap recordLines = recordLines (table .nio) ++
      (recordLines (table .epoll) ++
        (recordLines (table .kqueue) ++ (recordLines (table .ioUring) ++ []))) := rfl
  rw [hall, h.nio, hepoll, h.kqueue, h.ioUring, List.append_nil, recordLines_absent,
    recordLines_nio, recordLines_epoll ho, List.append_assoc]

theorem countP_isAvailable {f : Facility} (h : Resolver.Native table f) :
    (Transport.all.map table).countP (·.isAvailable) = 2 := by
  have hall : (fun c : Capability => c.isAvailable) ∘ table = fun t => t == .nio || t == .epoll :=
    funext h.isAvailable_eq
  rw [List.countP_map, hall]
  rfl

/-- **A report where epoll works and io_uring is left alone.** -/
theorem lines_ofTable (hepoll : host.epoll.Works threads) (h : Resolver.Native table host.epoll)
    (before : History) :
    let report := ofTable r table host before
    report.lines = nativeLines (r.settings.preference.getD "(not set)") (versionsText r.verdict?)
        (r.settings.choice table).name ∧
      report.availableCount = 2 ∧ report.exitCode = 0 := by
  intro report
  have ht : r.settings.choice table = .nio ∨ r.settings.choice table = .epoll := by
    rw [Settings.choice_eq_ite _ h]
    split
    · exact .inl rfl
    · exact .inr rfl
  have hname : report.preferred.name = (r.settings.choice table).name := h.name_eq _
  obtain ⟨g, hg, hgroup⟩ := groupLine_native hepoll h ht
    (factoryFor (table (r.settings.choice table))) before
  have hg : report.group = .ok (.of g) := congrArg (Except.map Trial.of) hg
  have hrecords : report.records.flatMap recordLines = _ := flatMap_recordLines h
  have hcount : report.availableCount = 2 := countP_isAvailable h
  have htitle : s!"=== netcap transport report (v{programVersion}) ===" =
      "=== netcap transport report (v0.1.0) ===" := by rfl
  have htotal : s!"  {2} of {Transport.all.length} backends available" =
      "  2 of 4 backends available" := by rfl
  refine ⟨?_, hcount, ?_⟩
  · unfold lines nativeLines opening
    rw [hrecords, hcount, hname, hg, hgroup, htitle, htotal]
    rfl
  · unfold exitCode
    rw [hg]

end

/-- What is told of the versions, as the settings have it. -/
theorem versionsText_resolver (env : Environment) (host : Host) :
    versionsText (resolver env host).verdict? =
      if ∃ w ∈ ["0", "false", "no", "off"], env.Names "NETCAP_WARN_VERSIONS" w then "check disabled"
      else "consistent (0.1.0)" := by
  have hverdict : (resolver env host).verdict? =
      if (Settings.ofEnvironment env).warnVersions then some (.of linkedArtifacts) else none := rfl
  have hlinked : Verdict.of linkedArtifacts = .consistent "0.1.0" := by decide +kernel
  rw [hverdict, hlinked]
  by_cases hoff : ∃ w ∈ ["0", "false", "no", "off"], env.Names "NETCAP_WARN_VERSIONS" w
  · rw [if_pos hoff, Settings.warnVersions_ofEnvironment_iff.2 hoff]
    rfl
  · have hon : (Settings.ofEnvironment env).warnVersions = true := by
      rw [← Bool.not_eq_false]
      exact fun hoff' => hoff (Settings.warnVersions_ofEnvironment_iff.1 hoff')
    rw [if_neg hoff, hon]
    rfl

/-- The name of the transport to use, as the environment has it. -/
theorem name_choice {env : Environment} {host : Host} {table : Transport → Capability}
    (h : Resolver.Native table host.epoll) :
    ((resolver env host).settings.choice table).name =
      if env.Names "NETCAP_TRANSPORT_TYPE" "nio" then "NIO" else "EPOLL" := by
  have hsettings : (resolver env host).settings = .ofEnvironment env := rfl
  have hpreferred : (Settings.ofEnvironment env).preferred? = some .nio ↔
      env.Names "NETCAP_TRANSPORT_TYPE" "nio" := Settings.preferred?_ofEnvironment_iff (t := .nio)
  rw [hsettings, Settings.choice_eq_ite _ h]
  by_cases hnio : env.Names "NETCAP_TRANSPORT_TYPE" "nio"
  · rw [if_pos hnio, if_pos (hpreferred.2 hnio)]
    rfl
  · rw [if_neg hnio, if_neg fun h => hnio (hpreferred.1 h)]
    rfl

end Report

/-- **What a report tells is told by the environment.** Where epoll works and the preference is not
io_uring, whatever the two variables hold, every line of the report is settled: NIO and EPOLL are
listed as available, KQUEUE as not found and IO_URING as not enabled, two of four; the line of the
preference has its text without the blanks around it, or says that there is none; the check of the
versions is disabled exactly by a word that says so; and NIO is used, with a group of four loops,
exactly if the preference names it, else EPOLL. Any record at all is written in full: a row has the
name of the type in its slot, or a dash exactly for the domain sockets of a record without them, as
no accessor refuses anything else; and the cause of an unavailable record is followed by each
failure beneath it, down to the last. -/
theorem report_tells_environment (env : Environment) (host : Host) (past : History) :
    (host.epoll.Works 4 → ¬ env.Names "NETCAP_TRANSPORT_TYPE" "io_uring" →
      ∃ report now shown, (Report.take env host).run past = (report, now) ∧
        report.lines = Report.nativeLines shown
          (if ∃ w ∈ ["0", "false", "no", "off"], env.Names "NETCAP_WARN_VERSIONS" w then
            "check disabled" else "consistent (0.1.0)")
          (if env.Names "NETCAP_TRANSPORT_TYPE" "nio" then "NIO" else "EPOLL") ∧
        (∀ v, env.text? "NETCAP_TRANSPORT_TYPE" = some v → Text.trim v ≠ "" →
          shown = Text.trim v) ∧
        (env.Lacks "NETCAP_TRANSPORT_TYPE" → shown = "(not set)") ∧
        report.availableCount = 2 ∧ report.exitCode = 0) ∧
    ∀ c : Capability,
      (∀ o, c.availability = .available o →
        Report.recordLines c = Report.availableLine c :: Slot.all.map (Report.row c) ∧
        ∀ s : Slot,
          (s.isDomain = true ∧ c.supportsDomainSockets = false ∧
            c.handle s = .error (.unsupported c.name "domain sockets") ∧
            Report.row c s = Report.rowWith s "-") ∨
          ¬ (s.isDomain = true ∧ c.supportsDomainSockets = false) ∧
            ∃ h, o.handle? s = some h ∧ c.handle s = .ok h ∧
              Report.row c s = Report.rowWith s h.name) ∧
      ∀ cause, c.availability = .unavailable cause →
        ∃ sources, Failure.Sources cause.source? sources ∧
          Report.recordLines c =
            Report.unavailableLine c cause :: sources.map Report.causedBy := by
  refine ⟨fun hepoll hgate => ?_, fun c => ⟨fun o ho => ⟨?_, fun s => ?_⟩, fun cause hcause => ?_⟩⟩
  · obtain ⟨start, before, now, hrun⟩ := Report.exists_run_take env host past
    have hclosed : (Settings.ofEnvironment env).enables "io_uring" = false := by
      rw [← Bool.not_eq_true, Settings.enables_ofEnvironment_iff (by decide)]
      exact hgate
    have htable : Resolver.Native ((Report.resolver env host).alone start) host.epoll :=
      Resolver.alone_native _ start hepoll.cause?_eq hclosed
    obtain ⟨hlines, hcount, hexit⟩ :=
      Report.lines_ofTable (r := Report.resolver env host) hepoll htable before
    have hshown : (Report.resolver env host).settings.preference =
        env.word? "NETCAP_TRANSPORT_TYPE" := rfl
    rw [hshown, Report.versionsText_resolver, Report.name_choice htable] at hlines
    refine ⟨_, now, (env.word? "NETCAP_TRANSPORT_TYPE").getD "(not set)", hrun, hlines, ?_, ?_,
      hcount, hexit⟩
    · intro v hv hne
      rw [Environment.word?_eq_some_iff.2 ⟨v, hv, rfl, hne⟩]
      rfl
    · intro hlacks
      rw [Environment.word?_eq_none_iff.2 hlacks]
      rfl
  · exact Report.recordLines_of_cause?_eq_none (by rw [Capability.cause?, ho])
  · exact Report.row_of_available ho
  · exact ⟨cause.chain, Cause.sources_iff.2 rfl,
      Report.recordLines_of_cause? (by rw [Capability.cause?, hcause])⟩

/-- An environment that names the fallback between blanks, and disables the check in capitals. -/
def Report.oddEnvironment : Environment := fun key =>
  if key = "NETCAP_TRANSPORT_TYPE" then some " Nio\t".toUTF8
  else if key = "NETCAP_WARN_VERSIONS" then some "OFF".toUTF8
  else none

theorem report_tells_oddEnvironment :
    ∃ report now, (Report.take Report.oddEnvironment (.linux 1)).run [] = (report, now) ∧
      report.lines = Report.nativeLines "Nio" "check disabled" "NIO" ∧ report.exitCode = 0 := by
  have hworks : (Host.linux 1).epoll.Works 4 := ⟨rfl, fun _ _ => ⟨_, rfl⟩⟩
  have hgate : ¬ Report.oddEnvironment.Names "NETCAP_TRANSPORT_TYPE" "io_uring" := by
    decide +kernel
  have hoff : ∃ w ∈ ["0", "false", "no", "off"],
      Report.oddEnvironment.Names "NETCAP_WARN_VERSIONS" w := by decide +kernel
  have hnio : Report.oddEnvironment.Names "NETCAP_TRANSPORT_TYPE" "nio" := by decide +kernel
  have htext : Report.oddEnvironment.text? "NETCAP_TRANSPORT_TYPE" = some " Nio\t" := by
    decide +kernel
  have htrim : Text.trim " Nio\t" = "Nio" := by decide +kernel
  obtain ⟨report, now, shown, hrun, hlines, hshown, -, -, hexit⟩ :=
    (report_tells_environment Report.oddEnvironment (.linux 1) []).1 hworks hgate
  rw [if_pos hoff, if_pos hnio, hshown _ htext (by rw [htrim]; decide), htrim] at hlines
  exact ⟨report, now, hrun, hlines, hexit⟩

end Transports
