import Transports.Proofs.Resolver.OrderIndependence
/-!
# The gated backend is not touched unless it is asked for

On some kernels a mere touch of io_uring can take the process down. Over a directory, whatever is
asked of a resolver, no effect is about a type of io_uring unless the preference is its token
(`ioUring_gated`): its own search stops at the gate, and no search of another backend can reach its
names. With that preference the first touch does ask for its entry point.
-/

namespace Transports

/-! ## Behind the open gate -/

theorem History.questions_accessorCalls (answer : Except LookupFailure Handle) :
    History.questions (accessorCalls answer) = [] := by
  unfold accessorCalls
  split
  · rfl
  · rfl

theorem History.questions_map_asked (space : String) (l : List String) :
    History.questions (l.map (.asked space ·)) = l.map (space, ·) := by
  unfold questions
  rw [List.filterMap_map]
  exact congrFun List.filterMap_eq_map' l

/-- A detection that passes both gates asks for the entry point first, and then for declared names
in order. -/
theorem Detects.asks_first {d : Declaration} {settings : Settings} {s : Surroundings}
    {past effects : History} {c : Capability} {space : String}
    (h : Detects d settings s past c effects) (hspace : s.namespaceOf past d.tier = some space)
    (htoken : d.missingToken? settings = none) :
    ∃ rest later, effects = .soughtNamespace d.tier :: .asked space d.entryPoint :: rest ∧
      History.questions rest = later.map (space, ·) ∧ d.entryPoint :: later <+: d.typeNames := by
  obtain ⟨during, event, rfl, ⟨-, hspace' | htoken'⟩ | ⟨space', outcome, hspace', -, hs⟩⟩ :=
    h.exists_during
  · cases hspace.symm.trans hspace'
  · exact absurd htoken htoken'
  cases hspace.symm.trans hspace'
  obtain ⟨later, rfl, hl, -⟩ := during_of_steps hs
  refine ⟨accessorCalls (s.lookup (past ++ [.soughtNamespace d.tier]) space d.entryPoint) ++
    later.map (.asked space ·) ++ [.told event], later, rfl, ?_,
    List.cons_prefix_cons.2 ⟨rfl, hl⟩⟩
  rw [History.questions_append, History.questions_append, History.questions_accessorCalls,
    History.questions_map_asked]
  exact List.append_nil _

/-- A detection that does not pass the gate ends with the missing namespace or the missing token. -/
theorem Detects.eq_of_gated {d : Declaration} {settings : Settings} {s : Surroundings}
    {past effects : History} {c : Capability} {token : String}
    (h : Detects d settings s past c effects) (htoken : d.missingToken? settings = some token) :
    c = .unavailable d.name (match s.namespaceOf past d.tier with
      | none => .namespaceUnresolved d.tier
      | some _ => .notOptedIn token) := by
  cases h with
  | homeless hspace => rw [hspace]
  | gated hspace htoken' =>
    cases htoken.symm.trans htoken'
    rw [hspace]
  | failed _ htoken' _ => cases htoken.symm.trans htoken'
  | passed _ htoken' _ _ => cases htoken.symm.trans htoken'

/-! ## What the gate depends on -/

theorem Declaration.missingToken?_ioUring {settings : Settings} :
    ioUring.missingToken? settings =
      if settings.enables Transport.ioUring.token then none else some Transport.ioUring.token := by
  unfold missingToken?
  cases h : settings.enables Transport.ioUring.token <;> simp [ioUring, h]

/-- The fixed order of preference does not name io_uring. -/
theorem Settings.choice_ne_ioUring {s : Settings} (hs : s.enables Transport.ioUring.token = false)
    (table : Transport → Capability) : s.choice table ≠ .ioUring := by
  have hp : s.preferred? ≠ some .ioUring := by
    intro hp
    have := optsIn_iff.2 hp
    rw [optsIn, hs] at this
    cases this
  unfold choice
  cases hf : (s.preferred?.toList ++ [Transport.epoll, .kqueue]).find?
      fun t => (table t).isAvailable with
  | none =>
    intro h
    cases h
  | some t =>
    rintro rfl
    have hm := List.mem_of_find?_eq_some hf
    rw [List.mem_append, Option.mem_toList] at hm
    rcases hm with hm | hm
    · exact hp hm
    · simp at hm

def Answer.capabilities : Answer → List Capability
  | record c => [c]
  | record? c? => c?.toList
  | records cs => cs
  | group _ => []

/-- What belongs to a list of answers belongs to a request. -/
theorem Request.exists_of_forall₂ {p : Request → Answer → Prop} {requests : List Request}
    {answers : List Answer} (h : List.Forall₂ p requests answers) {a : Answer} (ha : a ∈ answers) :
    ∃ q, p q a := by
  induction h with
  | nil => cases ha
  | cons hqa _ ih =>
    rcases List.mem_cons.1 ha with rfl | ha
    · exact ⟨_, hqa⟩
    · exact ih ha

/-- Every record in an answer is one of the table. -/
theorem Request.exists_of_mem_answerFrom {settings : Settings} {table : Transport → Capability}
    {host : Host} {past : History} {q : Request} {c : Capability}
    (hc : c ∈ (q.answerFrom settings table host past).capabilities) : ∃ t, c = table t := by
  cases q with
  | get t => exact ⟨t, List.mem_singleton.1 hc⟩
  | getByName name =>
    rw [answerFrom, Answer.capabilities, Option.mem_toList] at hc
    obtain ⟨t, -, ht⟩ := Option.map_eq_some_iff.1 hc
    exact ⟨t, ht.symm⟩
  | records =>
    obtain ⟨t, -, ht⟩ := List.mem_map.1 hc
    exact ⟨t, ht.symm⟩
  | firstRecords n =>
    obtain ⟨t, -, ht⟩ := List.mem_map.1 hc
    exact ⟨t, ht.symm⟩
  | preferred => exact ⟨_, List.mem_singleton.1 hc⟩
  | newGroup t n factory => cases hc

namespace Resolver

section
variable {dir : Directory} {n : Namespaces} {settings : Settings} {verdict? : Option Verdict}
  {past now : History}

theorem name_alone (r : Resolver) (t : Transport) : (r.alone past t).name = t.name := by
  rw [alone_eq, name_recordAt]

/-- The cause of the absence of io_uring while its gate is closed. -/
def gateCause (n : Namespaces) : Cause :=
  match n.incubator with
  | none => .namespaceUnresolved .incubator
  | some _ => .notOptedIn Transport.ioUring.token

/-- While its gate is closed, io_uring is unavailable. -/
theorem alone_ioUring (hs : settings.enables Transport.ioUring.token = false) :
    (ofDirectory dir n settings verdict?).alone past .ioUring =
      .unavailable Transport.ioUring.name (gateCause n) := by
  have htoken : Declaration.ioUring.missingToken? settings = some Transport.ioUring.token := by
    rw [Declaration.missingToken?_ioUring, hs]
    rfl
  rw [alone_eq]
  exact (detects_compute _ .ioUring past rfl).eq_of_gated htoken

/-- While its gate is closed, no effect is about a name of io_uring. -/
theorem Reached.untouched {touches : List FirstTouch} {m : Memory}
    (h : (ofDirectory dir n settings verdict?).Reached past touches m now)
    (hs : settings.enables Transport.ioUring.token = false) :
    ∃ added, now = past ++ added ∧
      ∀ e ∈ added, ∀ name, e.name? = some name → ¬ Declaration.ioUring.Owns n name := by
  refine h.exists_added (fun e he name hn => ?_) fun t before e he name hn hown => ?_
  · rw [Effect.name?_eq_none he] at hn
    cases hn
  · obtain ⟨d, hd, htoken, hd'⟩ := owns_of_mem_trace he hn
    by_cases ht : t = .ioUring
    · subst ht
      cases hd
      rw [Declaration.missingToken?_ioUring, hs] at htoken
      cases htoken
    · exact Declaration.Owns.ne hd (u := .ioUring) rfl ht hd' hown rfl

/-- The first touch of io_uring behind its open gate asks for the entry point first. -/
theorem run_get_ioUring {space : String} {m : Memory}
    (hs : settings.enables Transport.ioUring.token = true) (hn : n.incubator = some space)
    (hm : m.record? .ioUring = none) :
    ∃ c m' rest later,
      (((ofDirectory dir n settings verdict?).get .ioUring).run m).run now = ((c, m'),
        now ++ .soughtNamespace .incubator :: .asked space Declaration.ioUring.entryPoint :: rest) ∧
      History.questions rest = later.map (space, ·) ∧
      Declaration.ioUring.entryPoint :: later <+: Declaration.ioUring.typeNames := by
  have htoken : Declaration.ioUring.missingToken? settings = none := by
    rw [Declaration.missingToken?_ioUring, hs]
    rfl
  have hrun : (((ofDirectory dir n settings verdict?).get .ioUring).run m).run now = _ :=
    run_get_of_unknown hm
  rw [run_compute] at hrun
  obtain ⟨rest, later, he, hq, hl⟩ :=
    (detects_compute (ofDirectory dir n settings verdict?) .ioUring now rfl).asks_first hn htoken
  rw [he] at hrun
  exact ⟨_, _, rest, later, hrun, hq, hl⟩

end

end Resolver

/-- **The gated backend is not touched unless it is asked for.** While the preference is not the
token of io_uring, no effect of any run over a directory is about a name of io_uring, every record
handed out or kept for it says which gate is closed, and the record to use is never that of
io_uring. With the token as preference, and a namespace to look in, the first touch of io_uring asks
for its entry point, and after it for nothing but its declared names. -/
theorem ioUring_gated (inserts : List Handle) (n : Namespaces) (settings : Settings)
    (verdict? : Option Verdict) (host : Host) (past : History) (requests : List Request) :
    let r := Resolver.ofDirectory (Directory.empty.insertAll inserts) n settings verdict?
    let outcome := ((r.serve host requests).run {}).run past
    ((∀ p, settings.preference = some p → Text.sameLetters (Text.trim p) "io_uring" = false) →
      (∃ added, outcome.2 = past ++ added ∧
        ∀ e ∈ added, ∀ name, e.name? = some name → ¬ Declaration.ioUring.Owns n name) ∧
      (∀ c, outcome.1.2.record? .ioUring = some c →
        c = .unavailable "IO_URING" (Resolver.gateCause n)) ∧
      (∀ a ∈ outcome.1.1, ∀ c ∈ a.capabilities, c.name = "IO_URING" →
        c = .unavailable "IO_URING" (Resolver.gateCause n)) ∧
      ∀ a, (.preferred, a) ∈ requests.zip outcome.1.1 →
        ∃ c, a = .record c ∧ c.name ≠ "IO_URING") ∧
    ∀ p space, settings.preference = some p → Text.sameLetters (Text.trim p) "io_uring" = true →
      n.incubator = some space → ∀ (m : Memory) (now : History), m.record? .ioUring = none →
        ∃ c m' rest later, ((r.get .ioUring).run m).run now =
            ((c, m'), now ++ .soughtNamespace .incubator :: .asked space ".uring.IOUring" :: rest) ∧
          History.questions rest = later.map (space, ·) ∧
          ".uring.IOUring" :: later <+: Declaration.ioUring.typeNames := by
  intro r outcome
  constructor
  · intro hclosed
    have hs : settings.enables Transport.ioUring.token = false := by
      unfold Settings.enables
      cases hp : settings.preference with
      | none => rfl
      | some p => exact hclosed p hp
    have hanswers : List.Forall₂ _ requests outcome.1.1 := Resolver.forall₂_answers requests
    obtain ⟨touches, h⟩ := r.reached_serve host past requests
    refine ⟨h.untouched hs, fun c hc => ?_, fun a ha c hc hname => ?_, fun a ha => ?_⟩
    · rw [h.isolated.1 _ c hc]
      exact Resolver.alone_ioUring hs
    · obtain ⟨q, before, rfl⟩ := Request.exists_of_forall₂ hanswers ha
      obtain ⟨t, rfl⟩ := Request.exists_of_mem_answerFrom hc
      rw [Resolver.name_alone] at hname
      obtain rfl := Transport.name_injective (u := .ioUring) hname
      exact Resolver.alone_ioUring hs
    · obtain ⟨before, rfl⟩ := List.forall₂_zip hanswers ha
      refine ⟨_, rfl, fun hname => ?_⟩
      rw [Resolver.name_alone] at hname
      exact Settings.choice_ne_ioUring hs _ (Transport.name_injective (u := .ioUring) hname)
  · intro p space hp hsame hn m now hm
    refine Resolver.run_get_ioUring ?_ hn hm
    unfold Settings.enables
    rw [hp]
    exact hsame

end Transports
