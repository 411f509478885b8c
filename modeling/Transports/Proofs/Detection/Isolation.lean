import Transports.Directory
import Transports.Proofs.Detection.FirstFailure
/-!
# What a detection touches, and what it depends on

A detection asks for the names of its own declaration in the namespace of its own tier, calls the
accessor of no handle but its entry point, and tells events (`Detects.mem_effects`). Over a
directory it depends on nothing else either: on the namespace of its tier, on the gate, on what
stands under its own joined names, and on how often the handles there were called before
(`run_detect_transfer`).
-/

namespace Transports

open Search

/-! ## What it touches -/

theorem mem_accessorCalls {answer : Except LookupFailure Handle} {e : Effect}
    (he : e ∈ accessorCalls answer) : ∃ entry, answer = .ok entry ∧ e = .consulted entry.id := by
  unfold accessorCalls at he
  split at he
  · exact ⟨_, rfl, List.mem_singleton.1 he⟩
  · cases he

/-- A search puts the declared questions, and may call the accessor of the entry point. -/
theorem mem_during {d : Declaration} {s : Surroundings} {space : String} {past during : History}
    {outcome : Except Cause (List Handle)} (h : Search s space d.steps [] past outcome during)
    {e : Effect} (he : e ∈ during) :
    (∃ a ∈ d.typeNames, e = .asked space a) ∨
      ∃ entry, s.lookup past space d.entryPoint = .ok entry ∧ e = .consulted entry.id := by
  obtain ⟨later, rfl, hl, -⟩ := during_of_steps h
  rw [List.mem_cons, List.mem_append, List.mem_map] at he
  rcases he with rfl | he | ⟨a, ha, rfl⟩
  · exact .inl ⟨d.entryPoint, List.mem_cons_self, rfl⟩
  · exact .inr (mem_accessorCalls he)
  · exact .inl ⟨a, List.mem_of_mem_tail (hl.subset ha), rfl⟩

/-- The namespace is sought first and one event told last; between them there is nothing if a gate
is closed, and a search in the namespace if both are open. -/
theorem Detects.exists_during {d : Declaration} {settings : Settings} {s : Surroundings}
    {past effects : History} {c : Capability} (h : Detects d settings s past c effects) :
    ∃ during event, effects = .soughtNamespace d.tier :: (during ++ [.told event]) ∧
      ((during = [] ∧ (s.namespaceOf past d.tier = none ∨ d.missingToken? settings ≠ none)) ∨
        ∃ space outcome, s.namespaceOf past d.tier = some space ∧
          d.missingToken? settings = none ∧
          Search s space d.steps [] (past ++ [.soughtNamespace d.tier]) outcome during) := by
  cases h with
  | homeless hspace => exact ⟨[], _, rfl, .inl ⟨rfl, .inl hspace⟩⟩
  | gated _ htoken =>
    refine ⟨[], _, rfl, .inl ⟨rfl, .inr ?_⟩⟩
    rw [htoken]
    exact Option.some_ne_none _
  | failed hspace htoken hs => exact ⟨_, _, rfl, .inr ⟨_, _, hspace, htoken, hs⟩⟩
  | passed hspace htoken hs _ => exact ⟨_, _, rfl, .inr ⟨_, _, hspace, htoken, hs⟩⟩

/-- Everything that a detection does. -/
theorem Detects.mem_effects {d : Declaration} {settings : Settings} {s : Surroundings}
    {past effects : History} {c : Capability} (h : Detects d settings s past c effects) {e : Effect}
    (he : e ∈ effects) :
    e = .soughtNamespace d.tier ∨ (∃ event, e = .told event) ∨
      ∃ space, s.namespaceOf past d.tier = some space ∧ d.missingToken? settings = none ∧
        ((∃ a ∈ d.typeNames, e = .asked space a) ∨
          ∃ entry, s.lookup (past ++ [.soughtNamespace d.tier]) space d.entryPoint = .ok entry ∧
            e = .consulted entry.id) := by
  obtain ⟨during, event, rfl, hd⟩ := h.exists_during
  rw [List.mem_cons, List.mem_append, List.mem_singleton] at he
  rcases he with rfl | he | rfl
  · exact .inl rfl
  · rcases hd with ⟨rfl, -⟩ | ⟨space, outcome, hspace, htoken, hs⟩
    · cases he
    · exact .inr (.inr ⟨space, hspace, htoken, mem_during hs he⟩)
  · exact .inr (.inl ⟨event, rfl⟩)

/-! ## The rules decide everything -/

section
variable {s : Surroundings} {space : String} {found : List Handle} {past : History}

theorem Search.Passes.unique {step : Step} {more more' : List Handle} {effects effects' : History}
    (h : Passes s space found past step more effects)
    (h' : Passes s space found past step more' effects') : more = more' ∧ effects = effects' := by
  cases h <;> cases h' <;> simp_all

theorem Search.Fails.unique {step : Step} {cause cause' : Cause} {effects effects' : History}
    (h : Fails s space found past step cause effects)
    (h' : Fails s space found past step cause' effects') : cause = cause' ∧ effects = effects' := by
  cases h <;> cases h' <;> simp_all

theorem Search.Passes.not_fails {step : Step} {more : List Handle} {cause : Cause}
    {effects effects' : History} (h : Passes s space found past step more effects)
    (h' : Fails s space found past step cause effects') : False := by
  cases h <;> cases h' <;> simp_all

end

theorem Search.unique {s : Surroundings} {space : String} {steps : List Step} {found : List Handle}
    {past during during' : History} {outcome outcome' : Except Cause (List Handle)}
    (h : Search s space steps found past outcome during)
    (h' : Search s space steps found past outcome' during') :
    outcome = outcome' ∧ during = during' := by
  induction h generalizing outcome' during' with
  | done => cases h'; exact ⟨rfl, rfl⟩
  | stop hf =>
    cases h' with
    | stop hf' =>
      obtain ⟨rfl, rfl⟩ := hf.unique hf'
      exact ⟨rfl, rfl⟩
    | go hp' => exact (hp'.not_fails hf).elim
  | go hp _ ih =>
    cases h' with
    | stop hf' => exact (hp.not_fails hf').elim
    | go hp' hs' =>
      obtain ⟨rfl, rfl⟩ := hp.unique hp'
      obtain ⟨rfl, rfl⟩ := ih hs'
      exact ⟨rfl, rfl⟩

/-- An offer is its handles and its constructor. -/
theorem Offer.ext_handle? {o o' : Offer} (hh : ∀ slot, o.handle? slot = o'.handle? slot)
    (hc : o.constructor = o'.constructor) : o = o' := by
  have hserver := hh .domainServerChannel
  have hsocket := hh .domainSocketChannel
  have h₁ := hh .serverChannel
  have h₂ := hh .socketChannel
  have h₃ := hh .datagramChannel
  have h₄ := hh .eventLoopGroup
  have h₅ := hh .eventLoop
  obtain ⟨_, _, domain?, _, _, _, _⟩ := o
  obtain ⟨_, _, domain?', _, _, _, _⟩ := o'
  rcases domain? with _ | ⟨_, _⟩ <;> rcases domain?' with _ | ⟨_, _⟩ <;> simp_all [Offer.handle?]

theorem Offer.Holds.unique {o o' : Offer} {name : String} {found : List Handle}
    (h : o.Holds name found) (h' : o'.Holds name found) : o = o' := by
  refine Offer.ext_handle? (fun slot => (h.handle?_eq slot).trans (h'.handle?_eq slot).symm) ?_
  obtain ⟨group, hof, hb⟩ := h.bind_eq
  obtain ⟨group', hof', hb'⟩ := h'.bind_eq
  cases hof.symm.trans hof'
  exact Except.ok.inj (hb.symm.trans hb')

theorem Detects.unique {d : Declaration} {settings : Settings} {s : Surroundings}
    {past effects effects' : History} {c c' : Capability} (h : Detects d settings s past c effects)
    (h' : Detects d settings s past c' effects') : c = c' ∧ effects = effects' := by
  cases h with
  | homeless hspace => cases h' <;> simp_all
  | gated hspace htoken => cases h' <;> simp_all
  | failed hspace htoken hs =>
    cases h' with
    | homeless hspace' => simp_all
    | gated hspace' htoken' => simp_all
    | failed hspace' htoken' hs' =>
      cases hspace.symm.trans hspace'
      obtain ⟨he, rfl⟩ := hs.unique hs'
      cases he
      exact ⟨rfl, rfl⟩
    | passed hspace' htoken' hs' _ =>
      cases hspace.symm.trans hspace'
      cases (hs.unique hs').1
  | passed hspace htoken hs ho =>
    cases h' with
    | homeless hspace' => simp_all
    | gated hspace' htoken' => simp_all
    | failed hspace' htoken' hs' =>
      cases hspace.symm.trans hspace'
      cases (hs.unique hs').1
    | passed hspace' htoken' hs' ho' =>
      cases hspace.symm.trans hspace'
      obtain ⟨he, rfl⟩ := hs.unique hs'
      cases he
      rw [ho.unique ho']
      exact ⟨rfl, rfl⟩

/-! ## What it depends on -/

def Directory.surroundings (dir : Directory) (n : Namespaces) : Surroundings where
  lookup := dir.lookup
  namespaceOf := n.source

/-- The names that the detection of a backend can lead to in a directory. -/
def Declaration.Owns (d : Declaration) (n : Namespaces) (name : String) : Prop :=
  ∃ space, n.get d.tier = some space ∧ ∃ a ∈ d.typeNames, name = Directory.qualified space a

/-- Two histories agree on how often the handles under some names were called. -/
def History.AgreeOn (names : String → Prop) (past past' : History) : Prop :=
  ∀ id : Handle.Id, names id.name → past.consultations id = past'.consultations id

theorem History.AgreeOn.append {names : String → Prop} {past past' : History}
    (h : History.AgreeOn names past past') (effects : History) :
    History.AgreeOn names (past ++ effects) (past' ++ effects) := by
  intro id hid
  rw [consultations_append, consultations_append, h id hid]

section
variable {dir dir' : Directory} {n n' : Namespaces} {space : String} {names : String → Prop}

theorem Directory.resolve_congr {a : String}
    (hfind : dir.find? (qualified space a) = dir'.find? (qualified space a)) :
    dir.resolve space a = dir'.resolve space a := by
  simp only [resolve, hfind]

theorem Directory.name_of_resolve {a : String} {h : Handle}
    (hl : dir.resolve space a = .ok h) : h.name = qualified space a :=
  name_of_find? (resolve_eq_ok_iff.1 hl)

theorem Search.name_of_passes {step : Step} {found more : List Handle} {past effects : History}
    (h : Passes (dir.surroundings n) space found past step more effects)
    (hstep : ∀ a, step.typeName? = some a → names (Directory.qualified space a)) :
    ∀ k ∈ more, names k.name := by
  intro k hk
  cases h with
  | find ha _ =>
    cases List.mem_singleton.1 hk
    rw [Directory.name_of_resolve ha]
    exact hstep _ rfl
  | consult => cases hk
  | bind => cases hk

variable (hfind : ∀ name, names name → dir.find? name = dir'.find? name)
include hfind

theorem Search.Passes.transfer {step : Step} {found more : List Handle}
    {past past' effects : History}
    (h : Passes (dir.surroundings n) space found past step more effects)
    (hstep : ∀ a, step.typeName? = some a → names (Directory.qualified space a))
    (hfound : ∀ k ∈ found, names k.name) (hpast : History.AgreeOn names past past') :
    Passes (dir'.surroundings n') space found past' step more effects := by
  cases h with
  | find ha hr =>
    exact .find ((Directory.resolve_congr (hfind _ (hstep _ rfl))).symm.trans ha) hr
  | consult hof hm hn =>
    rw [hpast _ (hfound _ (List.mem_of_find?_eq_some hof))] at hn
    exact .consult hof hm hn
  | bind hof hm => exact .bind hof hm

theorem Search.Fails.transfer {step : Step} {found : List Handle} {cause : Cause}
    {past past' effects : History}
    (h : Fails (dir.surroundings n) space found past step cause effects)
    (hstep : ∀ a, step.typeName? = some a → names (Directory.qualified space a))
    (hfound : ∀ k ∈ found, names k.name) (hpast : History.AgreeOn names past past') :
    Fails (dir'.surroundings n') space found past' step cause effects := by
  cases h with
  | missing ha => exact .missing ((Directory.resolve_congr (hfind _ (hstep _ rfl))).symm.trans ha)
  | misfit ha hr =>
    exact .misfit ((Directory.resolve_congr (hfind _ (hstep _ rfl))).symm.trans ha) hr
  | noAccessor hof hm => exact .noAccessor hof hm
  | refused hof hm hn =>
    rw [hpast _ (hfound _ (List.mem_of_find?_eq_some hof))] at hn
    exact .refused hof hm hn
  | noConstructor hof hm => exact .noConstructor hof hm

/-- A search goes the same way over another directory and after another history, if they agree on
the names that it leads to. -/
theorem Search.transfer {steps : List Step} {found : List Handle} {past past' during : History}
    {outcome : Except Cause (List Handle)}
    (h : Search (dir.surroundings n) space steps found past outcome during)
    (hsteps : ∀ step ∈ steps, ∀ a, step.typeName? = some a → names (Directory.qualified space a))
    (hfound : ∀ k ∈ found, names k.name) (hpast : History.AgreeOn names past past') :
    Search (dir'.surroundings n') space steps found past' outcome during := by
  induction h generalizing past' with
  | done => exact .done
  | stop hf => exact .stop (hf.transfer hfind (hsteps _ List.mem_cons_self) hfound hpast)
  | go hp _ ih =>
    have hstep := hsteps _ List.mem_cons_self
    refine .go (hp.transfer hfind hstep hfound hpast)
      (ih (fun step hs => hsteps step (List.mem_cons_of_mem _ hs)) ?_ (hpast.append _))
    intro k hk
    rcases List.mem_append.1 hk with hk | hk
    · exact hfound k hk
    · exact name_of_passes hp hstep k hk

end

/-- A step asks for a declared name, so the answer is a handle that the backend owns. -/
theorem Declaration.owns_of_step {d : Declaration} {n : Namespaces} {space : String}
    (hspace : n.get d.tier = some space) {step : Step} (hs : step ∈ d.steps) {a : String}
    (ha : step.typeName? = some a) : d.Owns n (Directory.qualified space a) := by
  refine ⟨space, hspace, a, ?_, rfl⟩
  rw [← d.filterMap_typeName?_steps]
  exact List.mem_filterMap.2 ⟨step, hs, ha⟩

section
variable {d : Declaration} {settings settings' : Settings} {dir dir' : Directory}
  {n n' : Namespaces} {past past' effects : History} {c : Capability}

theorem Detects.transfer
    (h : Detects d settings (dir.surroundings n) past c effects)
    (hn : n.get d.tier = n'.get d.tier) (ht : d.missingToken? settings = d.missingToken? settings')
    (hfind : ∀ name, d.Owns n name → dir.find? name = dir'.find? name)
    (hpast : History.AgreeOn (d.Owns n) past past') :
    Detects d settings' (dir'.surroundings n') past' c effects := by
  have hsearch : ∀ {space : String} {outcome : Except Cause (List Handle)} {during : History},
      n.get d.tier = some space →
      Search (dir.surroundings n) space d.steps [] (past ++ [.soughtNamespace d.tier]) outcome
        during →
      Search (dir'.surroundings n') space d.steps [] (past' ++ [.soughtNamespace d.tier]) outcome
        during := fun hspace hs =>
    hs.transfer hfind (fun _ hstep _ => Declaration.owns_of_step hspace hstep)
      (fun _ hk => by cases hk) (hpast.append _)
  cases h with
  | homeless hspace => exact .homeless (hn.symm.trans hspace)
  | gated hspace htoken => exact .gated (hn.symm.trans hspace) (ht.symm.trans htoken)
  | failed hspace htoken hs =>
    exact .failed (hn.symm.trans hspace) (ht.symm.trans htoken) (hsearch hspace hs)
  | passed hspace htoken hs ho =>
    exact .passed (hn.symm.trans hspace) (ht.symm.trans htoken) (hsearch hspace hs) ho

/-- **A detection depends on its own names only**: two directories that agree on them, after
histories that agree on the calls of the handles there, give the same record in the same way. -/
theorem run_detect_transfer
    (h : (d.detect settings (dir.surroundings n)).run past = (c, past ++ effects))
    (hn : n.get d.tier = n'.get d.tier) (ht : d.missingToken? settings = d.missingToken? settings')
    (hfind : ∀ name, d.Owns n name → dir.find? name = dir'.find? name)
    (hpast : History.AgreeOn (d.Owns n) past past') :
    (d.detect settings' (dir'.surroundings n')).run past' = (c, past' ++ effects) := by
  obtain ⟨c₁, effects₁, h₁, hrun₁⟩ := detects_detect d settings (dir.surroundings n) past
  obtain ⟨c₂, effects₂, h₂, hrun₂⟩ := detects_detect d settings' (dir'.surroundings n') past'
  obtain ⟨rfl, rfl⟩ := (h₁.transfer hn ht hfind hpast).unique h₂
  have he := hrun₁.symm.trans h
  rw [Prod.mk.injEq, List.append_cancel_left_eq] at he
  rw [hrun₂, he.1, he.2]

end

end Transports
