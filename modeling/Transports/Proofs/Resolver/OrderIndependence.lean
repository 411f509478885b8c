import Mathlib.Data.List.Forall2
import Transports.Proofs.Resolver.Alone
/-!
# The order of the requests does not matter

A resolver computes a record when it is asked for it. Over a directory one cannot tell this from a
resolver that computes all records up front: each record that it hands out is the one that the
transport gets alone, whatever was asked for before (`serve_order_independent`). The reference is a
procedure carried out with a table in place of a memory (`Procedure.runOn`).
-/

namespace Transports

/-! ## Answers from a table of records -/

def Procedure.runOn {α : Type} (table : Transport → Capability) (host : Host) :
    Procedure α → Act α
  | done a => return a
  | touch t next => (next (table t)).runOn table host
  | tell e next => do
    Act.tell e
    next.runOn table host
  | construct make n factory next => do (next (← make.construct host n factory)).runOn table host

/-- The transport to use, by a table of records: the preferred one if it is available, else the
first available of epoll and kqueue, else the fallback. -/
def Settings.choice (s : Settings) (table : Transport → Capability) : Transport :=
  ((s.preferred?.toList ++ [Transport.epoll, .kqueue]).find?
    fun t => (table t).isAvailable).getD .nio

namespace Request

/-- Whether a request only asks for records. -/
def isQuery : Request → Bool
  | newGroup _ _ _ => false
  | _ => true

/-- The answer to a request by a table of records. What happened before matters to the making of a
group only. -/
def answerFrom (settings : Settings) (table : Transport → Capability) (host : Host)
    (past : History) : Request → Answer
  | get t => .record (table t)
  | getByName name => .record? ((Transport.ofText name).toOption.map table)
  | records => .records (Transport.all.map table)
  | firstRecords n => .records ((Transport.all.take n).map table)
  | preferred => .record (table (settings.choice table))
  | newGroup t n factory => .group (((table t).newGroup host n factory).run past).1

theorem answerFrom_of_isQuery {settings : Settings} {table : Transport → Capability} {host : Host}
    {q : Request} (hq : q.isQuery = true) (past past' : History) :
    q.answerFrom settings table host past = q.answerFrom settings table host past' := by
  cases q with
  | newGroup _ _ _ => cases hq
  | _ => rfl

end Request

namespace Procedure

section
variable {α β : Type} (table : Transport → Capability) (host : Host)

@[simp] theorem runOn_pure (a : α) : (pure a : Procedure α).runOn table host = pure a := rfl

@[simp] theorem runOn_bind (p : Procedure α) (k : α → Procedure β) :
    (p >>= k).runOn table host = p.runOn table host >>= fun a => (k a).runOn table host := by
  show (p.bind k).runOn table host = _
  induction p with
  | done a => simp [bind, runOn]
  | touch t next ih => simp [bind, runOn, ih]
  | tell e next ih => simp [bind, runOn, ih]
  | construct make n factory next ih => simp [bind, runOn, ih]

theorem runOn_getAll (l : List Transport) : (getAll l).runOn table host = pure (l.map table) := by
  induction l with
  | nil => rfl
  | cons t l ih => simp [getAll, runOn, ih]

theorem runOn_firstAvailable? (l : List Transport) :
    (firstAvailable? l).runOn table host =
      pure ((l.find? fun t => (table t).isAvailable).map table) := by
  induction l with
  | nil => rfl
  | cons t l ih =>
    simp only [firstAvailable?, runOn, List.find?_cons]
    split
    · simp_all
    · simp_all

/-- The first available of epoll and kqueue, else the fallback. -/
theorem runOn_unpreferred :
    unpreferred.runOn table host = pure
      (table (([Transport.epoll, .kqueue].find? fun t => (table t).isAvailable).getD .nio)) := by
  unfold unpreferred
  rw [runOn_bind, runOn_firstAvailable?, pure_bind]
  cases [Transport.epoll, .kqueue].find? fun t => (table t).isAvailable <;> rfl

/-- The choice is that of the settings. -/
theorem run_runOn_preferred (settings : Settings) (past : History) :
    (((preferred settings.preferred?).runOn table host).run past).1 =
      table (settings.choice table) := by
  unfold preferred Settings.choice
  rw [runOn_bind]
  cases settings.preferred? with
  | none =>
    simp only [chosen?, runOn_pure, pure_bind, runOn_unpreferred]
    rfl
  | some t =>
    cases ht : (table t).isAvailable with
    | true =>
      simp only [chosen?, runOn, ht, if_true, Option.toList_some, List.singleton_append,
        List.find?_cons, Option.getD_some]
      rfl
    | false =>
      simp only [chosen?, runOn, ht, Option.toList_some, List.singleton_append, List.find?_cons,
        bind_assoc, pure_bind, Bool.false_eq_true, if_false, runOn_pure, runOn_unpreferred]
      rfl

/-- **The answer to a request by a table.** -/
theorem run_runOn_procedure (settings : Settings) (q : Request) (past : History) :
    (((q.procedure settings).runOn table host).run past).1 =
      q.answerFrom settings table host past := by
  cases q with
  | get t => rfl
  | getByName name =>
    simp only [Request.procedure, Request.answerFrom]
    cases Transport.ofText name <;> rfl
  | records =>
    simp only [Request.procedure, runOn_bind, runOn_getAll, pure_bind]
    rfl
  | firstRecords n =>
    simp only [Request.procedure, runOn_bind, runOn_getAll, pure_bind]
    rfl
  | preferred =>
    have := run_runOn_preferred table host settings past
    simp only [Request.procedure, Request.answerFrom, runOn_bind, ← this]
    rfl
  | newGroup t n factory =>
    simp only [Request.procedure, Request.answerFrom, runOn, newGroup, Capability.newGroup]
    cases (table t).constructor <;> rfl

/-- The answers to requests by a table, one after the other. -/
theorem forall₂_runOn_ofRequests (settings : Settings) (requests : List Request)
    (past : History) :
    List.Forall₂ (fun q a => ∃ before, a = q.answerFrom settings table host before) requests
      (((ofRequests settings requests).runOn table host).run past).1 := by
  induction requests generalizing past with
  | nil => exact .nil
  | cons q l ih =>
    unfold ofRequests
    simp only [runOn_bind]
    refine .cons ⟨past, ?_⟩ (ih _)
    exact run_runOn_procedure table host settings q past

end

end Procedure

/-! ## A lazy resolver answers from the table of the records alone -/

/-- Two histories agree on how often groups of each type were made. -/
def History.SameGroups (past past' : History) : Prop :=
  ∀ id, past.constructions id = past'.constructions id

theorem History.SameGroups.append {past past' : History} (h : SameGroups past past')
    (effects : History) : SameGroups (past ++ effects) (past' ++ effects) := by
  intro id
  rw [constructions_append, constructions_append, h id]

section
variable {dir : Directory} {n : Namespaces} {settings : Settings} {verdict? : Option Verdict}
  {past now eager : History} {touches : List FirstTouch} {m : Memory}

/-- **A lazy run and a run by the table give one answer**, if as many groups were made before. -/
theorem Procedure.run_eq_runOn {α : Type} (host : Host) (p : Procedure α)
    (h : (Resolver.ofDirectory dir n settings verdict?).Reached past touches m now)
    (hg : History.SameGroups now eager) :
    ∃ answer more m' now' eager',
      ((p.run (Resolver.ofDirectory dir n settings verdict?) host).run m).run now =
        ((answer, m'), now') ∧
      (p.runOn ((Resolver.ofDirectory dir n settings verdict?).alone past) host).run eager =
        (answer, eager') ∧
      (Resolver.ofDirectory dir n settings verdict?).Reached past (touches ++ more) m' now' ∧
      History.SameGroups now' eager' := by
  induction p generalizing touches m now eager with
  | done a => exact ⟨a, [], m, now, eager, rfl, rfl, by rwa [List.append_nil], hg⟩
  | touch t next ih =>
    obtain ⟨c, more, m₁, now₁, hrun, h₁, hc, -, hg₁⟩ := Resolver.reached_get h t
    -- what is handed out is what the table holds, whether it was known or not
    obtain rfl := h₁.isolated.1 t c hc
    obtain ⟨answer, more', m₂, now₂, eager₂, hrun₂, hon, h₂, hg₂⟩ :=
      ih _ h₁ fun id => (hg₁ id).trans (hg id)
    refine ⟨answer, more ++ more', m₂, now₂, eager₂, ?_, hon, ?_, hg₂⟩
    · rw [run, Session.run_bind_of_run hrun, hrun₂]
    · rwa [← List.append_assoc]
  | tell e next ih =>
    obtain ⟨answer, more, m', now', eager', hrun, hon, h', hg'⟩ :=
      ih (Resolver.reached_tell h e) (hg.append [.told e])
    exact ⟨answer, more, m', now', eager', hrun, hon, h', hg'⟩
  | construct make k factory next ih =>
    obtain ⟨g, effects, hq, hmake⟩ :=
      make.run_construct host k factory (now.constructions make.groupType.id)
    obtain ⟨answer, more, m', now', eager', hrun, hon, h', hg'⟩ :=
      ih g (h.quiet hq) (hg.append effects)
    refine ⟨answer, more, m', now', eager', ?_, ?_, h', hg'⟩
    · rw [run, Session.run_bind_of_run (Session.run_lift (hmake now rfl)), hrun]
    · rw [runOn, Act.run_bind_of_run (hmake eager (hg _).symm), hon]

end

namespace Resolver

/-- The answers of a resolver that knows no record at the start. -/
def answers (r : Resolver) (host : Host) (past : History) (requests : List Request) : List Answer :=
  (((r.serve host requests).run {}).run past).1.1

/-- The answers of a resolver that computes all records before it serves a request. -/
def eagerAnswers (r : Resolver) (host : Host) (past : History) (requests : List Request) :
    List Answer :=
  (((do let _ ← r.records; r.serve host requests : Session (List Answer)).run {}).run past).1.1

section
variable {dir : Directory} {n : Namespaces} {settings : Settings} {verdict? : Option Verdict}
  {host : Host} {past : History}

theorem serve_eq_runOn {touches : List FirstTouch} {m : Memory} {now eager : History}
    (h : (ofDirectory dir n settings verdict?).Reached past touches m now)
    (hg : History.SameGroups now eager) (requests : List Request) :
    ((((ofDirectory dir n settings verdict?).serve host requests).run m).run now).1.1 =
      (((Procedure.ofRequests settings requests).runOn
        ((ofDirectory dir n settings verdict?).alone past) host).run eager).1 := by
  obtain ⟨answer, _, _, _, _, hrun, hon, -, -⟩ :=
    (Procedure.ofRequests settings requests).run_eq_runOn host h hg
  have hserve := Procedure.run_ofRequests (ofDirectory dir n settings verdict?) host requests
  rw [← hserve, hon]
  exact congrArg (·.1.1) hrun

theorem answers_eq_runOn (requests : List Request) :
    (ofDirectory dir n settings verdict?).answers host past requests =
      (((Procedure.ofRequests settings requests).runOn
        ((ofDirectory dir n settings verdict?).alone past) host).run past).1 :=
  serve_eq_runOn .start (fun _ => rfl) requests

theorem eagerAnswers_eq_runOn (requests : List Request) :
    (ofDirectory dir n settings verdict?).eagerAnswers host past requests =
      (((Procedure.ofRequests settings requests).runOn
        ((ofDirectory dir n settings verdict?).alone past) host).run past).1 := by
  obtain ⟨cs, more, m, now, eager, hall, hon, h, hg⟩ :=
    (Procedure.getAll Transport.all).run_eq_runOn host
      (.start (r := ofDirectory dir n settings verdict?)) fun _ => rfl
  rw [Procedure.runOn_getAll] at hon
  cases hon
  rw [Procedure.run_getAll] at hall
  unfold eagerAnswers records
  rw [Session.run_bind_of_run hall]
  exact serve_eq_runOn h hg requests

/-- Each answer is the one by the table of the records alone. -/
theorem forall₂_answers (requests : List Request) :
    List.Forall₂
      (fun q a => ∃ before, a = q.answerFrom settings
        ((ofDirectory dir n settings verdict?).alone past) host before)
      requests ((ofDirectory dir n settings verdict?).answers host past requests) := by
  rw [answers_eq_runOn]
  exact Procedure.forall₂_runOn_ofRequests _ host settings requests past

/-- Each record that is kept is the one that the transport gets alone. -/
theorem eq_alone_of_serve {requests : List Request} {t : Transport} {c : Capability}
    (hc : ((((ofDirectory dir n settings verdict?).serve host requests).run {}).run
      past).1.2.record? t = some c) : c = (ofDirectory dir n settings verdict?).alone past t := by
  obtain ⟨touches, h⟩ := (ofDirectory dir n settings verdict?).reached_serve host past requests
  exact h.isolated.1 t c hc

end

end Resolver

/-- Answers that only depend on their requests stand beside them in any order. -/
theorem Request.filter_zip_eq {f : Request → Answer} {requests : List Request}
    {answers : List Answer}
    (h : List.Forall₂ (fun q a => q.isQuery = true → a = f q) requests answers) :
    (requests.zip answers).filter (·.1.isQuery) =
      (requests.filter (·.isQuery)).map fun q => (q, f q) := by
  induction h with
  | nil => rfl
  | @cons q a requests answers hqa _ ih =>
    rw [List.zip_cons_cons, List.filter_cons, List.filter_cons, ih]
    by_cases hq : q.isQuery = true
    · rw [if_pos hq, if_pos hq, List.map_cons, hqa hq]
    · rw [if_neg hq, if_neg hq]

/-- **The order of the requests does not matter.** Over a directory, every answer is the one given
by the table of the records that the transports get alone, and so is every record that is kept. A
resolver that computes all records up front gives the same answers, and in another order of the
requests each of those that ask for records gets the same answer. -/
theorem serve_order_independent (inserts : List Handle) (n : Namespaces) (settings : Settings)
    (verdict? : Option Verdict) (host : Host) (past : History) (requests : List Request) :
    let r := Resolver.ofDirectory (Directory.empty.insertAll inserts) n settings verdict?
    List.Forall₂ (fun q a => ∃ before, a = q.answerFrom settings (r.alone past) host before)
        requests (r.answers host past requests) ∧
      (∀ t c, (((r.serve host requests).run {}).run past).1.2.record? t = some c →
        c = r.alone past t) ∧
      r.answers host past requests = r.eagerAnswers host past requests ∧
      ∀ requests', requests.Perm requests' →
        ((requests.zip (r.answers host past requests)).filter (·.1.isQuery)).Perm
          ((requests'.zip (r.answers host past requests')).filter (·.1.isQuery)) := by
  intro r
  have hzip : ∀ requests : List Request,
      (requests.zip (r.answers host past requests)).filter (·.1.isQuery) =
        (requests.filter (·.isQuery)).map fun q =>
          (q, q.answerFrom settings (r.alone past) host past) := by
    intro requests
    refine Request.filter_zip_eq ((Resolver.forall₂_answers requests).imp ?_)
    rintro q _ ⟨before, rfl⟩ hq
    exact Request.answerFrom_of_isQuery hq before past
  refine ⟨Resolver.forall₂_answers requests, fun t c => Resolver.eq_alone_of_serve, ?_,
    fun requests' hp => ?_⟩
  · rw [Resolver.answers_eq_runOn, Resolver.eagerAnswers_eq_runOn]
  · rw [hzip, hzip]
    exact (hp.filter _).map _

end Transports
