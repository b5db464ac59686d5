import SqlCache.Proofs.Handles.Serial

/-!
Handles on one file are serialisable. A run is as good as the serial one in which every committed
transaction runs at its commit, and a transaction runs as it would with nobody else at work. Main
result: `serializable`.
-/

set_option autoImplicit false

namespace SqlCache.Handles

variable {τ α : Type}

/-! ## A transaction by itself -/

section Alone

variable {body : τ → Body α} {s t final : Handles τ α} {pending events : List (Event τ α)}
variable {h : Nat} {task : τ} {x : Script (Result α)} {e : Event τ α}

theorem transactionOf_of_isInside (he : e.isInside h = true) (es : List (Event τ α)) :
    transactionOf h (e :: es) = e :: transactionOf h es := by
  cases e with
  | within | nested => simp [transactionOf, he]
  | statement | begin | finish => simp [Event.isInside] at he

theorem serialFrom_of_isInside (he : e.isInside h = true) (es : List (Event τ α)) :
    serialFrom pending (e :: es) = serialFrom (pending ++ [e]) es := by
  cases e with
  | within | nested => rfl
  | statement | begin | finish => simp [Event.isInside] at he

/-- While a handle is in a transaction, a move is the end of this transaction, or belongs to it, or
changes nothing. -/
theorem Step.while_running (p : Pending body s pending) (hfile : s.database.sharing = .file)
    (hr : s.running h = some (task, x)) (step : Step body s e t) :
    (∃ result, e = .finish h task result) ∨
    (e.isInside h = true ∧ (∃ y, t.running h = some (task, y)) ∧ Pending body t (pending ++ [e])) ∨
    (t = s ∧ ∀ es, transactionOf h (e :: es) = transactionOf h es ∧
      serialFrom pending es <:+ serialFrom pending (e :: es)) := by
  have w := p.oneWriter
  cases e with
  | statement k q reply =>
      right; right
      obtain ⟨draft, hd⟩ := w.open_of_running hr
      rcases step.statement_spec with hsame | ⟨hidle, -⟩
      · refine ⟨hsame, fun es => ⟨rfl, ?_⟩⟩
        simp only [serialFrom]
        split
        · exact List.suffix_refl _
        · exact List.suffix_cons _ _
      · rw [hd] at hidle
        cases hidle
  | begin k other result =>
      cases result with
      | error f => exact Or.inr (Or.inr ⟨step.eq_of_refused, fun es => ⟨rfl, List.suffix_refl _⟩⟩)
      | ok u =>
          obtain ⟨rfl, -, -⟩ := p.begun step
          obtain ⟨inside, hpending, -⟩ := p.of_running hr
          cases hpending
  | within k other now op reply =>
      obtain ⟨a, b, ha, hb, -, p'⟩ := p.within step
      have hkh := w.unique hr ha
      subst hkh
      rw [hr] at ha
      cases ha
      have own : (Event.within h task now op reply : Event τ α).isInside h = true := by
        simp [Event.isInside]
      exact Or.inr (Or.inl ⟨own, ⟨b, hb⟩, p'⟩)
  | nested k other result =>
      obtain ⟨⟨a, ha⟩, rfl, -⟩ := step.nested_spec
      have hkh := w.unique hr ha
      subst hkh
      rw [hr] at ha
      cases ha
      have own : (Event.nested h task result : Event τ α).isInside h = true := by
        simp [Event.isInside]
      exact Or.inr (Or.inl ⟨own, ⟨x, hr⟩, p.inside hr hr own rfl step⟩)
  | finish k other result =>
      obtain ⟨ha, -, -, -⟩ := step.finish_spec w
      have hkh := w.unique hr ha
      subst hkh
      rw [hr] at ha
      cases ha
      exact Or.inl ⟨result, rfl⟩

/-- What a transaction does it can do with nobody else at work. -/
theorem Run.alone (p : Pending body s pending) (hfile : s.database.sharing = .file)
    (hr : s.running h = some (task, x)) (run : Run body s events final) :
    ∃ last, Run body s (transactionOf h events) last := by
  induction run generalizing pending x with
  | nil s => exact ⟨s, .nil s⟩
  | @cons s t u e es step rest ih =>
      have hfile' := (step.sharing p.oneWriter).trans hfile
      rcases step.while_running p hfile hr with ⟨result, rfl⟩ | ⟨own, ⟨y, hy⟩, p'⟩ | ⟨rfl, hskip⟩
      · simp only [transactionOf, if_true]
        exact ⟨t, .single step⟩
      · obtain ⟨last, hlast⟩ := ih p' hfile' hy
        rw [transactionOf_of_isInside own]
        exact ⟨last, .cons step hlast⟩
      · rw [(hskip es).1]
        exact ih p hfile' hr

/-- A transaction that is committed stands in the serial run as it was. -/
theorem Run.isInfix_serialFrom (p : Pending body s pending) (hfile : s.database.sharing = .file)
    (hr : s.running h = some (task, x)) (run : Run body s events final) {a : α}
    (commit : .finish h task (.ok a) ∈ transactionOf h events) :
    pending ++ transactionOf h events <:+: serialFrom pending events := by
  induction run generalizing pending x with
  | nil s => simp [transactionOf] at commit
  | @cons s t u e es step rest ih =>
      have hfile' := (step.sharing p.oneWriter).trans hfile
      rcases step.while_running p hfile hr with ⟨result, rfl⟩ | ⟨own, ⟨y, hy⟩, p'⟩ | ⟨rfl, hskip⟩
      · simp only [transactionOf, if_true, List.mem_singleton, Event.finish.injEq,
          true_and] at commit ⊢
        subst commit
        exact ⟨[], serialFrom [] es, by simp [serialFrom]⟩
      · rw [transactionOf_of_isInside own] at commit ⊢
        rw [serialFrom_of_isInside own]
        have hne : (.finish h task (.ok a) : Event τ α) ≠ e := by
          rintro rfl
          simp [Event.isInside] at own
        have hlater := (List.mem_cons.mp commit).resolve_left hne
        have hinfix := ih p' hfile' hy hlater
        rwa [List.append_assoc, List.singleton_append] at hinfix
      · obtain ⟨hsame, hsuffix⟩ := hskip es
        rw [hsame] at commit ⊢
        exact (ih p hfile' hr commit).trans hsuffix.isInfix

end Alone

/-- A move without effect leaves the committed tables as they are. -/
theorem Step.committed_of_not_effective {body : τ → Body α} {s t : Handles τ α} {e : Event τ α}
    {pending : List (Event τ α)} (p : Pending body s pending) (hfile : s.database.sharing = .file)
    (he : e.isEffective = false) (step : Step body s e t) :
    t.database.committed = s.database.committed := by
  cases e with
  | statement h q reply =>
      rcases p.statement hfile step with ⟨_, rfl⟩ | ⟨hfree, -⟩
      · rfl
      · simp [Event.isEffective, hfree] at he
  | begin h task result =>
      cases result with
      | error e => rw [step.eq_of_refused]
      | ok u =>
          obtain ⟨-, hsame, -⟩ := p.begun step
          exact Database.committed_eq_of_rollback_eq hsame
  | within h task now op reply =>
      obtain ⟨_, _, _, -, -, rfl, -⟩ := step.within_spec p.oneWriter
      rfl
  | nested h task result => rw [step.nested_spec.2.1]
  | finish h task result =>
      obtain ⟨-, -, -, herror⟩ := step.finish_spec p.oneWriter
      cases result with
      | ok a => simp [Event.isEffective] at he
      | error e =>
          rw [herror e rfl]
          rfl

/-- A run without effect leaves the committed tables as they are. -/
theorem Run.committed_of_not_effective {body : τ → Body α} {s t : Handles τ α}
    {events pending : List (Event τ α)} (p : Pending body s pending)
    (hfile : s.database.sharing = .file) (he : ∀ e ∈ events, e.isEffective = false)
    (run : Run body s events t) : t.database.committed = s.database.committed := by
  induction run generalizing pending with
  | nil s => rfl
  | cons step _ ih =>
      obtain ⟨pending', front, settled⟩ := step.settled p hfile
      have hfirst := step.committed_of_not_effective p hfile (he _ (by simp))
      have hrest := ih settled.toDo (settled.sharing.trans hfile)
        fun e hmem => he e (List.mem_cons_of_mem _ hmem)
      exact hrest.trans hfirst

/-! ## A transaction at once -/

section AtOnce

variable {body : τ → Body α} {h : Nat} {task : τ}

/-- What is left of the body of a transaction can be done without a break. -/
theorem Run.of_script (now : Instant) (script : Script (Result α)) {s : Handles τ α}
    (hr : s.running h = some (task, script)) :
    ∃ inside t outcome, Run body s inside t ∧ (∀ e ∈ inside, e.isInside h = true) ∧
      t.running h = some (task, .done outcome) ∧
      script.run (Database.backend.within now ⟨true⟩) s.database = (outcome, t.database) := by
  induction script generalizing s with
  | done outcome => exact ⟨[], s, outcome, .nil s, by simp, hr, rfl⟩
  | ask op next ih =>
      let reply := (s.database.applyInside now op).1
      let s' : Handles τ α := ⟨(s.database.applyInside now op).2,
        Function.update s.running h (some (task, next reply))⟩
      have step : Step body s (.within h task now op reply) s' := .within hr rfl
      have hr' : s'.running h = some (task, next reply) := Function.update_self _ _ _
      obtain ⟨inside, t, outcome, run, own, hdone, hrun⟩ := ih reply hr'
      refine ⟨.within h task now op reply :: inside, t, outcome, .cons step run, ?_, hdone, hrun⟩
      intro e he
      rcases List.mem_cons.mp he with rfl | he
      · simp [Event.isInside]
      · exact own e he

/-- Where a transaction can begin, it is a run of one handle that does it without a break. -/
theorem Run.of_transaction (now : Instant) {d : Database} (hd : d.draft = none)
    (hshared : d.sharing ≠ .nothing) {result : Result α} {d' : Database}
    (h : Nat) (answers : Database.backend.transaction now (body task) d = (result, d')) :
    ∃ inside, (∀ e ∈ inside, e.isInside h = true) ∧ Run body (start d)
      (.begin h task (.ok ()) :: (inside ++ [.finish h task result])) (start d') := by
  have hbegin := Database.begin_of_draft_eq_none hd hshared
  have step : Step body (start d) (.begin h task (.ok ())) _ :=
    .begun rfl hshared hbegin
  obtain ⟨inside, t, outcome, run, own, hdone, hrun⟩ :=
    Run.of_script now _ step.running_of_begun
  have hbegun : Run body (start d) (.begin h task (.ok ()) :: inside) t := .cons step run
  have hlast : Step body t (.finish h task result) ⟨d', Function.update t.running h none⟩ := by
    refine .finish hdone ?_
    rw [← answers, Database.transaction_of_begin_ok hbegin]
    rw [show (body task).run.run _ _ = (outcome, t.database) from hrun]
  rw [(hbegun.oneWriter (OneWriter.start d)).update_none_eq_start d' hdone] at hlast
  exact ⟨inside, own, hbegun.append (.single hlast)⟩

end AtOnce

section Serializable

variable {body : τ → Body α} {d : Database} {events : List (Event τ α)} {final : Handles τ α}

theorem start_rollback (hidle : d.draft = none) :
    (start (start d : Handles τ α).database.rollback : Handles τ α) = start d :=
  congrArg start (Database.rollback_of_draft_eq_none hidle)

/-- Every run on a file, of any number of handles in any order, is as good as its serial run, which
has the same effects in the same order and ends with the same committed tables; a committed
transaction stands in it as a whole, with all of its answers. What has no effect leaves the
committed tables alone. The operations of a transaction, committed or not, answer what they would
answer if it ran alone on the tables committed when it began; and a transaction that cannot begin
fails on the lock. -/
theorem serializable (hfile : d.sharing = .file) (hidle : d.draft = none)
    (run : Run body (start d) events final) :
    IsSerial (serial events) ∧
    Run body (start d) (serial events) (start final.database.rollback) ∧
    (serial events).filter Event.isEffective = events.filter Event.isEffective ∧
    (∀ before h task after a, events = before ++ .begin h task (.ok ()) :: after →
      .finish h task (.ok a) ∈ transactionOf h after →
      .begin h task (.ok ()) :: transactionOf h after <:+: serial events) ∧
    (∀ before e s t, before ++ [e] <+: events → Run body (start d) before s → Step body s e t →
      e.isEffective = false → t.database.committed = s.database.committed) ∧
    (∀ before h task after s, events = before ++ .begin h task (.ok ()) :: after →
      Run body (start d) before s → Run body s (.begin h task (.ok ()) :: after) final →
      ∃ last, Run body (start s.database.rollback)
        (.begin h task (.ok ()) :: transactionOf h after) last) ∧
    (∀ h task e, .begin h task (.error e) ∈ events → e = .store .locked) := by
  have p : Pending body (start d) ([] : List (Event τ α)) := .idle hidle
  have settle : ∀ {es : List (Event τ α)} {s}, Run body (start d) es s →
      ∃ pending front, Settled body (start d) s [] pending es front :=
    fun r => r.settled p hfile
  have hsharing : ∀ {es : List (Event τ α)} {s}, Run body (start d) es s →
      s.database.sharing = .file := by
    intro es s r
    obtain ⟨_, _, settled⟩ := settle r
    exact settled.sharing.trans hfile
  obtain ⟨pending, front, settled⟩ := settle run
  have hserial : serial events = front := by
    have happend := settled.serialFrom_append []
    rwa [List.append_nil, serialFrom, List.append_nil] at happend
  refine ⟨?_, ?_, ?_, ?_, ?_, ?_, ?_⟩
  · rw [hserial]
    exact settled.isSerial
  · rw [hserial, ← start_rollback hidle]
    exact settled.run
  · rw [hserial]
    exact settled.effective
  · rintro before h task after a rfl commit
    obtain ⟨s, first, rest⟩ := Run.split before run
    obtain ⟨pending', front', settled'⟩ := settle first
    obtain ⟨t, step, rest⟩ := rest.uncons
    obtain ⟨rfl, -, p'⟩ := settled'.toDo.begun step
    have hfile' := (step.sharing settled'.toDo.oneWriter).trans (hsharing first)
    have hinfix := Run.isInfix_serialFrom p' hfile' step.running_of_begun rest commit
    rw [serial, settled'.serialFrom_append]
    exact hinfix.trans (List.suffix_append _ _).isInfix
  · rintro before e s t - first step he
    obtain ⟨_, _, settled'⟩ := settle first
    exact step.committed_of_not_effective settled'.toDo (hsharing first) he
  · rintro before h task after s rfl first rest
    obtain ⟨pending', front', settled'⟩ := settle first
    obtain ⟨t, step, rest⟩ := rest.uncons
    obtain ⟨rfl, hsame, p'⟩ := settled'.toDo.begun step
    have hfile' := (step.sharing settled'.toDo.oneWriter).trans (hsharing first)
    obtain ⟨last, hlast⟩ := Run.alone p' hfile' step.running_of_begun rest
    have hbegun : Run body (start s.database.rollback) [.begin h task (.ok ())] t := by
      rw [← hsame]
      exact p'.run
    exact ⟨last, hbegun.append hlast⟩
  · intro h task e hmem
    obtain ⟨before, after, rfl⟩ := List.append_of_mem hmem
    obtain ⟨s, first, rest⟩ := Run.split before run
    obtain ⟨t, step, _⟩ := rest.uncons
    exact step.locked_of_refused (hsharing first)

end Serializable

/-- A transaction that publishes one message. -/
def publishing (message : String) : Body Unit := Body.call (.publish "news" message)

/-- Handle 0 is in a transaction while handle 1 reads, and fails to write and to begin. -/
def overlapping : List (Event String Unit) :=
  [.begin 0 "hello" (.ok ()),
    .statement 1 (.operate ⟨0⟩ (.ttl "k")) (.error .notFound),
    .within 0 "hello" ⟨0⟩ (.publish "news" "hello") (.ok ()),
    .statement 1 (.operate ⟨0⟩ (.delete "k")) (.error (.store .locked)),
    .begin 1 "again" (.error (.store .locked)),
    .finish 0 "hello" (.ok ())]

theorem serializable_overlapping :
    ∃ final, Run publishing (start (.empty .file)) overlapping final ∧
      IsSerial (serial overlapping) ∧
      Run publishing (start (.empty .file)) (serial overlapping) (start final.database.rollback) ∧
      (serial overlapping).length = 4 := by
  let d₀ : Database := .empty .file
  let d₁ : Database := { d₀ with draft := some ⟨.empty, []⟩ }
  let d₂ : Database := { d₀ with draft := some ⟨Store.empty.publish 0 "news" "hello", [.messages]⟩ }
  let d₃ : Database := { d₀ with committed := Store.empty.publish 0 "news" "hello" }
  let idle : Nat → Option (String × Script (Result Unit)) := fun _ => none
  let s₁ : Handles String Unit :=
    ⟨d₁, Function.update idle 0 (some ("hello", (publishing "hello").run))⟩
  let s₂ : Handles String Unit :=
    ⟨d₂, Function.update s₁.running 0 (some ("hello", .done (.ok ())))⟩
  let s₃ : Handles String Unit := ⟨d₃, Function.update s₂.running 0 none⟩
  have begun : Step publishing (start d₀) (.begin 0 "hello" (.ok ())) s₁ :=
    .begun rfl (by decide) rfl
  have read : Step publishing s₁ (.statement 1 (.operate ⟨0⟩ (.ttl "k")) (.error .notFound)) s₁ :=
    .statement rfl
  have published : Step publishing s₁
      (.within 0 "hello" ⟨0⟩ (.publish "news" "hello") (.ok ())) s₂ := .within rfl rfl
  have kept : Step publishing s₂
      (.statement 1 (.operate ⟨0⟩ (.delete "k")) (.error (.store .locked))) s₂ := .statement rfl
  have refused : Step publishing s₂ (.begin 1 "again" (.error (.store .locked))) s₂ :=
    .refused rfl rfl
  have committed : Step publishing s₂ (.finish 0 "hello" (.ok ())) s₃ := .finish rfl rfl
  have run : Run publishing (start d₀) overlapping s₃ :=
    .cons begun (.cons read (.cons published (.cons kept (.cons refused (.single committed)))))
  obtain ⟨hserial, hrun, -⟩ := serializable rfl rfl run
  exact ⟨s₃, run, hserial, hrun, rfl⟩

end SqlCache.Handles
