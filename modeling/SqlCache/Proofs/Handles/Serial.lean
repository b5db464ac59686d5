import SqlCache.Proofs.Handles.Basic

/-!
Runs on a file are serialisable. `serial` reorders the events of a run: statements stay where they
are, a transaction that is committed moves as a whole to its commit, and what failed on the lock,
was rolled back or is still open is left out. The reordered events are a run of their own, with the
same answers and the same committed tables at its end.

The argument is that nobody can write while a transaction is open. So the transaction could as well
have begun just now: its events so far, put one after the other, lead from the committed tables of
this moment to the present state (`Pending`).
-/

set_option autoImplicit false

namespace SqlCache.Handles

variable {τ α : Type}

namespace Event

/-- Does the event belong to the open transaction of a handle? -/
def isInside (h : Nat) : Event τ α → Bool
  | within k .. | nested k .. => decide (k = h)
  | _ => false

/-- Can the event have changed the committed tables? It is a statement that did not fail on the
lock, or a commit. -/
def isEffective : Event τ α → Bool
  | statement _ _ reply => !isLocked reply
  | finish _ _ (.ok _) => true
  | _ => false

end Event

/-- The events of a run with each committed transaction moved to its commit. `pending` are the
events of the open transaction so far. -/
def serialFrom : (pending : List (Event τ α)) → List (Event τ α) → List (Event τ α)
  | _, [] => []
  | pending, e :: es =>
    match e with
    | .statement _ _ reply =>
      if isLocked reply then serialFrom pending es else e :: serialFrom pending es
    | .begin _ _ (.error _) => serialFrom pending es
    | .begin _ _ (.ok ()) | .within .. | .nested .. => serialFrom (pending ++ [e]) es
    | .finish _ _ (.ok _) => pending ++ e :: serialFrom [] es
    | .finish _ _ (.error _) => serialFrom [] es

/-- The events of a run, one transaction after the other. -/
def serial (events : List (Event τ α)) : List (Event τ α) := serialFrom [] events

/-- Events where every transaction is committed, and nothing happens between its beginning and its
commit but the operations of its body. -/
inductive IsSerial : List (Event τ α) → Prop where
  | nil : IsSerial []
  | statement {h : Nat} {q : Statement} {reply : q.Reply} {es : List (Event τ α)}
      (rest : IsSerial es) : IsSerial (.statement h q reply :: es)
  | transaction {h : Nat} {task : τ} {inside es : List (Event τ α)} {a : α}
      (own : ∀ e ∈ inside, e.isInside h = true) (rest : IsSerial es) :
      IsSerial (.begin h task (.ok ()) :: (inside ++ .finish h task (.ok a) :: es))

/-- What the open transaction of a handle goes on to do, up to its end. -/
def transactionOf (h : Nat) : List (Event τ α) → List (Event τ α)
  | [] => []
  | e :: es =>
    match e with
    | .finish k .. => if k = h then [e] else transactionOf h es
    | _ => if e.isInside h then e :: transactionOf h es else transactionOf h es

/-! ## The open transaction, begun just now -/

/-- The events of the open transaction, one after the other, lead from the committed tables to the
present state. -/
inductive Pending (body : τ → Body α) : Handles τ α → List (Event τ α) → Prop where
  | idle {d : Database} (hd : d.draft = none) : Pending body (start d) []
  | running {s : Handles τ α} {h : Nat} {task : τ} {script : Script (Result α)}
      {inside : List (Event τ α)} (hr : s.running h = some (task, script))
      (own : ∀ e ∈ inside, e.isInside h = true)
      (run : Run body (start s.database.rollback) (.begin h task (.ok ()) :: inside) s) :
      Pending body s (.begin h task (.ok ()) :: inside)

namespace Pending

variable {body : τ → Body α} {s t : Handles τ α} {pending : List (Event τ α)}

theorem oneWriter (p : Pending body s pending) : OneWriter s := by
  cases p with
  | idle hd => exact OneWriter.start _
  | running hr own run => exact run.oneWriter (OneWriter.start _)

theorem run (p : Pending body s pending) : Run body (start s.database.rollback) pending s := by
  cases p with
  | @idle d hd =>
      have hstart : (start d : Handles τ α).database.rollback = d :=
        Database.rollback_of_draft_eq_none hd
      rw [hstart]
      exact .nil _
  | running hr own run => exact run

/-- A handle that runs a transaction is the one whose events are pending. -/
theorem of_running {h : Nat} {task : τ} {script : Script (Result α)} (p : Pending body s pending)
    (hr : s.running h = some (task, script)) :
    ∃ inside, pending = .begin h task (.ok ()) :: inside ∧ ∀ e ∈ inside, e.isInside h = true := by
  have w := p.oneWriter
  cases p with
  | idle hd => simp [start] at hr
  | running hk own _ =>
      have hkh := w.unique hk hr
      subst hkh
      rw [hk] at hr
      cases hr
      exact ⟨_, rfl, own⟩

/-- A statement on a file fails on the lock and changes nothing, or could be put while no
transaction is open; the open transaction could have begun after it. -/
theorem statement (p : Pending body s pending) (hfile : s.database.sharing = .file) {h : Nat}
    {q : Statement} {reply : q.Reply} (step : Step body s (.statement h q reply) t) :
    (isLocked reply = true ∧ t = s) ∨
    (isLocked reply = false ∧ Pending body t pending ∧
      Run body (start s.database.rollback) [.statement h q reply] (start t.database.rollback)) := by
  cases step with
  | @statement d _ _ _ answers =>
      cases p with
      | @idle d₀ hd =>
          have hfree := Database.isLocked_execute_of_draft_eq_none hd q
          have hdraft := Database.execute_draft d₀ q
          have hanswer : d₀.execute q = (reply, d) := answers
          rw [hanswer] at hfree hdraft
          have hidle : d.draft = none := hdraft.trans hd
          refine Or.inr ⟨hfree, .idle hidle, ?_⟩
          have hstart : (start d₀ : Handles τ α).database.rollback = d₀ :=
            Database.rollback_of_draft_eq_none hd
          rw [hstart, Database.rollback_of_draft_eq_none hidle]
          exact .single (.statement hanswer)
      | running hr own run =>
          obtain ⟨draft, hopen⟩ :=
            (run.oneWriter (OneWriter.start _)).open_of_running hr
          rcases Database.execute_while_open hfile hopen q with ⟨hlocked, hsame⟩ | ⟨hsame, hkeep⟩
          · rw [answers] at hlocked hsame
            cases hsame
            exact Or.inl ⟨hlocked, rfl⟩
          · rw [hsame] at answers
            cases answers
            refine Or.inr ⟨?_, .running hr own run, ?_⟩
            · exact Database.isLocked_execute_of_draft_eq_none rfl q
            · exact .single (.statement (Prod.ext rfl hkeep))

/-- A transaction begins with itself alone pending. -/
theorem begun (p : Pending body s pending) {h : Nat} {task : τ}
    (step : Step body s (.begin h task (.ok ())) t) :
    pending = [] ∧ t.database.rollback = s.database.rollback ∧
      Pending body t [.begin h task (.ok ())] := by
  obtain ⟨hd, hdatabase, -⟩ := step.begun_spec
  have hsame : t.database.rollback = s.database.rollback := by
    rw [hdatabase]
    rfl
  have hidle : s = start s.database := p.oneWriter.eq_start_of_draft_eq_none hd
  have hstart : start t.database.rollback = s := by
    rw [hsame, Database.rollback_of_draft_eq_none hd, ← hidle]
  refine ⟨?_, hsame, .running step.running_of_begun (by simp) ?_⟩
  · cases p with
    | idle _ => rfl
    | running hr _ _ =>
        rw [hidle] at hr
        cases hr
  · rw [hstart]
    exact .single step

/-- A move inside of the open transaction is one more that is pending. -/
theorem inside (p : Pending body s pending) {h : Nat} {task : τ} {e : Event τ α}
    {x y : Script (Result α)} (hx : s.running h = some (task, x))
    (hy : t.running h = some (task, y)) (own : e.isInside h = true)
    (hsame : t.database.rollback = s.database.rollback) (step : Step body s e t) :
    Pending body t (pending ++ [e]) := by
  obtain ⟨inside, rfl, hinside⟩ := p.of_running hx
  refine .running hy ?_ ?_
  · intro f hf
    rcases List.mem_append.mp hf with hf | hf
    · exact hinside f hf
    · rw [List.mem_singleton.mp hf]
      exact own
  · rw [hsame]
    exact p.run.append (.single step)

/-- An operation of the open transaction is one more that is pending. -/
theorem within (p : Pending body s pending) {h : Nat} {task : τ} {now : Instant} {op : Operation}
    {reply : op.Reply} (step : Step body s (.within h task now op reply) t) :
    ∃ x y, s.running h = some (task, x) ∧ t.running h = some (task, y) ∧
      t.database.rollback = s.database.rollback ∧
      Pending body t (pending ++ [.within h task now op reply]) := by
  obtain ⟨next, draft, draft', running, -, ht, -⟩ := step.within_spec p.oneWriter
  have hy : t.running h = some (task, next reply) := by
    rw [ht]
    exact Function.update_self _ _ _
  have hsame : t.database.rollback = s.database.rollback := by
    rw [ht]
    rfl
  exact ⟨_, _, running, hy, hsame, p.inside running hy (by simp [Event.isInside]) hsame step⟩

end Pending

/-! ## Serial runs -/

section Serial

variable {body : τ → Body α} {s final : Handles τ α} {pending events : List (Event τ α)}

/-- What happens inside of a transaction has no effect yet. -/
theorem Event.isEffective_of_isInside {h : Nat} {e : Event τ α} (he : e.isInside h = true) :
    e.isEffective = false := by
  cases e with
  | within | nested => rfl
  | statement | begin | finish => simp [Event.isInside] at he

theorem IsSerial.append {es fs : List (Event τ α)} (first : IsSerial es) (rest : IsSerial fs) :
    IsSerial (es ++ fs) := by
  induction first with
  | nil => exact rest
  | statement _ ih => exact .statement ih
  | transaction own _ ih =>
      simp only [List.cons_append, List.append_assoc]
      exact .transaction own ih

/-- Events lead from `s` to `t`, and `front` is what the serial run has done of them meanwhile: the
events pending before and those pending after are still to be done. -/
structure Settled (body : τ → Body α) (s t : Handles τ α) (pending pending' : List (Event τ α))
    (events front : List (Event τ α)) : Prop where
  toDo : Pending body t pending'
  sharing : t.database.sharing = s.database.sharing
  serialFrom_append : ∀ rest,
    serialFrom pending (events ++ rest) = front ++ serialFrom pending' rest
  run : Run body (start s.database.rollback) front (start t.database.rollback)
  isSerial : IsSerial front
  effective : front.filter Event.isEffective = events.filter Event.isEffective

namespace Settled

variable {t u : Handles τ α} {pending' pending'' es fs front back : List (Event τ α)}

theorem nil (p : Pending body s pending) : Settled body s s pending pending [] [] where
  toDo := p
  sharing := rfl
  serialFrom_append _ := rfl
  run := .nil _
  isSerial := .nil
  effective := rfl

theorem append (first : Settled body s t pending pending' es front)
    (rest : Settled body t u pending' pending'' fs back) :
    Settled body s u pending pending'' (es ++ fs) (front ++ back) where
  toDo := rest.toDo
  sharing := rest.sharing.trans first.sharing
  serialFrom_append more := by
    rw [List.append_assoc, first.serialFrom_append, rest.serialFrom_append, List.append_assoc]
  run := first.run.append rest.run
  isSerial := first.isSerial.append rest.isSerial
  effective := by rw [List.filter_append, List.filter_append, first.effective, rest.effective]

end Settled

/-- One move: either the serial run makes it as well, or it waits for the end of the transaction
that the move belongs to, or the move comes to nothing. -/
theorem Step.settled {t : Handles τ α} {e : Event τ α} (p : Pending body s pending)
    (hfile : s.database.sharing = .file) (step : Step body s e t) :
    ∃ pending' front, Settled body s t pending pending' [e] front := by
  have hsharing := step.sharing p.oneWriter
  cases e with
  | statement h q reply =>
      rcases p.statement hfile step with ⟨hlocked, rfl⟩ | ⟨hfree, p', hrun⟩
      · refine ⟨pending, [], p, hsharing, ?_, .nil _, .nil, ?_⟩
        · simp [serialFrom, hlocked]
        · simp [Event.isEffective, hlocked]
      · refine ⟨pending, [.statement h q reply], p', hsharing, ?_, hrun, .statement .nil, rfl⟩
        simp [serialFrom, hfree]
  | begin h task result =>
      cases result with
      | error e =>
          have hsame := step.eq_of_refused
          subst hsame
          exact ⟨pending, [], p, hsharing, fun _ => rfl, .nil _, .nil, rfl⟩
      | ok u =>
          obtain ⟨rfl, hsame, p'⟩ := p.begun step
          have hrun : Run body (start s.database.rollback) [] (start t.database.rollback) := by
            rw [hsame]
            exact .nil _
          exact ⟨_, [], p', hsharing, fun _ => rfl, hrun, .nil, rfl⟩
  | within h task now op reply =>
      obtain ⟨_, _, -, -, hsame, p'⟩ := p.within step
      have hrun : Run body (start s.database.rollback) [] (start t.database.rollback) := by
        rw [hsame]
        exact .nil _
      exact ⟨_, [], p', hsharing, fun _ => rfl, hrun, .nil, rfl⟩
  | nested h task result =>
      obtain ⟨⟨x, hx⟩, rfl, _⟩ := step.nested_spec
      have p' := p.inside hx hx (by simp [Event.isInside]) rfl step
      exact ⟨_, [], p', hsharing, fun _ => rfl, .nil _, .nil, rfl⟩
  | finish h task result =>
      obtain ⟨hr, ht, -, herror⟩ := step.finish_spec p.oneWriter
      have hd := step.draft_of_finish p.oneWriter
      have p' : Pending body t [] := ht ▸ .idle hd
      have hkeep : t.database.rollback = t.database := Database.rollback_of_draft_eq_none hd
      cases result with
      | error e =>
          have hrun : Run body (start s.database.rollback) [] (start t.database.rollback) := by
            rw [hkeep, herror e rfl]
            exact .nil _
          exact ⟨[], [], p', hsharing, fun _ => rfl, hrun, .nil, rfl⟩
      | ok a =>
          -- What was pending and the commit are one transaction of the serial run.
          have hwhole := p.run.append (.single step)
          rw [ht] at hwhole
          obtain ⟨inside, rfl, hinside⟩ := p.of_running hr
          have hnone : inside.filter Event.isEffective = [] :=
            List.filter_eq_nil_iff.mpr fun f hf => by
              simp [Event.isEffective_of_isInside (hinside f hf)]
          refine ⟨[], .begin h task (.ok ()) :: (inside ++ [.finish h task (.ok a)]), p', hsharing,
            ?_, ?_, .transaction hinside .nil, ?_⟩
          · simp [serialFrom]
          · rw [hkeep]
            exact hwhole
          · rw [List.filter_cons, List.filter_append, hnone]
            rfl

/-- The events of a run, put one transaction after the other, are a serial run to the same
committed tables. -/
theorem Run.settled (p : Pending body s pending) (hfile : s.database.sharing = .file)
    (run : Run body s events final) :
    ∃ pending' front, Settled body s final pending pending' events front := by
  induction run generalizing pending with
  | nil s => exact ⟨pending, [], .nil p⟩
  | cons step _ ih =>
      obtain ⟨pending', front, first⟩ := step.settled p hfile
      obtain ⟨pending'', back, rest⟩ := ih first.toDo (first.sharing.trans hfile)
      exact ⟨pending'', front ++ back, first.append rest⟩

end Serial

end SqlCache.Handles
