import SqlCache.Proofs.Counter.Sums
import SqlCache.Proofs.Postgres.ReadCommitted
import SqlCache.Proofs.Postgres.Transaction

/-!
Counters on a server at READ COMMITTED. An increment asks for the lock of its key before it reads
the key, and keeps the lock to its end; so nobody commits another value between its read and its
commit, although each of its statements sees what was committed by then. Main result:
`ReadCommitted.loses_no_update`.

What is known of an increment under way is `Known`; at most one holds the lock, and all that is
known of the others does not depend on the counter (`Counting`).
-/

set_option autoImplicit false

namespace SqlCache.Postgres

open Counter Dialogue Exchange Text.Integer

/-! ## What is said in an increment -/

section Said

variable {α : Type} {op : Operation} {clock : Nat → Instant}

/-- An operation of one statement asks for its query and goes on with what the answer means. -/
theorem statements_ask {st : Statement} {f : Result Rows → op.Reply}
    (hrun : (ofOperation (clock 0) op).run = .ask st fun r => .done (f r))
    (next : op.Reply → Script α) :
    statements clock (.ask op next) =
      .ask st fun r => statements (fun n => clock (n + 1)) (next (f r)) := by
  rw [statements, hrun]
  rfl

/-- What the answer to the statement that reads a key means. -/
def readReply : Result Rows → Result ByteArray := optionalRow fun row => (row.column 0).toBytes

/-- The statements of an increment with their answers. The lock is asked for first, then the value,
then, if the key is there, its expiry, and the write comes last; each only if the one before has
been answered, and the last two only if the value counts as an integer. The sum that is written is
in range. -/
inductive Said (key : String) (delta : Int) : List ((_ : Statement) × Result Rows) → Prop where
  | locking (reply : Result Rows) : Said key delta [⟨(Query.lock key).statement, reply⟩]
  | reading (granted : Rows) (now : Int) (reply : Result Rows) :
      Said key delta [⟨(Query.lock key).statement, .ok granted⟩,
        ⟨(Query.read key now).statement, reply⟩]
  | measuring (granted : Rows) (now : Int) {found : Result Rows} {value : Int} (later : Int)
      (reply : Result Rows) (counts : countOf? (readReply found) = some value) :
      Said key delta [⟨(Query.lock key).statement, .ok granted⟩,
        ⟨(Query.read key now).statement, found⟩, ⟨(Query.expiry key later).statement, reply⟩]
  | writing (granted : Rows) (now : Int) {found : Result Rows} {value : Int}
      {between : List ((_ : Statement) × Result Rows)} (expireAt later : Int) (reply : Result Rows)
      (counts : countOf? (readReply found) = some value)
      (measures : (readReply found = .error .notFound ∧ between = []) ∨
        ∃ now measured, between = [⟨(Query.expiry key now).statement, .ok measured⟩])
      (inRange : fits (value + delta) = true) :
      Said key delta (⟨(Query.lock key).statement, .ok granted⟩ ::
        ⟨(Query.read key now).statement, found⟩ :: between ++
        [⟨(Query.write key (encode (value + delta)).toUTF8 expireAt later).statement, reply⟩])

variable {σ : Type}

/-- An increment that knows its counter writes the sum if it is in range, and then it is done. -/
theorem transcript_adding (key : String) (delta value : Int) (remaining : Option Duration)
    (clock : Nat → Instant) (handle : (st : Statement) → σ → Result Rows × σ) (s : σ) :
    (statements clock (adding key delta value remaining)).transcript handle s = [] ∨
      (fits (value + delta) = true ∧ ∃ expireAt later reply,
        (statements clock (adding key delta value remaining)).transcript handle s =
          [⟨(Query.write key (encode (value + delta)).toUTF8 expireAt later).statement,
            reply⟩]) := by
  unfold adding
  split
  · next inRange =>
      rw [statements_ask (run_set _ _ _ _), transcript]
      refine Or.inr ⟨inRange, _, _, _, congrArg (List.cons _) ?_⟩
      cases (handle _ s).1 <;> rfl
  · exact Or.inl rfl

/-- Whatever a server answers, an increment says its statements in this order. -/
theorem said_increment (key : String) (delta : Int) (clock : Nat → Instant)
    (handle : (st : Statement) → σ → Result Rows × σ) (s : σ) :
    Said key delta ((statements clock (Counter.body key delta).run).transcript handle s) := by
  rw [body_run, statements_ask (run_lock _ _), transcript]
  cases (handle (Query.lock key).statement s).1 with
  | error e => exact .locking (.error e)
  | ok granted =>
      show Said key delta (_ :: (statements _ (.ask (.getBytes key) _)).transcript handle _)
      rw [statements_ask (run_getBytes _ _), transcript]
      generalize (handle (Query.lock key).statement s).2 = s
      generalize (handle (Query.read key _).statement s).1 = reply
      generalize (handle (Query.read key _).statement s).2 = s
      show Said key delta (_ :: _ :: (statements _ (found key delta (readReply reply))).transcript
        handle s)
      -- An absent key has no expiry to ask for; what is no integer ends the increment.
      rcases found_cases key delta (readReply reply) with ⟨habsent, hfound⟩ |
        ⟨bytes, value, -, hvalue, hfound⟩ | ⟨e, -, -, hfound⟩ | ⟨-, fault, hfound⟩
      · rw [hfound]
        rcases transcript_adding key delta 0 none _ handle s with hsaid |
          ⟨inRange, expireAt, later, written, hsaid⟩
        · rw [hsaid]
          exact .reading granted _ reply
        · rw [hsaid]
          exact .writing granted _ expireAt later written (by rw [habsent]; rfl)
            (Or.inl ⟨habsent, rfl⟩) inRange
      · rw [hfound, statements_ask (run_ttl _ _), transcript]
        cases hexpiry : (handle (Query.expiry key _).statement s).1 with
        | error e => exact .measuring granted _ _ (.error e) hvalue
        | ok rows =>
            show Said key delta (_ :: _ :: _ :: (statements _ (measured key delta value
              (optionalRow _ (.ok rows)))).transcript handle _)
            generalize optionalRow _ (.ok rows) = remaining
            cases remaining with
            | error e => exact .measuring granted _ _ (.ok rows) hvalue
            | ok remaining =>
                rcases transcript_adding key delta value remaining _ handle _ with
                  hsaid | ⟨inRange, expireAt, later, written, hsaid⟩
                · rw [measured, hsaid]
                  exact .measuring granted _ _ (.ok rows) hvalue
                · rw [measured, hsaid]
                  exact .writing granted _ expireAt later written hvalue
                    (Or.inr ⟨_, rows, rfl⟩) inRange
      · rw [hfound]
        exact .reading granted _ reply
      · rw [hfound]
        exact .reading granted _ reply

end Said

namespace ReadCommitted

/-! ## Counting increments -/

/-- The deltas of the increments that succeed, in the order of their commits. -/
def added (events : List Event) : List Int := events.filterMap Event.delta?

/-- What the increments answer that succeed, in the order of their commits. -/
def returned (events : List Event) : List Int := events.filterMap Event.value?

/-- What is read is what the row that is seen counts as. -/
theorem countOf?_answer (key : String) (now : Int) (seen : Keys) :
    countOf? (readReply (.ok ((Query.read key now).answer seen))) =
      valueOf? ((seen key).filter (ScalarRow.isLive now)) := by
  rw [Query.answer]
  cases (seen key).filter (ScalarRow.isLive now) <;> rfl

/-! ## What is known of an increment -/

/-- What is left of an increment that is under way, and what is known with it. The counter of its
key is `count`, if the key holds one; this has been found out under the lock. -/
inductive Known (key : String) (count : Option Int) : Call → Prop where
  | waiting {delta : Int} {clock : Nat → Instant} {begun : Option Keys} {own : Keys}
      (untouched : own key = none) :
      Known key count
        ⟨delta, statements clock (.ask (.lock key) (locked key delta)), begun, false, own⟩
  | reading {delta : Int} {clock : Nat → Instant} {begun : Option Keys} {own : Keys}
      (untouched : own key = none)
      (sees : ∀ keys ∈ begun,
        valueOf? ((keys key).filter (ScalarRow.isLive (clock 0).micros)) = count) :
      Known key count
        ⟨delta, statements clock (.ask (.getBytes key) (found key delta)), begun, true, own⟩
  | measuring {delta value : Int} {clock : Nat → Instant} {begun : Option Keys} {own : Keys}
      (known : count = some value) :
      Known key count
        ⟨delta, statements clock (.ask (.ttl key) (measured key delta value)), begun, true, own⟩
  | writing {delta value : Int} {clock : Nat → Instant} {begun : Option Keys} {own : Keys}
      {ttl : Duration} (known : count = some value) (inRange : fits (value + delta) = true) :
      Known key count
        ⟨delta, statements clock (.ask (.set key (encode (value + delta)).toUTF8 ttl)
          (ended (value + delta))), begun, true, own⟩
  | written {delta value : Int} {begun : Option Keys} {own : Keys} {row : ScalarRow}
      (known : count = some value) (inRange : fits (value + delta) = true)
      (holds : own key = some row) (canonical : row.value = (encode (value + delta)).toUTF8) :
      Known key count ⟨delta, .done (.ok (value + delta)), begun, true, own⟩
  | failed {delta : Int} {begun : Option Keys} {holds : Bool} {own : Keys} {e : CacheError} :
      Known key count ⟨delta, .done (.error e), begun, holds, own⟩

/-- The statement that an operation asks for is the next one of what is left. -/
theorem eq_of_asks {α : Type} {op : Operation} {p q : Query} {f : Result Rows → op.Reply}
    {clock : Nat → Instant} {rest : op.Reply → Script α}
    {next : Result Rows → Dialogue Statement Statement.Reply α}
    (hrun : (ofOperation (clock 0) op).run = .ask p.statement fun r => .done (f r))
    (asks : statements clock (.ask op rest) = .ask q.statement next) :
    p = q ∧ next = fun r => statements (fun n => clock (n + 1)) (rest (f r)) := by
  rw [statements_ask hrun] at asks
  injection asks with hstatement hnext
  exact ⟨Query.statement_injective hstatement, hnext.symm⟩

namespace Known

variable {key : String} {count : Option Int} {c : Call} {q : Query}
  {next : Result Rows → Dialogue Statement Statement.Reply (Result Int)}

theorem started (key : String) (count : Option Int) (delta : Int) (clock : Nat → Instant) :
    Known key count (.started key delta clock) := by
  rw [Call.started, body_run]
  exact .waiting rfl

/-- Of an increment that does not hold the lock nothing is known about the counter. -/
theorem of_not_holds (known : Known key count c) (holds : c.holds = false) (other : Option Int) :
    Known key other c := by
  cases known with
  | waiting untouched => exact .waiting untouched
  | failed => exact .failed
  | reading | measuring | writing | written => cases holds

/-- An increment that knows its counter writes the sum, or fails because the sum does not fit. -/
theorem adding {delta value : Int} {own : Keys} (known : count = some value)
    (clock : Nat → Instant) (remaining : Option Duration) :
    Known key count ⟨delta, statements clock (Counter.adding key delta value remaining), none,
      true, own⟩ := by
  unfold Counter.adding
  split
  · next inRange => exact .writing known inRange
  · exact .failed

/-- A statement begins. -/
theorem send (known : Known key count c) (asks : c.rest = .ask q.statement next) {keys : Keys}
    (sees : ∀ now, q = .read key now →
      valueOf? ((keys key).filter (ScalarRow.isLive now)) = count) :
    Known key count { c with begun := some keys } := by
  cases known with
  | waiting untouched => exact .waiting untouched
  | @reading _ clock _ _ untouched _ =>
      obtain ⟨hq, -⟩ := eq_of_asks (run_getBytes _ _) asks
      refine .reading untouched fun seen hseen => ?_
      obtain rfl := Option.mem_some.mp hseen
      exact sees _ hq.symm
  | measuring known => exact .measuring known
  | writing known inRange => exact .writing known inRange
  | written | failed => cases asks

/-- A statement is answered. -/
theorem answer (known : Known key count c) (asks : c.rest = .ask q.statement next) {begun : Keys}
    (sent : c.begun = some begun) (current : Keys) :
    Known key count { c with
      rest := next (.ok (q.answer (overlay c.own begun)))
      begun := none
      holds := c.holds || q.isLock
      own := q.written current c.own } := by
  cases known with
  | waiting untouched =>
      obtain ⟨rfl, rfl⟩ := eq_of_asks (run_lock _ _) asks
      exact .reading untouched (by simp)
  | @reading delta clock _ own untouched sees =>
      obtain ⟨rfl, rfl⟩ := eq_of_asks (run_getBytes _ _) asks
      have hcount : countOf? (readReply (.ok ((Query.read key (clock 0).micros).answer
          (overlay own begun)))) = count := by
        rw [countOf?_answer, overlay_of_none untouched, sees begun sent]
      show Known key count ⟨delta, statements _ (found key delta (readReply _)), none, true, own⟩
      rcases found_cases key delta (readReply (.ok ((Query.read key (clock 0).micros).answer
          (overlay own begun)))) with ⟨habsent, hfound⟩ |
        ⟨bytes, value, -, hvalue, hfound⟩ | ⟨e, -, -, hfound⟩ | ⟨-, fault, hfound⟩
      · rw [habsent] at hcount
        rw [hfound]
        exact adding hcount.symm _ none
      · rw [hfound]
        exact .measuring (hcount.symm.trans hvalue)
      · rw [hfound]
        exact .failed
      · rw [hfound]
        exact .failed
  | @measuring delta value clock _ own known =>
      obtain ⟨rfl, rfl⟩ := eq_of_asks (run_ttl _ _) asks
      show Known key count ⟨delta, statements _ (measured key delta value
        (optionalRow _ (.ok ((Query.expiry key (clock 0).micros).answer _)))), none, true, own⟩
      generalize optionalRow _ (.ok ((Query.expiry key _).answer _)) = remaining
      cases remaining with
      | ok remaining => exact adding known _ remaining
      | error e => exact .failed
  | writing known inRange =>
      obtain ⟨rfl, rfl⟩ := eq_of_asks (run_set _ _ _ _) asks
      exact .written known inRange (Function.update_self _ _ _) rfl
  | written | failed => cases asks

/-- A statement fails, and with it the increment. -/
theorem fail (known : Known key count c) (asks : c.rest = .ask q.statement next) :
    Known key count { c with
      rest := next (.error (.store .statementFailed))
      begun := none } := by
  cases known with
  | waiting =>
      obtain ⟨rfl, rfl⟩ := eq_of_asks (run_lock _ _) asks
      exact .failed
  | reading =>
      obtain ⟨rfl, rfl⟩ := eq_of_asks (run_getBytes _ _) asks
      exact .failed
  | measuring =>
      obtain ⟨rfl, rfl⟩ := eq_of_asks (run_ttl _ _) asks
      exact .failed
  | writing =>
      obtain ⟨rfl, rfl⟩ := eq_of_asks (run_set _ _ _ _) asks
      exact .failed
  | written | failed => cases asks

/-- An increment that succeeds answers the sum of its counter and its delta, and has written it. -/
theorem of_ok {value : Int} (known : Known key count c) (ended : c.rest = .done (.ok value)) :
    c.holds = true ∧ ∃ before, count = some before ∧ value = before + c.delta ∧
      fits value = true ∧ ∃ row, c.own key = some row ∧ row.value = (encode value).toUTF8 := by
  cases known with
  | waiting =>
      rw [statements_ask (run_lock _ _)] at ended
      cases ended
  | reading =>
      rw [statements_ask (run_getBytes _ _)] at ended
      cases ended
  | measuring =>
      rw [statements_ask (run_ttl _ _)] at ended
      cases ended
  | writing =>
      rw [statements_ask (run_set _ _ _ _)] at ended
      cases ended
  | written known inRange holds canonical =>
      cases ended
      exact ⟨rfl, _, known, rfl, inRange, _, holds, canonical⟩
  | failed => cases ended

end Known

/-! ## The counter at a moment -/

/-- The key's counter is `count`, if it holds one. Once an increment has succeeded (`written`), the
committed row of the key is the counter's text. At most one increment holds the lock. -/
structure Counting (key : String) (count : Option Int) (live written : Bool) (s : Connections) :
    Prop where
  counts : countIf live (s.committed key) = count
  stored : written = true → live = true ∧ ∃ value row, count = some value ∧
    s.committed key = some row ∧ row.value = (encode value).toUTF8
  oneHolder : ∀ {h k c d}, s.calls h = some c → s.calls k = some d → c.holds = true →
    d.holds = true → h = k
  known : ∀ {h c}, s.calls h = some c → Known key count c

/-- A call comes to another state, or to its end; every other call stays as it is. -/
theorem Connections.put_calls {s : Connections} {h k : Nat} {call? : Option Call} {c : Call}
    (hc : (s.put h call?).calls k = some c) :
    (k = h ∧ call? = some c) ∨ (k ≠ h ∧ s.calls k = some c) := by
  have hupdate : Function.update s.calls h call? k = some c := hc
  by_cases hk : k = h
  · rw [hk, Function.update_self] at hupdate
    exact Or.inl ⟨hk, hupdate⟩
  · rw [Function.update_of_ne hk] at hupdate
    exact Or.inr ⟨hk, hupdate⟩

namespace Counting

variable {key : String} {count : Option Int} {live written : Bool} {s t : Connections}

/-- While no increment is under way, all there is to know is what is committed. -/
theorem of_quiet (quiet : ∀ h, s.calls h = none) :
    Counting key (countIf live (s.committed key)) live false s where
  counts := rfl
  stored hwritten := by cases hwritten
  oneHolder hc := by simp [quiet] at hc
  known hc := by simp [quiet] at hc

/-- One call comes to another state, in which it holds the lock only if no other one does, or to its
end. -/
theorem of_put (counting : Counting key count live written s) {h : Nat} {call? : Option Call}
    (known : ∀ c, call? = some c → Known key count c)
    (holder : ∀ c, call? = some c → c.holds = true →
      ∀ k d, s.calls k = some d → d.holds = true → k = h) :
    Counting key count live written (s.put h call?) where
  counts := counting.counts
  stored := counting.stored
  oneHolder := by
    intro i j a b ha hb holdsA holdsB
    rcases Connections.put_calls ha with ⟨hi, hput⟩ | ⟨-, ha⟩
    · rcases Connections.put_calls hb with ⟨hj, -⟩ | ⟨-, hb⟩
      · rw [hi, hj]
      · rw [hi, holder a hput holdsA j b hb holdsB]
    · rcases Connections.put_calls hb with ⟨hj, hput⟩ | ⟨-, hb⟩
      · rw [hj, holder b hput holdsB i a ha holdsA]
      · exact counting.oneHolder ha hb holdsA holdsB
  known := by
    intro i a ha
    rcases Connections.put_calls ha with ⟨-, hput⟩ | ⟨-, ha⟩
    · exact known a hput
    · exact counting.known ha

theorem put (counting : Counting key count live written s) {h : Nat} {c : Call}
    (known : Known key count c)
    (holder : c.holds = true → ∀ k d, s.calls k = some d → d.holds = true → k = h) :
    Counting key count live written (s.put h (some c)) :=
  counting.of_put (fun _ hc => Option.some.inj hc ▸ known) fun _ hc => Option.some.inj hc ▸ holder

theorem drop (counting : Counting key count live written s) (h : Nat) :
    Counting key count live written (s.put h none) :=
  counting.of_put (fun _ hc => nomatch hc) fun _ hc => nomatch hc

/-- Other rows, among which the key, if it is live, has the same one. -/
theorem of_same_row (counting : Counting key count live written s) {others : Keys}
    (same : live = true → others key = s.committed key) :
    Counting key count live written { s with committed := others } where
  counts := (countIf_congr same).trans counting.counts
  stored := by
    intro hwritten
    obtain ⟨hlive, value, row, hvalue, hrow, htext⟩ := counting.stored hwritten
    exact ⟨hlive, value, row, hvalue, (same hlive).trans hrow, htext⟩
  oneHolder := counting.oneHolder
  known := counting.known

/-- The increment that holds the lock commits what it has written, and has counted. -/
theorem commit (counting : Counting key count live written s) {h : Nat} {c : Call} {value : Int}
    (runs : s.calls h = some c) (ended : c.rest = .done (.ok value)) :
    ∃ before, count = some before ∧ value = before + c.delta ∧
      Counting key (some value) true true
        { s.put h none with committed := overlay c.own s.committed } := by
  obtain ⟨holds, before, hbefore, hvalue, hfits, row, hrow, htext⟩ :=
    (counting.known runs).of_ok ended
  have hcommitted : overlay c.own s.committed key = some row := overlay_of_some hrow
  refine ⟨before, hbefore, hvalue, ?_, ?_, (counting.drop h).oneHolder, ?_⟩
  · show valueOf? (overlay c.own s.committed key) = some value
    rw [hcommitted]
    exact valueOf?_encode hfits htext
  · exact fun _ => ⟨rfl, value, row, rfl, hcommitted, htext⟩
  · intro k d hd
    rcases Connections.put_calls hd with ⟨-, hput⟩ | ⟨hk, hd⟩
    · cases hput
    · -- Nobody else holds the lock, so nobody else has found out the counter there was before.
      refine (counting.known hd).of_not_holds ?_ (some value)
      exact Bool.eq_false_iff.mpr fun holdsD => hk (counting.oneHolder hd runs holdsD holds)

/-- One move of a run in which the key does not expire. -/
theorem step {e : Event} (counting : Counting key count live written s)
    (unexpired : ∀ now ∈ e.readings,
      ((s.committed key).filter (ScalarRow.isLive now)).isSome = live)
    (step : Step key s e t) :
    (∃ delta value before, e.delta? = some delta ∧ e.value? = some value ∧ count = some before ∧
      value = before + delta ∧ Counting key (some value) true true t) ∨
    (e.delta? = none ∧ e.value? = none ∧ Counting key count live written t) := by
  cases step with
  | start clock free =>
      exact Or.inr ⟨rfl, rfl, counting.put (.started key count _ clock) fun holds => by cases holds⟩
  | @send h q c next runs asks idle =>
      refine Or.inr ⟨rfl, rfl, counting.put ((counting.known runs).send asks ?_) ?_⟩
      · rintro now rfl
        rw [valueOf?_filter (unexpired now (by simp [Event.readings])), counting.counts]
      · exact fun holds k d hd holdsD => counting.oneHolder hd runs holdsD holds
  | @answer h q c begun next runs asks sent granted =>
      refine Or.inr ⟨rfl, rfl, counting.put ((counting.known runs).answer asks sent _) ?_⟩
      intro holds k d hd holdsD
      rcases Bool.or_eq_true_iff.mp holds with holds | hlock
      · exact counting.oneHolder hd runs holdsD holds
      · exact granted hlock k d hd holdsD
  | @fail h q c next runs asks =>
      refine Or.inr ⟨rfl, rfl, counting.put ((counting.known runs).fail asks) ?_⟩
      exact fun holds k d hd holdsD => counting.oneHolder hd runs holdsD holds
  | @commit h c value runs ended =>
      obtain ⟨before, hbefore, hvalue, counting'⟩ := counting.commit runs ended
      exact Or.inl ⟨c.delta, value, before, rfl, rfl, hbefore, hvalue, counting'⟩
  | rollback => exact Or.inr ⟨rfl, rfl, counting.drop _⟩
  | breakOff => exact Or.inr ⟨rfl, rfl, counting.drop _⟩
  | elsewhere same => exact Or.inr ⟨rfl, rfl, counting.of_same_row fun _ => same⟩
  | purge now =>
      refine Or.inr ⟨rfl, rfl, counting.of_same_row fun hlive => ?_⟩
      have hsome := (unexpired now (by simp [Event.readings])).trans hlive
      obtain ⟨row, hrow⟩ := Option.isSome_iff_exists.mp hsome
      rw [hrow, (Option.filter_eq_some_iff.mp hrow).1]

end Counting

/-! ## Runs -/

section Runs

variable {key : String} {count : Option Int} {live written : Bool} {s final : Connections}
  {events : List Event}

/-- The increments that succeed in a run count on from `count`. -/
theorem Counting.run (counting : Counting key count live written s)
    (run : Run key live s events final) :
    ∃ last live', Sums Event.delta? Event.value? count events last ∧
      Counting key last live' (written || !(returned events).isEmpty) final := by
  -- An increment that succeeds changes what is counted from, so the count is not fixed here.
  induction run generalizing count written with
  | nil live s => exact ⟨count, live, .nil count, by simpa [returned] using counting⟩
  | @cons live s t u e es step unexpired rest ih =>
      rcases counting.step unexpired step with
        ⟨delta, value, before, hdelta, hvalue, rfl, rfl, counting'⟩ | ⟨hdelta, hvalue, counting'⟩
      · have hreturned : returned (e :: es) = (before + delta) :: returned es :=
          List.filterMap_cons_some hvalue
        rw [hvalue, Option.isSome_some, Bool.or_true] at ih
        obtain ⟨last, live', sums, hfinal⟩ := ih counting'
        refine ⟨last, live', .counts hdelta hvalue sums, ?_⟩
        rw [hreturned]
        simpa using hfinal
      · have hreturned : returned (e :: es) = returned es := List.filterMap_cons_none hvalue
        rw [hvalue, Option.isSome_none, Bool.or_false] at ih
        obtain ⟨last, live', sums, hfinal⟩ := ih counting'
        refine ⟨last, live', .quiet hdelta hvalue sums, ?_⟩
        rw [hreturned]
        exact hfinal

/-- On a server at READ COMMITTED no update of a counter is lost, however many connections increment
it and in whatever order their statements are carried out, as long as only increments write the key
and it does not expire. With `v` its integer at the start, or 0 if it is absent or expired, the
increments that succeed answer the running sums of their deltas, in the order of their commits, and
the last sum is the text that the key holds at the end. If the key holds no integer at the start,
none succeeds. An increment is one transaction, whose statements are in the order that this rests
on: the lock of the key, then the value, then the write, if there is an integer and the sum is in
range. -/
theorem loses_no_update (quiet : ∀ h, s.calls h = none) (run : Run key live s events final) :
    (∀ v, countIf live (s.committed key) = some v →
      v :: returned events = (added events).scanl (· + ·) v) ∧
    (countIf live (s.committed key) = none → returned events = []) ∧
    (∀ value ∈ (returned events).getLast?, ∃ row,
      final.committed key = some row ∧ row.value = (encode value).toUTF8) ∧
    ∀ (delta : Int) (clock : Nat → Instant),
      (∀ (given : Instant) (l : Link),
        let performed := Link.backend.ticking.perform given (increment key delta) (l, clock)
        Transacts (statements clock (Counter.body key delta).run) l performed.1 performed.2.1) ∧
      ∀ {σ : Type} (handle : (st : Statement) → σ → Result Rows × σ) (server : σ),
        Said key delta
          ((statements clock (Counter.body key delta).run).transcript handle server) := by
  have counting : Counting key (countIf live (s.committed key)) live false s := .of_quiet quiet
  obtain ⟨last, live', sums, hfinal⟩ := counting.run run
  obtain ⟨hsums, hnone, hlast⟩ := sums.answers
  refine ⟨hsums, hnone, ?_, fun delta clock => ⟨?_, said_increment key delta clock⟩⟩
  · intro value hvalue
    have hreturned : (returned events).getLast? = some value := hvalue
    have hwritten : (false || !(returned events).isEmpty) = true := by
      cases hempty : returned events with
      | nil => simp [hempty] at hreturned
      | cons _ _ => rfl
    obtain ⟨-, value', row, hcount, hrow, htext⟩ := hfinal.stored hwritten
    have hsame : some value' = some value :=
      hcount.symm.trans (hlast.trans (congrArg (Option.or · _) hreturned))
    obtain rfl := Option.some.inj hsame
    exact ⟨row, hrow, htext⟩
  · intro given l performed
    obtain ⟨rest, heq⟩ := transaction_eq (Counter.body key delta) given l clock
    have hperformed : performed = _ := heq
    rw [hperformed]
    exact transacts _ l

end Runs

section Operations

variable {key : String} {s t : Connections} {h : Nat} {delta : Int} {op : Operation} {q : Query}
  {f : Result Rows → op.Reply}
  {rest : op.Reply → Script (Result Int)} {clock : Nat → Instant} {begun : Keys} {holds : Bool}
  {own : Keys}

/-- The statement of an operation begins. -/
theorem Step.send_ask
    (hrun : (ofOperation (clock 0) op).run = .ask q.statement fun r => .done (f r))
    (runs : s.calls h = some ⟨delta, statements clock (.ask op rest), none, holds, own⟩) :
    Step key s (.send h q) (s.put h
      (some ⟨delta, statements clock (.ask op rest), some s.committed, holds, own⟩)) :=
  .send runs (statements_ask hrun rest) rfl

/-- The statement of an operation is answered, and the operation with it. -/
theorem Step.answer_ask
    (hrun : (ofOperation (clock 0) op).run = .ask q.statement fun r => .done (f r))
    (runs : s.calls h = some ⟨delta, statements clock (.ask op rest), some begun, holds, own⟩)
    (granted : q.isLock = true → ∀ k c, s.calls k = some c → c.holds = true → k = h)
    (after : t = s.put h (some ⟨delta,
      statements (fun n => clock (n + 1)) (rest (f (.ok (q.answer (overlay own begun))))), none,
      holds || q.isLock, q.written (overlay own s.committed) own⟩)) :
    Step key s (.answer h q) t := by
  rw [after]
  exact .answer runs (statements_ask hrun rest) rfl granted

/-- An increment that has ended well is committed. -/
theorem Step.commit_done {value : Int} {begun? : Option Keys}
    (runs : s.calls h = some ⟨delta, .done (.ok value), begun?, holds, own⟩) :
    Step key s (.finish h delta (.ok value))
      { s.put h none with committed := overlay own s.committed } :=
  .commit runs rfl

end Operations

/-- Connections 0 and 1 increment a key that is absent, and ask for its lock at the same time. The
one that gets it later counts on from what the other one has committed. -/
def contested : List Event :=
  let expireAt := (Instant.expiry ⟨0⟩ .zero).micros
  [.start 0 2, .start 1 5, .send 1 (.lock "n"), .send 0 (.lock "n"), .answer 0 (.lock "n"),
    .send 0 (.read "n" 0), .answer 0 (.read "n" 0),
    .send 0 (.write "n" (encode 2).toUTF8 expireAt 0),
    .answer 0 (.write "n" (encode 2).toUTF8 expireAt 0), .finish 0 2 (.ok 2),
    .answer 1 (.lock "n"), .send 1 (.read "n" 0), .answer 1 (.read "n" 0),
    .send 1 (.expiry "n" 0), .answer 1 (.expiry "n" 0),
    .send 1 (.write "n" (encode 7).toUTF8 expireAt 0),
    .answer 1 (.write "n" (encode 7).toUTF8 expireAt 0), .finish 1 5 (.ok 7)]

theorem loses_no_update_contested : returned contested = [2, 7] ∧ ∃ final,
    Run "n" false ⟨fun _ => none, fun _ => none⟩ contested final ∧
    ∃ row, final.committed "n" = some row ∧ row.value = (encode 7).toUTF8 := by
  let clock : Nat → Instant := fun _ => ⟨0⟩
  let expireAt := (Instant.expiry ⟨0⟩ .zero).micros
  let nothing : Keys := fun _ => none
  let s₀ : Connections := ⟨nothing, fun _ => none⟩
  let call (delta : Int) (script : Script (Result Int)) (begun : Option Keys) (holds : Bool)
      (own : Keys) : Option Call := some ⟨delta, statements clock script, begun, holds, own⟩
  let ask (delta : Int) : Script (Result Int) := .ask (.lock "n") (locked "n" delta)
  let read (delta : Int) : Script (Result Int) := .ask (.getBytes "n") (found "n" delta)
  let measure : Script (Result Int) := .ask (.ttl "n") (measured "n" 5 2)
  let write (value : Int) : Script (Result Int) :=
    .ask (.set "n" (encode value).toUTF8 .zero) (ended value)
  let own₂ := (Query.write "n" (encode 2).toUTF8 expireAt 0).written nothing nothing
  let two := overlay own₂ nothing
  let s₁ := s₀.put 0 (call 2 (ask 2) none false nothing)
  let s₂ := s₁.put 1 (call 5 (ask 5) none false nothing)
  let s₃ := s₂.put 1 (call 5 (ask 5) (some nothing) false nothing)
  let s₄ := s₃.put 0 (call 2 (ask 2) (some nothing) false nothing)
  let s₅ := s₄.put 0 (call 2 (read 2) none true nothing)
  let s₆ := s₅.put 0 (call 2 (read 2) (some nothing) true nothing)
  let s₇ := s₆.put 0 (call 2 (write 2) none true nothing)
  let s₈ := s₇.put 0 (call 2 (write 2) (some nothing) true nothing)
  let s₉ := s₈.put 0 (call 2 (.done (.ok 2)) none true own₂)
  let s₁₀ : Connections := { s₉.put 0 none with committed := two }
  let s₁₁ := s₁₀.put 1 (call 5 (read 5) none true nothing)
  let s₁₂ := s₁₁.put 1 (call 5 (read 5) (some two) true nothing)
  let s₁₃ := s₁₂.put 1 (call 5 measure none true nothing)
  let s₁₄ := s₁₃.put 1 (call 5 measure (some two) true nothing)
  let s₁₅ := s₁₄.put 1 (call 5 (write 7) none true nothing)
  let s₁₆ := s₁₅.put 1 (call 5 (write 7) (some two) true nothing)
  let own₇ := (Query.write "n" (encode 7).toUTF8 expireAt 0).written two nothing
  let s₁₇ := s₁₆.put 1 (call 5 (.done (.ok 7)) none true own₇)
  let s₁₈ : Connections := { s₁₇.put 1 none with committed := overlay own₇ two }
  have h₁ : Step "n" s₀ (.start 0 2) s₁ := by
    have h : Step "n" s₀ (.start 0 2) _ := .start clock rfl
    rwa [Call.started, body_run] at h
  have h₂ : Step "n" s₁ (.start 1 5) s₂ := by
    have h : Step "n" s₁ (.start 1 5) _ := .start clock rfl
    rwa [Call.started, body_run] at h
  have h₃ : Step "n" s₂ (.send 1 (.lock "n")) s₃ := .send_ask (run_lock _ _) rfl
  have h₄ : Step "n" s₃ (.send 0 (.lock "n")) s₄ := .send_ask (run_lock _ _) rfl
  have h₅ : Step "n" s₄ (.answer 0 (.lock "n")) s₅ := by
    refine .answer_ask (run_lock _ _) rfl (fun _ k other hk holds => ?_) rfl
    rcases k with _ | _ | k
    · rfl
    · rw [← Option.some.inj hk] at holds
      cases holds
    · cases hk
  have h₆ : Step "n" s₅ (.send 0 (.read "n" 0)) s₆ := .send_ask (run_getBytes _ _) rfl
  have h₇ : Step "n" s₆ (.answer 0 (.read "n" 0)) s₇ :=
    .answer_ask (run_getBytes _ _) rfl (fun h => by cases h) rfl
  have h₈ : Step "n" s₇ (.send 0 (.write "n" (encode 2).toUTF8 expireAt 0)) s₈ :=
    .send_ask (run_set _ _ _ _) rfl
  have h₉ : Step "n" s₈ (.answer 0 (.write "n" (encode 2).toUTF8 expireAt 0)) s₉ :=
    .answer_ask (run_set _ _ _ _) rfl (fun h => by cases h) rfl
  have h₁₀ : Step "n" s₉ (.finish 0 2 (.ok 2)) s₁₀ := .commit_done rfl
  have h₁₁ : Step "n" s₁₀ (.answer 1 (.lock "n")) s₁₁ := by
    refine .answer_ask (run_lock _ _) rfl (fun _ k other hk holds => ?_) rfl
    rcases k with _ | _ | k
    · cases hk
    · rfl
    · cases hk
  have h₁₂ : Step "n" s₁₁ (.send 1 (.read "n" 0)) s₁₂ := .send_ask (run_getBytes _ _) rfl
  have parsed : found "n" 5 (.ok (encode 2).toUTF8) = measure := by
    rw [found, Text.fromUTF8?_toUTF8, Option.map_some, read?_encode rfl]
  have h₁₃ : Step "n" s₁₂ (.answer 1 (.read "n" 0)) s₁₃ :=
    .answer_ask (run_getBytes _ _) rfl (fun h => by cases h)
      (congrArg (fun script => s₁₂.put 1 (call 5 script none true nothing)) parsed.symm)
  have h₁₄ : Step "n" s₁₃ (.send 1 (.expiry "n" 0)) s₁₄ := .send_ask (run_ttl _ _) rfl
  have h₁₅ : Step "n" s₁₄ (.answer 1 (.expiry "n" 0)) s₁₅ :=
    .answer_ask (run_ttl _ _) rfl (fun h => by cases h) rfl
  have h₁₆ : Step "n" s₁₅ (.send 1 (.write "n" (encode 7).toUTF8 expireAt 0)) s₁₆ :=
    .send_ask (run_set _ _ _ _) rfl
  have h₁₇ : Step "n" s₁₆ (.answer 1 (.write "n" (encode 7).toUTF8 expireAt 0)) s₁₇ :=
    .answer_ask (run_set _ _ _ _) rfl (fun h => by cases h) rfl
  have h₁₈ : Step "n" s₁₇ (.finish 1 5 (.ok 7)) s₁₈ := .commit_done rfl
  have absent : ∀ now ∈ [0], ((s₅.committed "n").filter (ScalarRow.isLive now)).isSome = false :=
    List.forall_mem_singleton.mpr rfl
  have present : ∀ now ∈ [0], ((s₁₁.committed "n").filter (ScalarRow.isLive now)).isSome = true :=
    List.forall_mem_singleton.mpr rfl
  have unread {p : Int → Prop} : ∀ now ∈ [], p now := List.forall_mem_nil p
  have run : Run "n" false s₀ contested s₁₈ :=
    .cons h₁ unread <| .cons h₂ unread <| .cons h₃ unread <| .cons h₄ unread <| .cons h₅ unread <|
    .cons h₆ absent <| .cons h₇ unread <| .cons h₈ unread <| .cons h₉ unread <|
    .cons h₁₀ unread <| .cons h₁₁ unread <| .cons h₁₂ present <| .cons h₁₃ unread <|
    .cons h₁₄ unread <| .cons h₁₅ unread <| .cons h₁₆ unread <| .cons h₁₇ unread <|
    .cons h₁₈ unread <| .nil _ _
  obtain ⟨-, -, hlast, -⟩ := loses_no_update (fun _ => rfl) run
  exact ⟨rfl, s₁₈, run, hlast 7 rfl⟩

end ReadCommitted

end SqlCache.Postgres
