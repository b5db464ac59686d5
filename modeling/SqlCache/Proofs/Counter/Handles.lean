import SqlCache.Proofs.Counter.Stage
import SqlCache.Proofs.Counter.Sums
import SqlCache.Proofs.Handles.Serializable

/-!
Increments of one key by several handles on a file, in any order with operations that do not write
the key. No update is lost: the increments that succeed answer the running sums of their deltas, in
the order of their commits, and the last sum is what the key holds at the end. Main result:
`no_lost_update`.

Whoever increments holds the writer's lock from before he reads the counter until he has committed
the sum, so the counter he has read is still the one of the committed tables (`Counting`).
-/

set_option autoImplicit false

namespace SqlCache.Counter

open Handles Text.Integer

/-- What a handle opens a transaction for: an increment of the key, or something else. -/
inductive Job where
  | increment (delta : Int)
  | other (body : Body Int)

/-- The body of a transaction. -/
def Job.body (key : String) : Job → Body Int
  | increment delta => Counter.body key delta
  | other body => body

/-- Does a move leave the writing of a key to increments? -/
def Spares (key : String) : Event Job Int → Prop
  | .statement _ (.operate _ op) _ => op.writtenKey? ≠ some key
  | .within _ (.other _) _ op _ => op.writtenKey? ≠ some key
  | _ => True

/-- The delta of an increment that succeeds with a move. -/
def delta? : Event Job Int → Option Int
  | .finish _ (.increment delta) (.ok _) => some delta
  | _ => none

/-- What an increment answers that succeeds with a move. -/
def value? : Event Job Int → Option Int
  | .finish _ (.increment _) (.ok value) => some value
  | _ => none

/-- The deltas of the increments that succeed, in the order of their commits. -/
def added (events : List (Event Job Int)) : List Int := events.filterMap delta?

/-- What the increments answer that succeed, in the order of their commits. -/
def returned (events : List (Event Job Int)) : List Int := events.filterMap value?

/-- The key does not expire during a run: whenever the clock is read, it is live if it was so at the
start or an increment has succeeded since, and only then. -/
def Unexpired (key : String) (live : Bool) (s : Handles Job Int) (events : List (Event Job Int)) :
    Prop :=
  ∀ before e t, before ++ [e] <+: events → Run (Job.body key) s before t →
    ∀ now ∈ e.readings, (t.database.committed.live? now.millis key).isSome =
      (live || !(returned before).isEmpty)

/-- The key's counter in tables where it is live or is not: the integer that its row stands for, if
it stands for one, and 0 for a key that is absent or expired. -/
def counterAt (live : Bool) (key : String) (s : Store) : Option Int :=
  valueOf? (if live then s.scalars[key]? else none)

theorem counterAt_congr {live : Bool} {key : String} {s t : Store}
    (h : live = true → t.scalars[key]? = s.scalars[key]?) :
    counterAt live key t = counterAt live key s :=
  countIf_congr h

/-! ## The counter at a moment -/

/-- The key's counter is `count`, if it holds one. Once an increment has succeeded (`written`), the
committed row of the key is the counter's text. An open increment is at one of its stages; every
other transaction leaves the key as it is. -/
structure Counting (key : String) (count : Option Int) (live written : Bool)
    (s : Handles Job Int) : Prop where
  oneWriter : OneWriter s
  file : s.database.sharing = .file
  counts : counterAt live key s.database.committed = count
  stored : written = true → live = true ∧ ∃ value row, count = some value ∧
    s.database.committed.scalars[key]? = some row ∧ row.value = (encode value).toUTF8
  stage : ∀ {h delta script}, s.running h = some (.increment delta, script) →
    ∃ draft, s.database.draft = some draft ∧
      Stage key delta count s.database.committed.scalars[key]? script draft.store
  spared : ∀ {h body script}, s.running h = some (.other body, script) →
    ∃ draft, s.database.draft = some draft ∧
      draft.store.scalars[key]? = s.database.committed.scalars[key]?

namespace Counting

variable {key : String} {count : Option Int} {live written : Bool} {s t : Handles Job Int}

/-- While nobody is in a transaction, all there is to know is what is committed. -/
theorem of_start {d : Database} (hfile : d.sharing = .file)
    (counts : counterAt live key d.committed = count)
    (stored : written = true → live = true ∧ ∃ value row, count = some value ∧
      d.committed.scalars[key]? = some row ∧ row.value = (encode value).toUTF8) :
    Counting key count live written (Handles.start d) where
  oneWriter := OneWriter.start d
  file := hfile
  counts := counts
  stored := stored
  stage hr := by cases hr
  spared hr := by cases hr

/-- Other tables in which the key, if it is live, has the same row. -/
theorem of_same_row (c : Counting key count live written s) {d : Database}
    (hfile : d.sharing = .file)
    (same : live = true → d.committed.scalars[key]? = s.database.committed.scalars[key]?) :
    Counting key count live written (Handles.start d) := by
  refine of_start hfile ((counterAt_congr same).trans c.counts) fun hw => ?_
  obtain ⟨hlive, value, row, hvalue, hrow, htext⟩ := c.stored hw
  exact ⟨hlive, value, row, hvalue, (same hlive).trans hrow, htext⟩

/-- Whoever reads a key that has not expired finds the counter. -/
theorem holds {millis : Int} (c : Counting key count live written s)
    (unexpired : (s.database.committed.live? millis key).isSome = live) :
    valueOf? (s.database.committed.live? millis key) = count := by
  rw [← c.counts]
  exact valueOf?_filter unexpired

/-- A statement that leaves the key to increments. -/
theorem statement {h : Nat} {q : Statement} {reply : q.Reply}
    (c : Counting key count live written s) (spares : Spares key (.statement h q reply))
    (unexpired : ∀ now ∈ (Event.statement h q reply : Event Job Int).readings,
      (s.database.committed.live? now.millis key).isSome = live)
    (step : Step (Job.body key) s (.statement h q reply) t) :
    Counting key count live written t := by
  rcases step.statement_spec with rfl | ⟨hd, rfl⟩
  · exact c
  · rw [c.oneWriter.running_eq_none hd]
    refine c.of_same_row c.file fun hlive => ?_
    cases q with
    | operate now op => exact Store.apply_scalars_of_writtenKey?_ne spares
    | log now call => simp only [Statement.effect, Store.applyLog_scalars]
    | purge call =>
        cases call with
        | messages olderThan => rfl
        | expired now =>
            have hsome := (unexpired now (by simp [Event.readings])).trans hlive
            exact (Store.purgeExpired_scalars now.millis key).trans
              (Store.live?_eq_scalars hsome)

/-- An increment or another transaction begins with the committed tables. -/
theorem begun {h : Nat} {job : Job} (c : Counting key count live written s)
    (step : Step (Job.body key) s (.begin h job (.ok ())) t) :
    Counting key count live written t := by
  have w' := c.oneWriter.step step
  have hsharing := step.sharing c.oneWriter
  have hrunning := step.running_of_begun
  cases step with
  | @begun d _ _ free shared answers =>
      obtain ⟨hd, rfl⟩ := Database.of_begin_ok_of_shared shared answers
      refine ⟨w', hsharing.trans c.file, c.counts, c.stored, ?_, ?_⟩
      · intro k delta script hk
        obtain ⟨rfl, rfl⟩ := Prod.mk.inj (w'.eq_of_running hrunning hk)
        refine ⟨_, rfl, ?_⟩
        rw [Job.body, body_run]
        exact .locking rfl
      · intro k body script hk
        exact ⟨_, rfl, rfl⟩

/-- One operation of the open transaction. -/
theorem within {h : Nat} {job : Job} {now : Instant} {op : Operation} {reply : op.Reply}
    (c : Counting key count live written s) (spares : Spares key (.within h job now op reply))
    (unexpired : (s.database.committed.live? now.millis key).isSome = live)
    (step : Step (Job.body key) s (.within h job now op reply) t) :
    Counting key count live written t := by
  have w' := c.oneWriter.step step
  have hsharing := step.sharing c.oneWriter
  cases step with
  | @within d _ _ _ _ next _ running answers =>
      have hrunning : Function.update s.running h (some (job, next reply)) h =
          some (job, next reply) := Function.update_self _ _ _
      cases job with
      | increment delta =>
          obtain ⟨draft, hd, stage⟩ := c.stage running
          obtain ⟨draft', hd', stage'⟩ := stage.applyInside hd (c.holds unexpired)
          rw [answers] at hd' stage'
          have hsame : d = { s.database with draft := some draft' } := hd'
          subst hsame
          refine ⟨w', hsharing.trans c.file, c.counts, c.stored, ?_, ?_⟩
          · intro k other script hk
            obtain ⟨hjob, rfl⟩ := Prod.mk.inj (w'.eq_of_running hrunning hk)
            cases hjob
            exact ⟨draft', rfl, stage'⟩
          · intro k body script hk
            cases w'.eq_of_running hrunning hk
      | other body =>
          obtain ⟨draft, hd, hkey⟩ := c.spared running
          obtain ⟨draft', hd', hstore⟩ := Database.applyInside_eq_draft hd now op
          rw [answers] at hd'
          have hsame : d = { s.database with draft := some draft' } := hd'
          subst hsame
          have hkey' : draft'.store.scalars[key]? = s.database.committed.scalars[key]? := by
            rcases hstore with hstore | hstore
            · rw [hstore, hkey]
            · rw [hstore, Store.apply_scalars_of_writtenKey?_ne spares, hkey]
          refine ⟨w', hsharing.trans c.file, c.counts, c.stored, ?_, fun _ => ⟨draft', rfl, hkey'⟩⟩
          intro k delta script hk
          cases w'.eq_of_running hrunning hk

/-- A transaction ends. If it is an increment that succeeds, it has counted. -/
theorem finish {h : Nat} {job : Job} {result : Result Int}
    (c : Counting key count live written s)
    (step : Step (Job.body key) s (.finish h job result) t) :
    (∃ delta value before, delta? (.finish h job result) = some delta ∧
      value? (.finish h job result) = some value ∧ count = some before ∧
      value = before + delta ∧ Counting key (some value) true true t) ∨
    (delta? (.finish h job result) = none ∧ value? (.finish h job result) = none ∧
      Counting key count live written t) := by
  have hfile := (step.sharing c.oneWriter).trans c.file
  obtain ⟨running, hstart, hcommit, herror⟩ := step.finish_spec c.oneWriter
  rw [hstart]
  cases result with
  | error e =>
      right
      refine ⟨by cases job <;> rfl, by cases job <;> rfl, c.of_same_row hfile fun _ => ?_⟩
      rw [herror e rfl]
      rfl
  | ok value =>
      cases job with
      | increment delta =>
          left
          obtain ⟨draft, hdraft, stage⟩ := c.stage running
          obtain ⟨before, hbefore, hvalue, hfits, row, hrow, htext⟩ := stage.of_ok
          have hstore := (congrArg Database.committed (hcommit value rfl)).trans
            (Database.commit_committed hdraft)
          rw [← hstore] at hrow
          have hcounts : counterAt true key t.database.committed = some value := by
            rw [counterAt, if_pos rfl, hrow]
            exact valueOf?_encode hfits htext
          exact ⟨delta, value, before, rfl, rfl, hbefore, hvalue,
            of_start hfile hcounts fun _ => ⟨rfl, value, row, rfl, hrow, htext⟩⟩
      | other body =>
          right
          obtain ⟨draft, hdraft, hkey⟩ := c.spared running
          have hstore := (congrArg Database.committed (hcommit value rfl)).trans
            (Database.commit_committed hdraft)
          refine ⟨rfl, rfl, c.of_same_row hfile fun _ => ?_⟩
          rw [hstore, hkey]

/-- One move of a run in which the key does not expire. -/
theorem step {e : Event Job Int} (c : Counting key count live written s) (spares : Spares key e)
    (unexpired : ∀ now ∈ e.readings,
      (s.database.committed.live? now.millis key).isSome = live)
    (step : Step (Job.body key) s e t) :
    (∃ delta value before, delta? e = some delta ∧ value? e = some value ∧ count = some before ∧
      value = before + delta ∧ Counting key (some value) true true t) ∨
    (delta? e = none ∧ value? e = none ∧ Counting key count live written t) := by
  cases e with
  | statement h q reply => exact Or.inr ⟨rfl, rfl, c.statement spares unexpired step⟩
  | begin h job result =>
      cases result with
      | ok u => exact Or.inr ⟨rfl, rfl, c.begun step⟩
      | error e =>
          rw [step.eq_of_refused]
          exact Or.inr ⟨rfl, rfl, c⟩
  | within h job now op reply =>
      exact Or.inr ⟨rfl, rfl, c.within spares (unexpired now (by simp [Event.readings])) step⟩
  | nested h job result =>
      rw [step.nested_spec.2.1]
      exact Or.inr ⟨rfl, rfl, c⟩
  | finish h job result => exact c.finish step

/-- A run in which the key does not expire: the increments that succeed count on from `count`. -/
theorem sums {events : List (Event Job Int)} {final : Handles Job Int}
    (c : Counting key count live written s) (run : Run (Job.body key) s events final)
    (spares : ∀ e ∈ events, Spares key e) (unexpired : Unexpired key live s events) :
    ∃ last live', Sums delta? value? count events last ∧
      Counting key last live' (written || !(returned events).isEmpty) final := by
  -- An increment that succeeds changes what is counted from, so the count is not fixed here.
  induction run generalizing count live written with
  | nil s => exact ⟨count, live, .nil count, by simpa [returned] using c⟩
  | @cons s t u e es step rest ih =>
      have hnow : ∀ now ∈ e.readings,
          (s.database.committed.live? now.millis key).isSome = live := by
        intro now hmem
        have h := unexpired [] e s ⟨es, rfl⟩ (.nil s) now hmem
        simpa [returned] using h
      have hspares : ∀ f ∈ es, Spares key f := fun f hf => spares f (List.mem_cons_of_mem e hf)
      rcases c.step (spares e (by simp)) hnow step with
        ⟨delta, value, before, hdelta, hvalue, rfl, rfl, c'⟩ | ⟨hdelta, hvalue, c'⟩
      · have hreturned : ∀ fs, returned (e :: fs) = (before + delta) :: returned fs :=
          fun fs => List.filterMap_cons_some hvalue
        have hlater : Unexpired key true t es := by
          intro first f r hprefix run now hmem
          have h := unexpired (e :: first) f r (List.prefix_cons_inj e |>.mpr hprefix)
            (.cons step run) now hmem
          simpa [hreturned] using h
        obtain ⟨last, live', sums, hfinal⟩ := ih c' hspares hlater
        refine ⟨last, live', .counts hdelta hvalue sums, ?_⟩
        rw [hreturned]
        simpa using hfinal
      · have hreturned : ∀ fs, returned (e :: fs) = returned fs :=
          fun fs => List.filterMap_cons_none hvalue
        have hlater : Unexpired key live t es := by
          intro first f r hprefix run now hmem
          have h := unexpired (e :: first) f r (List.prefix_cons_inj e |>.mpr hprefix)
            (.cons step run) now hmem
          rwa [hreturned] at h
        obtain ⟨last, live', sums, hfinal⟩ := ih c' hspares hlater
        refine ⟨last, live', .quiet hdelta hvalue sums, ?_⟩
        rw [hreturned]
        exact hfinal

/-- In such a run they answer running sums, and the last one is what the key counts as at the
end. -/
theorem run {events : List (Event Job Int)} {final : Handles Job Int}
    (c : Counting key count live written s) (run : Run (Job.body key) s events final)
    (spares : ∀ e ∈ events, Spares key e) (unexpired : Unexpired key live s events) :
    (∃ live', Counting key ((returned events).getLast?.or count) live'
      (written || !(returned events).isEmpty) final) ∧
    (∀ v, count = some v → v :: returned events = (added events).scanl (· + ·) v) ∧
    (count = none → returned events = []) := by
  obtain ⟨last, live', sums, hfinal⟩ := c.sums run spares unexpired
  obtain ⟨hsums, hnone, rfl⟩ := sums.answers
  exact ⟨⟨live', hfinal⟩, hsums, hnone⟩

end Counting

section NoLostUpdate

variable {key : String} {d : Database} {events : List (Event Job Int)} {final : Handles Job Int}

/-- Running sums of ones count up. -/
theorem eq_range_of_ones {v : Int} {sums deltas : List Int}
    (hsums : v :: sums = deltas.scanl (· + ·) v) (hones : ∀ delta ∈ deltas, delta = 1) :
    sums = (List.range sums.length).map fun n : Nat => v + 1 + (n : Int) := by
  induction deltas generalizing v sums with
  | nil =>
      have hnil : sums = [] := (List.cons.inj hsums).2
      rw [hnil]
      rfl
  | cons delta deltas ih =>
      obtain rfl : delta = 1 := hones delta (by simp)
      cases sums with
      | nil => simp at hsums
      | cons w sums =>
          rw [List.scanl_cons] at hsums
          have htail : w :: sums = deltas.scanl (· + ·) (v + 1) := (List.cons.inj hsums).2
          have hw : w = v + 1 := by
            cases deltas with
            | nil =>
                rw [List.scanl_nil] at htail
                exact (List.cons.inj htail).1
            | cons next deltas =>
                rw [List.scanl_cons] at htail
                exact (List.cons.inj htail).1
          subst hw
          have hrest := ih htail fun other hmem => hones other (List.mem_cons_of_mem _ hmem)
          have hshift : ∀ n : Nat, v + 1 + ((n + 1 : Nat) : Int) = v + 1 + 1 + (n : Int) := by
            intro n
            omega
          rw [List.length_cons, List.range_succ_eq_map, List.map_cons, List.map_map]
          refine List.cons_eq_cons.mpr ⟨by simp, hrest.trans ?_⟩
          exact List.map_congr_left fun n _ => (hshift n).symm

/-- On a file no update of a counter is lost, however many handles increment it and whatever else
they do, as long as only increments write the key and it does not expire. With `v` its integer at
the start, or 0 if it is absent or expired, the increments that succeed answer the running sums of
their deltas, in the order of their commits, and the last sum is the text that the key holds at the
end; increments by one answer `v + 1`, `v + 2` and so on. If the key holds no integer at the start,
none succeeds. What belongs to an increment that fails changes nothing that is committed. -/
theorem no_lost_update (hfile : d.sharing = .file) (hidle : d.draft = none)
    (run : Run (Job.body key) (Handles.start d) events final)
    (spares : ∀ e ∈ events, Spares key e) {live : Bool}
    (unexpired : Unexpired key live (Handles.start d) events) :
    (∀ v, counterAt live key d.committed = some v →
      v :: returned events = (added events).scanl (· + ·) v) ∧
    (counterAt live key d.committed = none → returned events = []) ∧
    (∀ value ∈ (returned events).getLast?, ∃ row,
      final.database.committed.scalars[key]? = some row ∧ row.value = (encode value).toUTF8) ∧
    (∀ v, counterAt live key d.committed = some v → (∀ delta ∈ added events, delta = 1) →
      returned events =
        (List.range (returned events).length).map fun n : Nat => v + 1 + (n : Int)) ∧
    (∀ before e s t, before ++ [e] <+: events → Run (Job.body key) (Handles.start d) before s →
      Step (Job.body key) s e t → e.isEffective = false →
      t.database.committed = s.database.committed) := by
  have c : Counting key (counterAt live key d.committed) live false (Handles.start d) :=
    .of_start hfile rfl fun h => by cases h
  obtain ⟨⟨live', hfinal⟩, hsums, hnone⟩ := c.run run spares unexpired
  refine ⟨hsums, hnone, ?_, fun v hv hones => eq_range_of_ones (hsums v hv) hones, ?_⟩
  · intro value hvalue
    have hlast : (returned events).getLast? = some value := hvalue
    have hwritten : (false || !(returned events).isEmpty) = true := by
      cases hreturned : returned events with
      | nil => simp [hreturned] at hlast
      | cons _ _ => rfl
    obtain ⟨-, value', row, hcount, hrow, htext⟩ := hfinal.stored hwritten
    rw [hlast] at hcount
    obtain rfl := Option.some.inj hcount
    exact ⟨row, hrow, htext⟩
  · rintro before e s t - first step he
    have p : Pending (Job.body key) (Handles.start d) [] := .idle hidle
    obtain ⟨_, _, settled⟩ := first.settled p hfile
    exact step.committed_of_not_effective settled.toDo (settled.sharing.trans hfile) he

end NoLostUpdate

/-- Handle 0 increments a key by 2 while handle 1 fails to begin; up to the commit. -/
def contested : List (Event Job Int) :=
  [.begin 0 (.increment 2) (.ok ()),
    .within 0 (.increment 2) ⟨0⟩ (.lock "n") (.ok ()),
    .begin 1 (.increment 5) (.error (.store .locked)),
    .within 0 (.increment 2) ⟨0⟩ (.getBytes "n") (.error .notFound),
    .within 0 (.increment 2) ⟨0⟩ (.set "n" (encode 2).toUTF8 .zero) (.ok ())]

theorem no_lost_update_contested : ∃ final,
    Run (Job.body "n") (Handles.start (.empty .file))
      (contested ++ [.finish 0 (.increment 2) (.ok 2)]) final ∧
    ∃ row, final.database.committed.scalars["n"]? = some row ∧ row.value = (encode 2).toUTF8 := by
  let store : Store := Store.empty.set 0 (Instant.expiry ⟨0⟩ .zero).millis "n" (encode 2).toUTF8
  let d₀ : Database := .empty .file
  let d₁ : Database := { d₀ with draft := some ⟨.empty, []⟩ }
  let d₂ : Database := { d₀ with draft := some ⟨store, [.scalars]⟩ }
  let d₃ : Database := { d₀ with committed := store }
  let begun (script : Script (Result Int)) := some (Job.increment 2, script)
  let s₁ : Handles Job Int := ⟨d₁, Function.update (fun _ => none) 0 (begun (body "n" 2).run)⟩
  let s₂ : Handles Job Int :=
    ⟨d₁, Function.update s₁.running 0 (begun (locked "n" 2 (.ok ())))⟩
  let s₃ : Handles Job Int :=
    ⟨d₁, Function.update s₂.running 0 (begun (found "n" 2 (.error .notFound)))⟩
  let s₄ : Handles Job Int := ⟨d₂, Function.update s₃.running 0 (begun (ended 2 (.ok ())))⟩
  let s₅ : Handles Job Int := ⟨d₃, Function.update s₄.running 0 none⟩
  have begins : Step (Job.body "n") (Handles.start d₀) (.begin 0 (.increment 2) (.ok ())) s₁ :=
    .begun rfl (by decide) rfl
  have absent : d₁.applyInside ⟨0⟩ (.getBytes "n") = (.error .notFound, d₁) := rfl
  have written : d₁.applyInside ⟨0⟩ (.set "n" (encode 2).toUTF8 .zero) = (.ok (), d₂) := rfl
  have locks : Step (Job.body "n") s₁
      (.within 0 (.increment 2) ⟨0⟩ (.lock "n") (.ok ())) s₂ :=
    .within (congrArg begun (body_run "n" 2)) rfl
  have refused : Step (Job.body "n") s₂
      (.begin 1 (.increment 5) (.error (.store .locked))) s₂ := .refused rfl rfl
  have reads : Step (Job.body "n") s₂
      (.within 0 (.increment 2) ⟨0⟩ (.getBytes "n") (.error .notFound)) s₃ := .within rfl absent
  have writes : Step (Job.body "n") s₃
      (.within 0 (.increment 2) ⟨0⟩ (.set "n" (encode 2).toUTF8 .zero) (.ok ())) s₄ :=
    .within rfl written
  have commits : Step (Job.body "n") s₄ (.finish 0 (.increment 2) (.ok 2)) s₅ := .finish rfl rfl
  have quiet : Run (Job.body "n") (Handles.start d₀) contested s₄ :=
    .cons begins (.cons locks (.cons refused (.cons reads (.single writes))))
  have run := quiet.append (.single commits)
  have unexpired : Unexpired "n" false (Handles.start d₀)
      (contested ++ [.finish 0 (.increment 2) (.ok 2)]) := by
    intro before e t hprefix first now hmem
    have hlength : before.length ≤ contested.length := by
      have hle := hprefix.length_le
      simp only [List.length_append, List.length_singleton] at hle
      omega
    have hbefore : before <+: contested :=
      List.prefix_of_prefix_length_le ((List.prefix_append _ _).trans hprefix)
        (List.prefix_append _ _) hlength
    have hineffective : ∀ f ∈ contested, f.isEffective = false := by
      simp [contested, Event.isEffective]
    have hcommitted := Run.committed_of_not_effective (.idle rfl) rfl
      (fun f hf => hineffective f (hbefore.subset hf)) first
    have hreturned : returned before = [] := by
      refine List.filterMap_eq_nil_iff.mpr fun f hf => ?_
      have hnone : ∀ g ∈ contested, value? g = none := by simp [contested, value?]
      exact hnone f (hbefore.subset hf)
    rw [hreturned, hcommitted]
    rfl
  have hspares : ∀ e ∈ contested ++ [.finish 0 (.increment 2) (.ok 2)], Spares "n" e := by
    simp [contested, Spares]
  obtain ⟨-, -, hlast, -⟩ := no_lost_update rfl rfl run hspares unexpired
  exact ⟨s₅, run, hlast 2 rfl⟩

end SqlCache.Counter
