import SqlCache.Command
import SqlCache.Proofs.Database.Alike

/-!
Clients do not notice the reaper. A pass that keeps all messages removes what is absent to every
operation anyway, so it may come between any two calls: every call answers what it answers in the
run without the passes, and at every point the same keys are live with the same values and expiries,
and maps, messages and cursors are the same. Main result: `Reaper.invisible`.
-/

set_option autoImplicit false

namespace SqlCache.Reaper

/-- What happens to a database one after another. -/
inductive Move : Type 1 where
  /-- A client carries out a plan: an operation, an increment, a transaction or a command. Each
  operation takes a reading of the clock, of which there are always enough. -/
  | call {α : Type} (plan : Plan α) (clock : Nat → Instant)
  /-- A subscription makes a call on the message log. -/
  | log (call : PubSub.LogCall) (now : Instant)
  /-- The reaper makes a pass that keeps all messages. -/
  | pass (now : Instant)

namespace Move

/-- The readings of the clock that a move may take. -/
def reading : Move → Nat → Instant
  | call _ clock => clock
  | log _ now | pass now => fun _ => now

/-- What a move answers. -/
abbrev Answer : Move → Type
  | @call α .. => Result α
  | log c _ => c.Reply
  | pass _ => Except Failure Stats

/-- The answer of a move, and the database after it. -/
def perform : (m : Move) → Database → m.Answer × Database
  | call plan clock, d =>
    let (r, t) := Database.backend.ticking.perform (clock 0) plan (d, clock)
    (r, t.1)
  | log c now, d => Database.backend.log now c d
  | pass now, d => Database.backend.reap now .zero d

/-- Is it a client's move? -/
def isCall : Move → Bool
  | call .. | log .. => true
  | pass _ => false

end Move

/-- The answers of moves made one after another, and the database after them. -/
def run : List Move → Database → List ((m : Move) × m.Answer) × Database
  | [], d => ([], d)
  | m :: rest, d =>
    let (a, d) := m.perform d
    let (as, d) := run rest d
    (⟨m, a⟩ :: as, d)

theorem run_cons (m : Move) (rest : List Move) (d : Database) :
    run (m :: rest) d =
      (⟨m, (m.perform d).1⟩ :: (run rest (m.perform d).2).1, (run rest (m.perform d).2).2) := rfl

/-- The clock does not go back, neither in a move nor from one to the next. -/
structure InOrder (moves : List Move) : Prop where
  inside : ∀ m ∈ moves, ∀ i j, i ≤ j → m.reading i ≤ m.reading j
  between : moves.Pairwise fun m m' => ∀ i j, m.reading i ≤ m'.reading j

theorem InOrder.tail {m : Move} {rest : List Move} (h : InOrder (m :: rest)) : InOrder rest where
  inside m' hm' := h.inside m' (List.mem_cons_of_mem _ hm')
  between := (List.pairwise_cons.mp h.between).2

/-- A pass that keeps all messages is a purge of the keys that are gone. -/
theorem pass_zero (now : Instant) :
    (pass now .zero).run =
      .ask (.expired now) fun r => .done ((r.mapError Failure.store).map fun n => ⟨n, 0⟩) := by
  show Dialogue.ask _ _ = _
  congr 1
  funext r
  cases r <;> rfl

variable {first now : Instant} {moves rest : List Move} {m : Move} {d e : Database}

/-- A client's move gets the same answer from databases that are alike. -/
theorem Move.perform_alike (hm : m.isCall = true) (ticks : Ticks first m.reading)
    (h : Database.Alike first.millis d e) :
    ∃ now, Shown first m.reading now ∧
      Agree (Database.Alike now.millis) (m.perform d) (m.perform e) := by
  cases m with
  | call plan clock => exact Database.bisimulation.perform (clock 0) plan ticks h
  | log c now => exact ⟨first, Or.inl rfl, h.applyLog now c⟩
  | pass now => cases hm

/-- A pass makes no difference from its reading of the clock on. -/
theorem Move.pass_alike (hm : m.isCall = false) (ticks : Ticks first m.reading)
    (h : Database.Alike first.millis d e) :
    Database.Alike (m.reading 0).millis (m.perform d).2 e := by
  cases m with
  | call plan clock => cases hm
  | log c now => cases hm
  | pass now =>
      have hpass : (Move.pass now).perform d = Database.backend.reap now .zero d := rfl
      rw [hpass, Backend.reap, pass_zero]
      exact (h.later (Instant.millis_le_millis (ticks.first_le 0))).purgeExpired

/-- Moves from one database, and the moves of clients among them from another one, are answered
alike; and once all their readings of the clock have come, the databases are alike. -/
structure Unseen (first : Instant) (moves : List Move) (d e : Database) : Prop where
  answers : ((run moves d).1.filter fun a => a.1.isCall) = (run (moves.filter Move.isCall) e).1
  alike : ∀ last, first ≤ last → (∀ m ∈ moves, ∀ i, m.reading i ≤ last) →
    Database.Alike last.millis (run moves d).2 (run (moves.filter Move.isCall) e).2

namespace Unseen

/-- A client's move before such moves. -/
theorem call (hm : m.isCall = true) (hshown : Shown first m.reading now)
    (hanswer : (m.perform d).1 = (m.perform e).1)
    (h : Unseen now rest (m.perform d).2 (m.perform e).2) : Unseen first (m :: rest) d e where
  answers := by
    have hkept : ((run (m :: rest) d).1.filter fun a => a.1.isCall) =
        ⟨m, (m.perform d).1⟩ :: (run rest (m.perform d).2).1.filter fun a => a.1.isCall :=
      List.filter_cons_of_pos hm
    rw [hkept, List.filter_cons_of_pos hm, run_cons, h.answers, hanswer]
  alike last hfirst hlast := by
    rw [List.filter_cons_of_pos hm, run_cons, run_cons]
    refine h.alike last ?_ fun m' hm' => hlast m' (List.mem_cons_of_mem _ hm')
    rcases hshown with rfl | ⟨i, rfl⟩
    · exact hfirst
    · exact hlast m List.mem_cons_self i

/-- A pass before such moves. -/
theorem pass (hm : m.isCall = false) (h : Unseen (m.reading 0) rest (m.perform d).2 e) :
    Unseen first (m :: rest) d e where
  answers := by
    have hdropped : ((run (m :: rest) d).1.filter fun a => a.1.isCall) =
        (run rest (m.perform d).2).1.filter fun a => a.1.isCall :=
      List.filter_cons_of_neg (by simp [hm])
    rw [hdropped, List.filter_cons_of_neg (by simp [hm]), h.answers]
  alike last _ hlast := by
    rw [List.filter_cons_of_neg (by simp [hm]), run_cons]
    exact h.alike last (hlast m List.mem_cons_self 0)
      fun m' hm' => hlast m' (List.mem_cons_of_mem _ hm')

end Unseen

/-- From databases that are alike the passes among moves in order are unseen. -/
theorem unseen (horder : InOrder moves) (hfirst : ∀ m ∈ moves, ∀ i, first ≤ m.reading i)
    (h : Database.Alike first.millis d e) : Unseen first moves d e := by
  induction moves generalizing d e first with
  | nil => exact ⟨rfl, fun last hle _ => h.later (Instant.millis_le_millis hle)⟩
  | cons m rest ih =>
      have hticks : Ticks first m.reading :=
        ⟨hfirst m List.mem_cons_self, horder.inside m List.mem_cons_self _ _⟩
      have hbetween := (List.pairwise_cons.mp horder.between).1
      cases hm : m.isCall with
      | true =>
          obtain ⟨now, hshown, hanswer, hnext⟩ := m.perform_alike hm hticks h
          have hafter : ∀ m' ∈ rest, ∀ i, now ≤ m'.reading i := by
            intro m' hm' i
            rcases hshown with rfl | ⟨j, rfl⟩
            · exact hfirst m' (List.mem_cons_of_mem _ hm') i
            · exact hbetween m' hm' j i
          exact .call hm hshown hanswer (ih horder.tail hafter hnext)
      | false =>
          have hnext := m.pass_alike hm hticks h
          exact .pass hm (ih horder.tail (fun m' hm' => hbetween m' hm' 0) hnext)

/-- The readings of moves in order are not before the first one of all. -/
theorem InOrder.first_le (horder : InOrder (m :: rest)) :
    ∀ m' ∈ m :: rest, ∀ i, m.reading 0 ≤ m'.reading i := by
  intro m' hm' i
  rcases List.mem_cons.mp hm' with rfl | hrest
  · exact horder.inside m' hm' 0 i (Nat.zero_le i)
  · exact (List.pairwise_cons.mp horder.between).1 m' hrest 0 i

theorem InOrder.of_prefix {before : List Move} (horder : InOrder moves)
    (h : before <+: moves) : InOrder before where
  inside m hm := horder.inside m (h.subset hm)
  between := horder.between.sublist h.sublist

/-- Whatever a client does between the passes of the reaper, each call answers as it does without
the passes, and at every point clients could not tell the two databases apart. -/
theorem invisible (horder : InOrder moves) (d : Database) :
    ((run moves d).1.filter fun a => a.1.isCall) = (run (moves.filter Move.isCall) d).1 ∧
      ∀ before, before <+: moves → ∀ now, (∀ m ∈ before, ∀ i, m.reading i ≤ now) →
        Database.Alike now.millis (run before d).2 (run (before.filter Move.isCall) d).2 := by
  refine ⟨?_, ?_⟩
  · cases moves with
    | nil => rfl
    | cons m rest => exact (unseen horder horder.first_le (.refl _ d)).answers
  · intro before hbefore now hnow
    cases before with
    | nil => exact .refl _ d
    | cons m rest =>
        have hprefix := horder.of_prefix hbefore
        exact (unseen hprefix hprefix.first_le (.refl _ d)).alike now
          (hnow m List.mem_cons_self 0) hnow

/-- A counter is written to live for a millisecond, a pass removes it as soon as it is gone, and it
is counted on from zero. -/
def lapsed : List Move :=
  [.call (.operation (.set "a" "5".toUTF8 ⟨1000000⟩)) fun _ => ⟨0⟩,
    .call (Command.incr "a").plan fun _ => ⟨999999⟩,
    .pass ⟨1000000⟩,
    .call (Command.incr "a").plan fun i => ⟨1000000 + min i 3⟩]

theorem lapsed_inOrder : InOrder lapsed where
  inside m hm i j hij := by
    simp only [lapsed, List.mem_cons, List.not_mem_nil, or_false] at hm
    rcases hm with rfl | rfl | rfl | rfl
    · exact Int.le_refl _
    · exact Int.le_refl _
    · exact Int.le_refl _
    · simp only [Move.reading, Instant.le_def]
      omega
  between := by
    simp only [lapsed, Move.reading, Instant.le_def, List.pairwise_cons, List.mem_cons,
      List.not_mem_nil, or_false, forall_eq_or_imp, forall_eq, false_imp_iff, implies_true,
      List.Pairwise.nil, and_true]
    refine ⟨⟨?_, ?_, ?_⟩, ⟨?_, ?_⟩, ?_⟩ <;> intro i j <;> omega

theorem invisible_lapsed :
    ((run lapsed (.empty .file)).1.filter fun a => a.1.isCall) =
        (run (lapsed.filter Move.isCall) (.empty .file)).1 ∧
      Database.Alike 1 (run (lapsed.take 3) (.empty .file)).2
        (run ((lapsed.take 3).filter Move.isCall) (.empty .file)).2 := by
  obtain ⟨hanswers, halike⟩ := invisible lapsed_inOrder (.empty .file)
  refine ⟨hanswers, halike (lapsed.take 3) (List.take_prefix 3 lapsed) ⟨1000000⟩ ?_⟩
  intro m hm i
  simp only [lapsed, List.take_succ_cons, List.take_zero, List.mem_cons, List.not_mem_nil,
    or_false] at hm
  rcases hm with rfl | rfl | rfl <;> simp only [Move.reading, Instant.le_def] <;> omega

end SqlCache.Reaper
