import SqlCache.PubSub.Poller

/-!
The rounds of a poller. What a subscription can be seen to do is a list of acts: calls on its log,
with their answers, and messages handed over. A round is one fetch, which asks for what lies past
the last message handed over, and after it a call that stores the id of each message that is handed
over (`Round.acts`, `actsOf`). `Leaves` says what the last of some rounds has fetched and not seen
to.
-/

set_option autoImplicit false

namespace SqlCache.PubSub

/-- What a subscription can be seen to do. -/
inductive Act where
  /-- It calls its log, and is answered. -/
  | called (call : LogCall) (reply : call.Reply)
  | handedOver (m : LogEntry)

/-- The messages handed over, in order. -/
def messagesOf (acts : List Act) : List LogEntry :=
  acts.filterMap fun
    | .handedOver m => some m
    | .called .. => none

/-- The id of the last of some messages; where there is none, of the last one before them. -/
def lastId (before : Int) (ms : List LogEntry) : Int := (ms.getLast?.map LogEntry.id).getD before

/-- One fetch, and what follows from it. -/
structure Round where
  fetched : Result (List LogEntry)
  /-- The messages handed over, with the answers to the calls that store their ids. -/
  handed : List (LogEntry × Result Unit)

namespace Round

/-- What a round has fetched. -/
def batch (r : Round) : List LogEntry :=
  match r.fetched with
  | .ok batch => batch
  | .error _ => []

/-- The messages of a round that have been handed over. -/
def messages (r : Round) : List LogEntry := r.handed.map Prod.fst

end Round

/-- The messages of some rounds that have been handed over. -/
def messagesIn (rounds : List Round) : List LogEntry := rounds.flatMap Round.messages

theorem messagesIn_concat (rounds : List Round) (r : Round) :
    messagesIn (rounds ++ [r]) = messagesIn rounds ++ r.messages := by
  simp [messagesIn]

/-! ## The last message -/

section Last

variable {before : Int} {ms : List LogEntry} {m : LogEntry}

theorem lastId_append (before : Int) (ms ns : List LogEntry) :
    lastId before (ms ++ ns) = lastId (lastId before ms) ns := by
  unfold lastId
  rw [List.getLast?_append]
  cases ns.getLast? with
  | none => rfl
  | some n => rfl

theorem lastId_concat (before : Int) (ms : List LogEntry) (m : LogEntry) :
    lastId before (ms ++ [m]) = m.id := by
  rw [lastId_append]
  rfl

/-- Messages past an id, in the order of theirs, end at one that is not before any of them. -/
theorem le_lastId (ascending : ms.Pairwise fun a b => a.id < b.id) (hm : m ∈ ms) :
    m.id ≤ lastId before ms := by
  have hne : ms ≠ [] := List.ne_nil_of_mem hm
  rw [← List.dropLast_concat_getLast hne] at ascending hm ⊢
  rw [lastId_concat]
  rcases List.mem_append.mp hm with hm | hm
  · have hlt := (List.pairwise_append.mp ascending).2.2 m hm _ (List.mem_singleton.mpr rfl)
    omega
  · exact Int.le_of_eq (congrArg LogEntry.id (List.mem_singleton.mp hm))

theorem before_le_lastId (past : ∀ m ∈ ms, before < m.id) : before ≤ lastId before ms := by
  unfold lastId
  cases hlast : ms.getLast? with
  | none => exact Int.le_refl before
  | some m =>
      have hlt := past m (List.mem_of_getLast? hlast)
      exact Int.le_of_lt hlt

end Last

/-! ## Acts of rounds -/

section Acts

variable (channel subscriber : String) (limit : Int)

/-- The acts of a round that begins past an id. -/
def Round.acts (past : Int) (r : Round) : List Act :=
  .called (.fetchAfter channel past limit) r.fetched ::
    r.handed.flatMap fun h => [.handedOver h.1, .called (.advance channel subscriber h.1.id) h.2]

/-- The acts of rounds, the first of which begins past an id, and each other one past the last
message handed over before it. -/
def actsOf (past : Int) : List Round → List Act
  | [] => []
  | r :: rounds =>
    r.acts channel subscriber limit past ++ actsOf (lastId past r.messages) rounds

variable {channel subscriber limit}

theorem actsOf_concat (past : Int) (rounds : List Round) (r : Round) :
    actsOf channel subscriber limit past (rounds ++ [r]) =
      actsOf channel subscriber limit past rounds ++
        r.acts channel subscriber limit (lastId past (messagesIn rounds)) := by
  induction rounds generalizing past with
  | nil => simp [actsOf, messagesIn, lastId]
  | cons first rounds ih =>
      rw [List.cons_append, actsOf, ih, actsOf, List.append_assoc]
      rw [messagesIn, messagesIn, List.flatMap_cons, lastId_append]

/-- One more message of a round, and the call that stores its id. -/
theorem Round.acts_concat (past : Int) (fetched : Result (List LogEntry))
    (handed : List (LogEntry × Result Unit)) (m : LogEntry) (reply : Result Unit) :
    Round.acts channel subscriber limit past ⟨fetched, handed ++ [(m, reply)]⟩ =
      Round.acts channel subscriber limit past ⟨fetched, handed⟩ ++
        [.handedOver m, .called (.advance channel subscriber m.id) reply] := by
  simp [Round.acts]

theorem messagesOf_append (acts more : List Act) :
    messagesOf (acts ++ more) = messagesOf acts ++ messagesOf more := List.filterMap_append ..

theorem messagesOf_acts (past : Int) (r : Round) :
    messagesOf (r.acts channel subscriber limit past) = r.messages := by
  obtain ⟨fetched, handed⟩ := r
  show messagesOf (handed.flatMap _) = handed.map Prod.fst
  induction handed with
  | nil => rfl
  | cons h handed ih =>
      rw [List.flatMap_cons, messagesOf_append, ih]
      rfl

theorem messagesOf_actsOf (past : Int) (rounds : List Round) :
    messagesOf (actsOf channel subscriber limit past rounds) = messagesIn rounds := by
  induction rounds generalizing past with
  | nil => rfl
  | cons r rounds ih =>
      rw [actsOf, messagesOf_append, messagesOf_acts, ih, messagesIn, messagesIn,
        List.flatMap_cons]

end Acts

/-! ## What the last round leaves -/

/-- All rounds but the last one have handed over what they fetched, and this one has, but for these
messages, which are the end of what it fetched. -/
inductive Leaves : List Round → List LogEntry → Prop where
  | none : Leaves [] []
  | last {rounds : List Round} {r : Round} {left : List LogEntry}
      (complete : ∀ s ∈ rounds, s.messages = s.batch) (split : r.messages ++ left = r.batch) :
      Leaves (rounds ++ [r]) left

namespace Leaves

variable {rounds : List Round} {left : List LogEntry}

/-- After rounds that leave nothing there can be another one. -/
theorem fetch (h : Leaves rounds []) (fetched : Result (List LogEntry)) :
    Leaves (rounds ++ [⟨fetched, []⟩]) (Round.batch ⟨fetched, []⟩) := by
  refine .last ?_ rfl
  cases h with
  | none => simp
  | last complete split =>
      intro s hs
      rcases List.mem_append.mp hs with hs | hs
      · exact complete s hs
      · rw [List.mem_singleton.mp hs, ← split, List.append_nil]

/-- The next message that is left is handed over, and its id stored. -/
theorem advance {m : LogEntry} (h : Leaves rounds (m :: left)) (reply : Result Unit) :
    ∃ rounds', Leaves rounds' left ∧ messagesIn rounds' = messagesIn rounds ++ [m] ∧
      ∀ channel subscriber limit past, actsOf channel subscriber limit past rounds' =
        actsOf channel subscriber limit past rounds ++
          [.handedOver m, .called (.advance channel subscriber m.id) reply] := by
  cases h with
  | @last earlier r _ complete split =>
      obtain ⟨fetched, handed⟩ := r
      refine ⟨earlier ++ [⟨fetched, handed ++ [(m, reply)]⟩], .last complete ?_, ?_, ?_⟩
      · have hbatch : Round.batch ⟨fetched, handed ++ [(m, reply)]⟩ =
            Round.batch ⟨fetched, handed⟩ := rfl
        rw [hbatch, ← split]
        simp [Round.messages]
      · rw [messagesIn_concat, messagesIn_concat, List.append_assoc]
        simp [Round.messages]
      · intro channel subscriber limit past
        rw [actsOf_concat, actsOf_concat, Round.acts_concat, List.append_assoc]

end Leaves

end SqlCache.PubSub
